import Mathlib.Data.Fintype.Card
import Mathlib.Data.List.Nodup
import Mathlib.Logic.Relation

/-!
# Disjoint sets

A forest of parent links over the indices of a list, with a search that halves the path it takes and
a union without ranks.  The sets of the forest that a list of unions leaves are the classes of the
equivalence that the united pairs generate.
-/

namespace BlogOps.DisjointSets

open List

abbrev Forest := List Nat

variable (p : Forest)

/-- An index outside the list is its own parent. -/
def parent (i : Nat) : Nat := (p[i]?).getD i

/-- `n` links lead from `i` to the root `r`. -/
inductive Reaches (p : Forest) : Nat → Nat → Nat → Prop where
  | root {r : Nat} (h : parent p r = r) : Reaches p 0 r r
  | link {n i r : Nat} (hlink : parent p i ≠ i) (h : Reaches p n (parent p i) r) :
      Reaches p (n + 1) i r

/-- Every index leads to a root. -/
def Rooted : Prop := ∀ i, ∃ n r, Reaches p n i r

def HasRoot (i r : Nat) : Prop := ∃ n, Reaches p n i r

/-- The loop of the search; each round takes two links and shortens the path. -/
def find : Nat → Forest → Nat → Nat × Forest
  | 0, p, i => (i, p)
  | fuel + 1, p, i =>
    if parent p i = i then (i, p)
    else find fuel (p.set i (parent p (parent p i))) (parent p (parent p i))

/-- A path has fewer links than the list has indices. -/
def findRoot (i : Nat) : Nat × Forest := find p.length p i

def union (left right : Nat) : Forest := let (leftRoot, p) := findRoot p left
  let (rightRoot, p) := findRoot p right
  if leftRoot ≠ rightRoot then p.set rightRoot leftRoot else p

def unions (pairs : List (Nat × Nat)) : Forest := pairs.foldl (fun p pair => union p pair.1 pair.2) p

/-- The indices have the same root. -/
def Together (i j : Nat) : Prop := ∃ r, HasRoot p i r ∧ HasRoot p j r

variable {s : Nat} {q : Forest}

section Roots

variable {p : Forest} {i j r n : Nat}

theorem parent_set (hi : i < p.length) (value j : Nat) :
    parent (p.set i value) j = if j = i then value else parent p j := by
  unfold parent
  rw [getElem?_set]
  by_cases hij : i = j
  · subst hij
    simp [hi]
  · rw [if_neg hij, if_neg (Ne.symm hij)]

theorem lt_length_of_link (h : parent p i ≠ i) : i < p.length := by
  by_contra hlt
  refine h ?_
  unfold parent
  rw [getElem?_eq_none (by omega)]
  rfl

theorem Reaches.isRoot (h : Reaches p n i r) : parent p r = r := by
  induction h with
  | root h => exact h
  | link hlink h ih => exact ih

theorem Reaches.unique (h : Reaches p n i r) {m : Nat} (h' : Reaches p m i s) : n = m ∧ r = s := by
  induction h generalizing m with
  | root h =>
    cases h' with
    | root h' => exact ⟨rfl, rfl⟩
    | link hlink h' => exact absurd h hlink
  | link hlink h ih =>
    cases h' with
    | root h' => exact absurd h' hlink
    | link hlink' h' =>
      obtain ⟨hn, hr⟩ := ih h'
      exact ⟨congrArg (· + 1) hn, hr⟩

theorem HasRoot.unique (h : HasRoot p i r) (h' : HasRoot p i s) : r = s := by
  obtain ⟨n, h⟩ := h
  obtain ⟨m, h'⟩ := h'
  exact (h.unique h').2

theorem HasRoot.isRoot (h : HasRoot p i r) : BlogOps.DisjointSets.parent p r = r := by
  obtain ⟨n, h⟩ := h
  exact h.isRoot

/-- The index that a path reaches after so many links. -/
def ancestor (p : Forest) (i : Nat) : Nat → Nat
  | 0 => i
  | k + 1 => ancestor p (parent p i) k

theorem Reaches.ancestor (h : Reaches p n i r) {k : Nat} (hk : k ≤ n) :
    Reaches p (n - k) (ancestor p i k) r := by
  induction h generalizing k with
  | root h =>
    rw [Nat.le_zero.1 hk]
    exact .root h
  | link hlink h ih =>
    cases k with
    | zero => exact .link hlink h
    | succ k =>
      rw [Nat.succ_sub_succ]
      exact ih (Nat.le_of_succ_le_succ hk)

/-- The indices of a path differ in the links that are left, and all but the root are in the list. -/
theorem Reaches.le_length (h : Reaches p n i r) : n ≤ p.length := by
  have hpath : ∀ k : Fin n, Reaches p (n - k) (BlogOps.DisjointSets.ancestor p i k) r :=
    fun k => h.ancestor (Nat.le_of_lt k.isLt)
  have hindex : ∀ k : Fin n, BlogOps.DisjointSets.ancestor p i k < p.length := by
    intro k
    have hk := hpath k
    have hpos : n - k ≠ 0 := by omega
    generalize n - (k : Nat) = m at hk hpos
    cases hk with
    | root h => exact absurd rfl hpos
    | link hlink h => exact lt_length_of_link hlink
  have hinjective : Function.Injective fun k : Fin n =>
      (⟨BlogOps.DisjointSets.ancestor p i k, hindex k⟩ : Fin p.length) := by
    intro k l hkl
    have hsame : BlogOps.DisjointSets.ancestor p i k = BlogOps.DisjointSets.ancestor p i l :=
      congrArg Fin.val hkl
    have hl := hpath l
    rw [← hsame] at hl
    have hcount := ((hpath k).unique hl).1
    exact Fin.ext (by omega)
  simpa using Fintype.card_le_of_injective _ hinjective

end Roots

section Search

variable {p : Forest} {i j r n : Nat}

/-- Linking an index to the parent of its parent shortens paths and keeps their roots. -/
theorem Reaches.halve (hi : parent p i ≠ i) (h : Reaches p n j r) :
    ∃ m ≤ n, Reaches (p.set i (parent p (parent p i))) m j r := by
  have hlt := lt_length_of_link hi
  induction n using Nat.strong_induction_on generalizing j with
  | _ n ih =>
    cases h with
    | root h =>
      refine ⟨0, Nat.le_refl 0, .root ?_⟩
      rw [parent_set hlt, if_neg fun hji => hi (by rw [← hji, h])]
      exact h
    | link hlink h =>
      rename_i k
      by_cases hji : j = i
      · subst hji
        have hset : parent (p.set j (parent p (parent p j))) j = parent p (parent p j) := by
          rw [parent_set hlt, if_pos rfl]
        have hwhole : Reaches p (k + 1) j r := .link hlink h
        have hlast : ∃ l ≤ k, Reaches p l (parent p (parent p j)) r := by
          cases h with
          | root h => exact ⟨0, Nat.le_refl 0, h.symm ▸ .root h⟩
          | link hlink' h => exact ⟨_, Nat.le_succ _, h⟩
        obtain ⟨l, hl, hlast⟩ := hlast
        obtain ⟨m, hm, hreaches⟩ := ih l (by omega) hlast
        refine ⟨m + 1, by omega, .link ?_ (hset.symm ▸ hreaches)⟩
        rw [hset]
        intro hcycle
        rw [hcycle] at hlast
        have hcount := (hlast.unique hwhole).1
        omega
      · have hset : parent (p.set i (parent p (parent p i))) j = parent p j := by
          rw [parent_set hlt, if_neg hji]
        obtain ⟨m, hm, hreaches⟩ := ih k (Nat.lt_succ_self k) h
        refine ⟨m + 1, by omega, .link ?_ (hset.symm ▸ hreaches)⟩
        rw [hset]
        exact hlink

/-- The search finds the root and shortens paths. -/
theorem find_spec {fuel : Nat} (h : Reaches p n i r) (hn : n ≤ fuel) :
    (find fuel p i).1 = r ∧ ∀ m j s, Reaches p m j s → ∃ l ≤ m, Reaches (find fuel p i).2 l j s := by
  induction fuel generalizing p i n with
  | zero =>
    rw [Nat.le_zero.1 hn] at h
    cases h with
    | root h => exact ⟨rfl, fun m j s h => ⟨m, Nat.le_refl m, h⟩⟩
  | succ fuel ih =>
    unfold find
    cases h with
    | root h =>
      rw [if_pos h]
      exact ⟨rfl, fun m j s h => ⟨m, Nat.le_refl m, h⟩⟩
    | link hlink h =>
      rename_i k
      rw [if_neg hlink]
      have hlast : ∃ l ≤ k, Reaches p l (parent p (parent p i)) r := by
        cases h with
        | root h => exact ⟨0, Nat.zero_le _, h.symm ▸ .root h⟩
        | link hlink' h => exact ⟨_, Nat.le_succ _, h⟩
      obtain ⟨l, hl, hlast⟩ := hlast
      obtain ⟨m, hm, hreaches⟩ := hlast.halve hlink
      obtain ⟨hroot, hkeeps⟩ := ih hreaches (by omega)
      refine ⟨hroot, fun count j s hj => ?_⟩
      obtain ⟨first, hfirst, hj⟩ := hj.halve hlink
      obtain ⟨second, hsecond, hj⟩ := hkeeps first j s hj
      exact ⟨second, by omega, hj⟩

/-- A search changes no root. -/
structure SameRoots (p q : Forest) : Prop where
  length : q.length = p.length
  roots : ∀ i r, HasRoot p i r → HasRoot q i r

theorem length_find (fuel : Nat) (p : Forest) (i : Nat) : (find fuel p i).2.length = p.length := by
  induction fuel generalizing p i with
  | zero => rfl
  | succ fuel ih =>
    unfold find
    split
    · rfl
    · rw [ih, length_set]

theorem findRoot_eq (h : HasRoot p i r) : (findRoot p i).1 = r := by
  obtain ⟨n, h⟩ := h
  exact (find_spec h h.le_length).1

theorem findRoot_sameRoots (h : Rooted p) (i : Nat) : SameRoots p (findRoot p i).2 := by
  obtain ⟨n, r, hr⟩ := h i
  refine ⟨length_find _ _ _, fun j s hj => ?_⟩
  obtain ⟨m, hj⟩ := hj
  obtain ⟨l, -, hj⟩ := (find_spec hr hr.le_length).2 m j s hj
  exact ⟨l, hj⟩

theorem SameRoots.rooted (h : SameRoots p q) (hp : Rooted p) : Rooted q := by
  intro i
  obtain ⟨n, r, hr⟩ := hp i
  obtain ⟨m, hm⟩ := h.roots i r ⟨n, hr⟩
  exact ⟨m, r, hm⟩

theorem SameRoots.trans {t : Forest} (h : SameRoots p q) (h' : SameRoots q t) : SameRoots p t :=
  ⟨h'.length.trans h.length, fun i r hr => h'.roots i r (h.roots i r hr)⟩

theorem SameRoots.hasRoot_iff (h : SameRoots p q) (hp : Rooted p) (i r : Nat) :
    HasRoot q i r ↔ HasRoot p i r := by
  refine ⟨fun hq => ?_, h.roots i r⟩
  obtain ⟨n, s, hs⟩ := hp i
  rw [hq.unique (h.roots i s ⟨n, hs⟩)]
  exact ⟨n, hs⟩

theorem SameRoots.together_iff (h : SameRoots p q) (hp : Rooted p) (i j : Nat) :
    Together q i j ↔ Together p i j := by
  unfold Together
  simp only [h.hasRoot_iff hp]

end Search

section Unions

variable {p : Forest} {i j l r n : Nat}

theorem together_refl (h : Rooted p) (i : Nat) : Together p i i := by
  obtain ⟨n, r, hr⟩ := h i
  exact ⟨r, ⟨n, hr⟩, ⟨n, hr⟩⟩

theorem Together.symm (h : Together p i j) : Together p j i := by
  obtain ⟨r, hi, hj⟩ := h
  exact ⟨r, hj, hi⟩

theorem Together.trans (h : Together p i j) (h' : Together p j l) : Together p i l := by
  obtain ⟨r, hi, hj⟩ := h
  obtain ⟨s, hj', hl⟩ := h'
  rw [hj.unique hj'] at hi
  exact ⟨s, hi, hl⟩

theorem HasRoot.together_iff {r : Nat} (hi : HasRoot p i r) (hj : HasRoot p j s) :
    Together p i j ↔ r = s := by
  constructor
  · rintro ⟨q, hi', hj'⟩
    rw [hi.unique hi', hj.unique hj']
  · rintro rfl
    exact ⟨r, hi, hj⟩

/-- Where the root `a` is linked to another root `b`, the indices of `a` lead to `b`. -/
theorem Reaches.linked {a b : Nat} (ha : parent p a = a) (hb : parent p b = b) (hab : b ≠ a)
    (hlt : a < p.length) (h : Reaches p n i r) : ∃ m, Reaches (p.set a b) m i (if r = a then b else r) := by
  have hroot : Reaches (p.set a b) 0 b b := by
    refine .root ?_
    rw [parent_set hlt, if_neg hab]
    exact hb
  induction h with
  | root h =>
    rename_i r
    by_cases hr : r = a
    · rw [if_pos hr, hr]
      have hset : parent (p.set a b) a = b := by
        rw [parent_set hlt, if_pos rfl]
      refine ⟨1, .link ?_ ?_⟩
      · rw [hset]
        exact hab
      · rw [hset]
        exact hroot
    · rw [if_neg hr]
      refine ⟨0, .root ?_⟩
      rw [parent_set hlt, if_neg hr]
      exact h
  | link hlink h ih =>
    rename_i k i r
    obtain ⟨m, hm⟩ := ih
    have hia : i ≠ a := by
      rintro rfl
      exact hlink ha
    have hset : parent (p.set a b) i = parent p i := by
      rw [parent_set hlt, if_neg hia]
    refine ⟨m + 1, .link ?_ (hset.symm ▸ hm)⟩
    rw [hset]
    exact hlink

/-- A forest in which every index leads to a root and no link leaves the list. -/
structure WellFormed (p : Forest) : Prop where
  rooted : Rooted p
  range : ∀ i < p.length, parent p i < p.length

theorem WellFormed.root_lt_length (hp : WellFormed p) (h : HasRoot p i r) (hi : i < p.length) :
    r < p.length := by
  obtain ⟨n, h⟩ := h
  induction h with
  | root h => exact hi
  | link hlink h ih => exact ih (hp.range _ hi)

theorem range_set (hp : ∀ i < p.length, parent p i < p.length) (hi : i < p.length) {value : Nat}
    (hvalue : value < p.length) :
    ∀ j < (p.set i value).length, parent (p.set i value) j < (p.set i value).length := by
  intro j hj
  rw [length_set] at hj ⊢
  rw [parent_set hi]
  split
  · exact hvalue
  · exact hp j hj

theorem range_find (fuel : Nat) (hp : ∀ i < p.length, parent p i < p.length) (i : Nat) :
    ∀ j < (find fuel p i).2.length, parent (find fuel p i).2 j < (find fuel p i).2.length := by
  induction fuel generalizing p i with
  | zero => exact hp
  | succ fuel ih =>
    unfold find
    split
    · exact hp
    · next hlink =>
      have hi := lt_length_of_link hlink
      exact ih (range_set hp hi (hp _ (hp i hi))) _

theorem WellFormed.findRoot (hp : WellFormed p) (i : Nat) : WellFormed (findRoot p i).2 :=
  ⟨(findRoot_sameRoots hp.rooted i).rooted hp.rooted, range_find _ hp.range i⟩

/-- The forest that links the root `b` to the root `a`. -/
theorem WellFormed.link {a b : Nat} (hp : WellFormed p) (ha : parent p a = a) (hb : parent p b = b)
    (hab : a ≠ b) (hal : a < p.length) (hbl : b < p.length) : WellFormed (p.set b a) := by
  refine ⟨fun i => ?_, range_set hp.range hbl hal⟩
  obtain ⟨n, r, h⟩ := hp.rooted i
  obtain ⟨m, hm⟩ := h.linked hb ha hab hbl
  exact ⟨m, _, hm⟩

/-- What holds of the sets after the union of two indices. -/
def Joined (p : Forest) (left right i j : Nat) : Prop :=
  Together p i j ∨ Together p i left ∧ Together p j right ∨ Together p i right ∧ Together p j left

theorem union_spec (hp : WellFormed p) {left right : Nat} (hl : left < p.length)
    (hr : right < p.length) : WellFormed (union p left right) ∧ (union p left right).length = p.length ∧
      ∀ i j, Together (union p left right) i j ↔ Joined p left right i j := by
  obtain ⟨_, a, hleft⟩ := hp.rooted left
  obtain ⟨_, b, hright⟩ := hp.rooted right
  have ha : HasRoot p left a := ⟨_, hleft⟩
  have hb : HasRoot p right b := ⟨_, hright⟩
  have hfirst := findRoot_sameRoots hp.rooted left
  have hsecond := findRoot_sameRoots (hfirst.rooted hp.rooted) right
  have hq : WellFormed (findRoot (findRoot p left).2 right).2 := (hp.findRoot left).findRoot right
  have hsame : SameRoots p (findRoot (findRoot p left).2 right).2 := hfirst.trans hsecond
  have hrootLeft : (findRoot p left).1 = a := findRoot_eq ha
  have hrootRight : (findRoot (findRoot p left).2 right).1 = b := findRoot_eq (hfirst.roots right b hb)
  have hunion : union p left right =
      if a ≠ b then (findRoot (findRoot p left).2 right).2.set b a
      else (findRoot (findRoot p left).2 right).2 := by
    unfold union
    dsimp only
    rw [hrootLeft, hrootRight]
  rw [hunion]
  generalize (findRoot (findRoot p left).2 right).2 = q at hq hsame ⊢
  have hal : a < q.length := hsame.length ▸ hp.root_lt_length ha hl
  have hbl : b < q.length := hsame.length ▸ hp.root_lt_length hb hr
  by_cases hab : a = b
  · rw [if_neg (not_not.2 hab)]
    refine ⟨hq, hsame.length, fun i j => (hsame.together_iff hp.rooted i j).trans ?_⟩
    have hjoined : Together p left right := (ha.together_iff hb).2 hab
    constructor
    · exact .inl
    · rintro (h | ⟨hi, hj⟩ | ⟨hi, hj⟩)
      · exact h
      · exact (hi.trans hjoined).trans hj.symm
      · exact (hi.trans hjoined.symm).trans hj.symm
  · rw [if_pos hab]
    have haRoot : parent q a = a := (hsame.roots left a ha).isRoot
    have hbRoot : parent q b = b := (hsame.roots right b hb).isRoot
    refine ⟨hq.link haRoot hbRoot hab hal hbl, length_set.trans hsame.length, fun i j => ?_⟩
    obtain ⟨n, r, hi⟩ := hp.rooted i
    obtain ⟨m, s, hj⟩ := hp.rooted j
    obtain ⟨n', hi'⟩ := hsame.roots i r ⟨n, hi⟩
    obtain ⟨m', hj'⟩ := hsame.roots j s ⟨m, hj⟩
    obtain ⟨_, hi''⟩ := hi'.linked hbRoot haRoot hab hbl
    obtain ⟨_, hj''⟩ := hj'.linked hbRoot haRoot hab hbl
    have hri : HasRoot p i r := ⟨n, hi⟩
    have hrj : HasRoot p j s := ⟨m, hj⟩
    rw [HasRoot.together_iff ⟨_, hi''⟩ ⟨_, hj''⟩]
    unfold Joined
    rw [hri.together_iff hrj, hri.together_iff ha, hrj.together_iff hb, hri.together_iff hb,
      hrj.together_iff ha]
    split_ifs with hr hs
    · exact iff_of_true rfl (.inl (hr.trans hs.symm))
    all_goals grind

end Unions

section Classes

variable {p : Forest} {pairs : List (Nat × Nat)}

theorem eqvGen_of_imp {α : Type*} {R S : α → α → Prop} (h : ∀ a b, R a b → Relation.EqvGen S a b)
    {a b : α} (hab : Relation.EqvGen R a b) : Relation.EqvGen S a b := by
  induction hab with
  | rel a b hab => exact h a b hab
  | refl a => exact .refl a
  | symm a b _ ih => exact .symm _ _ ih
  | trans a b c _ _ hab hbc => exact .trans _ _ _ hab hbc

/-- The relation that the sets of a forest and the pairs to unite generate. -/
def Generates (p : Forest) (pairs : List (Nat × Nat)) : Nat → Nat → Prop :=
  Relation.EqvGen fun i j => Together p i j ∨ (i, j) ∈ pairs

theorem generates_nil (hp : Rooted p) (i j : Nat) : Generates p [] i j ↔ Together p i j := by
  constructor
  · intro h
    induction h with
    | rel i j h => exact h.resolve_right (not_mem_nil)
    | refl i => exact together_refl hp i
    | symm i j _ ih => exact ih.symm
    | trans i j k _ _ hij hjk => exact hij.trans hjk
  · exact fun h => .rel _ _ (.inl h)

theorem generates_cons (hp : Rooted p) {left right : Nat}
    (hq : ∀ i j, Together q i j ↔ Joined p left right i j) (i j : Nat) :
    Generates q pairs i j ↔ Generates p ((left, right) :: pairs) i j := by
  have hpair : Generates p ((left, right) :: pairs) left right := .rel _ _ (.inr mem_cons_self)
  have hold : ∀ {i j}, Together p i j → Generates p ((left, right) :: pairs) i j :=
    fun h => .rel _ _ (.inl h)
  constructor
  · refine eqvGen_of_imp fun i j h => ?_
    rcases h with h | h
    · rcases (hq i j).1 h with h | ⟨hi, hj⟩ | ⟨hi, hj⟩
      · exact hold h
      · exact .trans _ _ _ (hold hi) (.trans _ _ _ hpair (hold hj.symm))
      · exact .trans _ _ _ (hold hi) (.trans _ _ _ (.symm _ _ hpair) (hold hj.symm))
    · exact .rel _ _ (.inr (mem_cons_of_mem _ h))
  · refine eqvGen_of_imp fun i j h => ?_
    rcases h with h | h
    · exact .rel _ _ (.inl ((hq i j).2 (.inl h)))
    · rcases mem_cons.1 h with h | h
      · cases h
        have hsame : Joined p left right left right :=
          .inr (.inl ⟨together_refl hp left, together_refl hp right⟩)
        exact .rel _ _ (.inl ((hq left right).2 hsame))
      · exact .rel _ _ (.inr h)

theorem unions_spec (hp : WellFormed p) (hpairs : ∀ pair ∈ pairs, pair.1 < p.length ∧ pair.2 < p.length) :
    WellFormed (unions p pairs) ∧ (unions p pairs).length = p.length ∧
      ∀ i j, Together (unions p pairs) i j ↔ Generates p pairs i j := by
  induction pairs generalizing p with
  | nil => exact ⟨hp, rfl, fun i j => (generates_nil hp.rooted i j).symm⟩
  | cons pair pairs ih =>
    obtain ⟨hl, hr⟩ := hpairs pair mem_cons_self
    obtain ⟨hwell, hlength, hjoined⟩ := union_spec hp hl hr
    obtain ⟨hwell', hlength', htogether⟩ := ih hwell fun other hother => by
      rw [hlength]
      exact hpairs other (mem_cons_of_mem _ hother)
    refine ⟨hwell', hlength'.trans hlength, fun i j => (htogether i j).trans ?_⟩
    exact generates_cons hp.rooted hjoined i j

/-- The forest in which every index is a root. -/
def singletons (size : Nat) : Forest := List.range size

theorem parent_singletons (size i : Nat) : parent (singletons size) i = i := by
  unfold parent singletons
  by_cases hi : i < size
  · simp [hi]
  · rw [getElem?_eq_none (by simpa using hi)]
    rfl

theorem wellFormed_singletons (size : Nat) : WellFormed (singletons size) := by
  refine ⟨fun i => ⟨0, i, .root (parent_singletons size i)⟩, fun i hi => ?_⟩
  rw [parent_singletons]
  exact hi

theorem together_singletons (size i j : Nat) : Together (singletons size) i j ↔ i = j :=
  HasRoot.together_iff ⟨0, .root (parent_singletons size i)⟩ ⟨0, .root (parent_singletons size j)⟩

/-- After the unions two indices are in one set exactly when a chain of pairs links them. -/
theorem together_unions {size : Nat} (hpairs : ∀ pair ∈ pairs, pair.1 < size ∧ pair.2 < size)
    (i j : Nat) : Together (unions (singletons size) pairs) i j ↔
      Relation.EqvGen (fun i j => (i, j) ∈ pairs) i j := by
  have hlength : (singletons size).length = size := length_range
  rw [(unions_spec (wellFormed_singletons size) (by rwa [hlength])).2.2]
  constructor
  · refine eqvGen_of_imp fun i j h => ?_
    rcases h with h | h
    · rw [(together_singletons size i j).1 h]
      exact .refl j
    · exact .rel _ _ h
  · exact eqvGen_of_imp fun i j h => .rel _ _ (.inr h)

end Classes

end BlogOps.DisjointSets
