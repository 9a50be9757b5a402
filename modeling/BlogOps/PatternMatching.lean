import Mathlib.Data.List.Basic

/-!
# Backtracking patterns

Regular expressions as a backtracking engine reads them: a pattern lists the
places where a match may end, the preferred one first, and a substitution
replaces the leftmost matches from left to right.  Classes are predicates;
look-around and boundaries see the entry before the place.
-/

namespace BlogOps.PatternMatching

open List

variable {α : Type*}

inductive Pattern (α : Type*) where
  | done
  | one (p : α → Bool)
  | seq (first second : Pattern α)
  | upTo (n : Nat) (pattern : Pattern α)
  | rounds (pattern : Pattern α)
  | many (p : α → Bool)
  | boundary (inWord : α → Bool)
  | notBehind (p : α → Bool)
  | notAhead (p : α → Bool)

/-- A place in a text: the entry before it, if any, and what follows. -/
structure Place (α : Type*) where
  before : Option α
  rest : List α

/-- The ends of a greedy run over entries of the class, the longest first. -/
def manyEnds (p : α → Bool) : Option α → List α → List (Place α)
  | before, [] => [⟨before, []⟩]
  | before, a :: rest =>
    if p a then manyEnds p (some a) rest ++ [⟨before, a :: rest⟩] else [⟨before, a :: rest⟩]

/-- At most `n` rounds, more rounds first. -/
def roundEnds (ends : Place α → List (Place α)) : Nat → Place α → List (Place α)
  | 0, place => [place]
  | n + 1, place => (ends place).flatMap (roundEnds ends n) ++ [place]

namespace Pattern

def ends : Pattern α → Place α → List (Place α)
  | done, place => [place]
  | one p, place =>
    match place.rest with
    | [] => []
    | a :: rest => if p a then [⟨some a, rest⟩] else []
  | seq first second, place => (first.ends place).flatMap second.ends
  | upTo n pattern, place => roundEnds pattern.ends n place
  -- each round takes an entry
  | rounds pattern, place => roundEnds pattern.ends place.rest.length place
  | many p, place => manyEnds p place.before place.rest
  | boundary inWord, place =>
    if place.before.any inWord = place.rest.head?.any inWord then [] else [place]
  | notBehind p, place => if place.before.any p then [] else [place]
  | notAhead p, place => if place.rest.head?.any p then [] else [place]

def join : List (Pattern α) → Pattern α
  | [] => done
  | pattern :: patterns => seq pattern (join patterns)

def times (n : Nat) (pattern : Pattern α) : Pattern α := join (List.replicate n pattern)

/-- At least `n` entries of the class, as many as there are. -/
def atLeast (n : Nat) (p : α → Bool) : Pattern α := seq (times n (one p)) (many p)

/-- Substitution after the place `before`; `skip` entries still belong to the last match.  The
pattern must not match the empty text. -/
def subFrom (pattern : Pattern α) (replacement : List α) : Nat → Option α → List α → List α
  | _, _, [] => []
  | skip + 1, _, a :: rest => subFrom pattern replacement skip (some a) rest
  | 0, before, a :: rest =>
    match (pattern.ends ⟨before, a :: rest⟩).head? with
    | some place => replacement ++
        subFrom pattern replacement (rest.length - place.rest.length) (some a) rest
    | none => a :: subFrom pattern replacement 0 (some a) rest

/-- `re.sub`. -/
def sub (pattern : Pattern α) (replacement text : List α) : List α :=
  subFrom pattern replacement 0 none text

variable {place middle e : Place α} {p : α → Bool} {P : α → Prop} {pattern : Pattern α} {text : List α}

/-- The classes of the pattern are within `P`. -/
def Within (P : α → Prop) : Pattern α → Prop
  | done | boundary _ | notBehind _ | notAhead _ => True
  | one p | many p => ∀ a, p a = true → P a
  | seq first second => first.Within P ∧ second.Within P
  | upTo _ pattern | rounds pattern => pattern.Within P

/-- The end lies behind the place, and the entries between them are in `P`. -/
def Reaches (P : α → Prop) (place e : Place α) : Prop :=
  ∃ taken, place.rest = taken ++ e.rest ∧ ∀ a ∈ taken, P a

theorem reaches_refl (place : Place α) : Reaches P place place := ⟨[], rfl, fun _ h => absurd h not_mem_nil⟩

theorem Reaches.trans (h : Reaches P place middle) (hlater : Reaches P middle e) : Reaches P place e := by
  obtain ⟨taken, hrest, htaken⟩ := h
  obtain ⟨more, hmiddle, hmore⟩ := hlater
  exact ⟨taken ++ more, by rw [hrest, hmiddle, append_assoc], forall_mem_append.mpr ⟨htaken, hmore⟩⟩

theorem reaches_next {before : Option α} {a : α} {rest : List α} (ha : P a) :
    Reaches P ⟨before, a :: rest⟩ ⟨some a, rest⟩ :=
  ⟨[a], rfl, forall_mem_singleton.mpr ha⟩

theorem reaches_of_manyEnds (hp : ∀ a, p a = true → P a) {before : Option α} {rest : List α}
    (h : e ∈ manyEnds p before rest) : Reaches P ⟨before, rest⟩ e := by
  induction rest generalizing before with
  | nil =>
    obtain rfl := mem_singleton.mp h
    exact reaches_refl _
  | cons a rest ih =>
    unfold manyEnds at h
    split at h
    · rename_i ha
      rcases mem_append.mp h with hlonger | hhere
      · exact (reaches_next (hp a ha)).trans (ih hlonger)
      · obtain rfl := mem_singleton.mp hhere
        exact reaches_refl _
    · obtain rfl := mem_singleton.mp h
      exact reaches_refl _

theorem reaches_of_roundEnds {ends : Place α → List (Place α)}
    (hends : ∀ place, ∀ e ∈ ends place, Reaches P place e) {n : Nat}
    (h : e ∈ roundEnds ends n place) : Reaches P place e := by
  induction n generalizing place with
  | zero =>
    obtain rfl := mem_singleton.mp h
    exact reaches_refl _
  | succ n ih =>
    rcases mem_append.mp h with hround | hhere
    · obtain ⟨middle, hmiddle, hlater⟩ := mem_flatMap.mp hround
      exact (hends place middle hmiddle).trans (ih hlater)
    · obtain rfl := mem_singleton.mp hhere
      exact reaches_refl _

theorem reaches_of_look {c : Prop} [Decidable c] (h : e ∈ if c then [] else [place]) :
    Reaches P place e := by
  split at h
  · cases h
  · obtain rfl := mem_singleton.mp h
    exact reaches_refl _

/-- A match takes only entries of the classes of its pattern. -/
theorem reaches_of_ends (hwithin : pattern.Within P) (h : e ∈ pattern.ends place) : Reaches P place e := by
  induction pattern generalizing place e with
  | done =>
    obtain rfl := mem_singleton.mp h
    exact reaches_refl _
  | one p =>
    unfold ends at h
    split at h
    · cases h
    · rename_i a rest hrest
      split at h
      · rename_i ha
        obtain rfl := mem_singleton.mp h
        exact ⟨[a], hrest, forall_mem_singleton.mpr (hwithin a ha)⟩
      · cases h
  | seq first second ihfirst ihsecond =>
    obtain ⟨middle, hmiddle, hlater⟩ := mem_flatMap.mp h
    exact (ihfirst hwithin.1 hmiddle).trans (ihsecond hwithin.2 hlater)
  | upTo n pattern ih => exact reaches_of_roundEnds (fun _ _ => ih hwithin) h
  | rounds pattern ih => exact reaches_of_roundEnds (fun _ _ => ih hwithin) h
  | many p => exact reaches_of_manyEnds hwithin h
  | boundary inWord => exact reaches_of_look h
  | notBehind p => exact reaches_of_look h
  | notAhead p => exact reaches_of_look h

theorem within_true : pattern.Within fun _ => True := by
  induction pattern <;> simp_all [Within]

/-- A match ends at or after its place. -/
theorem rest_suffix_of_ends (h : e ∈ pattern.ends place) : e.rest <:+ place.rest := by
  obtain ⟨taken, hrest, -⟩ := reaches_of_ends within_true h
  exact ⟨taken, hrest.symm⟩

theorem within_join {patterns : List (Pattern α)} (h : ∀ pattern ∈ patterns, pattern.Within P) :
    (join patterns).Within P := by
  induction patterns with
  | nil => trivial
  | cons pattern patterns ih =>
    obtain ⟨hpattern, hrest⟩ := forall_mem_cons.mp h
    exact ⟨hpattern, ih hrest⟩

theorem within_times {n : Nat} (h : pattern.Within P) : (times n pattern).Within P :=
  within_join fun _ hmem => eq_of_mem_replicate hmem ▸ h

theorem within_atLeast {n : Nat} (h : ∀ a, p a = true → P a) : (atLeast n p).Within P :=
  ⟨within_times h, h⟩

/-- No match is empty. -/
def Moves (pattern : Pattern α) : Prop :=
  ∀ place, ∀ e ∈ pattern.ends place, e.rest.length < place.rest.length

theorem moves_one : Moves (one p) := by
  intro place e h
  unfold ends at h
  split at h
  · cases h
  · rename_i a rest hrest
    split at h
    · obtain rfl := mem_singleton.mp h
      simp [hrest]
    · cases h

theorem Moves.seq_left {first second : Pattern α} (h : Moves first) : Moves (seq first second) := by
  intro place e he
  obtain ⟨middle, hmiddle, hlater⟩ := mem_flatMap.mp he
  exact Nat.lt_of_le_of_lt (rest_suffix_of_ends hlater).length_le (h place middle hmiddle)

theorem Moves.seq_right {first second : Pattern α} (h : Moves second) : Moves (seq first second) := by
  intro place e he
  obtain ⟨middle, hmiddle, hlater⟩ := mem_flatMap.mp he
  exact Nat.lt_of_lt_of_le (h middle e hlater) (rest_suffix_of_ends hmiddle).length_le

/-- A chain of patterns moves where one of them does. -/
theorem moves_join {patterns : List (Pattern α)} (hmem : pattern ∈ patterns) (h : Moves pattern) :
    Moves (join patterns) := by
  induction patterns with
  | nil => cases hmem
  | cons other patterns ih =>
    rcases mem_cons.mp hmem with rfl | htail
    · exact h.seq_left
    · exact (ih htail).seq_right

theorem forall_subFrom_iff {replacement : List α} (hwithin : pattern.Within P) (hmoves : Moves pattern)
    (hreplacement : ∀ a ∈ replacement, P a) {skip : Nat} {before : Option α} :
    (∀ a ∈ subFrom pattern replacement skip before text, P a) ↔ ∀ a ∈ text.drop skip, P a := by
  induction text generalizing skip before with
  | nil => simp [subFrom]
  | cons a text ih =>
    cases skip with
    | succ skip => exact ih
    | zero =>
      unfold subFrom
      split
      · rename_i place hplace
        have hend : place ∈ pattern.ends ⟨before, a :: text⟩ := mem_of_mem_head? hplace
        have hshorter : place.rest.length < (a :: text).length := hmoves _ _ hend
        obtain ⟨taken, hrest, htaken⟩ := reaches_of_ends hwithin hend
        cases taken with
        | nil =>
          rw [show a :: text = place.rest from hrest] at hshorter
          exact absurd hshorter (Nat.lt_irrefl _)
        | cons first taken =>
          -- the entries after `a` that belong to the match are skipped
          obtain ⟨rfl, rfl⟩ : a = first ∧ text = taken ++ place.rest := cons.inj hrest
          obtain ⟨ha, hmore⟩ := forall_mem_cons.mp htaken
          rw [forall_mem_append, ih, length_append, Nat.add_sub_cancel, drop_left, drop_zero,
            forall_mem_cons, forall_mem_append]
          exact ⟨fun h => ⟨ha, hmore, h.2⟩, fun h => ⟨hreplacement, h.2.2⟩⟩
      · rw [forall_mem_cons, ih, drop_zero, drop_zero, forall_mem_cons]

/-- What is replaced and what replaces it are in `P`, so the text is exactly if it was before. -/
theorem forall_sub_iff {replacement : List α} (hwithin : pattern.Within P) (hmoves : Moves pattern)
    (hreplacement : ∀ a ∈ replacement, P a) :
    (∀ a ∈ pattern.sub replacement text, P a) ↔ ∀ a ∈ text, P a :=
  forall_subFrom_iff hwithin hmoves hreplacement

/-- The pattern matches nowhere in the text. -/
def Fails (pattern : Pattern α) (text : List α) : Prop :=
  ∀ place : Place α, place.rest <:+ text → pattern.ends place = []

theorem fails_one (h : ∀ a ∈ text, p a = false) : Fails (one p) text := by
  intro place hplace
  unfold ends
  split
  · rfl
  · rename_i a rest hrest
    have ha : a ∈ text := hplace.subset (hrest ▸ mem_cons_self)
    rw [if_neg (by simp [h a ha])]

theorem Fails.seq_left {first second : Pattern α} (h : Fails first text) : Fails (seq first second) text := by
  intro place hplace
  unfold ends
  rw [h place hplace]
  rfl

theorem Fails.seq_right {first second : Pattern α} (h : Fails second text) :
    Fails (seq first second) text := by
  intro place hplace
  refine flatMap_eq_nil_iff.mpr fun middle hmiddle => ?_
  exact h middle ((rest_suffix_of_ends hmiddle).trans hplace)

/-- A chain of patterns fails where one of them does. -/
theorem fails_join {patterns : List (Pattern α)} (hmem : pattern ∈ patterns)
    (h : Fails pattern text) : Fails (join patterns) text := by
  induction patterns with
  | nil => cases hmem
  | cons other patterns ih =>
    rcases mem_cons.mp hmem with rfl | htail
    · exact h.seq_left
    · exact (ih htail).seq_right

theorem fails_atLeast {n : Nat} (h : ∀ a ∈ text, p a = false) : Fails (atLeast (n + 1) p) text :=
  (fails_join mem_cons_self (fails_one h)).seq_left

theorem Fails.tail {a : α} (h : Fails pattern (a :: text)) : Fails pattern text :=
  fun place hplace => h place (hplace.trans (suffix_cons a text))

theorem subFrom_of_fails (h : Fails pattern text) (replacement : List α) (before : Option α) :
    subFrom pattern replacement 0 before text = text := by
  induction text generalizing before with
  | nil => rfl
  | cons a text ih =>
    unfold subFrom
    rw [h ⟨before, a :: text⟩ (suffix_refl _)]
    simp only [head?_nil]
    rw [ih h.tail]

/-- Where the pattern matches nowhere, nothing is replaced. -/
theorem sub_of_fails (h : Fails pattern text) (replacement : List α) : pattern.sub replacement text = text :=
  subFrom_of_fails h replacement none

end Pattern

end BlogOps.PatternMatching
