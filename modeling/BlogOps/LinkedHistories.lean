import Mathlib.Data.List.Induction

/-!
# Histories linked backwards

The entries of a history carry a name, and each names the entry before it; the
first one names what the history continues, usually nothing.  When the names
differ, an entry has at most one successor and only the last has none.  When
the name seals the entry with the name before it, the last name settles the
whole history.
-/

namespace BlogOps.LinkedHistories

open List

variable {α ι : Type*} (name : α → ι) (previous : α → Option ι)

def LinkedFrom : Option ι → List α → Prop
  | _, [] => True
  | p, a :: history => previous a = p ∧ LinkedFrom (some (name a)) history

abbrev Linked (history : List α) : Prop := LinkedFrom name previous none history

/-- What the next entry has to name. -/
def tip : Option ι → List α → Option ι
  | p, [] => p
  | _, a :: history => tip (some (name a)) history

@[simp] theorem tip_nil (p : Option ι) : tip name p [] = p := rfl

@[simp] theorem tip_cons (p : Option ι) (a : α) (history : List α) :
    tip name p (a :: history) = tip name (some (name a)) history := rfl

@[simp] theorem tip_append (p : Option ι) (history later : List α) :
    tip name p (history ++ later) = tip name (tip name p history) later := by
  induction history generalizing p with
  | nil => rfl
  | cons a history ih => simp [ih]

theorem tip_concat (p : Option ι) (history : List α) (a : α) :
    tip name p (history ++ [a]) = some (name a) := by simp

variable {name previous}

@[simp] theorem linkedFrom_nil (p : Option ι) : LinkedFrom name previous p [] := trivial

variable {a b : α} {history : List α} {p : Option ι}

@[simp] theorem linkedFrom_cons : LinkedFrom name previous p (a :: history) ↔
      previous a = p ∧ LinkedFrom name previous (some (name a)) history := Iff.rfl

theorem linkedFrom_append {later : List α} : LinkedFrom name previous p (history ++ later) ↔
      LinkedFrom name previous p history ∧
        LinkedFrom name previous (tip name p history) later := by
  induction history generalizing p with
  | nil => simp
  | cons a history ih => simp [ih, and_assoc]

theorem linkedFrom_concat : LinkedFrom name previous p (history ++ [a]) ↔
      LinkedFrom name previous p history ∧ previous a = tip name p history := by
  simp [linkedFrom_append]

theorem tip_eq_getLast? (history : List α) : tip name none history = history.getLast?.map name := by
  rcases eq_nil_or_concat history with rfl | ⟨earlier, last, rfl⟩
  · rfl
  · rw [concat_eq_append, tip_concat, getLast?_concat]
    rfl

theorem tip_eq_some {n : ι} (h : tip name none history = some n) :
    ∃ earlier last, history = earlier ++ [last] ∧ name last = n := by
  rcases eq_nil_or_concat history with rfl | ⟨earlier, last, rfl⟩
  · cases h
  · rw [concat_eq_append, tip_concat] at h
    exact ⟨earlier, last, concat_eq_append, Option.some.inj h⟩

theorem tip_eq_none (h : tip name none history = none) : history = [] := by
  rcases eq_nil_or_concat history with rfl | ⟨earlier, last, rfl⟩
  · rfl
  · rw [concat_eq_append, tip_concat] at h
    cases h

section

variable (h : LinkedFrom name previous p history)

include h

theorem last_or_succeeded (ha : a ∈ history) :
    (∃ earlier, history = earlier ++ [a]) ∨ ∃ b ∈ history, previous b = some (name a) := by
  obtain ⟨earlier, later, rfl⟩ := append_of_mem ha
  cases later with
  | nil => exact .inl ⟨earlier, rfl⟩
  | cons b later =>
    have hb : previous b = some (name a) := (linkedFrom_append.mp h).2.2.1
    exact .inr ⟨b, by simp, hb⟩

theorem previous_of_mem (ha : a ∈ history) : previous a = p ∨ ∃ b ∈ history, previous a = some (name b) := by
  induction history generalizing p with
  | nil => cases ha
  | cons b history ih =>
    rcases mem_cons.mp ha with rfl | htail
    · exact .inl h.1
    · rcases ih h.2 htail with hb | ⟨c, hc, hac⟩
      · exact .inr ⟨b, mem_cons_self, hb⟩
      · exact .inr ⟨c, mem_cons_of_mem b hc, hac⟩

/-- With distinct names an entry has at most one successor. -/
theorem eq_of_same_previous (hfresh : ∀ a ∈ history, p ≠ some (name a)) (hnames : (history.map name).Nodup)
    (ha : a ∈ history) (hb : b ∈ history) (hab : previous a = previous b) : a = b := by
  induction history generalizing p with
  | nil => cases ha
  | cons c history ih =>
    obtain ⟨hc, htail⟩ := h
    rw [map_cons, nodup_cons] at hnames
    have hlater : ∀ x ∈ history, some (name c) ≠ some (name x) := by
      intro x hx hname
      exact hnames.1 (Option.some.inj hname ▸ mem_map_of_mem hx)
    have hfirst : ∀ x ∈ history, previous x ≠ p := by
      intro x hx hp
      rcases previous_of_mem htail hx with hprev | ⟨y, hy, hprev⟩
      · exact hfresh c mem_cons_self (hp.symm.trans hprev)
      · exact hfresh y (mem_cons_of_mem c hy) (hp.symm.trans hprev)
    rcases mem_cons.mp ha with hac | hatail <;> rcases mem_cons.mp hb with hbc | hbtail
    · exact hac.trans hbc.symm
    · exact absurd (hab.symm.trans (hac ▸ hc)) (hfirst b hbtail)
    · exact absurd (hab.trans (hbc ▸ hc)) (hfirst a hatail)
    · exact ih htail hlater hnames.2 hatail hbtail

end

theorem Linked.eq_of_same_previous (h : Linked name previous history) (hnames : (history.map name).Nodup)
    (ha : a ∈ history) (hb : b ∈ history) (hab : previous a = previous b) : a = b :=
  LinkedHistories.eq_of_same_previous h (fun _ _ hnone => nomatch hnone) hnames ha hb hab

theorem Linked.last_not_succeeded {earlier : List α} {last : α}
    (h : Linked name previous (earlier ++ [last])) (hnames : ((earlier ++ [last]).map name).Nodup)
    (hb : b ∈ earlier ++ [last]) : previous b ≠ some (name last) := by
  intro hprev
  rw [map_append, map_singleton, nodup_append] at hnames
  have hbefore : ∃ c ∈ earlier, previous b = some (name c) := by
    obtain ⟨hearlier, hlast⟩ := linkedFrom_concat.mp h
    rcases mem_append.mp hb with hb | hb
    · rcases previous_of_mem hearlier hb with hnone | hsome
      · exact nomatch hnone.symm.trans hprev
      · exact hsome
    · obtain rfl := mem_singleton.mp hb
      obtain ⟨start, c, rfl, -⟩ := tip_eq_some (hlast.symm.trans hprev)
      exact ⟨c, by simp, hlast.trans (tip_concat name none start c)⟩
  obtain ⟨c, hc, hname⟩ := hbefore
  refine hnames.2.2 (name c) (mem_map_of_mem hc) (name last) (by simp) ?_
  exact Option.some.inj (hname.symm.trans hprev)

section Sealed

variable {β : Type*} {digest : Option ι → β → ι} {content : α → β}

/-- The name of each entry is the seal of its content and of the name before it. -/
def Sealed (digest : Option ι → β → ι) (content : α → β) (name : α → ι)
    (previous : α → Option ι) (history : List α) : Prop :=
  ∀ a ∈ history, name a = digest (previous a) (content a)

theorem contents_eq_of_tip_eq (hdigest : ∀ p b q c, digest p b = digest q c → p = q ∧ b = c) {other : List α}
    (h : Linked name previous history) (hs : Sealed digest content name previous history)
    (ho : Linked name previous other) (hos : Sealed digest content name previous other)
    (htip : tip name none history = tip name none other) : history.map content = other.map content := by
  induction history using List.reverseRecOn generalizing other with
  | nil => rw [tip_eq_none htip.symm]
  | append_singleton earlier last ih =>
    rw [tip_concat] at htip
    obtain ⟨earlier', last', rfl, hname⟩ := tip_eq_some htip.symm
    obtain ⟨hearlier, hprev⟩ := linkedFrom_concat.mp h
    obtain ⟨hearlier', hprev'⟩ := linkedFrom_concat.mp ho
    have hseal : digest (previous last) (content last) = digest (previous last') (content last') := by
      rw [← hs last (by simp), ← hos last' (by simp), hname]
    obtain ⟨hbefore, hcontent⟩ := hdigest _ _ _ _ hseal
    have hrest : earlier.map content = earlier'.map content := by
      refine ih hearlier (fun a ha => hs a (by simp [ha])) hearlier' (fun a ha => hos a (by simp [ha])) ?_
      rw [← hprev, hbefore, hprev']
    rw [map_append, map_append, hrest, map_singleton, map_singleton, hcontent]

theorem tip_eq_of_contents_eq {other : List α} (h : Linked name previous history)
    (hs : Sealed digest content name previous history) (ho : Linked name previous other)
    (hos : Sealed digest content name previous other) (hcontents : history.map content = other.map content) :
    tip name none history = tip name none other := by
  induction history using List.reverseRecOn generalizing other with
  | nil => rw [map_eq_nil_iff.mp hcontents.symm]
  | append_singleton earlier last ih =>
    rcases eq_nil_or_concat other with rfl | ⟨earlier', last', rfl⟩
    · simp at hcontents
    · rw [concat_eq_append] at *
      rw [map_append, map_append] at hcontents
      obtain ⟨hrest, hlast⟩ := append_inj' hcontents rfl
      obtain ⟨hearlier, hprev⟩ := linkedFrom_concat.mp h
      obtain ⟨hearlier', hprev'⟩ := linkedFrom_concat.mp ho
      have htip : tip name none earlier = tip name none earlier' :=
        ih hearlier (fun a ha => hs a (by simp [ha])) hearlier' (fun a ha => hos a (by simp [ha])) hrest
      rw [tip_concat, tip_concat, hs last (by simp), hos last' (by simp), hprev, hprev', htip,
        singleton_inj.mp hlast]

end Sealed

end BlogOps.LinkedHistories
