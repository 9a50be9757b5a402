import Mathlib.Data.List.Induction
import Mathlib.Data.List.Nodup

/-!
# Dictionaries in the order of insertion

A dictionary is the list of its keys with their values, in the order in which the keys came.  Items
are collected under their keys, or the first item of each key is kept.
-/

namespace BlogOps.InsertionDicts

open List

variable {α κ : Type*} [DecidableEq κ]

/-- `groups.setdefault(k, []).append(a)`. -/
def appendTo (k : κ) (a : α) : List (κ × List α) → List (κ × List α)
  | [] => [(k, [a])]
  | (l, as) :: rest => if l = k then (l, as ++ [a]) :: rest else (l, as) :: appendTo k a rest

def groupBy (key : α → κ) (items : List α) : List (κ × List α) :=
  items.foldl (fun groups a => appendTo (key a) a groups) []

/-- The keys differ, and each has the items of that key, of which there is one at least. -/
structure Grouped (key : α → κ) (items : List α) (groups : List (κ × List α)) : Prop where
  nodup : (groups.map Prod.fst).Nodup
  filtered : ∀ group ∈ groups, group.2 = items.filter (fun a => key a = group.1) ∧ group.2 ≠ []
  keys : ∀ a ∈ items, key a ∈ groups.map Prod.fst

section Groups

variable {key : α → κ} {items : List α} {groups : List (κ × List α)} {k : κ} {a : α}

theorem keys_appendTo (k : κ) (a : α) (groups : List (κ × List α)) : (appendTo k a groups).map Prod.fst =
      if k ∈ groups.map Prod.fst then groups.map Prod.fst else groups.map Prod.fst ++ [k] := by
  induction groups with
  | nil => simp [appendTo]
  | cons group groups ih =>
    unfold appendTo
    by_cases hk : group.1 = k
    · simp [hk]
    · rw [if_neg hk, map_cons, ih, map_cons]
      by_cases hmem : k ∈ groups.map Prod.fst
      · simp [hmem]
      · rw [if_neg hmem, if_neg, cons_append]
        simp only [mem_cons, not_or]
        exact ⟨Ne.symm hk, hmem⟩

/-- A key has the new item behind its old ones, the others are as they were. -/
theorem mem_appendTo (hnodup : (groups.map Prod.fst).Nodup) {group : κ × List α}
    (h : group ∈ appendTo k a groups) : group.1 ≠ k ∧ group ∈ groups ∨
      group.1 = k ∧ (∃ old, (k, old) ∈ groups ∧ group.2 = old ++ [a]) ∨
      group = (k, [a]) ∧ k ∉ groups.map Prod.fst := by
  induction groups with
  | nil => exact .inr (.inr ⟨mem_singleton.1 h, not_mem_nil⟩)
  | cons first groups ih =>
    rw [map_cons, nodup_cons] at hnodup
    unfold appendTo at h
    by_cases hk : first.1 = k
    · rw [if_pos hk] at h
      rcases mem_cons.1 h with rfl | h
      · refine .inr (.inl ⟨hk, first.2, ?_, rfl⟩)
        rw [← hk]
        exact mem_cons_self
      · refine .inl ⟨?_, mem_cons_of_mem _ h⟩
        rintro rfl
        exact hnodup.1 (hk ▸ mem_map_of_mem h)
    · rw [if_neg hk] at h
      rcases mem_cons.1 h with rfl | h
      · exact .inl ⟨hk, mem_cons_self⟩
      · rcases ih hnodup.2 h with ⟨hne, hmem⟩ | ⟨heq, old, hold, hnew⟩ | ⟨heq, hfresh⟩
        · exact .inl ⟨hne, mem_cons_of_mem _ hmem⟩
        · exact .inr (.inl ⟨heq, old, mem_cons_of_mem _ hold, hnew⟩)
        · refine .inr (.inr ⟨heq, ?_⟩)
          rw [map_cons, mem_cons, not_or]
          exact ⟨Ne.symm hk, hfresh⟩

theorem Grouped.appendTo (h : Grouped key items groups) (a : α) :
    Grouped key (items ++ [a]) (appendTo (key a) a groups) := by
  have hkeys := keys_appendTo (key a) a groups
  refine ⟨?_, fun group hgroup => ?_, fun b hb => ?_⟩
  · rw [hkeys]
    split
    · exact h.nodup
    · next hfresh =>
      rw [nodup_append]
      refine ⟨h.nodup, nodup_singleton _, fun k hk l hl => ?_⟩
      rw [mem_singleton.1 hl]
      rintro rfl
      exact hfresh hk
  · rw [filter_append]
    rcases mem_appendTo h.nodup hgroup with ⟨hne, hmem⟩ | ⟨heq, old, hold, hnew⟩ | ⟨rfl, hfresh⟩
    · obtain ⟨hitems, hnonempty⟩ := h.filtered group hmem
      rw [filter_cons_of_neg (by simpa using Ne.symm hne), filter_nil, append_nil]
      exact ⟨hitems, hnonempty⟩
    · have hitems : old = items.filter fun b => key b = key a := (h.filtered _ hold).1
      rw [heq, filter_cons_of_pos (by simp), filter_nil, hnew, hitems]
      exact ⟨rfl, by simp⟩
    · have hnone : items.filter (fun b => key b = key a) = [] := by
        refine filter_eq_nil_iff.2 fun b hb => ?_
        rw [decide_eq_true_eq]
        intro hkey
        exact hfresh (hkey ▸ h.keys b hb)
      rw [hnone, filter_cons_of_pos (by simp)]
      exact ⟨rfl, by simp⟩
  · rw [hkeys]
    rcases mem_append.1 hb with hb | hb
    · have hold := h.keys b hb
      split
      · exact hold
      · exact mem_append_left _ hold
    · rw [mem_singleton.1 hb]
      split
      · assumption
      · exact mem_append_right _ (mem_singleton_self _)

theorem groupBy_append (key : α → κ) (items : List α) (a : α) :
    groupBy key (items ++ [a]) = appendTo (key a) a (groupBy key items) := by
  simp [groupBy]

theorem grouped_groupBy (key : α → κ) (items : List α) : Grouped key items (groupBy key items) := by
  induction items using List.reverseRecOn with
  | nil => exact ⟨nodup_nil, by simp [groupBy], by simp⟩
  | append_singleton items a ih =>
    rw [groupBy_append]
    exact ih.appendTo a

theorem flatMap_appendTo (k : κ) (a : α) (groups : List (κ × List α)) :
    ((appendTo k a groups).flatMap Prod.snd).Perm (groups.flatMap Prod.snd ++ [a]) := by
  induction groups with
  | nil => simp [appendTo]
  | cons group groups ih =>
    unfold appendTo
    split
    · simp only [flatMap_cons, append_assoc]
      exact (perm_append_comm).append_left _
    · simp only [flatMap_cons, append_assoc]
      exact ih.append_left _

/-- The groups share out the items. -/
theorem flatMap_groupBy (key : α → κ) (items : List α) :
    ((groupBy key items).flatMap Prod.snd).Perm items := by
  induction items using List.reverseRecOn with
  | nil => simp [groupBy]
  | append_singleton items a ih =>
    rw [groupBy_append]
    exact (flatMap_appendTo _ _ _).trans (ih.append_right _)

end Groups

end BlogOps.InsertionDicts
