import Mathlib.Algebra.BigOperators.Group.List.Basic
import Mathlib.Algebra.Order.BigOperators.Group.List
import Mathlib.Algebra.Order.Ring.Int
import Mathlib.Data.List.Forall2
import Mathlib.Data.List.Nodup

/-!
# Tables of keyed rows

A table is a list of rows with a key.  Rewriting the row of one key, appending
a row, and the totals and counts of a table under both.
-/

namespace BlogOps.KeyedTables

variable {α β κ : Type*}

def Keyed (key : α → κ) (rows : List α) : Prop := (rows.map key).Nodup

def updateRow [DecidableEq κ] (key : α → κ) (k : κ) (f : α → α) (rows : List α) : List α :=
  rows.map fun row => if key row = k then f row else row

variable (f : α → Int)

def total (rows : List α) : Int := (rows.map f).sum

variable (p : α → Bool)

/-- The total of `f` over the rows that `p` selects. -/
def totalWhere (f : α → Int) (rows : List α) : Int := total (fun row => if p row then f row else 0) rows

@[simp] theorem total_nil : total f [] = 0 := rfl

@[simp] theorem total_cons (row : α) (rows : List α) : total f (row :: rows) = f row + total f rows := by
  simp [total]

@[simp] theorem total_append (rows more : List α) : total f (rows ++ more) = total f rows + total f more := by
  simp [total]

@[simp] theorem totalWhere_nil (f : α → Int) : totalWhere p f [] = 0 := rfl

@[simp] theorem totalWhere_cons (f : α → Int) (row : α) (rows : List α) :
    totalWhere p f (row :: rows) = (if p row then f row else 0) + totalWhere p f rows := by
  simp [totalWhere]

@[simp] theorem totalWhere_append (f : α → Int) (rows more : List α) :
    totalWhere p f (rows ++ more) = totalWhere p f rows + totalWhere p f more := by
  simp [totalWhere]

theorem total_congr {f g : α → Int} {rows : List α} (h : ∀ row ∈ rows, f row = g row) :
    total f rows = total g rows := by
  unfold total
  rw [List.map_congr_left h]

variable {p : α → Bool} {row : α} {g : α → β}

theorem totalWhere_congr {q : α → Bool} {f : α → Int} {rows : List α}
    (h : ∀ row ∈ rows, p row = q row) : totalWhere p f rows = totalWhere q f rows :=
  total_congr fun row hrow => by rw [h row hrow]

theorem total_perm {rows more : List α} (h : rows.Perm more) : total f rows = total f more :=
  (h.map f).sum_eq

section

variable {f : α → Int} {rows : List α} (h : ∀ row ∈ rows, 0 ≤ f row)

include h

theorem total_nonneg : 0 ≤ total f rows := by
  induction rows with
  | nil => simp
  | cons row rows ih =>
    have hrow := h row List.mem_cons_self
    have hrows := ih fun other hother => h other (List.mem_cons_of_mem _ hother)
    rw [total_cons]
    omega

theorem le_total_of_mem (hrow : row ∈ rows) : f row ≤ total f rows := by
  refine List.single_le_sum ?_ _ (List.mem_map_of_mem hrow)
  intro amount hamount
  obtain ⟨other, hother, rfl⟩ := List.mem_map.mp hamount
  exact h other hother

theorem totalWhere_nonneg : 0 ≤ totalWhere p f rows := by
  refine total_nonneg fun row hrow => ?_
  split
  · exact h row hrow
  · exact le_rfl

end

theorem totalWhere_filter (p : α → Bool) (f : α → Int) (rows : List α) :
    total f (rows.filter p) = totalWhere p f rows := by
  induction rows with
  | nil => rfl
  | cons row rows ih =>
    by_cases hp : p row = true
    · rw [List.filter_cons_of_pos hp, total_cons, totalWhere_cons, ih, if_pos hp]
    · rw [List.filter_cons_of_neg hp, totalWhere_cons, ih, if_neg hp, zero_add]

theorem totalWhere_eq_zero {f : α → Int} {rows : List α} (h : ∀ row ∈ rows, p row = false) :
    totalWhere p f rows = 0 := by
  rw [← totalWhere_filter, List.filter_eq_nil_iff.mpr]
  · rfl
  · intro row hrow
    simp [h row hrow]

theorem total_add (g : α → Int) (rows : List α) :
    total (fun row => f row + g row) rows = total f rows + total g rows := by
  induction rows with
  | nil => rfl
  | cons row rows ih =>
    simp only [total_cons, ih]
    omega

theorem totalWhere_filter_and (p q : α → Bool) (f : α → Int) (rows : List α) :
    totalWhere p f (rows.filter q) = totalWhere (fun row => p row && q row) f rows := by
  rw [← totalWhere_filter, List.filter_filter, totalWhere_filter]

/-- Rows that leave a selection take their amounts with them. -/
theorem totalWhere_diff {q r : α → Bool} {f : α → Int} {rows : List α}
    (h : ∀ row ∈ rows, p row = (q row && !r row)) (hsub : ∀ row ∈ rows, r row = true → q row = true) :
    totalWhere p f rows = totalWhere q f rows - totalWhere r f rows := by
  induction rows with
  | nil => rfl
  | cons row rows ih =>
    have hrow := h row List.mem_cons_self
    have hin := hsub row List.mem_cons_self
    have htail := ih (fun other hother => h other (List.mem_cons_of_mem _ hother))
      (fun other hother => hsub other (List.mem_cons_of_mem _ hother))
    simp only [totalWhere_cons, htail, hrow]
    by_cases hr : r row = true
    · simp only [hin hr, hr, Bool.not_true, Bool.and_false, if_true, Bool.false_eq_true, if_false]
      omega
    · rw [Bool.not_eq_true] at hr
      simp only [hr, Bool.not_false, Bool.and_true, Bool.false_eq_true, if_false]
      omega

/-- A total only sees a row through what its selection and its amount read of it. -/
theorem totalWhere_of_map_eq {p : β → Bool} {f : β → Int} {rows more : List α}
    (h : rows.map g = more.map g) : totalWhere (fun row => p (g row)) (fun row => f (g row)) rows =
      totalWhere (fun row => p (g row)) (fun row => f (g row)) more := by
  have hmap (xs : List α) : totalWhere (fun row => p (g row)) (fun row => f (g row)) xs =
      totalWhere p f (xs.map g) := by
    simp [totalWhere, total, Function.comp_def]
  rw [hmap, hmap, h]

section

variable {key : α → κ} {rows : List α}

theorem Keyed.cons_iff :
    Keyed key (row :: rows) ↔ (∀ other ∈ rows, key other ≠ key row) ∧ Keyed key rows := by
  simp [Keyed, List.nodup_cons]

section

variable (h : Keyed key rows)

include h

theorem Keyed.append_row (hnew : ∀ other ∈ rows, key other ≠ key row) : Keyed key (rows ++ [row]) := by
  unfold Keyed at *
  rw [List.map_append, List.nodup_append]
  refine ⟨h, by simp, ?_⟩
  intro a ha b hb
  obtain ⟨other, hother, rfl⟩ := List.mem_map.mp ha
  rw [List.map_cons, List.map_nil, List.mem_singleton] at hb
  rw [hb]
  exact hnew other hother

theorem Keyed.eq_of_key_eq {a b : α} (ha : a ∈ rows) (hb : b ∈ rows) (heq : key a = key b) : a = b :=
  List.inj_on_of_nodup_map h ha hb heq

theorem Keyed.find?_eq [DecidableEq κ] (hrow : row ∈ rows) : rows.find? (key · = key row) = some row := by
  cases hfind : rows.find? (key · = key row) with
  | none =>
    rw [List.find?_eq_none] at hfind
    exact absurd (decide_eq_true rfl) (hfind row hrow)
  | some found =>
    have hkey : key found = key row := by simpa using List.find?_some hfind
    rw [h.eq_of_key_eq (List.mem_of_find?_eq_some hfind) hrow hkey]

/-- A key names one place of the table. -/
theorem Keyed.index_eq {i j : Nat} {a b : α} (ha : rows[i]? = some a) (hb : rows[j]? = some b)
    (heq : key a = key b) : i = j := by
  have hlt : i < rows.length := (List.getElem?_eq_some_iff.mp ha).1
  refine (List.getElem?_inj (by rwa [List.length_map]) h).mp ?_
  rw [List.getElem?_map, List.getElem?_map, ha, hb, Option.map_some, Option.map_some, heq]

end

theorem Keyed.sublist {more : List α} (h : Keyed key more) (hsub : rows.Sublist more) : Keyed key rows :=
  List.Nodup.sublist (hsub.map key) h

theorem Keyed.perm {more : List α} (h : Keyed key more) (hperm : rows.Perm more) : Keyed key rows :=
  (hperm.map key).nodup_iff.mpr h

/-- A row and the rows of the other keys make up the table. -/
theorem Keyed.perm_cons_filter [DecidableEq κ] (h : Keyed key rows) (hrow : row ∈ rows) :
    rows.Perm (row :: rows.filter fun other => key other ≠ key row) := by
  induction rows with
  | nil => simp at hrow
  | cons head rows ih =>
    obtain ⟨hhead, hrows⟩ := Keyed.cons_iff.mp h
    rcases List.mem_cons.mp hrow with rfl | hmem
    · have hall : rows.filter (fun other => key other ≠ key row) = rows :=
        List.filter_eq_self.mpr fun other hother => decide_eq_true (hhead other hother)
      rw [List.filter_cons_of_neg (by simp), hall]
    · have hne : key head ≠ key row := (hhead row hmem).symm
      rw [List.filter_cons_of_pos (by simp [hne])]
      exact ((ih hrows hmem).cons head).trans (.swap ..)

end

section Update

variable [DecidableEq κ] {key : α → κ} {k : κ} {f : α → α}

@[simp] theorem updateRow_nil : updateRow key k f [] = [] := rfl

theorem map_updateRow (hg : ∀ row, key row = k → g (f row) = g row) (rows : List α) :
    (updateRow key k f rows).map g = rows.map g := by
  unfold updateRow
  rw [List.map_map]
  refine List.map_congr_left fun row _ => ?_
  simp only [Function.comp_apply]
  split
  · exact hg row ‹_›
  · rfl

section

variable {rows : List α}

theorem Keyed.map_updateRow (h : Keyed key rows) (hrow : row ∈ rows) (hk : key row = k)
    (hg : g (f row) = g row) : (updateRow key k f rows).map g = rows.map g := by
  unfold KeyedTables.updateRow
  rw [List.map_map]
  refine List.map_congr_left fun other hother => ?_
  simp only [Function.comp_apply]
  split
  · rw [h.eq_of_key_eq hother hrow (Eq.trans ‹_› hk.symm), hg]
  · rfl

theorem Keyed.updateRow {name : α → β} (h : Keyed name rows)
    (hname : ∀ row, key row = k → name (f row) = name row) : Keyed name (updateRow key k f rows) := by
  unfold Keyed at *
  rwa [KeyedTables.map_updateRow hname]

theorem mem_updateRow (h : row ∈ updateRow key k f rows) :
    ∃ old ∈ rows, (key old = k ∧ row = f old) ∨ (key old ≠ k ∧ row = old) := by
  obtain ⟨old, hold, rfl⟩ := List.mem_map.mp h
  refine ⟨old, hold, ?_⟩
  by_cases hk : key old = k
  · exact .inl ⟨hk, if_pos hk⟩
  · exact .inr ⟨hk, if_neg hk⟩

theorem Keyed.mem_updateRow (h : Keyed key rows) {other : α} (hrow : row ∈ rows)
    (hother : other ∈ KeyedTables.updateRow key (key row) f rows) :
    other = f row ∨ (other ∈ rows ∧ key other ≠ key row) := by
  obtain ⟨old, hold, ⟨hkey, rfl⟩ | ⟨hkey, rfl⟩⟩ := KeyedTables.mem_updateRow hother
  · exact .inl (congrArg f (h.eq_of_key_eq hold hrow hkey))
  · exact .inr ⟨hold, hkey⟩

theorem mem_updateRow_of_mem (h : row ∈ rows) (hk : key row = k) : f row ∈ updateRow key k f rows :=
  List.mem_map.mpr ⟨row, h, if_pos hk⟩

theorem mem_updateRow_of_ne (h : row ∈ rows) (hk : key row ≠ k) : row ∈ updateRow key k f rows :=
  List.mem_map.mpr ⟨row, h, if_neg hk⟩

theorem updateRow_of_forall_ne (h : ∀ row ∈ rows, key row ≠ k) : updateRow key k f rows = rows := by
  unfold updateRow
  conv_rhs => rw [← List.map_id rows]
  exact List.map_congr_left fun row hrow => if_neg (h row hrow)

end

/-- The rows of the other keys are as they were. -/
theorem filter_updateRow (hkey : ∀ row, key row = k → key (f row) = k) (rows : List α) :
    (updateRow key k f rows).filter (fun row => key row ≠ k) =
      rows.filter fun row => key row ≠ k := by
  induction rows with
  | nil => rfl
  | cons head rows ih =>
    rw [updateRow, List.map_cons]
    by_cases hk : key head = k
    · rw [if_pos hk, List.filter_cons_of_neg (by simp [hkey head hk]),
        List.filter_cons_of_neg (by simp [hk])]
      exact ih
    · rw [if_neg hk, List.filter_cons_of_pos (by simp [hk]),
        List.filter_cons_of_pos (by simp [hk])]
      exact congrArg (head :: ·) ih

/-- The rewritten row and the rows of the other keys make up the new table. -/
theorem Keyed.perm_updateRow {rows : List α} (h : Keyed key rows) (hrow : row ∈ rows) (hk : key row = k)
    (hkey : ∀ row, key row = k → key (f row) = k) : (KeyedTables.updateRow key k f rows).Perm
      (f row :: rows.filter fun other => key other ≠ k) := by
  have hkeyed : Keyed key (KeyedTables.updateRow key k f rows) :=
    h.updateRow fun other hother => (hkey other hother).trans hother.symm
  have hperm := hkeyed.perm_cons_filter (mem_updateRow_of_mem (f := f) hrow hk)
  rw [hkey row hk, filter_updateRow hkey] at hperm
  exact hperm

theorem find?_updateRow (hkey : ∀ row, key row = k → key (f row) = key row) (c : κ)
    (rows : List α) : (updateRow key k f rows).find? (key · = c) =
      (rows.find? (key · = c)).map fun row => if key row = k then f row else row := by
  unfold updateRow
  rw [List.find?_map]
  congr 2
  funext row
  simp only [Function.comp_apply]
  split
  · rw [hkey row ‹_›]
  · rfl

theorem total_updateRow {rows : List α} (h : Keyed key rows) (hrow : row ∈ rows) (hk : key row = k)
    (g : α → Int) : total g (updateRow key k f rows) = total g rows - g row + g (f row) := by
  induction rows with
  | nil => simp at hrow
  | cons head rows ih =>
    obtain ⟨hhead, hrows⟩ := Keyed.cons_iff.mp h
    rcases List.mem_cons.mp hrow with rfl | hmem
    · have hrest : updateRow key k f rows = rows :=
        updateRow_of_forall_ne fun other hother => hk ▸ hhead other hother
      have hcons : updateRow key k f (row :: rows) = f row :: updateRow key k f rows := by
        simp [updateRow, hk]
      rw [hcons, hrest, total_cons, total_cons]
      omega
    · have hne : key head ≠ k := fun heq => hhead row hmem (by rw [hk, heq])
      have hcons : updateRow key k f (head :: rows) = head :: updateRow key k f rows := by
        simp [updateRow, hne]
      rw [hcons, total_cons, total_cons, ih hrows hmem]
      omega

end Update

section Links

variable [DecidableEq κ]

/-- Summing the linked rows of each row of a keyed table counts every linked row once. -/
theorem total_links {key : α → κ} {link : β → κ} {rows : List α} (h : Keyed key rows)
    (f : β → Int) (xs : List β) (hlink : ∀ x ∈ xs, ∃ row ∈ rows, key row = link x) :
    total (fun row => totalWhere (fun x => link x = key row) f xs) rows = total f xs := by
  have hone : ∀ x ∈ xs, total (fun row => if link x = key row then f x else 0) rows = f x := by
    intro x hx
    obtain ⟨row, hrow, hkey⟩ := hlink x hx
    clear hlink
    induction rows with
    | nil => simp at hrow
    | cons head rows ih =>
      obtain ⟨hhead, hrows⟩ := Keyed.cons_iff.mp h
      rw [total_cons]
      rcases List.mem_cons.mp hrow with rfl | hmem
      · have hzero : total (fun row => if link x = key row then f x else 0) rows = 0 := by
          rw [total_congr (g := fun _ => 0)]
          · simp [total]
          · intro other hother
            exact if_neg fun heq => hhead other hother (by rw [hkey, heq])
        rw [hzero, if_pos hkey.symm, add_zero]
      · rw [ih hrows hmem, if_neg, zero_add]
        exact fun heq => hhead row hmem (by rw [hkey, heq])
  clear hlink
  induction xs with
  | nil => simp [total]
  | cons x xs ih =>
    have hhead := hone x List.mem_cons_self
    have htail := ih fun y hy => hone y (List.mem_cons_of_mem _ hy)
    simp only [totalWhere_cons, decide_eq_true_eq]
    rw [total_add, hhead, htail, total_cons]

end Links

section Rewritten

variable {R : α → β → Prop} {rows : List α} {more : List β}

section

variable (h : List.Forall₂ R rows more)

include h

theorem exists_row_before {row : β} (hrow : row ∈ more) : ∃ before ∈ rows, R before row := by
  induction h with
  | nil => cases hrow
  | cons hab _ ih =>
    rcases List.mem_cons.mp hrow with rfl | hrest
    · exact ⟨_, List.mem_cons_self, hab⟩
    · obtain ⟨before, hbefore, hr⟩ := ih hrest
      exact ⟨before, List.mem_cons_of_mem _ hbefore, hr⟩

theorem exists_row_after (hrow : row ∈ rows) : ∃ after ∈ more, R row after := by
  induction h with
  | nil => cases hrow
  | cons hab _ ih =>
    rcases List.mem_cons.mp hrow with rfl | hrest
    · exact ⟨_, List.mem_cons_self, hab⟩
    · obtain ⟨after, hafter, hr⟩ := ih hrest
      exact ⟨after, List.mem_cons_of_mem _ hafter, hr⟩

/-- What no row changes is the same in both tables. -/
theorem map_eq_of_rewritten {γ : Type*} {f : α → γ} {g : β → γ}
    (hr : ∀ row after, R row after → g after = f row) : more.map g = rows.map f := by
  induction h with
  | nil => rfl
  | cons hab _ ih => rw [List.map_cons, List.map_cons, hr _ _ hab, ih]

end

end Rewritten

end BlogOps.KeyedTables
