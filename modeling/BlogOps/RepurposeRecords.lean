import BlogOps.RepurposeJobs
import Mathlib.Algebra.Order.Ring.Rat

/-!
# What a delivery records of a repurposing job

The variants of an item are numbered from one without a gap, also where the
executor raised between two of them, and an item has succeeded exactly when all
of its variants are there.
-/

namespace BlogOps.RepurposeJobs

open Billing EffectRules Jobs KeyedTables TransitionRuns ResultHashes List

theorem itemVariants_append (itemId : Uuid) (variants more : List RepurposeVariant) :
    itemVariants itemId (variants ++ more) =
      itemVariants itemId variants ++ itemVariants itemId more := by
  apply filter_append

variable {row : RepurposeVariant} {α : Type}

theorem itemVariants_add_self {itemId : Uuid} (variants : List RepurposeVariant)
    (h : row.jobItemId = itemId) :
    itemVariants itemId (variants ++ [row]) = itemVariants itemId variants ++ [row] := by
  rw [itemVariants_append]
  simp [itemVariants, h]

theorem itemVariants_add_other {itemId : Uuid} (variants : List RepurposeVariant)
    (h : row.jobItemId ≠ itemId) :
    itemVariants itemId (variants ++ [row]) = itemVariants itemId variants := by
  rw [itemVariants_append]
  simp [itemVariants, h]

/-- The variants of an item are numbered from one, in the order they were recorded. -/
def Numbered (itemId : Uuid) (variants : List RepurposeVariant) : Prop :=
  (itemVariants itemId variants).map (·.variantNo) = List.range' 1 (itemVariants itemId variants).length

section Numbered

variable {variants : List RepurposeVariant} {itemId : Uuid} {variantNo : Nat}

section

variable (h : Numbered itemId variants)

include h

theorem Numbered.keyed : Keyed (·.variantNo) (itemVariants itemId variants) := by
  unfold Keyed
  rw [show (itemVariants itemId variants).map (·.variantNo) = _ from h]
  exact nodup_range'

theorem Numbered.number_le (hrow : row ∈ itemVariants itemId variants) :
    1 ≤ row.variantNo ∧ row.variantNo ≤ (itemVariants itemId variants).length := by
  have hmem : row.variantNo ∈ (itemVariants itemId variants).map (·.variantNo) :=
    mem_map_of_mem hrow
  rw [show (itemVariants itemId variants).map (·.variantNo) = _ from h, mem_range'_1] at hmem
  omega

theorem Numbered.find?_none (hno : (itemVariants itemId variants).length < variantNo) :
    (itemVariants itemId variants).find? (·.variantNo = variantNo) = none := by
  rw [find?_eq_none]
  intro row hrow
  have hle := (h.number_le hrow).2
  simp only [decide_eq_true_eq]
  omega

theorem Numbered.find?_some (hpos : 1 ≤ variantNo) (hno : variantNo ≤ (itemVariants itemId variants).length) :
    ∃ row, (itemVariants itemId variants).find? (·.variantNo = variantNo) = some row := by
  have hmem : variantNo ∈ (itemVariants itemId variants).map (·.variantNo) := by
    rw [show (itemVariants itemId variants).map (·.variantNo) = _ from h, mem_range'_1]
    omega
  obtain ⟨row, hrow, hsame⟩ := mem_map.mp hmem
  rw [← hsame]
  exact ⟨row, h.keyed.find?_eq hrow⟩

end

end Numbered

/-- An item with its variants: it has succeeded when all of them are there. -/
structure ItemSound (variants : List RepurposeVariant) (item : RepurposeJobItem) : Prop where
  numbers : Numbered item.id variants
  within : (itemVariants item.id variants).length ≤ item.variantCount
  complete : item.state = .succeeded ↔ (itemVariants item.id variants).length = item.variantCount

/-- What is known of an item depends on its own variants. -/
theorem ItemSound.congr {variants more : List RepurposeVariant} {item : RepurposeJobItem}
    (h : ItemSound variants item) (hsame : itemVariants item.id more = itemVariants item.id variants) :
    ItemSound more item := by
  obtain ⟨hnumbers, hwithin, hcomplete⟩ := h
  unfold Numbered at hnumbers
  constructor
  · unfold Numbered
    rw [hsame]
    exact hnumbers
  · rw [hsame]
    exact hwithin
  · rw [hsame]
    exact hcomplete

/-- The items of a job and their variants. -/
structure SessionSound (s : RepurposeSession) : Prop where
  keyed : Keyed (·.id) s.items
  nonempty : s.items ≠ []
  counts : ∀ item ∈ s.items, 0 < item.variantCount
  items : ∀ item ∈ s.items, ItemSound s.variants item

theorem ofOption_ok {failure : Failure} {x : Option α} {a : α} (h : ofOption failure x = .ok a) :
    x = some a := by
  cases x with
  | none => cases h
  | some b => exact congrArg some (Except.ok.inj h)

@[simp] theorem ends_liftResult (x : Except Failure α) (s : RepurposeSession)
    (Q : Except Failure α → RepurposeSession → Prop) : Ends (liftResult x) s Q ↔ Q x s := by
  cases x <;> exact Iff.rfl

theorem liftResult_bind_ok {β : Type} {x : Except Failure α} {a : α} (h : x = .ok a)
    (f : α → RepurposeM β) (s : RepurposeSession) : (liftResult x >>= f) s = f a s := by
  rw [h]
  rfl

theorem chargeableCost_ok {job : RepurposeJob} {actual : OutputCost} {cost : ℚ}
    (h : chargeableCost job actual = .ok cost) :
    actual = .finite cost ∧ 0 ≤ cost ∧ job.actualCost + cost ≤ job.reservedCost := by
  cases actual with
  | finite value =>
    obtain ⟨_, hroom, rfl⟩ := map_ok h
    exact ⟨rfl, require_ok hroom⟩
  | infinite negative => cases h
  | nan => cases h

def recordedCost (variants : List RepurposeVariant) : ℚ := (variants.map (·.cost)).sum

/-- The columns of an item that no delivery writes. -/
def RepurposeJobItem.order (item : RepurposeJobItem) : Uuid × RepurposeInputSnapshot × Nat :=
  (item.id, item.snapshot, item.variantCount)

/-- Variants are added with their costs, and items succeed. -/
structure Extends (s t : RepurposeSession) : Prop where
  job : t.job = { s.job with actualCost := t.job.actualCost }
  variants : s.variants <+: t.variants
  cost : t.job.actualCost - recordedCost t.variants = s.job.actualCost - recordedCost s.variants
  room : s.job.actualCost ≤ s.job.reservedCost → t.job.actualCost ≤ t.job.reservedCost
  items : t.items.map RepurposeJobItem.order = s.items.map RepurposeJobItem.order
  commands : t.commands = s.commands
  books : t.books = s.books

instance : IsPreorder RepurposeSession Extends where
  refl _ := ⟨rfl, prefix_rfl, rfl, id, rfl, rfl, rfl⟩
  trans _ _ _ h h' := {
    job := by
      rw [h'.job, h.job]
    variants := h.variants.trans h'.variants
    cost := h'.cost.trans h.cost
    room := h'.room ∘ h.room
    items := h'.items.trans h.items
    commands := h'.commands.trans h.commands
    books := h'.books.trans h.books }

theorem extends_addVariant {item : RepurposeJobItem} {s : RepurposeSession}
    (hroom : s.job.actualCost + row.cost ≤ s.job.reservedCost) : Extends s (addVariant item row s) := by
  constructor
  · rfl
  · exact prefix_append _ _
  · simp only [addVariant, recordedCost, map_append, map_cons, map_nil,
      sum_append, sum_cons, sum_nil]
    ring
  · exact fun _ => hroom
  · unfold addVariant
    dsimp only
    split
    · apply map_updateRow
      exact fun _ _ => rfl
    · rfl
  · rfl
  · rfl

/-- The next variant of an item keeps the numbering, and the last one completes the item. -/
theorem SessionSound.addVariant {s : RepurposeSession} (h : SessionSound s) {item : RepurposeJobItem}
    (hitem : row.jobItemId = item.id) (hno : row.variantNo = (itemVariants item.id s.variants).length + 1)
    (hlt : (itemVariants item.id s.variants).length < item.variantCount)
    (hcount : ∀ current ∈ s.items, current.id = item.id → current.variantCount = item.variantCount) :
    SessionSound (addVariant item row s) := by
  have hself := itemVariants_add_self s.variants hitem
  have hnext : ∀ current ∈ s.items, current.id = item.id → ∀ state, (state = StepState.succeeded ↔
        (itemVariants item.id s.variants).length + 1 = item.variantCount) →
      ItemSound (s.variants ++ [row]) { current with state := state } := by
    intro current hcurrent hid state hstate
    have hsound := h.items current hcurrent
    have hcounts := hcount current hcurrent hid
    constructor
    · have hnumbers := hsound.numbers
      unfold Numbered at hnumbers ⊢
      rw [hid] at hnumbers
      simp only [hid, hself, map_append, map_cons, map_nil, length_append,
        length_cons, length_nil, hno]
      rw [hnumbers, List.range'_1_concat, Nat.add_comm 1]
    · simp only [hid, hself, length_append, length_cons, length_nil]
      omega
    · simp only [hid, hself, length_append, length_cons, length_nil, hcounts]
      exact hstate
  have hother : ∀ current ∈ s.items, current.id ≠ item.id →
      ItemSound (s.variants ++ [row]) current := by
    intro current hcurrent hid
    apply (h.items current hcurrent).congr
    apply itemVariants_add_other
    rw [hitem]
    exact fun hsame => hid hsame.symm
  unfold RepurposeJobs.addVariant
  rw [hself, length_append]
  split
  · rename_i hlast
    refine ⟨h.keyed.updateRow fun _ _ => rfl, ?_, ?_, ?_⟩
    · simpa [updateRow] using h.nonempty
    · intro current hcurrent
      obtain ⟨old, hold, ⟨-, rfl⟩ | ⟨-, rfl⟩⟩ := mem_updateRow hcurrent
      · exact h.counts old hold
      · exact h.counts current hold
    · intro current hcurrent
      obtain ⟨old, hold, ⟨hid, rfl⟩ | ⟨hid, rfl⟩⟩ := mem_updateRow hcurrent
      · apply hnext old hold hid
        simp only [length_cons, length_nil] at hlast
        simp only [true_iff]
        omega
      · exact hother current hold hid
  · rename_i hmore
    refine ⟨h.keyed, h.nonempty, h.counts, ?_⟩
    intro current hcurrent
    by_cases hid : current.id = item.id
    · apply hnext current hcurrent hid current.state
      have hcomplete := (h.items current hcurrent).complete
      rw [hid, hcount current hcurrent hid] at hcomplete
      simp only [length_cons, length_nil] at hmore
      rw [hcomplete]
      omega
    · exact hother current hcurrent hid

section Records

variable [ResultHashes]

/-- The ways through `record_variant`. -/
inductive Recording (item : RepurposeJobItem) (variantNo : Nat) (generated : GeneratedVariant)
    (s : RepurposeSession) : Except Failure Unit → RepurposeSession → Prop
  | repeated (row : RepurposeVariant) (hash : String)
      (hfind : (itemVariants item.id s.variants).find? (·.variantNo = variantNo) = some row)
      (hhash : resultHash item.snapshot generated = some hash) (hsame : row.resultHash = hash) :
      Recording item variantNo generated s (.ok ()) s
  | added (cost : ℚ) (hash : String)
      (hfind : (itemVariants item.id s.variants).find? (·.variantNo = variantNo) = none)
      (hno : 1 ≤ variantNo ∧ variantNo ≤ item.variantCount)
      (hcost : generated.actualCost = .finite cost) (hnonneg : 0 ≤ cost)
      (hroom : s.job.actualCost + cost ≤ s.job.reservedCost) :
      Recording item variantNo generated s (.ok ())
        (addVariant item (variantRow item variantNo generated cost hash) s)
  | refused (failure : Failure) : Recording item variantNo generated s (.error failure) s
  | broken (failure : Failure) :
      Recording item variantNo generated s (.error failure) { s with broken := true }

theorem checkOutput_number {job : RepurposeJob} {item : RepurposeJobItem} {variantNo : Nat}
    {generated : GeneratedVariant} (h : checkOutput job item variantNo generated = .ok ()) :
    1 ≤ variantNo ∧ variantNo ≤ item.variantCount := by
  obtain ⟨_, hno, -⟩ := bind_ok h
  exact require_ok hno

theorem recording (d : RepurposeDelivery) (item : RepurposeJobItem) (variantNo : Nat)
    (generated : GeneratedVariant) (s : RepurposeSession) :
    Ends (recordVariant d item variantNo generated) s (Recording item variantNo generated s) := by
  unfold recordVariant
  rw [ends_bind, ends_get, continues_ok, ends_bind, ends_liftResult]
  cases hcheck : checkOutput s.job item variantNo generated with
  | error failure => exact .refused failure
  | ok u =>
    rw [continues_ok, ends_bind, ends_liftResult]
    cases hhash : ofOption .validationError (resultHash item.snapshot generated) with
    | error failure => exact .refused failure
    | ok hash =>
      rw [continues_ok]
      split
      · rename_i row hfind
        rw [ends_liftResult]
        by_cases hsame : row.resultHash = hash
        · rw [require_of hsame]
          exact .repeated row hash hfind (ofOption_ok hhash) hsame
        · rw [require, if_neg hsame]
          exact .refused variantConflict
      · rename_i hfind
        rw [ends_bind, ends_liftResult]
        cases hcost : chargeableCost s.job generated.actualCost with
        | error failure => exact .refused failure
        | ok cost =>
          obtain ⟨hfinite, hnonneg, hroom⟩ := chargeableCost_ok hcost
          rw [continues_ok]
          unfold insertVariant
          split
          · rw [ends_modify]
            exact .added cost hash hfind (checkOutput_number hcheck) hfinite hnonneg hroom
          · rw [ends_bind, ends_modify, continues_ok, ends_throw]
            exact .broken _

/-- What the loop over the outputs of an item leaves of a session. -/
structure ItemRun (item : RepurposeJobItem) (s t : RepurposeSession) : Prop where
  kept : Extends s t
  sound : SessionSound t
  others : ∀ itemId, itemId ≠ item.id → itemVariants itemId t.variants = itemVariants itemId s.variants

/-- The item belongs to the job. -/
def Listed (s : RepurposeSession) (item : RepurposeJobItem) : Prop :=
  item.order ∈ s.items.map RepurposeJobItem.order

section Loops

variable {s t u : RepurposeSession} {item : RepurposeJobItem}

omit [ResultHashes] in
theorem ItemRun.refl (h : SessionSound s) : ItemRun item s s := ⟨refl_of Extends s, h, fun _ _ => rfl⟩

omit [ResultHashes] in
theorem ItemRun.trans (h : ItemRun item s t) (h' : ItemRun item t u) : ItemRun item s u :=
  ⟨trans_of Extends h.kept h'.kept, h'.sound,
    fun itemId hother => (h'.others itemId hother).trans (h.others itemId hother)⟩

omit [ResultHashes] in
theorem ItemRun.broken (h : SessionSound s) : ItemRun item s { s with broken := true } :=
  ⟨⟨rfl, prefix_rfl, rfl, id, rfl, rfl, rfl⟩, ⟨h.keyed, h.nonempty, h.counts, h.items⟩, fun _ _ => rfl⟩

omit [ResultHashes] in
theorem Listed.kept (h : Listed s item) (hkept : Extends s t) : Listed t item := by
  unfold Listed
  rw [hkept.items]
  exact h

omit [ResultHashes] in
/-- The row of a listed item, which only its state tells from it. -/
theorem Listed.current (h : Listed s item) (hsound : SessionSound s) :
    Numbered item.id s.variants ∧ (itemVariants item.id s.variants).length ≤ item.variantCount ∧
      ∀ current ∈ s.items, current.id = item.id → current.variantCount = item.variantCount := by
  obtain ⟨row, hrow, hsame⟩ := mem_map.mp h
  simp only [RepurposeJobItem.order, Prod.mk.injEq] at hsame
  obtain ⟨hid, -, hcount⟩ := hsame
  obtain ⟨hnumbers, hwithin, -⟩ := hsound.items row hrow
  rw [hid] at hnumbers hwithin
  rw [hcount] at hwithin
  refine ⟨hnumbers, hwithin, fun current hcurrent hcurrentId => ?_⟩
  rw [hsound.keyed.eq_of_key_eq hcurrent hrow (hcurrentId.trans hid.symm)]
  exact hcount

/-- The loop completes the item when it returns, and leaves it incomplete when it raises. -/
theorem recordVariants_ends (d : RepurposeDelivery) {outputs : List GeneratedVariant}
    {variantNo : Nat} (hsound : SessionSound s) (hlisted : Listed s item) (hpos : 1 ≤ variantNo)
    (hnext : variantNo ≤ (itemVariants item.id s.variants).length + 1)
    (hopen : (itemVariants item.id s.variants).length < item.variantCount ∨
      variantNo = (itemVariants item.id s.variants).length + 1)
    (hlength : variantNo + outputs.length = item.variantCount + 1) :
    Ends (recordVariants d item variantNo outputs) s fun r t => ItemRun item s t ∧
      (r = .ok () → (itemVariants item.id t.variants).length = item.variantCount) ∧
      ∀ e, r = .error e → (itemVariants item.id t.variants).length < item.variantCount := by
  induction outputs generalizing variantNo s with
  | nil =>
    obtain ⟨-, hwithin, -⟩ := hlisted.current hsound
    unfold recordVariants
    rw [ends_pure]
    refine ⟨.refl hsound, fun _ => ?_, fun _ he => by cases he⟩
    simp only [length_nil] at hlength
    omega
  | cons generated rest ih =>
    obtain ⟨hnumbers, hwithin, hcounts⟩ := hlisted.current hsound
    simp only [length_cons] at hlength
    unfold recordVariants
    rw [ends_bind]
    refine (recording d item variantNo generated s).mono fun r t hrecording => ?_
    cases hrecording with
    | repeated row hash hfind hhash hsame =>
      have hrow := mem_of_find?_eq_some hfind
      have hnumber : row.variantNo = variantNo := by simpa using List.find?_some hfind
      have hle := (hnumbers.number_le hrow).2
      rw [continues_ok]
      apply ih hsound hlisted
      · omega
      · omega
      · omega
      · omega
    | added cost hash hfind hno hcost hnonneg hroom =>
      have hfresh : (itemVariants item.id s.variants).length < variantNo := by
        by_contra hle
        obtain ⟨row, hsome⟩ := hnumbers.find?_some hpos (not_lt.mp hle)
        rw [hfind] at hsome
        cases hsome
      set row := variantRow item variantNo generated cost hash with hrow
      have hstep : ItemRun item s (addVariant item row s) := by
        refine ⟨extends_addVariant hroom, ?_, ?_⟩
        · apply hsound.addVariant rfl _ _ hcounts
          · show variantNo = _
            omega
          · omega
        · intro itemId hother
          exact itemVariants_add_other s.variants fun hsame => hother hsame.symm
      have hrowItem : row.jobItemId = item.id := rfl
      have hself : (itemVariants item.id (addVariant item row s).variants).length =
          (itemVariants item.id s.variants).length + 1 := by
        show (itemVariants item.id (s.variants ++ [row])).length = _
        rw [itemVariants_add_self s.variants hrowItem, length_append]
        rfl
      rw [continues_ok]
      refine Ends.mono (ih hstep.sound (hlisted.kept hstep.kept) ?_ ?_ ?_ ?_) fun r t h => ?_
      · omega
      · omega
      · omega
      · omega
      · exact ⟨hstep.trans h.1, h.2⟩
    | refused failure =>
      rw [continues_error]
      refine ⟨.refl hsound, (fun hok => by cases hok), fun _ _ => ?_⟩
      omega
    | broken failure =>
      rw [continues_error]
      refine ⟨.broken hsound, (fun hok => by cases hok), fun _ _ => ?_⟩
      show (itemVariants item.id s.variants).length < _
      omega

section

variable (d : RepurposeDelivery)
    (generate : RepurposeJobItem → Except Failure (List GeneratedVariant)) (hsound : SessionSound s)

include hsound

theorem executeItem_ends (hlisted : Listed s item) (hitem : ItemSound s.variants item) :
    Ends (executeItem d generate item) s fun r t => ItemRun item s t ∧
      (r = .ok () → (itemVariants item.id t.variants).length = item.variantCount) ∧
      ∀ e, r = .error e → (itemVariants item.id t.variants).length < item.variantCount := by
  have hwithin := hitem.within
  unfold executeItem
  by_cases hdone : item.state = .succeeded
  · rw [if_pos hdone, ends_pure]
    refine ⟨.refl hsound, fun _ => hitem.complete.mp hdone, fun _ he => by cases he⟩
  have hopen : (itemVariants item.id s.variants).length < item.variantCount := by
    apply lt_of_le_of_ne hwithin
    exact fun hall => hdone (hitem.complete.mpr hall)
  rw [if_neg hdone, ends_bind, ends_get, continues_ok, ends_bind, ends_liftResult]
  cases hkey : require ("model_config" ∈ s.job.requestKeys) .keyError with
  | error failure =>
    rw [continues_error]
    exact ⟨.refl hsound, (fun hok => by cases hok), fun _ _ => hopen⟩
  | ok u =>
    rw [continues_ok, ends_bind, ends_liftResult]
    cases houtputs : requestedOutputs generate item with
    | error failure =>
      rw [continues_error]
      exact ⟨.refl hsound, (fun hok => by cases hok), fun _ _ => hopen⟩
    | ok outputs =>
      obtain ⟨_, -, houtputs⟩ := bind_ok houtputs
      obtain ⟨_, hcount, houtputs⟩ := bind_ok houtputs
      have hcount := require_ok hcount
      cases houtputs
      rw [continues_ok]
      apply recordVariants_ends d hsound hlisted le_rfl
      · omega
      · exact .inl hopen
      · omega

/-- The loop over the items returns exactly when every item it ran over is complete. -/
theorem executeItems_ends {items : List RepurposeJobItem} (hkeyed : Keyed (·.id) items)
    (hitems : ∀ item ∈ items, Listed s item ∧ ItemSound s.variants item) :
    Ends (executeItems d generate items) s fun r t => Extends s t ∧ SessionSound t ∧
      (∀ itemId, itemId ∉ items.map (·.id) →
        itemVariants itemId t.variants = itemVariants itemId s.variants) ∧
      (r = .ok () → ∀ item ∈ items, (itemVariants item.id t.variants).length = item.variantCount) ∧
      ∀ e, r = .error e → ∃ item ∈ items,
        (itemVariants item.id t.variants).length < item.variantCount := by
  induction items generalizing s with
  | nil =>
    unfold executeItems
    rw [ends_pure]
    exact ⟨refl_of Extends s, hsound, fun _ _ => rfl, fun _ _ hitem => by simp at hitem,
      fun _ he => by cases he⟩
  | cons item rest ih =>
    obtain ⟨hfresh, hrest⟩ := Keyed.cons_iff.mp hkeyed
    obtain ⟨hlisted, hitem⟩ := hitems item mem_cons_self
    unfold executeItems
    rw [ends_bind]
    refine (executeItem_ends d generate hsound hlisted hitem).mono fun r t h => ?_
    obtain ⟨hrun, hok, herror⟩ := h
    cases r with
    | error failure =>
      rw [continues_error]
      refine ⟨hrun.kept, hrun.sound, fun itemId hother => ?_, (fun h => by cases h), fun e _ => ?_⟩
      · apply hrun.others
        exact fun hsame => hother (by simp [hsame])
      · exact ⟨item, mem_cons_self, herror failure rfl⟩
    | ok u =>
      rw [continues_ok]
      refine (ih hrun.sound hrest fun other hother => ?_).mono fun r u h => ?_
      · obtain ⟨hotherListed, hotherSound⟩ := hitems other (mem_cons_of_mem _ hother)
        exact ⟨hotherListed.kept hrun.kept, hotherSound.congr (hrun.others other.id (hfresh other hother))⟩
      · obtain ⟨hkept, hfinal, hothers, hdone, hleft⟩ := h
        have hself : itemVariants item.id u.variants = itemVariants item.id t.variants := by
          apply hothers
          intro hmem
          obtain ⟨other, hother, hsame⟩ := mem_map.mp hmem
          exact hfresh other hother hsame
        refine ⟨trans_of Extends hrun.kept hkept, hfinal, fun itemId hother => ?_,
          fun hr other hother => ?_, fun e he => ?_⟩
        · simp only [map_cons, mem_cons, not_or] at hother
          exact (hothers itemId hother.2).trans (hrun.others itemId hother.1)
        · rcases mem_cons.mp hother with rfl | hother
          · rw [hself]
            exact hok rfl
          · exact hdone hr other hother
        · obtain ⟨other, hother, hless⟩ := hleft e he
          exact ⟨other, mem_cons_of_mem _ hother, hless⟩

end

end Loops

section Executor

variable {s t : RepurposeSession}

omit [ResultHashes] in
theorem allSucceeded_iff (h : SessionSound s) : allSucceeded s.items = true ↔
    ∀ item ∈ s.items, (itemVariants item.id s.variants).length = item.variantCount := by
  have hnonempty : s.items.isEmpty = false := by simpa using h.nonempty
  simp only [allSucceeded, hnonempty, Bool.not_false, Bool.true_and, all_eq_true, decide_eq_true_eq]
  exact forall₂_congr fun item hitem => (h.items item hitem).complete

omit [ResultHashes] in
theorem listed_of_mem {item : RepurposeJobItem} (h : item ∈ s.items) : Listed s item :=
  mem_map_of_mem h

omit [ResultHashes] in
/-- The items are the same ones throughout. -/
theorem Extends.complete_iff (h : Extends s t) :
    (∀ item ∈ t.items, (itemVariants item.id t.variants).length = item.variantCount) ↔
      ∀ item ∈ s.items, (itemVariants item.id t.variants).length = item.variantCount := by
  have hcomplete : ∀ {items more : List RepurposeJobItem},
      items.map RepurposeJobItem.order = more.map RepurposeJobItem.order →
      (∀ item ∈ items, (itemVariants item.id t.variants).length = item.variantCount) →
      ∀ item ∈ more, (itemVariants item.id t.variants).length = item.variantCount := by
    intro items more hsame hall item hitem
    have hmem : item.order ∈ items.map RepurposeJobItem.order := by
      rw [hsame]
      exact mem_map_of_mem hitem
    obtain ⟨other, hother, horder⟩ := mem_map.mp hmem
    simp only [RepurposeJobItem.order, Prod.mk.injEq] at horder
    have hotherComplete := hall other hother
    rw [horder.1, horder.2.2] at hotherComplete
    exact hotherComplete
  exact ⟨hcomplete h.items, hcomplete h.items.symm⟩

/-- The executor returns exactly when it leaves every item complete. -/
theorem execute_ends (d : RepurposeDelivery) (executor : RepurposeExecutor)
    (hsound : SessionSound s) (hopen : allSucceeded s.items = false) :
    Ends (execute d executor) s fun r t => Extends s t ∧ SessionSound t ∧
      (r = .ok () ↔ allSucceeded t.items = true) := by
  unfold execute
  rw [ends_bind, ends_get, continues_ok, ends_bind, ends_liftResult]
  cases hgenerate : ofOption runtimeUnavailable executor.generate with
  | error failure =>
    rw [continues_error]
    refine ⟨refl_of Extends s, hsound, iff_of_false (fun hok => by cases hok) ?_⟩
    simp [hopen]
  | ok generate =>
    rw [continues_ok]
    refine (executeItems_ends d generate hsound hsound.keyed fun item hitem =>
      ⟨listed_of_mem hitem, hsound.items item hitem⟩).mono fun r t h => ?_
    obtain ⟨hkept, hfinal, -, hok, herror⟩ := h
    refine ⟨hkept, hfinal, ?_⟩
    rw [allSucceeded_iff hfinal, hkept.complete_iff]
    constructor
    · exact hok
    · intro hall
      cases r with
      | ok u => rfl
      | error failure =>
        obtain ⟨item, hitem, hless⟩ := herror failure rfl
        exact absurd (hall item hitem) hless.ne

omit [ResultHashes] in
/-- A lifted result leaves the session as it is. -/
theorem liftResult_returns {x : Except Failure α} {a : α} (h : liftResult x s = .ok a t) :
    x = .ok a ∧ t = s := by
  cases x with
  | ok b =>
    cases h
    exact ⟨rfl, rfl⟩
  | error failure => cases h

variable {d : RepurposeDelivery}

/-- Only a flush that fails breaks the session, and it raises. -/
theorem recordVariants_usable {item : RepurposeJobItem} {outputs : List GeneratedVariant} {variantNo : Nat}
    (h : recordVariants d item variantNo outputs s = .ok () t) : t.broken = s.broken := by
  induction outputs generalizing variantNo s with
  | nil =>
    obtain ⟨-, rfl⟩ := of_pure_run_ok h
    rfl
  | cons generated rest ih =>
    obtain ⟨_, u, hrecord, hrest⟩ := of_bind_run_ok h
    have hbroken : u.broken = s.broken := by
      cases (recording d item variantNo generated s).of_ok hrecord with
      | repeated => rfl
      | added => rfl
    exact (ih hrest).trans hbroken

theorem executeItems_usable {generate : RepurposeJobItem → Except Failure (List GeneratedVariant)}
    {items : List RepurposeJobItem} (h : executeItems d generate items s = .ok () t) :
    t.broken = s.broken := by
  induction items generalizing s with
  | nil =>
    obtain ⟨-, rfl⟩ := of_pure_run_ok h
    rfl
  | cons item rest ih =>
    obtain ⟨_, u, hitem, hrest⟩ := of_bind_run_ok h
    have hbroken : u.broken = s.broken := by
      unfold executeItem at hitem
      split at hitem
      · obtain ⟨-, rfl⟩ := of_pure_run_ok hitem
        rfl
      · obtain ⟨_, _, hget, hasked⟩ := of_bind_run_ok hitem
        cases hget
        obtain ⟨_, v, hkey, hanswered⟩ := of_bind_run_ok hasked
        obtain ⟨-, rfl⟩ := liftResult_returns hkey
        obtain ⟨outputs, w, houtputs, hrecord⟩ := of_bind_run_ok hanswered
        obtain ⟨-, rfl⟩ := liftResult_returns houtputs
        exact recordVariants_usable hrecord
    exact (ih hrest).trans hbroken

theorem execute_usable {executor : RepurposeExecutor} (h : execute d executor s = .ok () t) :
    t.broken = s.broken := by
  obtain ⟨_, u, hget, h⟩ := of_bind_run_ok h
  cases hget
  obtain ⟨generate, v, hgenerate, h⟩ := of_bind_run_ok h
  obtain ⟨-, rfl⟩ := liftResult_returns hgenerate
  exact executeItems_usable h

end Executor

end Records

end BlogOps.RepurposeJobs
