import BlogOps.CreditOperations

/-!
# The invariant of the credit books

The invariant ties the held amount of each grant to the allocations of live
holds, and the allocations of each live hold to its maximum; conservation
follows by counting over the keyed tables.  It is kept by the three ways in
which the operations move credits: issuing a grant, placing a hold and closing
a hold.
-/

namespace BlogOps.Billing

open KeyedTables TransitionRuns List

def availableBalance (b : Books) : Int := b.account.elim 0 (·.availableBalance)

def heldBalance (b : Books) : Int := b.account.elim 0 (·.heldBalance)

def isHeld (hold : CreditHold) : Bool := hold.state = .held

def liveHold (b : Books) (holdId : Uuid) : Bool :=
  b.holds.any fun hold => hold.id = holdId ∧ hold.state = .held

def liveAllocations (b : Books) : List CreditHoldAllocation :=
  b.allocations.filter fun allocation => liveHold b allocation.holdId

/-- What `allocations` hold on one grant. -/
def heldOn (grantId : Uuid) (allocations : List CreditHoldAllocation) : Int :=
  totalWhere (·.grantId = grantId) (·.heldAmount) allocations

def allocatedTo (holdId : Uuid) (allocations : List CreditHoldAllocation) : Int :=
  totalWhere (·.holdId = holdId) (·.heldAmount) allocations

structure BooksInvariant (b : Books) : Prop where
  grants_keyed : Keyed (·.id) b.grants
  holds_keyed : Keyed (·.id) b.holds
  allocations_keyed : Keyed (·.id) b.allocations
  allocation_hold : ∀ a ∈ b.allocations, ∃ hold ∈ b.holds, hold.id = a.holdId
  allocation_grant : ∀ a ∈ b.allocations, ∃ grant ∈ b.grants, grant.id = a.grantId
  allocation_nonneg : ∀ a ∈ b.allocations, 0 ≤ a.heldAmount
  grant_available : ∀ grant ∈ b.grants, 0 ≤ grant.availableAmount
  grant_capacity : ∀ grant ∈ b.grants,
    grant.availableAmount + grant.heldAmount ≤ grant.originalAmount
  grant_held : ∀ grant ∈ b.grants, grant.heldAmount = heldOn grant.id (liveAllocations b)
  hold_positive : ∀ hold ∈ b.holds, 0 < hold.maximumAmount
  hold_allocated : ∀ hold ∈ b.holds, hold.state = .held →
    allocatedTo hold.id b.allocations = hold.maximumAmount
  available_total : availableBalance b = total (·.availableAmount) b.grants
  held_total : heldBalance b = totalWhere isHeld (·.maximumAmount) b.holds
  ledger_available : total (·.availableDelta) b.entries = availableBalance b
  ledger_held : total (·.heldDelta) b.entries = heldBalance b
  entry_positive : ∀ entry ∈ b.entries, 0 < entry.amount

/-- The statement of conservation: what the balances, the grants, the live
holds with their allocations and the ledger say agrees. -/
structure Conserved (b : Books) : Prop where
  available_grants : availableBalance b = total (·.availableAmount) b.grants
  held_grants : heldBalance b = total (·.heldAmount) b.grants
  held_holds : heldBalance b = totalWhere isHeld (·.maximumAmount) b.holds
  held_allocations : heldBalance b = total (·.heldAmount) (liveAllocations b)
  grant_bounds : ∀ grant ∈ b.grants, 0 ≤ grant.availableAmount ∧ 0 ≤ grant.heldAmount ∧
    grant.availableAmount + grant.heldAmount ≤ grant.originalAmount
  ledger_available : total (·.availableDelta) b.entries = availableBalance b
  ledger_held : total (·.heldDelta) b.entries = heldBalance b

variable {account : CreditAccount} {a : CreditHoldAllocation} {holdId : Uuid} {hold : CreditHold}
variable {grant : CreditGrant} {new : List CreditHoldAllocation} {entry : CreditLedgerEntry}

theorem availableBalance_some {b : Books} (h : b.account = some account) :
    availableBalance b = account.availableBalance := by
  simp [availableBalance, h]

theorem heldBalance_some {b : Books} (h : b.account = some account) :
    heldBalance b = account.heldBalance := by
  simp [heldBalance, h]

theorem mem_liveAllocations {b : Books} :
    a ∈ liveAllocations b ↔ a ∈ b.allocations ∧ liveHold b a.holdId = true := by
  simp [liveAllocations]

theorem liveHold_iff {b : Books} :
    liveHold b holdId = true ↔ ∃ hold ∈ b.holds, hold.id = holdId ∧ hold.state = .held := by
  simp [liveHold]

namespace BooksInvariant

variable {b : Books}

theorem allocatedTo_live (_h : BooksInvariant b) (hmem : hold ∈ b.holds)
    (hheld : hold.state = .held) :
    allocatedTo hold.id (liveAllocations b) = allocatedTo hold.id b.allocations := by
  unfold allocatedTo liveAllocations
  rw [← totalWhere_filter, ← totalWhere_filter, filter_filter]
  congr 1
  refine filter_congr fun a _ => ?_
  by_cases heq : a.holdId = hold.id
  · have hlive : liveHold b a.holdId = true := liveHold_iff.mpr ⟨hold, hmem, heq.symm, hheld⟩
    rw [hlive, Bool.and_true]
  · rw [decide_eq_false heq, Bool.false_and]

theorem total_grants_held (h : BooksInvariant b) :
    total (·.heldAmount) b.grants = total (·.heldAmount) (liveAllocations b) := by
  rw [total_congr h.grant_held]
  refine total_links h.grants_keyed _ _ fun a ha => ?_
  exact h.allocation_grant a (mem_liveAllocations.mp ha).1

theorem total_live_allocations (h : BooksInvariant b) :
    total (·.heldAmount) (liveAllocations b) = totalWhere isHeld (·.maximumAmount) b.holds := by
  have hkeyed : Keyed (·.id) (b.holds.filter isHeld) := h.holds_keyed.sublist filter_sublist
  rw [← total_links hkeyed _ (liveAllocations b), ← totalWhere_filter]
  · refine total_congr fun hold hhold => ?_
    obtain ⟨hmem, hheld⟩ := mem_filter.mp hhold
    have hstate : hold.state = .held := by simpa [isHeld] using hheld
    rw [← h.hold_allocated hold hmem hstate, ← h.allocatedTo_live hmem hstate]
    rfl
  · intro a ha
    obtain ⟨hold, hmem, hid, hheld⟩ := liveHold_iff.mp (mem_liveAllocations.mp ha).2
    exact ⟨hold, mem_filter.mpr ⟨hmem, by simp [isHeld, hheld]⟩, hid⟩

theorem conserved (h : BooksInvariant b) : Conserved b where
  available_grants := h.available_total
  held_grants := by rw [h.held_total, h.total_grants_held, h.total_live_allocations]
  held_holds := h.held_total
  held_allocations := by rw [h.held_total, h.total_live_allocations]
  grant_bounds := by
    intro grant hgrant
    refine ⟨h.grant_available grant hgrant, ?_, h.grant_capacity grant hgrant⟩
    rw [h.grant_held grant hgrant]
    exact totalWhere_nonneg fun a ha => h.allocation_nonneg a (mem_liveAllocations.mp ha).1
  ledger_available := h.ledger_available
  ledger_held := h.ledger_held

theorem initial (h : emptyBooks b) : BooksInvariant b := by
  obtain ⟨hgrants, hholds, hallocations, hentries, haccount⟩ := h
  have havailable : availableBalance b = 0 := by
    unfold availableBalance
    cases hb : b.account with
    | none => rfl
    | some account => exact (haccount account hb).1
  have hheld : heldBalance b = 0 := by
    unfold heldBalance
    cases hb : b.account with
    | none => rfl
    | some account => exact (haccount account hb).2
  constructor <;>
    simp [hgrants, hholds, hallocations, hentries, havailable, hheld, Keyed]

end BooksInvariant

/-! ## Inversion of the writes -/

section

variable {b b' : Books}

theorem insertGrant_ok (h : insertGrant grant b = .ok b') :
    b' = { b with grants := b.grants ++ [grant] } ∧ ∀ other ∈ b.grants, other.id ≠ grant.id := by
  unfold insertGrant at h
  split_ifs at h with hid
  cases h
  exact ⟨rfl, by simpa using hid⟩

theorem insertHold_ok (h : insertHold hold b = .ok b') :
    b' = { b with holds := b.holds ++ [hold] } ∧ ∀ other ∈ b.holds, other.id ≠ hold.id := by
  unfold insertHold at h
  split_ifs at h with hid
  cases h
  exact ⟨rfl, by simpa using hid⟩

theorem insertAllocations_ok (h : insertAllocations new b = .ok b')
    (hkeyed : Keyed (·.id) b.allocations) :
    b' = { b with allocations := b.allocations ++ new } ∧ Keyed (·.id) b'.allocations := by
  induction new generalizing b with
  | nil =>
    cases h
    exact ⟨by simp, hkeyed⟩
  | cons a new ih =>
    unfold insertAllocations at h
    split_ifs at h with hid
    have hkeyed' : Keyed (·.id) (b.allocations ++ [a]) :=
      hkeyed.append_row (by simpa using hid)
    obtain ⟨rfl, hlast⟩ := ih h hkeyed'
    exact ⟨by simp, hlast⟩

theorem insertEntry_ok (h : insertEntry entry b = .ok b') :
    b' = { b with entries := b.entries ++ [entry] } := by
  unfold insertEntry at h
  split_ifs at h
  cases h
  rfl

theorem insertEntries_ok {new : List CreditLedgerEntry} (h : insertEntries new b = .ok b') :
    b' = { b with entries := b.entries ++ new } := by
  induction new generalizing b with
  | nil =>
    cases h
    simp
  | cons entry new ih =>
    obtain ⟨b₁, h₁, h⟩ := bind_ok h
    rw [ih h, insertEntry_ok h₁]
    simp

theorem updateHold_ok (h : updateHold hold b = .ok b') :
    b' = { b with holds := updateRow (·.id) hold.id (fun _ => hold) b.holds } := by
  unfold updateHold at h
  split_ifs at h
  cases h
  rfl

end

theorem accountOf_ok {b : Books} (h : accountOf b = .ok account) : b.account = some account := by
  unfold accountOf at h
  split at h
  · cases h
    assumption
  · cases h

theorem holdOf_ok {b : Books} (h : holdOf holdId b = .ok hold) :
    hold ∈ b.holds ∧ hold.id = holdId := by
  unfold holdOf at h
  split at h
  · rename_i found hfound
    cases h
    have hid := find?_some hfound
    exact ⟨mem_of_find?_eq_some hfound, by simpa using hid⟩
  · cases h

theorem grantOf_ok {b : Books} {grantId : Uuid} (h : grantOf grantId b = .ok grant) :
    grant ∈ b.grants ∧ grant.id = grantId := by
  unfold grantOf at h
  split at h
  · rename_i found hfound
    cases h
    have hid := find?_some hfound
    exact ⟨mem_of_find?_eq_some hfound, by simpa using hid⟩
  · cases h

theorem entryOf_ok {b : Books} {entryId : Uuid} (h : entryOf entryId b = .ok entry) :
    entry ∈ b.entries := by
  unfold entryOf at h
  split at h
  · cases h
    exact mem_of_find?_eq_some ‹_›
  · cases h

theorem requireNonnegativeAmount_ok {value : Int} {field : String} {u : Unit}
    (h : requireNonnegativeAmount value field = .ok u) : 0 ≤ value := by
  unfold requireNonnegativeAmount at h
  split_ifs at h with hneg
  omega

theorem finalizeHoldAmounts_ok {state : CreditHoldState} {maximum actual : Int}
    {finalized : Option Int} {result : HoldFinalization}
    (h : finalizeHoldAmounts state maximum actual finalized = .ok result)
    (hreplay : result.replay = false) :
    state = .held ∧ result.consumed + result.released = maximum ∧ result.consumed = actual ∧
      0 ≤ result.consumed ∧ 0 ≤ result.released := by
  obtain ⟨_, _, h⟩ := bind_ok h
  obtain ⟨_, hactual, h⟩ := bind_ok h
  have hnonneg := requireNonnegativeAmount_ok hactual
  cases state with
  | finalized =>
    simp only at h
    split_ifs at h
    cases h
    simp at hreplay
  | released => cases h
  | held =>
    simp only at h
    split_ifs at h with hmax
    cases h
    refine ⟨rfl, ?_, rfl, hnonneg, ?_⟩
    · simp
    · simp only
      omega

/-! ## The allocation loop of a new hold -/

/-- `b'` is `b` after the amounts of `new` moved from available to held. -/
structure Allocated (holdId : Uuid) (new : List CreditHoldAllocation) (b b' : Books) :
    Prop where
  account : b'.account = b.account
  holds : b'.holds = b.holds
  allocations : b'.allocations = b.allocations
  entries : b'.entries = b.entries
  grant_ids : b'.grants.map (·.id) = b.grants.map (·.id)
  grant : ∀ row' ∈ b'.grants, ∃ row ∈ b.grants, row.id = row'.id ∧
    row.originalAmount = row'.originalAmount ∧ 0 ≤ row'.availableAmount ∧
    row'.heldAmount = row.heldAmount + heldOn row'.id new ∧
    row'.availableAmount + row'.heldAmount = row.availableAmount + row.heldAmount
  available : total (·.availableAmount) b'.grants =
    total (·.availableAmount) b.grants - total (·.heldAmount) new
  new_rows : ∀ a ∈ new, a.holdId = holdId ∧ 0 ≤ a.heldAmount ∧
    ∃ row ∈ b.grants, row.id = a.grantId

theorem Allocated.nil (holdId : Uuid) {b : Books}
    (h : ∀ row ∈ b.grants, 0 ≤ row.availableAmount) : Allocated holdId [] b b where
  account := rfl
  holds := rfl
  allocations := rfl
  entries := rfl
  grant_ids := rfl
  grant row hrow := ⟨row, hrow, rfl, rfl, h row hrow, by simp [heldOn], rfl⟩
  available := by simp
  new_rows := by simp

/-- One turn of the loop: `amount` of `grant` goes to the new allocation `a`. -/
theorem Allocated.cons {b b' : Books} {amount : Int} (hkeyed : Keyed (·.id) b.grants)
    (hgrant : grant ∈ b.grants) (hhold : a.holdId = holdId) (hlink : a.grantId = grant.id)
    (ha : a.heldAmount = amount) (hamount : 0 ≤ amount)
    (h : Allocated holdId new (updateGrant grant.id (fun row =>
      { row with
        availableAmount := row.availableAmount - amount
        heldAmount := row.heldAmount + amount }) b) b') : Allocated holdId (a :: new) b b' := by
  have hids : (updateGrant grant.id (fun row => { row with
      availableAmount := row.availableAmount - amount
      heldAmount := row.heldAmount + amount }) b).grants.map (·.id) = b.grants.map (·.id) := by
    refine map_updateRow ?_ _
    exact fun _ _ => rfl
  refine ⟨h.account, h.holds, h.allocations, h.entries, h.grant_ids.trans hids, ?_, ?_, ?_⟩
  · intro row' hrow'
    obtain ⟨mid, hmid, hid, horig, havail, hheld, hsum⟩ := h.grant row' hrow'
    obtain ⟨row, hrow, hcase⟩ := mem_updateRow hmid
    refine ⟨row, hrow, ?_⟩
    rcases hcase with ⟨hk, rfl⟩ | ⟨hk, rfl⟩
    · have hon : heldOn row'.id (a :: new) = amount + heldOn row'.id new := by
        simp only at hid
        unfold heldOn
        rw [totalWhere_cons, if_pos (by simp [hlink, ← hid, hk]), ha]
      refine ⟨hid, horig, havail, ?_, ?_⟩
      · rw [hon, hheld]
        simp only
        omega
      · simp only at hsum
        omega
    · have hon : heldOn row'.id (a :: new) = heldOn row'.id new := by
        unfold heldOn
        rw [totalWhere_cons, if_neg (by simpa [hlink, ← hid] using fun heq => hk heq.symm),
          zero_add]
      exact ⟨hid, horig, havail, by rw [hon, hheld], hsum⟩
  · have hmid := total_updateRow (f := fun row => { row with
        availableAmount := row.availableAmount - amount
        heldAmount := row.heldAmount + amount }) hkeyed hgrant rfl
      (fun row : CreditGrant => row.availableAmount)
    have hrest := h.available
    simp only [updateGrant] at hrest
    rw [total_cons, ha]
    simp only at hmid
    omega
  · intro c hc
    rcases mem_cons.mp hc with rfl | hc
    · exact ⟨hhold, ha ▸ hamount, grant, hgrant, hlink.symm⟩
    · obtain ⟨hold, hnonneg, row, hrow, hid⟩ := h.new_rows c hc
      obtain ⟨old, hold', hcase⟩ := mem_updateRow hrow
      refine ⟨hold, hnonneg, old, hold', ?_⟩
      rcases hcase with ⟨-, rfl⟩ | ⟨-, rfl⟩ <;> exact hid

theorem allocateHold_allocated (ctx : CallContext) (holdId : Uuid) {grants : List CreditGrant}
    {remaining : Int} {order : Nat} {b : Books} (hkeyed : Keyed (·.id) b.grants)
    (hrows : Keyed (·.id) grants) (hsub : ∀ grant ∈ grants, grant ∈ b.grants)
    (hnonneg : ∀ row ∈ b.grants, 0 ≤ row.availableAmount) (hremaining : 0 ≤ remaining)
    (henough : remaining ≤ total (·.availableAmount) grants) :
    Allocated holdId (allocateHold ctx holdId grants remaining order b).2 b
        (allocateHold ctx holdId grants remaining order b).1 ∧
      total (·.heldAmount) (allocateHold ctx holdId grants remaining order b).2 = remaining := by
  induction grants generalizing remaining order b with
  | nil =>
    simp only [total_nil] at henough
    exact ⟨.nil holdId hnonneg, by simp [allocateHold]; omega⟩
  | cons grant grants ih =>
    unfold allocateHold
    by_cases hzero : remaining = 0
    · rw [if_pos hzero]
      exact ⟨.nil holdId hnonneg, by simp [hzero]⟩
    rw [if_neg hzero]
    set amount := min grant.availableAmount remaining with hamount
    have hgrant : grant ∈ b.grants := hsub grant mem_cons_self
    have havail := hnonneg grant hgrant
    rw [total_cons] at henough
    have hge : 0 ≤ amount := by omega
    have htail : 0 ≤ total (·.availableAmount) grants :=
      total_nonneg fun row hrow => hnonneg row (hsub row (mem_cons_of_mem _ hrow))
    obtain ⟨hother, hrest⟩ := Keyed.cons_iff.mp hrows
    have hmid : Keyed (·.id) (updateGrant grant.id (fun row => { row with
        availableAmount := row.availableAmount - amount
        heldAmount := row.heldAmount + amount }) b).grants :=
      hkeyed.updateRow fun _ _ => rfl
    obtain ⟨hloop, htotal⟩ := @ih (remaining - amount) (order + 1) _ hmid hrest
      (fun row hrow => mem_updateRow_of_ne (hsub row (mem_cons_of_mem _ hrow))
        (hother row hrow))
      (by
        intro row hrow
        obtain ⟨old, hold, ⟨hid, rfl⟩ | ⟨-, rfl⟩⟩ := mem_updateRow hrow
        · have heq : old = grant := hkeyed.eq_of_key_eq hold hgrant hid
          subst heq
          simp only
          omega
        · exact hnonneg row hold)
      (by omega) (by omega)
    refine ⟨?_, ?_⟩
    · exact Allocated.cons hkeyed hgrant rfl rfl rfl hge hloop
    · rw [total_cons, htotal]
      simp only
      omega

/-! ## The settlement loops -/

/-- `b'` is `b` after the allocations `settled` were taken off their grants, with
`consumed` of them gone and the rest available again. -/
structure Settled (settled : List CreditHoldAllocation) (consumed : Int) (b b' : Books) :
    Prop where
  account : b'.account = b.account
  holds : b'.holds = b.holds
  entries : b'.entries = b.entries
  grant_ids : b'.grants.map (·.id) = b.grants.map (·.id)
  allocations : b'.allocations.map (fun a => (a.id, a.holdId, a.grantId, a.heldAmount)) =
    b.allocations.map (fun a => (a.id, a.holdId, a.grantId, a.heldAmount))
  grant : ∀ row' ∈ b'.grants, ∃ row ∈ b.grants, row.id = row'.id ∧
    row.originalAmount = row'.originalAmount ∧ row.availableAmount ≤ row'.availableAmount ∧
    row'.heldAmount = row.heldAmount - heldOn row'.id settled ∧
    row'.availableAmount + row'.heldAmount ≤ row.availableAmount + row.heldAmount
  available : total (·.availableAmount) b'.grants =
    total (·.availableAmount) b.grants + total (·.heldAmount) settled - consumed

theorem Settled.nil (b : Books) : Settled [] 0 b b where
  account := rfl
  holds := rfl
  entries := rfl
  grant_ids := rfl
  allocations := rfl
  grant row hrow := ⟨row, hrow, rfl, rfl, le_rfl, by simp [heldOn], le_rfl⟩
  available := by simp

def settleGrant (a : CreditHoldAllocation) (released : Int) (row : CreditGrant) :
    CreditGrant :=
  { row with
    heldAmount := row.heldAmount - a.heldAmount
    availableAmount := row.availableAmount + released }

theorem keyed_settleGrant {b : Books} (h : Keyed (·.id) b.grants) (a : CreditHoldAllocation)
    (grantId : Uuid) (released : Int) :
    Keyed (·.id) (updateGrant grantId (settleGrant a released) b).grants := by
  refine h.updateRow ?_
  exact fun _ _ => rfl

/-- One turn of a settlement loop, with `taken` consumed and `released` given back. -/
theorem Settled.cons {rest : List CreditHoldAllocation} {taken released consumed : Int}
    {b b' : Books} {f : CreditHoldAllocation → CreditHoldAllocation}
    (hf : ∀ row, ((f row).id, (f row).holdId, (f row).grantId, (f row).heldAmount) =
      (row.id, row.holdId, row.grantId, row.heldAmount))
    (hkeyed : Keyed (·.id) b.grants) (hgrant : grant ∈ b.grants) (hlink : grant.id = a.grantId)
    (hsum : taken + released = a.heldAmount) (htaken : 0 ≤ taken) (hreleased : 0 ≤ released)
    (h : Settled rest consumed (updateGrant grant.id (settleGrant a released)
      (updateAllocation a.id f b)) b') :
    Settled (a :: rest) (taken + consumed) b b' := by
  have hids : (updateGrant grant.id (settleGrant a released) (updateAllocation a.id f b)).grants.map
      (·.id) = b.grants.map (·.id) := by
    refine map_updateRow ?_ _
    exact fun _ _ => rfl
  have hlinks : (updateGrant grant.id (settleGrant a released)
      (updateAllocation a.id f b)).allocations.map
        (fun a => (a.id, a.holdId, a.grantId, a.heldAmount)) =
      b.allocations.map (fun a => (a.id, a.holdId, a.grantId, a.heldAmount)) :=
    map_updateRow (fun row _ => hf row) _
  refine ⟨h.account, h.holds, h.entries, h.grant_ids.trans hids, h.allocations.trans hlinks,
    ?_, ?_⟩
  · intro row' hrow'
    obtain ⟨mid, hmid, hid, horig, havail, hheld, hcap⟩ := h.grant row' hrow'
    obtain ⟨row, hrow, hcase⟩ := mem_updateRow hmid
    refine ⟨row, hrow, ?_⟩
    rcases hcase with ⟨hk, rfl⟩ | ⟨hk, rfl⟩
    · have hon : heldOn row'.id (a :: rest) = a.heldAmount + heldOn row'.id rest := by
        simp only [settleGrant] at hid
        unfold heldOn
        rw [totalWhere_cons, if_pos (by simp [← hlink, ← hid, hk])]
      simp only [settleGrant] at hid horig havail hheld hcap
      refine ⟨hid, horig, ?_, ?_, ?_⟩
      · omega
      · rw [hon, hheld]
        omega
      · omega
    · have hon : heldOn row'.id (a :: rest) = heldOn row'.id rest := by
        unfold heldOn
        rw [totalWhere_cons, if_neg (by simpa [← hlink, ← hid] using fun heq => hk heq.symm),
          zero_add]
      exact ⟨hid, horig, havail, by rw [hon, hheld], hcap⟩
  · have hmid := total_updateRow (f := settleGrant a released) hkeyed hgrant rfl
      (fun row : CreditGrant => row.availableAmount)
    have hrest := h.available
    simp only [updateGrant, updateAllocation] at hrest
    rw [total_cons]
    simp only [settleGrant] at hmid hrest
    omega

section

variable {settled : List CreditHoldAllocation} {b b' : Books} (hkeyed : Keyed (·.id) b.grants)
    (hnonneg : ∀ a ∈ settled, 0 ≤ a.heldAmount)

include hkeyed hnonneg

theorem consumeAllocations_settled {remaining left : Int} (hremaining : 0 ≤ remaining)
    (h : consumeAllocations settled remaining b = .ok (left, b')) :
    Settled settled (remaining - left) b b' := by
  induction settled generalizing remaining b with
  | nil =>
    cases h
    rw [sub_self]
    exact .nil _
  | cons a settled ih =>
    obtain ⟨grant, hfind, h⟩ := bind_ok h
    obtain ⟨hgrant, hlink⟩ := grantOf_ok hfind
    have ha := hnonneg a mem_cons_self
    have hloop := ih (by exact keyed_settleGrant hkeyed _ _ _)
      (fun c hc => hnonneg c (mem_cons_of_mem _ hc)) (by omega) h
    have hcons : Settled (a :: settled) (min a.heldAmount remaining +
        (remaining - min a.heldAmount remaining - left)) b b' :=
      Settled.cons (by intro row; rfl) hkeyed hgrant hlink (add_sub_cancel _ _) (by omega)
        (by omega) hloop
    rwa [show min a.heldAmount remaining + (remaining - min a.heldAmount remaining - left) =
      remaining - left by omega] at hcons

theorem releaseAllocations_settled (h : releaseAllocations settled b = .ok b') :
    Settled settled 0 b b' := by
  induction settled generalizing b with
  | nil =>
    cases h
    exact .nil _
  | cons a settled ih =>
    obtain ⟨grant, hfind, h⟩ := bind_ok h
    obtain ⟨hgrant, hlink⟩ := grantOf_ok hfind
    have hloop := ih (by exact keyed_settleGrant hkeyed _ _ _)
      (fun c hc => hnonneg c (mem_cons_of_mem _ hc)) h
    have hcons : Settled (a :: settled) (0 + 0) b b' :=
      Settled.cons (by intro row; rfl) hkeyed hgrant hlink (zero_add _) le_rfl
        (hnonneg a mem_cons_self) hloop
    rwa [zero_add] at hcons

end

theorem heldOn_live (b : Books) (grantId : Uuid) :
    heldOn grantId (liveAllocations b) =
      totalWhere (fun a => decide (a.grantId = grantId) && liveHold b a.holdId)
        (·.heldAmount) b.allocations :=
  totalWhere_filter_and _ _ _ _

theorem heldOn_allocationsOf (b : Books) (holdId grantId : Uuid) :
    heldOn grantId (allocationsOf holdId b) =
      totalWhere (fun a => decide (a.grantId = grantId) && decide (a.holdId = holdId))
        (·.heldAmount) b.allocations :=
  totalWhere_filter_and _ _ _ _

theorem heldOn_append (grantId : Uuid) (as bs : List CreditHoldAllocation) :
    heldOn grantId (as ++ bs) = heldOn grantId as + heldOn grantId bs :=
  totalWhere_append _ _ _ _

/-- The entry shows the balances of the books, and they fit their columns. -/
structure Shows (b : Books) (entry : CreditLedgerEntry) : Prop where
  available : entry.availableAfter = availableBalance b
  held : entry.heldAfter = heldBalance b
  fits : numericFits entry.availableAfter = true ∧ numericFits entry.heldAfter = true

/-- A fresh grant with its ledger entry, as granting and reversal write them. -/
structure Issued (grant : CreditGrant) (entry : CreditLedgerEntry) (b b' : Books) : Prop where
  grants : b'.grants = b.grants ++ [grant]
  holds : b'.holds = b.holds
  allocations : b'.allocations = b.allocations
  entries : b'.entries = b.entries ++ [entry]
  balance : availableBalance b' = availableBalance b + entry.amount
  held : heldBalance b' = heldBalance b
  fresh : ∀ other ∈ b.grants, other.id ≠ grant.id
  positive : 0 < entry.amount
  original : grant.originalAmount = entry.amount
  available : grant.availableAmount = entry.amount
  unheld : grant.heldAmount = 0
  delta : entry.availableDelta = entry.amount
  heldDelta : entry.heldDelta = 0

/-- A fresh hold whose maximum was moved from available to held. -/
structure Placed (hold : CreditHold) (new : List CreditHoldAllocation) (entry : CreditLedgerEntry)
    (b b₁ b' : Books) : Prop where
  allocated : Allocated hold.id new { b with holds := b.holds ++ [hold] } b₁
  grants : b'.grants = b₁.grants
  holds : b'.holds = b₁.holds
  allocations : b'.allocations = b₁.allocations ++ new
  entries : b'.entries = b₁.entries ++ [entry]
  balance : availableBalance b' = availableBalance b - entry.amount
  held : heldBalance b' = heldBalance b + entry.amount
  fresh : ∀ other ∈ b.holds, other.id ≠ hold.id
  state : hold.state = .held
  positive : 0 < entry.amount
  maximum : hold.maximumAmount = entry.amount
  total : total (·.heldAmount) new = entry.amount
  keyed : Keyed (·.id) (b.allocations ++ new)
  delta : entry.availableDelta = -entry.amount
  heldDelta : entry.heldDelta = entry.amount

/-- The row of a hold that was closed with `consumed` of its maximum gone and `released` of it
available again. -/
def ClosesAs (consumed released : Int) (hold row : CreditHold) : Prop :=
  ∃ state event failure now, state ≠ .held ∧ row = { hold with
    actualAmount := some consumed, releasedAmount := some released
    finalizationEventId := some event, failureClass := failure, state := state, finalizedAt := now }

/-- Closing a hold: its allocations were taken off their grants. -/
structure Closing (hold row : CreditHold) (taken : List CreditHoldAllocation)
    (consumed released : Int) (new : List CreditLedgerEntry) (b b₁ b' : Books) : Prop where
  settled : Settled taken consumed b b₁
  grants : b'.grants = b₁.grants
  holds : b'.holds = updateRow (·.id) row.id (fun _ => row) b₁.holds
  allocations : b'.allocations = b₁.allocations
  entries : b'.entries = b₁.entries ++ new
  balance : availableBalance b' = availableBalance b + released
  held : heldBalance b' = heldBalance b - hold.maximumAmount
  member : hold ∈ b.holds
  live : hold.state = .held
  closes : ClosesAs consumed released hold row
  perm : taken.Perm (allocationsOf hold.id b)
  sum : consumed + released = hold.maximumAmount
  nonneg : 0 ≤ consumed ∧ 0 ≤ released
  delta : total (·.availableDelta) new = released
  heldDelta : total (·.heldDelta) new = -hold.maximumAmount
  positive : ∀ entry ∈ new, 0 < entry.amount

namespace BooksInvariant

variable {b b' : Books}

theorem issue (h : BooksInvariant b) (hissued : Issued grant entry b b') : BooksInvariant b' := by
  obtain ⟨hgrants, hholds, hallocations, hentries, hbalance, hheldBalance, hfresh, hpos, horiginal,
    havailable, hheld, hdelta, hheldDelta⟩ := hissued
  have hlast : heldOn grant.id (liveAllocations b) = 0 := by
    refine totalWhere_eq_zero fun a ha => ?_
    obtain ⟨other, hother, hid⟩ := h.allocation_grant a (mem_liveAllocations.mp ha).1
    exact decide_eq_false fun heq => hfresh other hother (by rw [hid, heq])
  have htotal := h.available_total
  have hheldTotal := h.held_total
  have hledger := h.ledger_available
  have hledgerHeld := h.ledger_held
  obtain ⟨account', grants', holds', allocations', entries'⟩ := b'
  simp only at hgrants hholds hallocations hentries
  subst hgrants hholds hallocations hentries
  refine ⟨h.grants_keyed.append_row hfresh, h.holds_keyed, h.allocations_keyed,
    h.allocation_hold, ?_, h.allocation_nonneg, ?_, ?_, ?_, h.hold_positive, h.hold_allocated,
    ?_, ?_, ?_, ?_, ?_⟩
  · intro a ha
    obtain ⟨row, hrow, hid⟩ := h.allocation_grant a ha
    exact ⟨row, mem_append_left _ hrow, hid⟩
  · intro row hrow
    rcases mem_append.mp hrow with hrow | hrow
    · exact h.grant_available row hrow
    · rw [mem_singleton.mp hrow]
      omega
  · intro row hrow
    rcases mem_append.mp hrow with hrow | hrow
    · exact h.grant_capacity row hrow
    · rw [mem_singleton.mp hrow]
      omega
  · intro row hrow
    rcases mem_append.mp hrow with hrow | hrow
    · exact h.grant_held row hrow
    · rw [mem_singleton.mp hrow, hheld]
      exact hlast.symm
  · simp only [total_append, total_cons, total_nil]
    omega
  · exact hheldBalance.trans hheldTotal
  · simp only [total_append, total_cons, total_nil]
    omega
  · simp only [total_append, total_cons, total_nil]
    omega
  · intro e he
    rcases mem_append.mp he with he | he
    · exact h.entry_positive e he
    · rw [mem_singleton.mp he]
      exact hpos

theorem place (h : BooksInvariant b) {b₁ : Books} (hplaced : Placed hold new entry b b₁ b') :
    BooksInvariant b' := by
  obtain ⟨halloc, hgrants, hholds, hallocations, hentries, hbalance, hheldBalance, hfresh, hstate,
    hpos, hmaximum, htotal, hkeyed, hdelta, hheldDelta⟩ := hplaced
  rw [halloc.holds] at hholds
  rw [halloc.allocations] at hallocations
  rw [halloc.entries] at hentries
  simp only at hholds hallocations hentries
  have hids : ∀ i, (∃ row ∈ b'.grants, row.id = i) ↔ ∃ row ∈ b.grants, row.id = i := by
    intro i
    rw [← mem_map, ← mem_map, hgrants, halloc.grant_ids]
  -- The new hold makes only its own allocations live.
  have hlive : liveAllocations b' = liveAllocations b ++ new := by
    unfold liveAllocations
    rw [hallocations, filter_append]
    congr 1
    · refine filter_congr fun a ha => ?_
      obtain ⟨other, hother, hid⟩ := h.allocation_hold a ha
      have hne : ¬ hold.id = a.holdId := fun heq => hfresh other hother (by rw [hid, heq])
      simp [liveHold, hholds, hne]
    · refine filter_eq_self.mpr fun a ha => ?_
      simp [liveHold, hholds, (halloc.new_rows a ha).1, hstate]
  have hnew : ∀ a ∈ b'.allocations, a ∈ b.allocations ∨ a ∈ new := by
    intro a ha
    rwa [hallocations, mem_append] at ha
  have htotals := h.available_total
  have hheldTotal := h.held_total
  have hledger := h.ledger_available
  have hledgerHeld := h.ledger_held
  have havail := halloc.available
  simp only at havail
  refine ⟨?_, ?_, ?_, ?_, ?_, ?_, ?_, ?_, ?_, ?_, ?_, ?_, ?_, ?_, ?_, ?_⟩
  · unfold Keyed
    rw [hgrants, halloc.grant_ids]
    exact h.grants_keyed
  · rw [hholds]
    exact h.holds_keyed.append_row hfresh
  · rw [hallocations]
    exact hkeyed
  · intro a ha
    rw [hholds]
    rcases hnew a ha with ha | ha
    · obtain ⟨other, hother, hid⟩ := h.allocation_hold a ha
      exact ⟨other, mem_append_left _ hother, hid⟩
    · exact ⟨hold, by simp, (halloc.new_rows a ha).1.symm⟩
  · intro a ha
    refine (hids a.grantId).mpr ?_
    rcases hnew a ha with ha | ha
    · exact h.allocation_grant a ha
    · exact (halloc.new_rows a ha).2.2
  · intro a ha
    rcases hnew a ha with ha | ha
    · exact h.allocation_nonneg a ha
    · exact (halloc.new_rows a ha).2.1
  · intro row' hrow'
    obtain ⟨row, hrow, hid, horig, hge, hheld, hsum⟩ := halloc.grant row' (hgrants ▸ hrow')
    exact hge
  · intro row' hrow'
    obtain ⟨row, hrow, hid, horig, hge, hheld, hsum⟩ := halloc.grant row' (hgrants ▸ hrow')
    rw [hsum, ← horig]
    exact h.grant_capacity row hrow
  · intro row' hrow'
    obtain ⟨row, hrow, hid, horig, hge, hheld, hsum⟩ := halloc.grant row' (hgrants ▸ hrow')
    rw [hlive, heldOn_append, hheld, h.grant_held row hrow, hid]
  · intro other hother
    rw [hholds, mem_append, mem_singleton] at hother
    rcases hother with hother | rfl
    · exact h.hold_positive other hother
    · omega
  · intro other hother hheld
    rw [hholds, mem_append, mem_singleton] at hother
    rw [hallocations, allocatedTo, totalWhere_append]
    rcases hother with hother | rfl
    · have hzero : totalWhere (·.holdId = other.id) (·.heldAmount) new = 0 := by
        refine totalWhere_eq_zero fun a ha => decide_eq_false ?_
        rw [(halloc.new_rows a ha).1]
        exact fun heq => hfresh other hother heq.symm
      rw [hzero, add_zero]
      exact h.hold_allocated other hother hheld
    · have hzero : totalWhere (·.holdId = other.id) (·.heldAmount) b.allocations = 0 := by
        refine totalWhere_eq_zero fun a ha => decide_eq_false fun heq => ?_
        obtain ⟨row, hrow, hid⟩ := h.allocation_hold a ha
        exact hfresh row hrow (by rw [hid, heq])
      have hall : totalWhere (·.holdId = other.id) (·.heldAmount) new =
          total (·.heldAmount) new :=
        total_congr fun a ha => if_pos (decide_eq_true (halloc.new_rows a ha).1)
      rw [hzero, zero_add, hall, htotal, hmaximum]
  · rw [hgrants]
    omega
  · simp only [hholds, totalWhere_append, totalWhere_cons, totalWhere_nil, isHeld, hstate,
      decide_true, ↓reduceIte, hmaximum]
    omega
  · simp only [hentries, total_append, total_cons, total_nil]
    omega
  · simp only [hentries, total_append, total_cons, total_nil]
    omega
  · intro e he
    rw [hentries, mem_append, mem_singleton] at he
    rcases he with he | rfl
    · exact h.entry_positive e he
    · exact hpos

theorem settle (h : BooksInvariant b) {b₁ : Books} {settled : CreditHold}
    {taken : List CreditHoldAllocation} {consumed released : Int} {new : List CreditLedgerEntry}
    (hclosing : Closing hold settled taken consumed released new b b₁ b') : BooksInvariant b' := by
  obtain ⟨hsettled, hgrants, hholds, hallocations, hentries, hbalance, hheldBalance, hhold, hheld,
    hrow, htaken, hsum, -, havailable, hheldDelta, hpos⟩ := hclosing
  obtain ⟨hid, hstate, hmaximum⟩ : settled.id = hold.id ∧ settled.state ≠ .held ∧
      settled.maximumAmount = hold.maximumAmount := by
    obtain ⟨_, _, _, _, hstate, rfl⟩ := hrow
    exact ⟨rfl, hstate, rfl⟩
  rw [hsettled.holds] at hholds
  rw [hsettled.entries] at hentries
  have hlink := hsettled.allocations
  rw [← hallocations] at hlink
  have hids : ∀ i, (∃ row ∈ b'.grants, row.id = i) ↔ ∃ row ∈ b.grants, row.id = i := by
    intro i
    rw [← mem_map, ← mem_map, hgrants, hsettled.grant_ids]
  have hholdIds : ∀ i, (∃ row ∈ updateRow (·.id) settled.id (fun _ => settled) b.holds,
      row.id = i) ↔ ∃ row ∈ b.holds, row.id = i := by
    intro i
    rw [← mem_map, ← mem_map, map_updateRow]
    exact fun row hrow => hrow.symm
  -- Of the live holds only the settled one is gone.
  have hlive : ∀ i, (updateRow (·.id) settled.id (fun _ => settled) b.holds).any
      (fun other => other.id = i ∧ other.state = .held) =
        (liveHold b i && !decide (i = hold.id)) := by
    intro i
    rw [Bool.eq_iff_iff, Bool.and_eq_true, liveHold_iff, any_eq_true]
    constructor
    · rintro ⟨other, hother, hcond⟩
      obtain ⟨rfl, hlive⟩ := of_decide_eq_true hcond
      obtain ⟨old, hold', ⟨hk, rfl⟩ | ⟨hk, rfl⟩⟩ := mem_updateRow hother
      · exact absurd hlive hstate
      · exact ⟨⟨other, hold', rfl, hlive⟩, by simpa [← hid] using hk⟩
    · rintro ⟨⟨other, hother, rfl, hlive⟩, hne⟩
      refine ⟨other, mem_updateRow_of_ne hother ?_, by simp [hlive]⟩
      simpa [hid] using hne
  have hlinks (i : Uuid) (p : Uuid → Bool) :
      totalWhere (fun a => decide (a.grantId = i) && p a.holdId) (·.heldAmount) b'.allocations =
        totalWhere (fun a => decide (a.grantId = i) && p a.holdId) (·.heldAmount)
          b.allocations :=
    totalWhere_of_map_eq (p := fun a => decide (a.2.2.1 = i) && p a.2.1) (f := fun a => a.2.2.2)
      hlink
  have hmember : ∀ a ∈ b'.allocations, ∃ old ∈ b.allocations, old.holdId = a.holdId ∧
      old.grantId = a.grantId ∧ old.heldAmount = a.heldAmount := by
    intro a ha
    have hmem := mem_map_of_mem (f := fun a : CreditHoldAllocation =>
      (a.id, a.holdId, a.grantId, a.heldAmount)) ha
    rw [hlink, mem_map] at hmem
    obtain ⟨old, hold', heq⟩ := hmem
    simp only [Prod.mk.injEq] at heq
    exact ⟨old, hold', heq.2.1, heq.2.2.1, heq.2.2.2⟩
  have hliveHold : liveHold b hold.id = true := liveHold_iff.mpr ⟨hold, hhold, rfl, hheld⟩
  have hon (i : Uuid) : totalWhere (fun a => decide (a.grantId = i) &&
      (liveHold b a.holdId && !decide (a.holdId = hold.id))) (·.heldAmount) b.allocations =
        heldOn i (liveAllocations b) - heldOn i taken := by
    have hperm : heldOn i taken = heldOn i (allocationsOf hold.id b) := total_perm _ htaken
    rw [hperm, heldOn_live, heldOn_allocationsOf]
    refine totalWhere_diff (fun a _ => ?_) (fun a _ ha => ?_)
    · cases decide (a.grantId = i) <;> simp
    · simp only [Bool.and_eq_true, decide_eq_true_eq] at ha ⊢
      exact ⟨ha.1, ha.2 ▸ hliveHold⟩
  have htotal : total (·.heldAmount) taken = hold.maximumAmount := by
    rw [total_perm _ htaken, ← h.hold_allocated hold hhold hheld]
    exact totalWhere_filter _ _ _
  have htotals := h.available_total
  have hheldTotal := h.held_total
  have hledger := h.ledger_available
  have hledgerHeld := h.ledger_held
  have hmoved := hsettled.available
  refine ⟨?_, ?_, ?_, ?_, ?_, ?_, ?_, ?_, ?_, ?_, ?_, ?_, ?_, ?_, ?_, ?_⟩
  · unfold Keyed
    rw [hgrants, hsettled.grant_ids]
    exact h.grants_keyed
  · rw [hholds]
    exact h.holds_keyed.updateRow fun row hrow => hrow.symm
  · have hmap := congrArg (List.map Prod.fst) hlink
    rw [map_map, map_map] at hmap
    unfold Keyed
    rw [show b'.allocations.map (·.id) = b.allocations.map (·.id) from hmap]
    exact h.allocations_keyed
  · intro a ha
    obtain ⟨old, hold', hholdId, -, -⟩ := hmember a ha
    rw [hholds]
    exact (hholdIds a.holdId).mpr (hholdId ▸ h.allocation_hold old hold')
  · intro a ha
    obtain ⟨old, hold', -, hgrantId, -⟩ := hmember a ha
    exact (hids a.grantId).mpr (hgrantId ▸ h.allocation_grant old hold')
  · intro a ha
    obtain ⟨old, hold', -, -, hamount⟩ := hmember a ha
    exact hamount ▸ h.allocation_nonneg old hold'
  · intro row' hrow'
    obtain ⟨row, hrow, -, -, hge, -, -⟩ := hsettled.grant row' (hgrants ▸ hrow')
    exact le_trans (h.grant_available row hrow) hge
  · intro row' hrow'
    obtain ⟨row, hrow, -, horig, -, -, hcap⟩ := hsettled.grant row' (hgrants ▸ hrow')
    rw [← horig]
    exact le_trans hcap (h.grant_capacity row hrow)
  · intro row' hrow'
    obtain ⟨row, hrow, hrowId, -, -, hheld', -⟩ := hsettled.grant row' (hgrants ▸ hrow')
    rw [heldOn_live, hheld', h.grant_held row hrow, hrowId, ← hon, ← hlinks row'.id fun i =>
      liveHold b i && !decide (i = hold.id)]
    refine totalWhere_congr fun a _ => ?_
    rw [← hlive a.holdId]
    simp only [liveHold, hholds]
  · intro other hother
    rw [hholds] at hother
    obtain ⟨old, hold', ⟨-, rfl⟩ | ⟨-, rfl⟩⟩ := mem_updateRow hother
    · exact hmaximum ▸ h.hold_positive hold hhold
    · exact h.hold_positive other hold'
  · intro other hother hlive'
    rw [hholds] at hother
    obtain ⟨old, hold', ⟨-, rfl⟩ | ⟨-, rfl⟩⟩ := mem_updateRow hother
    · exact absurd hlive' hstate
    · rw [← h.hold_allocated other hold' hlive']
      exact totalWhere_of_map_eq (p := fun a => decide (a.2.1 = other.id))
        (f := fun a => a.2.2.2) hlink
  · rw [hgrants]
    omega
  · have hsum' := total_updateRow (f := fun _ => settled) h.holds_keyed hhold hid.symm
      (fun other : CreditHold => if isHeld other then other.maximumAmount else 0)
    rw [if_pos (by simpa [isHeld] using hheld), if_neg (by simpa [isHeld] using hstate)] at hsum'
    simp only [hholds, totalWhere] at hheldTotal ⊢
    omega
  · simp only [hentries, total_append]
    omega
  · simp only [hentries, total_append]
    omega
  · intro entry hentry
    rw [hentries, mem_append] at hentry
    exact hentry.elim (h.entry_positive entry) (hpos entry)

end BooksInvariant

end BlogOps.Billing
