import BlogOps.JobSettlement

/-!
# Terminal events and their holds

A worker settles the hold of a job once per terminal event: `_finalize` for a
success and `_release` for a failure, which finalizes too where a cost was
incurred.  The row of the hold records the event; settling it again replays.
-/

namespace BlogOps.Billing

open KeyedTables TransitionRuns

/-- `CreditHoldRelease(...)` with the bounds of its schema. -/
def releaseRequest (event : TerminalEvent) : Except Failure CreditHoldRelease :=
  match event.failureClass, event.reasonCode with
  | some failureClass, some reasonCode =>
    if textFits 8 500 event.completionEventId ∧ textFits 2 80 failureClass ∧
        textFits 3 120 reasonCode then .ok {
      releaseEventId := event.completionEventId
      failureClass := failureClass
      reasonCode := reasonCode }
    else .error .validationError
  | _, _ => .error .validationError

def releaseJob (ctx : CallContext) (holdId : Uuid) (occurredAt : Int) (event : TerminalEvent)
    (s : MeteredBooks) : Except Failure (CreditHold × MeteredBooks) := do
  require (0 ≤ event.actualCost) (.app {
    code := "BILLING_ACTUAL_COST_INVALID"
    message := "실제 비용은 음수가 아닌 유한값이어야 합니다."
    statusCode := 422 })
  if 0 < event.actualCost then finalizeJob ctx holdId occurredAt event s
  else do
    let hold ← holdOf holdId s.books
    require (hold.pricingSnapshot.costCurrency = event.currency) (.app {
      code := "BILLING_COST_CURRENCY_MISMATCH"
      message := "실제 비용 통화가 Hold 가격표와 다릅니다."
      statusCode := 409 })
    let data ← releaseRequest event
    let (row, books) ← releaseHold ctx holdId data s.books
    .ok (row, ⟨books, s.usage⟩)

/-- The settlement of a job that ended: `finalize` of its gate after a success, `release` after
a failure, which has a class. -/
def settleJob (ctx : CallContext) (holdId : Uuid) (occurredAt : Int) (event : TerminalEvent)
    (s : MeteredBooks) : Except Failure (CreditHold × MeteredBooks) :=
  if event.failureClass.isNone then finalizeJob ctx holdId occurredAt event s
  else releaseJob ctx holdId occurredAt event s

/-- The call on the hold that an event comes down to, once its credits are known. -/
def closingRequest (event : TerminalEvent) (credits : Int) : Except Failure Settlement :=
  if event.failureClass.isSome ∧ event.actualCost ≤ 0 then
    (releaseRequest event).map .release
  else (finalizeRequest event credits).map .finalize

/-- A settlement that goes through. -/
structure Settles (ctx : CallContext) (occurredAt : Int) (event : TerminalEvent)
    (s : MeteredBooks) (hold : CreditHold) (credits : Int) (settlement : Settlement)
    (row : CreditHold) (after : MeteredBooks) : Prop where
  cost : 0 ≤ event.actualCost
  currency : hold.pricingSnapshot.costCurrency = event.currency
  metered : terminalCredits ctx hold occurredAt event s.usage = .ok (credits, after.usage)
  request : closingRequest event credits = .ok settlement
  performed : settlement.perform ctx hold.id s.books = .ok (row, after.books)

variable {credits : Int}

section Settling

variable {ctx : CallContext} {holdId : Uuid} {occurredAt : Int} {event : TerminalEvent}
  {s after : MeteredBooks} {row : CreditHold}

theorem finalizeJob_settles (hclass : ¬ (event.failureClass.isSome ∧ event.actualCost ≤ 0))
    (h : finalizeJob ctx holdId occurredAt event s = .ok (row, after)) :
    ∃ hold credits settlement, holdOf holdId s.books = .ok hold ∧
      Settles ctx occurredAt event s hold credits settlement row after := by
  obtain ⟨_, hcost, h⟩ := bind_ok h
  obtain ⟨hold, hhold, h⟩ := bind_ok h
  obtain ⟨_, hcurrency, h⟩ := bind_ok h
  obtain ⟨⟨credits, usage⟩, hcredits, h⟩ := bind_ok h
  obtain ⟨data, hdata, h⟩ := bind_ok h
  obtain ⟨⟨final, books⟩, hfinal, h⟩ := bind_ok h
  cases h
  have hrequest : closingRequest event credits = .ok (.finalize data) := by
    unfold closingRequest
    rw [if_neg hclass, hdata]
    rfl
  rw [← (holdOf_ok hhold).2] at hfinal
  exact ⟨hold, credits, _, hhold, require_ok hcost, require_ok hcurrency, hcredits, hrequest, hfinal⟩

theorem settles_of_settleJob (h : settleJob ctx holdId occurredAt event s = .ok (row, after)) :
    ∃ hold credits settlement, holdOf holdId s.books = .ok hold ∧
      Settles ctx occurredAt event s hold credits settlement row after := by
  unfold settleJob at h
  by_cases hclass : event.failureClass.isNone = true
  · rw [if_pos hclass] at h
    apply finalizeJob_settles _ h
    rintro ⟨hsome, -⟩
    cases hfailure : event.failureClass <;> simp [hfailure] at hclass hsome
  rw [if_neg hclass] at h
  obtain ⟨_, hcost, h⟩ := bind_ok h
  have hcost := require_ok hcost
  by_cases hpositive : 0 < event.actualCost
  · rw [if_pos hpositive] at h
    apply finalizeJob_settles _ h
    rintro ⟨-, hle⟩
    omega
  rw [if_neg hpositive] at h
  obtain ⟨hold, hhold, h⟩ := bind_ok h
  obtain ⟨_, hcurrency, h⟩ := bind_ok h
  obtain ⟨data, hdata, h⟩ := bind_ok h
  obtain ⟨⟨freed, books⟩, hfreed, h⟩ := bind_ok h
  cases h
  have hcredits : terminalCredits ctx hold occurredAt event s.usage = .ok (0, s.usage) := by
    unfold terminalCredits
    rw [if_neg hpositive]
  have hsome : event.failureClass.isSome = true := by
    cases hfailure : event.failureClass <;> simp [hfailure] at hclass ⊢
  have hrequest : closingRequest event 0 = .ok (.release data) := by
    unfold closingRequest
    rw [if_pos ⟨hsome, not_lt.mp hpositive⟩, hdata]
    rfl
  rw [← (holdOf_ok hhold).2] at hfreed
  exact ⟨hold, 0, _, hhold, hcost, require_ok hcurrency, hcredits, hrequest, hfreed⟩

theorem settleJob_of_settles {hold : CreditHold} {settlement : Settlement}
    (hhold : holdOf holdId s.books = .ok hold)
    (h : Settles ctx occurredAt event s hold credits settlement row after) :
    settleJob ctx holdId occurredAt event s = .ok (row, after) := by
  have hid : hold.id = holdId := (holdOf_ok hhold).2
  have hperformed := h.performed
  have hrequest := h.request
  rw [hid] at hperformed
  have hfinalize : ∀ data, finalizeRequest event credits = .ok data →
      settlement = .finalize data → finalizeJob ctx holdId occurredAt event s = .ok (row, after) := by
    rintro data hdata rfl
    have hfinal : finalizeHold ctx holdId data s.books = .ok (row, after.books) := hperformed
    unfold finalizeJob
    rw [bind_of_ok (require_of h.cost _), bind_of_ok hhold, bind_of_ok (require_of h.currency _),
      bind_of_ok h.metered]
    simp only
    rw [bind_of_ok hdata]
    exact bind_of_ok hfinal _
  unfold closingRequest at hrequest
  unfold settleJob
  by_cases hclass : event.failureClass.isNone = true
  · rw [if_pos hclass]
    have hnone : ¬ (event.failureClass.isSome ∧ event.actualCost ≤ 0) := by
      rintro ⟨hsome, -⟩
      cases hfailure : event.failureClass <;> simp [hfailure] at hclass hsome
    rw [if_neg hnone] at hrequest
    obtain ⟨data, hdata, rfl⟩ := map_ok hrequest
    exact hfinalize data hdata rfl
  rw [if_neg hclass]
  unfold releaseJob
  rw [bind_of_ok (require_of h.cost _)]
  by_cases hpositive : 0 < event.actualCost
  · rw [if_pos hpositive]
    rw [if_neg (by omega)] at hrequest
    obtain ⟨data, hdata, rfl⟩ := map_ok hrequest
    exact hfinalize data hdata rfl
  have hsome : event.failureClass.isSome = true := by
    cases hfailure : event.failureClass <;> simp [hfailure] at hclass ⊢
  rw [if_neg hpositive]
  rw [if_pos ⟨hsome, not_lt.mp hpositive⟩] at hrequest
  obtain ⟨data, hdata, rfl⟩ := map_ok hrequest
  have hfreed : releaseHold ctx holdId data s.books = .ok (row, after.books) := hperformed
  have husage : after.usage = s.usage := by
    have hmetered := h.metered
    unfold terminalCredits at hmetered
    rw [if_neg hpositive] at hmetered
    exact (Prod.mk.inj (Except.ok.inj hmetered)).2.symm
  rw [bind_of_ok hhold, bind_of_ok (require_of h.currency _), bind_of_ok hdata, bind_of_ok hfreed, ← husage]

end Settling

/-- The credits of an event as its usage record has them; without a cost there are none. -/
def MeteredAs (event : TerminalEvent) (hold : CreditHold) (usage : List UsageRecord) (credits : Int) : Prop :=
  if 0 < event.actualCost then usageAccepted (usageRequest hold 0 event) = true ∧
    ∃ record, usage.find? (·.sourceEventId = event.completionEventId) = some record ∧
      record.quantity = event.actualCost ∧
      record.metricKey = hold.pricingSnapshot.metricKey ∧
      record.priceVersionId = hold.priceVersionId ∧ record.subjectType = event.subjectType ∧
      record.subjectId = hold.subjectId ∧ record.creditAmount = credits
  else credits = 0

/-- The row of the hold records the settlement that the event asks for. -/
structure SettledBy (holdId : Uuid) (event : TerminalEvent) (row : CreditHold)
    (s : MeteredBooks) : Prop where
  stored : row ∈ s.books.holds
  id : row.id = holdId
  cost : 0 ≤ event.actualCost
  currency : row.pricingSnapshot.costCurrency = event.currency
  recorded : ∃ credits settlement, MeteredAs event row s.usage credits ∧
    closingRequest event credits = .ok settlement ∧ settlement.Records row

section Settled

variable {ctx : CallContext} {holdId : Uuid} {occurredAt : Int} {event : TerminalEvent}
  {s after : MeteredBooks} {hold row : CreditHold}

variable {usage : List UsageRecord}

theorem find?_append_new {record : UsageRecord} {event : String}
    (hnone : usage.find? (·.sourceEventId = event) = none) (hevent : record.sourceEventId = event) :
    (usage ++ [record]).find? (·.sourceEventId = event) = some record := by
  rw [List.find?_append, hnone]
  simp [hevent]

/-- What was metered is found again. -/
theorem meteredAs_of_terminalCredits
    (h : terminalCredits ctx hold occurredAt event s.usage = .ok (credits, usage)) :
    MeteredAs event hold usage credits := by
  unfold terminalCredits at h
  unfold MeteredAs
  by_cases hpositive : 0 < event.actualCost
  · rw [if_pos hpositive] at h ⊢
    obtain ⟨_, haccepted, h⟩ := bind_ok h
    have haccepted := require_ok haccepted
    refine ⟨haccepted, ?_⟩
    obtain ⟨⟨record, records⟩, hrecord, h⟩ := bind_ok h
    cases h
    unfold recordUsage at hrecord
    split at hrecord
    · rename_i existing hfind
      split_ifs at hrecord with hconflict
      cases hrecord
      simp only [not_or, not_not] at hconflict
      exact ⟨record, hfind, hconflict.1, hconflict.2.1, hconflict.2.2.1, hconflict.2.2.2.1,
        hconflict.2.2.2.2, rfl⟩
    · rename_i hfind
      obtain ⟨price, hprice, hrecord⟩ := bind_ok hrecord
      obtain ⟨_, _, hrecord⟩ := bind_ok hrecord
      obtain ⟨units, _, hrecord⟩ := bind_ok hrecord
      obtain ⟨amount, _, hrecord⟩ := bind_ok hrecord
      obtain ⟨inserted, hinsert, hrecord⟩ := bind_ok hrecord
      cases hrecord
      obtain ⟨happended, -, -⟩ := insertUsage_ok hinsert
      have hid : price.id = hold.priceVersionId := by
        have hfound := List.find?_some (priceOf_ok hprice).1
        exact of_decide_eq_true hfound
      exact ⟨_, happended ▸ find?_append_new hfind rfl, rfl, rfl, hid, rfl, rfl, rfl⟩
  · rw [if_neg hpositive] at h ⊢
    cases h
    rfl

/-- A metered event is priced as its record has it, whatever the prices are by now. -/
theorem terminalCredits_again (h : MeteredAs event hold s.usage credits) (ctx : CallContext)
    (occurredAt : Int) : terminalCredits ctx hold occurredAt event s.usage = .ok (credits, s.usage) := by
  unfold MeteredAs at h
  unfold terminalCredits
  by_cases hpositive : 0 < event.actualCost
  · rw [if_pos hpositive] at h ⊢
    obtain ⟨haccepted, record, hfind, hquantity, hmetric, hprice, htype, hsubject, hcredits⟩ := h
    have hsame : usageAccepted (usageRequest hold occurredAt event) = true := haccepted
    have hrecord : recordUsage ctx (usageRequest hold occurredAt event) s.usage =
        .ok (record, s.usage) := by
      unfold recordUsage
      have hfound : s.usage.find? (·.sourceEventId =
          (usageRequest hold occurredAt event).sourceEventId) = some record := hfind
      rw [hfound]
      simp [usageRequest, hquantity, hmetric, hprice, htype, hsubject]
    rw [bind_of_ok (require_of hsame _), bind_of_ok hrecord]
    simp only [hcredits]
  · rw [if_neg hpositive] at h ⊢
    rw [h]

theorem MeteredAs.of_placement (h : MeteredAs event hold usage credits)
    (hplacement : placement row = placement hold) : MeteredAs event row usage credits := by
  have hsnapshot : row.pricingSnapshot = hold.pricingSnapshot :=
    eq_of_placement (·.pricingSnapshot) (fun _ => rfl) hplacement
  have hprice : row.priceVersionId = hold.priceVersionId :=
    eq_of_placement (·.priceVersionId) (fun _ => rfl) hplacement
  have hsubject : row.subjectId = hold.subjectId :=
    eq_of_placement (·.subjectId) (fun _ => rfl) hplacement
  unfold MeteredAs usageRequest at h ⊢
  rw [hsnapshot, hprice, hsubject]
  exact h

/-- A settlement that goes through leaves its event on the row of the hold. -/
theorem settledBy_of_ok (hb : BooksInvariant s.books)
    (h : settleJob ctx holdId occurredAt event s = .ok (row, after)) : SettledBy holdId event row after := by
  obtain ⟨hold, credits, settlement, hhold, hsettles⟩ := settles_of_settleJob h
  obtain ⟨hmem, hid⟩ := holdOf_ok hhold
  have hplacement := perform_placement hb hmem hsettles.performed
  have hmetered : MeteredAs event row after.usage credits :=
    (meteredAs_of_terminalCredits hsettles.metered).of_placement hplacement
  have hcurrency : row.pricingSnapshot.costCurrency = event.currency := by
    rw [← hsettles.currency]
    exact congrArg PriceSnapshot.costCurrency (eq_of_placement (·.pricingSnapshot) (fun _ => rfl) hplacement)
  cases settlementOutcome ctx settlement hb hmem with
  | settled final books _ hperform hrow _ _ hrecords _ hholds =>
    rw [hsettles.performed] at hperform
    cases hperform
    refine ⟨?_, hrow.trans hid, hsettles.cost, hcurrency, credits, settlement, hmetered,
      hsettles.request, hrecords⟩
    rw [hholds]
    exact mem_updateRow_of_mem hmem rfl
  | repeated hrecords hperform =>
    obtain ⟨hfinal, hbooks⟩ := Prod.mk.inj (Except.ok.inj (hsettles.performed.symm.trans hperform))
    rw [hfinal] at hcurrency hmetered ⊢
    refine ⟨?_, hid, hsettles.cost, hcurrency, credits, settlement, hmetered, hsettles.request, hrecords⟩
    rw [hbooks]
    exact hmem
  | refused error _ hperform =>
    rw [hsettles.performed] at hperform
    cases hperform
  | rejected constraint _ _ hperform =>
    rw [hsettles.performed] at hperform
    cases hperform

/-- Settling it again, at any time and price, returns the same row and changes nothing. -/
theorem settleJob_again (hb : BooksInvariant s.books) (h : SettledBy holdId event row s) (ctx : CallContext)
    (occurredAt : Int) : settleJob ctx holdId occurredAt event s = .ok (row, s) := by
  obtain ⟨credits, settlement, hmetered, hrequest, hrecords⟩ := h.recorded
  have hperformed : settlement.perform ctx row.id s.books = .ok (row, s.books) := by
    cases settlementOutcome ctx settlement hb h.stored with
    | settled final books hheld _ _ _ _ _ _ _ =>
      exfalso
      cases settlement <;> simp [Settlement.Records, hheld] at hrecords
    | repeated _ hperform => exact hperform
    | refused error hnot _ => exact absurd hrecords hnot
    | rejected constraint hheld _ _ =>
      exfalso
      cases settlement <;> simp [Settlement.Records, hheld] at hrecords
  have hhold : holdOf holdId s.books = .ok row := h.id ▸ holdOf_eq hb h.stored
  exact settleJob_of_settles hhold
    ⟨h.cost, h.currency, terminalCredits_again hmetered ctx occurredAt, hrequest, hperformed⟩

theorem settlement_closed {settlement : Settlement} (h : settlement.Records row) : row.state ≠ .held := by
  cases settlement with
  | finalize data => simp [h.1]
  | release data => simp [h.1]

/-- Books that keep closed holds and usage records keep a settlement. -/
theorem SettledBy.kept {later : MeteredBooks} (h : SettledBy holdId event row s)
    (hbooks : Evolves s.books later.books) (husage : s.usage <+: later.usage) :
    SettledBy holdId event row later := by
  obtain ⟨credits, settlement, hmetered, hrequest, hrecords⟩ := h.recorded
  obtain ⟨other, hother, -, -, hsame⟩ := hbooks row h.stored
  have hother : row ∈ later.books.holds := hsame (settlement_closed hrecords) ▸ hother
  refine ⟨hother, h.id, h.cost, h.currency, credits, settlement, ?_, hrequest, hrecords⟩
  unfold MeteredAs at hmetered ⊢
  split
  · rename_i hpositive
    rw [if_pos hpositive] at hmetered
    obtain ⟨haccepted, record, hfind, hrecord⟩ := hmetered
    obtain ⟨rest, hrest⟩ := husage
    refine ⟨haccepted, record, ?_, hrecord⟩
    rw [← hrest, List.find?_append, hfind]
    rfl
  · rename_i hpositive
    rw [if_neg hpositive] at hmetered
    exact hmetered

/-- What a settlement does to the tables: the hold is settled by one credit call, and at most
one usage record is appended. -/
theorem booksInvariant_settleJob (hb : BooksInvariant s.books)
    (h : settleJob ctx holdId occurredAt event s = .ok (row, after)) : BooksInvariant after.books := by
  obtain ⟨hold, credits, settlement, -, hsettles⟩ := settles_of_settleJob h
  have hcall := perform_call ctx settlement hold.id s.books
  rw [hsettles.performed] at hcall
  have hbooks := booksInvariant_transact s.books (ctx, settlement.call hold.id) hb
  rw [transact_ok hcall] at hbooks
  exact hbooks

end Settled

end BlogOps.Billing
