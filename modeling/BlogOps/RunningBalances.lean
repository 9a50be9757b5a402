import BlogOps.CreditSettlement

/-!
# Running balances of the ledger

Replaying the ledger from zero, entry by entry, gives the balances that each
entry shows.  Calls with one entry keep this; a settlement that consumes a part
of its hold and releases the rest writes two entries, and both show the balances
after the second.
-/

namespace BlogOps.Billing

open KeyedTables TransitionRuns List

/-- Each entry shows the balances before it plus its own deltas. -/
def Replays : Int → Int → List CreditLedgerEntry → Prop
  | _, _, [] => True
  | available, held, entry :: rest =>
    entry.availableAfter = available + entry.availableDelta ∧ entry.heldAfter = held + entry.heldDelta ∧
      Replays entry.availableAfter entry.heldAfter rest

instance decidableReplays : (available held : Int) → (entries : List CreditLedgerEntry) →
    Decidable (Replays available held entries)
  | _, _, [] => inferInstanceAs (Decidable True)
  | _, _, entry :: rest =>
    have := decidableReplays entry.availableAfter entry.heldAfter rest
    inferInstanceAs (Decidable (_ ∧ _ ∧ _))

def RunningBalances (b : Books) : Prop := Replays 0 0 b.entries

/-- The call settles a live hold and consumes a part of it only. -/
def SplitsHold (b : Books) (call : CallContext × CreditCall) : Prop :=
  transact b call ≠ b ∧ ∃ hold ∈ b.holds, ∃ consumed, call.2.asks = some (hold.id, consumed) ∧
    hold.state = .held ∧ 0 < consumed ∧ consumed < hold.maximumAmount

theorem replays_append {available held : Int} {before after : List CreditLedgerEntry} :
    Replays available held (before ++ after) ↔ Replays available held before ∧
      Replays (available + total (·.availableDelta) before) (held + total (·.heldDelta) before) after := by
  induction before generalizing available held with
  | nil => simp [Replays]
  | cons entry before ih =>
    simp only [cons_append, Replays, ih, total_cons, and_assoc]
    refine and_congr_right fun havailable => and_congr_right fun hheld => and_congr_right fun _ => ?_
    rw [havailable, hheld, add_assoc, add_assoc]

/-- The entry of a call that writes one entry replays. -/
theorem replays_one {b b' : Books} {entry : CreditLedgerEntry} (hshows : Shows b' entry)
    (hbalance : availableBalance b' = availableBalance b + entry.availableDelta)
    (hheld : heldBalance b' = heldBalance b + entry.heldDelta) :
    Replays (availableBalance b) (heldBalance b) [entry] :=
  ⟨hshows.available.trans hbalance, hshows.held.trans hheld, trivial⟩

section

variable {b b' : Books} {call : CallContext × CreditCall} (hb : BooksInvariant b)

include hb

/-- New entries go on from the balances of the account. -/
theorem runningBalances_of_append {new : List CreditLedgerEntry} (hentries : b'.entries = b.entries ++ new) :
    RunningBalances b' ↔ RunningBalances b ∧ Replays (availableBalance b) (heldBalance b) new := by
  unfold RunningBalances
  rw [hentries, replays_append, zero_add, zero_add, hb.ledger_available, hb.ledger_held]

theorem entries_transact (call : CallContext × CreditCall) : b.entries <+: (transact b call).entries := by
  cases transact_effect hb call.1 call.2 with
  | same hbooks => exact (congrArg Books.entries hbooks).symm ▸ prefix_rfl
  | opened account _ _ _ hbooks => exact (congrArg Books.entries hbooks).symm ▸ prefix_rfl
  | issued grant entry _ hissued _ => exact ⟨_, hissued.entries.symm⟩
  | placed data hold new entry b₁ _ hplaced _ =>
    exact ⟨_, (hplaced.entries.trans (by rw [hplaced.allocated.entries])).symm⟩
  | closed hold row taken consumed released new b₁ _ hclosing _ _ =>
    exact ⟨_, (hclosing.entries.trans (by rw [hclosing.settled.entries])).symm⟩

theorem entries_run (calls : List (CallContext × CreditCall)) :
    b.entries <+: (run transact b calls).entries := by
  induction calls generalizing b with
  | nil => exact prefix_rfl
  | cons call calls ih => exact (entries_transact hb call).trans (ih (booksInvariant_transact b call hb))

/-- Closing a hold replays unless both parts of it are positive. -/
theorem replays_closing {hold row : CreditHold} {taken : List CreditHoldAllocation} {consumed released : Int}
    {new : List CreditLedgerEntry} {b₁ : Books} (h : Closing hold row taken consumed released new b b₁ b')
    (hparts : new.map (·.heldDelta) = ([consumed, released].filter (0 < ·)).map (-·))
    (hshows : ∀ entry ∈ new, Shows b' entry) :
    Replays (availableBalance b) (heldBalance b) new ↔ ¬ (0 < consumed ∧ 0 < released) := by
  have hpos := hb.hold_positive hold h.member
  have hsum := h.sum
  have hdelta := h.delta
  have hheldDelta := h.heldDelta
  by_cases hboth : 0 < consumed ∧ 0 < released
  · refine iff_of_false (fun hreplays => ?_) (not_not_intro hboth)
    cases new with
    | nil => simp [hboth] at hparts
    | cons entry rest =>
      have hentry : entry.heldDelta = -consumed := by
        simp only [hboth.1, hboth.2, filter_cons, decide_true, ↓reduceIte, map_cons,
          List.cons.injEq] at hparts
        exact hparts.1
      have hafter := (hshows entry mem_cons_self).held.symm.trans hreplays.2.1
      have hbalance := h.held
      omega
  · refine iff_of_true ?_ hboth
    have hone : ∃ entry, new = [entry] := by
      rw [← length_eq_one_iff, ← length_map (fun entry : CreditLedgerEntry => entry.heldDelta),
        hparts]
      rcases h.nonneg with ⟨hconsumed, hreleased⟩
      by_cases hzero : 0 < consumed
      · simp [hzero, not_and.mp hboth hzero]
      · simp [hzero, show 0 < released by omega]
    obtain ⟨entry, rfl⟩ := hone
    simp only [total_cons, total_nil, add_zero] at hdelta hheldDelta
    refine replays_one (hshows entry mem_cons_self) ?_ ?_
    · rw [h.balance, hdelta]
    · rw [h.held, hheldDelta, sub_eq_add_neg]

/-- A call keeps the running balances exactly when it does not split a hold. -/
theorem runningBalances_transact (h : RunningBalances b) :
    RunningBalances (transact b call) ↔ ¬ SplitsHold b call := by
  have hwhole (hasks : call.2.asks = none) : ¬ SplitsHold b call := by
    rintro ⟨-, hold, -, consumed, hcall, -⟩
    rw [hasks] at hcall
    cases hcall
  cases transact_effect hb call.1 call.2 with
  | same hbooks =>
    have hsame : transact b call = b := hbooks
    rw [hsame]
    exact iff_of_true h fun hsplits => hsplits.1 hsame
  | opened account hasks _ _ hbooks =>
    refine iff_of_true ?_ (hwhole hasks)
    unfold RunningBalances
    rw [show transact b call = _ from hbooks]
    exact h
  | issued grant entry hasks hissued hshows =>
    refine iff_of_true ?_ (hwhole hasks)
    refine (runningBalances_of_append hb hissued.entries).mpr ⟨h, replays_one hshows ?_ ?_⟩
    · rw [hissued.balance, hissued.delta]
    · rw [hissued.held, hissued.heldDelta, add_zero]
  | placed data hold new entry b₁ hcall hplaced hshows =>
    refine iff_of_true ?_ (hwhole (by rw [hcall]; rfl))
    refine (runningBalances_of_append hb (hplaced.entries.trans (by rw [hplaced.allocated.entries]))).mpr
      ⟨h, replays_one hshows ?_ ?_⟩
    · rw [hplaced.balance, hplaced.delta, sub_eq_add_neg]
    · rw [hplaced.held, hplaced.heldDelta]
  | closed hold row taken consumed released new b₁ hcall hclosing hparts hshows =>
    have hentries := hclosing.entries.trans (by rw [hclosing.settled.entries])
    have hnew : new ≠ [] := by
      rintro rfl
      have hpos := hb.hold_positive hold hclosing.member
      have hzero := hclosing.heldDelta
      rw [total_nil] at hzero
      omega
    have hsum := hclosing.sum
    rw [runningBalances_of_append hb hentries, replays_closing hb hclosing hparts hshows,
      and_iff_right h, not_iff_not]
    constructor
    · rintro ⟨hconsumed, hreleased⟩
      refine ⟨fun hsame => hnew ?_, hold, hclosing.member, consumed, hcall, hclosing.live, hconsumed,
        by omega⟩
      exact self_eq_append_right.mp ((congrArg Books.entries hsame).symm.trans hentries)
    · rintro ⟨-, other, hother, amount, hasks, -, hamount, hmaximum⟩
      obtain ⟨hid, rfl⟩ := Prod.mk.inj (Option.some.inj (hcall.symm.trans hasks))
      obtain rfl := hb.holds_keyed.eq_of_key_eq hclosing.member hother hid
      exact ⟨hamount, by omega⟩

theorem runningBalances_run (h : RunningBalances b) (calls : List (CallContext × CreditCall)) :
    RunningBalances (run transact b calls) ↔ Along transact (fun b call => ¬ SplitsHold b call) b calls := by
  induction calls generalizing b with
  | nil => exact iff_of_true h trivial
  | cons call calls ih =>
    have hafter := booksInvariant_transact b call hb
    have hstep : _ ↔ ¬ SplitsHold b call := runningBalances_transact hb h
    by_cases hsplits : SplitsHold b call
    · refine iff_of_false (fun hend => ?_) fun halong => halong.1 hsplits
      obtain ⟨new, hnew⟩ := entries_run hafter calls
      exact hstep.mp ((runningBalances_of_append hafter hnew.symm).mp hend).1 hsplits
    · rw [run_cons, ih hafter (hstep.mpr hsplits), along_cons]
      exact (and_iff_right hsplits).symm

end

/-- The ledger of a reachable state replays exactly when no call of the run split a hold. -/
theorem ledger_replays_iff {b : Books} (h : emptyBooks b) (calls : List (CallContext × CreditCall)) :
    RunningBalances (run transact b calls) ↔ Along transact (fun b call => ¬ SplitsHold b call) b calls := by
  refine runningBalances_run (.initial h) ?_ calls
  unfold RunningBalances
  rw [h.2.2.2.1]
  trivial

theorem ledger_replays_sharedEvent : RunningBalances (run transact {} sharedEventCalls) ∧
    (run transact {} sharedEventCalls).entries.map (fun entry => (entry.kind, entry.heldDelta)) =
      [(.grant, 0), (.hold, 1000000), (.hold, 2000000), (.consume, -1000000)] := by
  have hmaximum : ∀ hold ∈ (run transact {} (sharedEventCalls.take 4)).holds,
      hold.id = 300 → hold.maximumAmount = 1000000 := by
    decide +kernel
  refine ⟨(ledger_replays_iff (by simp [emptyBooks]) _).mpr ?_, by decide +kernel⟩
  refine ⟨by simp [SplitsHold, CreditCall.asks], by simp [SplitsHold, CreditCall.asks],
    by simp [SplitsHold, CreditCall.asks], by simp [SplitsHold, CreditCall.asks], ?_, trivial⟩
  rintro ⟨-, hold, hhold, consumed, hasks, -, -, hless⟩
  obtain ⟨hid, rfl⟩ := Prod.mk.inj (Option.some.inj hasks)
  exact absurd hless (by rw [hmaximum hold hhold hid.symm]; decide)

/-- The hold of `2` is finalized for `0.5`. -/
def splitCalls : List (CallContext × CreditCall) :=
  sharedEventCalls.take 4 ++ [(contextAt 5, .finalizeHold 400 {
    finalizationEventId := "generate-9-done", actualAmount := 500000
    actualAmount_nonneg := by decide, failureClass := none, reasonCode := none
    reason_pair := unreasoned })]

/-- The entry of the consumed part already shows the released one. -/
theorem ledger_splitCalls_jumps : ¬ RunningBalances (run transact {} splitCalls) := by
  unfold RunningBalances
  decide +kernel

/-- The balances of the account are those after the last entry. -/
def LastShows (b : Books) : Prop :=
  availableBalance b = (b.entries.getLast?.map (·.availableAfter)).getD 0 ∧
    heldBalance b = (b.entries.getLast?.map (·.heldAfter)).getD 0

theorem lastShows_of_append {b b' : Books} {new : List CreditLedgerEntry} (hnew : new ≠ [])
    (hentries : b'.entries = b.entries ++ new) (hshows : ∀ entry ∈ new, Shows b' entry) : LastShows b' := by
  have hlast := hshows _ (getLast_mem hnew)
  unfold LastShows
  rw [hentries, getLast?_append_of_ne_nil _ hnew, getLast?_eq_some_getLast hnew]
  exact ⟨hlast.available.symm, hlast.held.symm⟩

theorem lastShows_transact {b : Books} (hb : BooksInvariant b) (h : LastShows b)
    (call : CallContext × CreditCall) : LastShows (transact b call) := by
  cases transact_effect hb call.1 call.2 with
  | same hbooks =>
    rw [show transact b call = b from hbooks]
    exact h
  | opened account _ hnone hzero hbooks =>
    have hsame : availableBalance b = 0 ∧ heldBalance b = 0 := by
      simp [availableBalance, heldBalance, hnone]
    rw [show transact b call = _ from hbooks]
    unfold LastShows at h ⊢
    rw [← h.1, ← h.2, hsame.1, hsame.2]
    exact hzero
  | issued grant entry _ hissued hshows =>
    exact lastShows_of_append (cons_ne_nil entry []) hissued.entries (by simpa using hshows)
  | placed data hold new entry b₁ _ hplaced hshows =>
    refine lastShows_of_append (b := b) (cons_ne_nil entry []) ?_ (by simpa using hshows)
    exact hplaced.entries.trans (by rw [hplaced.allocated.entries])
  | closed hold row taken consumed released new b₁ _ hclosing _ hshows =>
    refine lastShows_of_append ?_ (hclosing.entries.trans (by rw [hclosing.settled.entries])) hshows
    rintro rfl
    have hpositive := hb.hold_positive hold hclosing.member
    have hheld := hclosing.heldDelta
    rw [total_nil] at hheld
    omega

/-- Entries are only appended, and the last one shows the balances of the account. -/
theorem last_entry_balances {b : Books} (h : emptyBooks b) (before after : List (CallContext × CreditCall)) :
    LastShows (run transact b (before ++ after)) ∧
      (run transact b before).entries <+: (run transact b (before ++ after)).entries := by
  have hinitial : LastShows b := by
    refine ⟨?_, ?_⟩
    all_goals
      rw [h.2.2.2.1]
      cases haccount : b.account with
      | none => simp [availableBalance, heldBalance, haccount]
      | some account => simp [availableBalance, heldBalance, haccount, h.2.2.2.2 account haccount]
  have hrun := invariant_run transact (I := fun b => BooksInvariant b ∧ LastShows b)
    (fun b call hb => ⟨booksInvariant_transact b call hb.1, lastShows_transact hb.1 hb.2 call⟩)
    ⟨.initial h, hinitial⟩
  refine ⟨(hrun _).2, ?_⟩
  rw [run_append]
  exact entries_run (hrun before).1 after

/-- The ledger of `splitCalls`, which jumps in between, still ends at the balances of the account. -/
theorem last_entry_splitCalls : LastShows (run transact {} splitCalls) :=
  (last_entry_balances (by simp [emptyBooks]) [] splitCalls).1

end BlogOps.Billing
