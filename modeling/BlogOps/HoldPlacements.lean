import BlogOps.CreditSettlement

/-!
# Placements of holds

What `create_hold` writes of a hold no later call changes: along a run the
placements of the holds are only appended to, so a look-up by the idempotency
key of a hold finds that hold ever after.
-/

namespace BlogOps.Billing

open KeyedTables TransitionRuns List

/-- The row of a hold as `create_hold` wrote it. -/
def placement (hold : CreditHold) : CreditHold :=
  { hold with
    actualAmount := none
    releasedAmount := none
    state := .held
    finalizationEventId := none
    failureClass := none
    finalizedAt := none }

/-- The hold was asked for under the idempotency key of the request. -/
def sameKey (data : CreditHoldCreate) (hold : CreditHold) : Bool :=
  hold.subjectType = data.subjectType ∧ hold.subjectId = data.subjectId ∧
    hold.idempotencyKey = data.idempotencyKey

variable {hold : CreditHold} {b : Books} {ctx : CallContext} {data : CreditHoldCreate}

theorem eq_of_placement {β : Type} {row : CreditHold} (f : CreditHold → β)
    (hf : ∀ row, f (placement row) = f row) (h : placement row = placement hold) : f row = f hold := by
  rw [← hf row, h, hf]

/-- The two ways in which `create_hold` returns a hold. -/
inductive HoldAnswer (ctx : CallContext) (data : CreditHoldCreate) (b : Books)
    (hold : CreditHold) (b' : Books) : Prop where
  | repeated (hfind : b.holds.find? (sameKey data) = some hold)
      (hhash : hold.requestHash = ctx.canonicalHash data) (hbooks : b' = b)
  | created (price : BillingPriceVersion) (account : CreditAccount)
      (hfind : b.holds.find? (sameKey data) = none)
      (hprice : priceOf ctx data.priceVersionId = .ok price) (haccount : accountOf b = .ok account)
      (hhold : hold = newHold ctx data (ctx.canonicalHash data) price account)
      (hholds : b'.holds = b.holds ++ [hold])

theorem createHold_ok {b' : Books} (h : createHold ctx data b = .ok (hold, b')) :
    ctx.now < data.expiresAt ∧ HoldAnswer ctx data b hold b' := by
  unfold createHold at h
  split_ifs at h with hexpiry
  refine ⟨not_le.mp hexpiry, ?_⟩
  simp only at h
  split at h
  · rename_i existing hfind
    split_ifs at h with hhash
    cases h
    exact .repeated hfind (not_not.mp hhash) rfl
  · rename_i hfind
    obtain ⟨price, hprice, h⟩ := bind_ok h
    obtain ⟨account, haccount, h⟩ := bind_ok h
    split_ifs at h
    obtain ⟨b₁, hhold, h⟩ := bind_ok h
    obtain ⟨_, _, h⟩ := bind_ok h
    obtain ⟨b₂, hallocations, h⟩ := bind_ok h
    obtain ⟨b₃, hentry, h⟩ := bind_ok h
    have hholds := insertAllocations_holds hallocations
    have hnew := congrArg Books.holds (insertHold_ok hhold).1
    cases insertEntry_ok hentry
    cases h
    exact .created price account hfind hprice haccount rfl
      (hholds.trans ((allocateHold_holds _ _ _ _ _ _).trans hnew))

theorem createHold_repeats (hexpiry : ctx.now < data.expiresAt)
    (hfind : b.holds.find? (sameKey data) = some hold)
    (hhash : hold.requestHash = ctx.canonicalHash data) : createHold ctx data b = .ok (hold, b) := by
  have hfind' : b.holds.find? (fun hold => hold.subjectType = data.subjectType ∧
      hold.subjectId = data.subjectId ∧ hold.idempotencyKey = data.idempotencyKey) =
      some hold := hfind
  unfold createHold
  rw [if_neg (not_le.mpr hexpiry)]
  simp only [hfind', hhash, ne_eq, not_true_eq_false, ↓reduceIte]

theorem CreditEffect.placements {call : CreditCall} {b' : Books} (hb : BooksInvariant b)
    (h : CreditEffect call b b') : b'.holds.map placement = b.holds.map placement ∨
      ∃ data hold, call = .createHold data ∧ b'.holds = b.holds ++ [hold] := by
  cases h with
  | same hbooks => exact .inl (by rw [hbooks])
  | opened account _ _ _ hbooks => exact .inl (by rw [hbooks])
  | issued grant entry _ hissued _ => exact .inl (by rw [hissued.holds])
  | placed data hold new entry b₁ hcall hplaced _ =>
    exact .inr ⟨data, hold, hcall, hplaced.holds.trans hplaced.allocated.holds⟩
  | closed hold row taken consumed released new b₁ _ hclosing _ _ =>
    obtain ⟨_, _, _, _, _, rfl⟩ := hclosing.closes
    rw [hclosing.holds, hclosing.settled.holds]
    exact .inl (hb.holds_keyed.map_updateRow hclosing.member rfl rfl)

section

variable (hb : BooksInvariant b)

include hb

theorem placements_kept {call : CallContext × CreditCall} (hcall : ∀ data, call.2 ≠ .createHold data) :
    (transact b call).holds.map placement = b.holds.map placement := by
  rcases (transact_effect hb call.1 call.2).placements hb with hkept | ⟨data, hold, hcreate, -⟩
  · exact hkept
  · exact absurd hcreate (hcall data)

theorem perform_placement {s : Settlement} {row : CreditHold} {after : Books} (hhold : hold ∈ b.holds)
    (h : s.perform ctx hold.id b = .ok (row, after)) : placement row = placement hold := by
  cases settlementOutcome ctx s hb hhold with
  | settled final books _ hperform hid _ _ _ _ hholds =>
    cases h.symm.trans hperform
    have hcall : perform ctx b (s.call hold.id) = .ok after := by
      rw [perform_call, h]
      rfl
    rcases (perform_effect hb hcall).placements hb with hkept | ⟨data, _, hcreate, -⟩
    · have hrow : placement row ∈ b.holds.map placement := by
        rw [← hkept, hholds]
        exact mem_map_of_mem (mem_updateRow_of_mem hhold rfl)
      obtain ⟨old, hold', hsame⟩ := mem_map.mp hrow
      rw [← hb.holds_keyed.eq_of_key_eq hold' hhold ((congrArg CreditHold.id hsame).trans hid), hsame]
    · cases s <;> cases hcreate
  | repeated _ hperform =>
    cases h.symm.trans hperform
    rfl
  | refused error _ hperform => cases h.symm.trans hperform
  | rejected constraint _ _ hperform => cases h.symm.trans hperform

theorem placements_transact (call : CallContext × CreditCall) :
    b.holds.map placement <+: (transact b call).holds.map placement := by
  rcases (transact_effect hb call.1 call.2).placements hb with hkept | ⟨data, hold, -, hholds⟩
  · exact hkept.symm ▸ prefix_rfl
  · rw [show (transact b call).holds = b.holds ++ [hold] from hholds, map_append]
    exact prefix_append _ _

theorem placements_run (calls : List (CallContext × CreditCall)) :
    b.holds.map placement <+: (run transact b calls).holds.map placement := by
  induction calls generalizing b with
  | nil => exact prefix_rfl
  | cons call calls ih =>
    exact (placements_transact hb call).trans (ih (booksInvariant_transact b call hb))

/-- The hold found under an idempotency key is found under it after every run. -/
theorem find?_sameKey_run (hfind : b.holds.find? (sameKey data) = some hold)
    (calls : List (CallContext × CreditCall)) :
    ∃ row, (run transact b calls).holds.find? (sameKey data) = some row ∧
      placement row = placement hold := by
  obtain ⟨later, hlater⟩ := placements_run hb calls
  have hplaced : ∀ rows : List CreditHold, (rows.map placement).find? (sameKey data) =
      (rows.find? (sameKey data)).map placement := fun rows => find?_map ..
  have hafter := congrArg (List.find? (sameKey data)) hlater
  rw [find?_append, hplaced, hplaced, hfind] at hafter
  obtain ⟨row, hrow, hplacement⟩ := Option.map_eq_some_iff.mp hafter.symm
  exact ⟨row, hrow, hplacement⟩

end

/-- To repeat a request for a hold, whatever was called in between, gives the row of that hold and
changes nothing. -/
theorem createHold_idempotent {later : CallContext} {b' : Books} (hreach : Reachable transact emptyBooks b)
    (h : createHold ctx data b = .ok (hold, b')) (calls : List (CallContext × CreditCall))
    (hexpiry : later.now < data.expiresAt) (hhash : later.canonicalHash data = ctx.canonicalHash data) :
    ∃ row, createHold later data (run transact b' calls) = .ok (row, run transact b' calls) ∧
      placement row = placement hold := by
  have hb := invariant_reachable transact (fun _ => .initial)
    (fun b call => booksInvariant_transact b call) hreach
  have hb' := (effect_createHold hb h).books hb
  have hplaced : b'.holds.find? (sameKey data) = some hold ∧ hold.requestHash = ctx.canonicalHash data := by
    cases (createHold_ok h).2 with
    | repeated hfind hsame hbooks => exact ⟨hbooks ▸ hfind, hsame⟩
    | created price account hfind _ _ hhold hholds =>
      rw [hholds, find?_append, hfind, hhold]
      simp [sameKey, newHold]
  obtain ⟨row, hfind, hrow⟩ := find?_sameKey_run hb' hplaced.1 calls
  refine ⟨row, createHold_repeats hexpiry hfind ?_, hrow⟩
  rw [eq_of_placement CreditHold.requestHash (fun _ => rfl) hrow, hplaced.2, hhash]

def wholeBalance : CreditHoldCreate where
  subjectType := "job"
  subjectId := "7"
  operation := "generate"
  priceVersionId := 7
  maximumAmount := 5000000
  maximumAmount_pos := five_million_pos
  idempotencyKey := "generate-7"
  expiresAt := 60

/-- A hold of the whole balance is found again when nothing is left for another one. -/
theorem createHold_idempotent_wholeBalance :
    ∃ hold b', createHold (contextAt 3) wholeBalance (run transact {} (sharedEventCalls.take 2)) =
        .ok (hold, b') ∧
      ∀ calls, ∃ row, createHold (contextAt 9) wholeBalance (run transact b' calls) =
        .ok (row, run transact b' calls) ∧ placement row = placement hold := by
  have hcreates : (createHold (contextAt 3) wholeBalance
      (run transact {} (sharedEventCalls.take 2))).toOption.isSome = true := by
    decide +kernel
  cases h : createHold (contextAt 3) wholeBalance (run transact {} (sharedEventCalls.take 2)) with
  | error e => simp [h, Except.toOption] at hcreates
  | ok answer =>
    refine ⟨answer.1, answer.2, rfl, fun calls => ?_⟩
    exact createHold_idempotent ⟨{}, _, by simp [emptyBooks], rfl⟩ h calls (by decide) rfl

end BlogOps.Billing
