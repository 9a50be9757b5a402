import BlogOps.JobSettlement

/-!
# Placing a hold

`create_hold` under a key that no hold has yet.  With a price in force, enough credits
in the balance and in the spendable grants, and ids that no row has, nothing that the
database checks is in the way of the hold.
-/

namespace BlogOps.Billing

open KeyedTables TransitionRuns List

/-- The ids that a call draws for the rows of a hold are fresh. -/
structure FreshRows (ctx : CallContext) (b : Books) : Prop where
  distinct : Function.Injective ctx.newId
  hold : ∀ hold ∈ b.holds, hold.id ≠ ctx.newId 0
  allocation : ∀ a ∈ b.allocations, ∀ n, a.id ≠ ctx.newId n
  entry : ∀ entry ∈ b.entries, entry.id ≠ ctx.newId 1
  entry_key : ∀ entry ∈ b.entries, entry.idempotencyKey ≠ "hold:" ++ toString (ctx.newId 0)
  width : ("hold:" ++ toString (ctx.newId 0)).length ≤ 255

/-- An amount that the workspace can hold now: the balance and the grants that are not expired
cover it, and the held balance has room for it in its column. -/
structure EnoughCredits (now amount : Int) (b : Books) : Prop where
  balance : amount ≤ availableBalance b
  grants : ∀ account, b.account = some account →
    amount ≤ total (·.availableAmount) (spendableGrants account.id now b)
  held : heldBalance b + amount < 10 ^ 19

theorem insertHold_of {hold : CreditHold} {b : Books} (hid : ∀ other ∈ b.holds, other.id ≠ hold.id)
    (hkey : ∀ other ∈ b.holds, ¬ (other.subjectType = hold.subjectType ∧
      other.subjectId = hold.subjectId ∧ other.idempotencyKey = hold.idempotencyKey))
    (hfits : numericFits hold.maximumAmount = true) :
    insertHold hold b = .ok { b with holds := b.holds ++ [hold] } := by
  unfold insertHold
  rw [if_neg (by simpa using hid), if_neg (by simpa using hkey), if_neg (by simp [hfits])]

theorem insertAllocations_of {new : List CreditHoldAllocation} {b : Books}
    (hnew : ∀ a ∈ new, ∀ other ∈ b.allocations, other.id ≠ a.id ∧
      ¬ (other.holdId = a.holdId ∧ other.grantId = a.grantId))
    (hdistinct : new.Pairwise fun a c => a.id ≠ c.id ∧ a.grantId ≠ c.grantId) :
    insertAllocations new b = .ok { b with allocations := b.allocations ++ new } := by
  induction new generalizing b with
  | nil => simp [insertAllocations]
  | cons a new ih =>
    obtain ⟨hhead, htail⟩ := pairwise_cons.mp hdistinct
    have hfresh := hnew a mem_cons_self
    have hid : ∀ other ∈ b.allocations, other.id ≠ a.id := fun other hother => (hfresh other hother).1
    have hgrant : ∀ other ∈ b.allocations, ¬ (other.holdId = a.holdId ∧ other.grantId = a.grantId) :=
      fun other hother => (hfresh other hother).2
    unfold insertAllocations
    rw [if_neg (by simpa using hid), if_neg (by simpa using hgrant), ih ?_ htail]
    · simp
    · intro c hc other hother
      rcases mem_append.mp hother with hother | hother
      · exact hnew c (mem_cons_of_mem _ hc) other hother
      · rw [mem_singleton.mp hother]
        have hne := hhead c hc
        exact ⟨hne.1, fun hsame => hne.2 hsame.2⟩

/-- The ids of the rows that the allocation loop makes, from its order on. -/
structure AllocationIds (ctx : CallContext) (grants : List CreditGrant) (order : Nat)
    (new : List CreditHoldAllocation) : Prop where
  id : ∀ a ∈ new, ∃ n, order < n ∧ a.id = ctx.newId (2 + n)
  grant : ∀ a ∈ new, ∃ grant ∈ grants, a.grantId = grant.id
  distinct : new.Pairwise fun a c => a.id ≠ c.id ∧ a.grantId ≠ c.grantId

theorem allocationIds_allocateHold {ctx : CallContext} (hids : Function.Injective ctx.newId) (holdId : Uuid)
    {grants : List CreditGrant} (hgrants : Keyed (·.id) grants) (remaining : Int) (order : Nat) (b : Books) :
    AllocationIds ctx grants order (allocateHold ctx holdId grants remaining order b).2 := by
  induction grants generalizing remaining order b with
  | nil => exact ⟨by simp [allocateHold], by simp [allocateHold], by simp [allocateHold]⟩
  | cons grant grants ih =>
    unfold allocateHold
    split_ifs with hzero
    · exact ⟨by simp, by simp, by simp⟩
    · obtain ⟨hother, hrest⟩ := Keyed.cons_iff.mp hgrants
      simp only
      set rest := allocateHold ctx holdId grants (remaining - min grant.availableAmount remaining)
        (order + 1) (updateGrant grant.id (fun row => { row with
          availableAmount := row.availableAmount - min grant.availableAmount remaining
          heldAmount := row.heldAmount + min grant.availableAmount remaining }) b)
      have hloop : AllocationIds ctx grants (order + 1) rest.2 := ih hrest _ _ _
      refine ⟨?_, ?_, ?_⟩
      · intro a ha
        rcases mem_cons.mp ha with rfl | ha
        · exact ⟨order + 1, by omega, rfl⟩
        · obtain ⟨n, hn, hid⟩ := hloop.id a ha
          exact ⟨n, by omega, hid⟩
      · intro a ha
        rcases mem_cons.mp ha with rfl | ha
        · exact ⟨grant, mem_cons_self, rfl⟩
        · obtain ⟨row, hrow, hid⟩ := hloop.grant a ha
          exact ⟨row, mem_cons_of_mem _ hrow, hid⟩
      · apply pairwise_cons.mpr
        refine ⟨?_, hloop.distinct⟩
        intro a ha
        obtain ⟨n, hn, hid⟩ := hloop.id a ha
        obtain ⟨row, hrow, hgrant⟩ := hloop.grant a ha
        constructor
        · intro hsame
          have hn' := hids (hsame.trans hid)
          omega
        · intro hsame
          exact hother row hrow (hgrant.symm.trans hsame.symm)

section Placing

variable {ctx : CallContext} {data : CreditHoldCreate} {b : Books} {price : BillingPriceVersion}
  {account : CreditAccount}

theorem numericFits_of {value : Int} (hnonneg : 0 ≤ value) (hlt : value < 10 ^ 19) :
    numericFits value = true := by
  simp only [numericFits, decide_eq_true_eq]
  omega

theorem heldBalance_nonneg (hb : BooksInvariant b) : 0 ≤ heldBalance b := by
  rw [hb.held_total]
  exact totalWhere_nonneg fun hold hhold => le_of_lt (hb.hold_positive hold hhold)

/-- The entry of a new hold is the first one under the key of its id. -/
theorem placeHold_of (hb : BoundedBooks b) (haccount : b.account = some account)
    (hkey : ∀ other ∈ b.holds, ¬ (other.subjectType = data.subjectType ∧
      other.subjectId = data.subjectId ∧ other.idempotencyKey = data.idempotencyKey))
    (hfits : data.maximumAmount < 10 ^ 19) (henough : EnoughCredits ctx.now data.maximumAmount b)
    (hfresh : FreshRows ctx b) (requestHash : String) :
    ∃ b', placeHold ctx data requestHash price account
      (spendableGrants account.id ctx.now b) b =
        .ok (newHold ctx data requestHash price account, b') := by
  set hold := newHold ctx data requestHash price account with hhold
  set grants := spendableGrants account.id ctx.now b with hgrants
  have hpos := data.maximumAmount_pos
  have hinsert : insertHold hold b = .ok { b with holds := b.holds ++ [hold] } :=
    insertHold_of hfresh.hold hkey (numericFits_of (le_of_lt hpos) hfits)
  have hperm := spendableGrants_perm account.id ctx.now b
  have hkeyed : Keyed (·.id) grants := (hb.books.grants_keyed.sublist filter_sublist).perm hperm
  have hrows : AllocationIds ctx grants 0
      (allocateHold ctx hold.id grants data.maximumAmount 0
        { b with holds := b.holds ++ [hold] }).2 :=
    allocationIds_allocateHold hfresh.distinct hold.id hkeyed _ _ _
  obtain ⟨halloc, -⟩ := @allocateHold_allocated ctx hold.id grants data.maximumAmount 0
    { b with holds := b.holds ++ [hold] } hb.books.grants_keyed hkeyed
    (fun grant hgrant => (mem_filter.mp (hperm.mem_iff.mp hgrant)).1)
    hb.books.grant_available (le_of_lt hpos) (henough.grants account haccount)
  have hbalance := henough.balance
  have hroom := henough.held
  have havailable := availableBalance_nonneg hb.books
  have hheld := heldBalance_nonneg hb.books
  have hfit := hb.fit.1
  rw [availableBalance_some haccount] at hbalance havailable hfit
  rw [heldBalance_some haccount] at hroom hheld
  simp only [numericFits, decide_eq_true_eq] at hfit
  unfold placeHold
  rw [← hhold, bind_of_ok hinsert]
  dsimp only
  rw [bind_of_ok (ensureBalanceTransition_eq havailable hheld (by omega) (by omega)),
    bind_of_ok (insertAllocations_of ?_ hrows.distinct), bind_of_ok (insertEntry_of ?_ ?_ ?_ ?_ ?_)]
  · exact ⟨_, rfl⟩
  · dsimp only
    rw [halloc.entries]
    exact hfresh.entry
  · dsimp only
    rw [halloc.entries]
    exact hfresh.entry_key
  · rfl
  · exact hfresh.width
  · exact ⟨numericFits_of (by dsimp only; omega) (by dsimp only; omega),
      numericFits_of (by dsimp only; omega) hroom⟩
  · dsimp only
    rw [halloc.allocations]
    intro a ha other hother
    obtain ⟨n, -, hid⟩ := hrows.id a ha
    obtain ⟨hholdId, -, -⟩ := halloc.new_rows a ha
    obtain ⟨row, hrow, howner⟩ := hb.books.allocation_hold other hother
    refine ⟨hid ▸ hfresh.allocation other hother _, ?_⟩
    rintro ⟨hsame, -⟩
    exact hfresh.hold row hrow (howner.trans (hsame.trans hholdId))

/-- A key that no hold has, a price in force and enough credits: the hold is placed. -/
theorem createHold_of (hb : BoundedBooks b) (hexpiry : ctx.now < data.expiresAt)
    (hfind : b.holds.find? (sameKey data) = none) (hprice : priceOf ctx data.priceVersionId = .ok price)
    (hfits : data.maximumAmount < 10 ^ 19) (henough : EnoughCredits ctx.now data.maximumAmount b)
    (hfresh : FreshRows ctx b) :
    ∃ hold b', createHold ctx data b = .ok (hold, b') ∧ hold.id = ctx.newId 0 := by
  have hkey : ∀ other ∈ b.holds, ¬ (other.subjectType = data.subjectType ∧
      other.subjectId = data.subjectId ∧ other.idempotencyKey = data.idempotencyKey) := by
    intro other hother
    have hother' := find?_eq_none.mp hfind other hother
    simpa [sameKey] using hother'
  have hfind' : b.holds.find? (fun hold => hold.subjectType = data.subjectType ∧
      hold.subjectId = data.subjectId ∧ hold.idempotencyKey = data.idempotencyKey) = none := hfind
  obtain ⟨account, haccount⟩ : ∃ account, b.account = some account := by
    have hpos := data.maximumAmount_pos
    have hbalance := henough.balance
    cases haccount : b.account with
    | some account => exact ⟨account, rfl⟩
    | none =>
      simp only [availableBalance, haccount, Option.elim_none] at hbalance
      omega
  have hbalance := henough.balance
  rw [availableBalance_some haccount] at hbalance
  obtain ⟨after, hplace⟩ : ∃ after, placeHold ctx data (ctx.canonicalHash data) price account
      (spendableGrants account.id ctx.now b) b =
        .ok (newHold ctx data (ctx.canonicalHash data) price account, after) :=
    placeHold_of hb haccount hkey hfits henough hfresh (ctx.canonicalHash data)
  refine ⟨newHold ctx data (ctx.canonicalHash data) price account, after, ?_, rfl⟩
  unfold createHold
  rw [if_neg (not_le.mpr hexpiry)]
  simp only [hfind']
  rw [bind_of_ok hprice, bind_of_ok (accountOf_eq haccount), if_neg (not_lt.mpr hbalance),
    if_neg (not_lt.mpr (henough.grants account haccount))]
  exact hplace

end Placing

end BlogOps.Billing
