import BlogOps.CreditSettlement

/-!
# Balances within their columns

Every credit operation that moves a balance writes a ledger entry with the
balances it leaves, and the insertion checks them against `Numeric(19, 6)`; so
in every reachable state both balances fit their columns.
-/

namespace BlogOps.Billing

open KeyedTables TransitionRuns

def BalancesFit (b : Books) : Prop :=
  numericFits (availableBalance b) = true ∧ numericFits (heldBalance b) = true

def entryFits (entry : CreditLedgerEntry) : Prop :=
  numericFits entry.availableAfter = true ∧ numericFits entry.heldAfter = true

variable {b b' : Books} {entry : CreditLedgerEntry}

theorem Shows.balancesFit (h : Shows b entry) : BalancesFit b := by
  unfold BalancesFit
  rw [← h.available, ← h.held]
  exact h.fits

theorem CreditEffect.balancesFit {call : CreditCall} (hbooks : BooksInvariant b) (hb : BalancesFit b)
    (h : CreditEffect call b b') : BalancesFit b' := by
  cases h with
  | same hsame => exact hsame ▸ hb
  | opened account _ hnone hzero hopened =>
    simp [BalancesFit, hopened, availableBalance, heldBalance, hzero.1, hzero.2, numericFits]
  | issued grant entry _ _ hshows => exact hshows.balancesFit
  | placed data hold new entry b₁ _ _ hshows => exact hshows.balancesFit
  | closed hold row taken consumed released new b₁ _ hclosing _ hshows =>
    -- A positive maximum leaves a consumed or a released part, and with it an entry.
    cases new with
    | nil =>
      have hpos := hbooks.hold_positive hold hclosing.member
      have hzero := hclosing.heldDelta
      rw [total_nil] at hzero
      omega
    | cons entry rest => exact (hshows entry List.mem_cons_self).balancesFit

/-- Balanced books whose balances fit their columns. -/
structure BoundedBooks (b : Books) : Prop where
  books : BooksInvariant b
  fit : BalancesFit b

theorem boundedBooks_initial (h : emptyBooks b) : BoundedBooks b := by
  refine ⟨.initial h, ?_⟩
  obtain ⟨-, -, -, -, haccount⟩ := h
  cases hnone : b.account with
  | none => simp [BalancesFit, availableBalance, heldBalance, hnone, numericFits]
  | some account =>
    obtain ⟨havailable, hheld⟩ := haccount account hnone
    simp [BalancesFit, availableBalance, heldBalance, hnone, havailable, hheld, numericFits]

theorem boundedBooks_transact (b : Books) (call : CallContext × CreditCall)
    (h : BoundedBooks b) : BoundedBooks (transact b call) :=
  ⟨booksInvariant_transact b call h.books,
    (transact_effect h.books call.1 call.2).balancesFit h.books h.fit⟩

end BlogOps.Billing
