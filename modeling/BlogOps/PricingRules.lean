import BlogOps.CreditRows
import BlogOps.DigitRounding

/-!
# Pricing of a quantity

The conversion of provider cost units to credits of the ledger, in the default
decimal context: 28 digits, ties to even.  Prices are the integers of their
`Numeric(19, 6)` columns, quantities are exact rationals.
-/

namespace BlogOps.Billing

open DigitRounding

/-- `Field(min_length=least, max_length=most)`. -/
def textFits (least most : Nat) (value : String) : Bool := least ≤ value.length && value.length ≤ most

/-- A `Numeric(19, 6)` column as a decimal. -/
def numeric (value : Int) : ℚ := value / 10 ^ 6

/-- A result of decimal arithmetic.  `Overflow` is left out: a value that large is refused by
`quantizeCredits`, with the same error. -/
def inContext (x : ℚ) : ℚ := roundDigits 10 28 (-1000026) x

def quotient (x y : ℚ) : Except Failure ℚ :=
  if y = 0 then .error .decimalError else .ok (inContext (x / y))

def pricedQuantity (price : BillingPriceVersion) (quantity : ℚ) : Except Failure ℚ :=
  match price.rounding with
  | some "PROPORTIONAL" => quotient quantity (numeric price.unitSize)
  | some "CEILING_UNIT" => do
    let units ← quotient quantity (numeric price.unitSize)
    .ok ⌈units⌉
  | _ =>
    .error (.app {
      code := "PRICING_ROUNDING_CONFIG_MISSING"
      message := "가격표의 단위 반올림 정책이 구성되지 않았습니다."
      statusCode := 503 })

/-- `quantize(Decimal("0.000001"), rounding=ROUND_CEILING)`, in units of `0.000001`. -/
def quantizeCredits (value : ℚ) : Except Failure Int :=
  if 10 ^ 28 ≤ ⌈value * 10 ^ 6⌉.natAbs then .error .decimalError else .ok ⌈value * 10 ^ 6⌉

/-- `except DecimalException` of `price_credit_amount`. -/
def conversionChecked {α : Type} : Except Failure α → Except Failure α
  | .error .decimalError =>
    .error (.app {
      code := "PRICING_CONVERSION_INVALID"
      message := "가격표 단위를 크레딧 원장 단위로 안전하게 변환할 수 없습니다."
      statusCode := 503 })
  | result => result

def priceCreditAmount (price : BillingPriceVersion) (quantity : ℚ) : Except Failure Int :=
  conversionChecked do
    let units ← pricedQuantity price quantity
    quantizeCredits (inContext (units * numeric price.creditUnitPrice))

variable {x : ℚ}

theorem inContext_mono {y : ℚ} (hx : 0 ≤ x) (h : x ≤ y) : inContext x ≤ inContext y :=
  roundDigits_mono (by decide) (by decide) _ hx h

theorem inContext_nonneg (hx : 0 ≤ x) : 0 ≤ inContext x := roundDigits_nonneg (by decide) _ _ hx

theorem numeric_nonneg {value : Int} (h : 0 ≤ value) : 0 ≤ numeric value :=
  div_nonneg (by exact_mod_cast h) (by norm_num)

theorem numeric_pos {value : Int} (h : 0 < value) : 0 < numeric value :=
  div_pos (by exact_mod_cast h) (by norm_num)

theorem pricedQuantity_mono {price : BillingPriceVersion} (hsize : 0 < price.unitSize) {a m : ℚ}
    (ha : 0 ≤ a) (ham : a ≤ m) {units : ℚ} (h : pricedQuantity price m = .ok units) :
    ∃ less, pricedQuantity price a = .ok less ∧ 0 ≤ less ∧ less ≤ units := by
  have hpos := numeric_pos hsize
  have hquotient : ∀ q, quotient q (numeric price.unitSize) =
      .ok (inContext (q / numeric price.unitSize)) := fun q => if_neg hpos.ne'
  have hnonneg : 0 ≤ a / numeric price.unitSize := div_nonneg ha hpos.le
  have hle : a / numeric price.unitSize ≤ m / numeric price.unitSize := by gcongr
  unfold pricedQuantity at h ⊢
  split at h
  · rw [hquotient] at h ⊢
    cases h
    exact ⟨_, rfl, inContext_nonneg hnonneg, inContext_mono hnonneg hle⟩
  · rw [hquotient] at h ⊢
    cases h
    refine ⟨_, rfl, ?_, ?_⟩
    · exact_mod_cast Int.ceil_nonneg (inContext_nonneg hnonneg)
    · exact_mod_cast Int.ceil_le_ceil (inContext_mono hnonneg hle)
  · cases h

theorem quantizeCredits_mono {y : ℚ} (hx : 0 ≤ x) (hxy : x ≤ y) {credits : Int}
    (h : quantizeCredits y = .ok credits) :
    ∃ less, quantizeCredits x = .ok less ∧ 0 ≤ less ∧ less ≤ credits := by
  unfold quantizeCredits at h ⊢
  split_ifs at h with hlarge
  cases h
  have hnonneg : 0 ≤ ⌈x * 10 ^ 6⌉ := Int.ceil_nonneg (by positivity)
  have hle : ⌈x * 10 ^ 6⌉ ≤ ⌈y * 10 ^ 6⌉ := Int.ceil_le_ceil (by gcongr)
  rw [if_neg (by omega)]
  exact ⟨_, rfl, hnonneg, hle⟩

theorem conversionChecked_ok {α : Type} {result : Except Failure α} {value : α} :
    conversionChecked result = .ok value ↔ result = .ok value := by
  unfold conversionChecked
  split <;> simp

/-- What an authorized maximum converts, every smaller cost converts, and for no more credits. -/
theorem priceCreditAmount_mono {price : BillingPriceVersion} (hsize : 0 < price.unitSize)
    (hcredit : 0 ≤ price.creditUnitPrice) {a m : ℚ} (ha : 0 ≤ a) (ham : a ≤ m) {credits : Int}
    (h : priceCreditAmount price m = .ok credits) :
    ∃ less, priceCreditAmount price a = .ok less ∧ 0 ≤ less ∧ less ≤ credits := by
  obtain ⟨units, hunits, h⟩ := bind_ok (conversionChecked_ok.mp h)
  obtain ⟨fewer, hfewer, hnonneg, hle⟩ := pricedQuantity_mono hsize ha ham hunits
  have hprice := numeric_nonneg hcredit
  have hamount : fewer * numeric price.creditUnitPrice ≤ units * numeric price.creditUnitPrice :=
    mul_le_mul_of_nonneg_right hle hprice
  obtain ⟨less, hless, hbounds⟩ := quantizeCredits_mono (inContext_nonneg (mul_nonneg hnonneg hprice))
    (inContext_mono (mul_nonneg hnonneg hprice) hamount) h
  refine ⟨less, conversionChecked_ok.mpr ?_, hbounds⟩
  exact (bind_of_ok hfewer _).trans hless

end BlogOps.Billing
