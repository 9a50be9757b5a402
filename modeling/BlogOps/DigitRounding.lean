import Mathlib.Data.Int.Log
import Mathlib.Data.Rat.Floor
import Mathlib.Tactic.Linarith

/-!
# Rounding to significant digits

Numbers of an ordered field are rounded to a fixed count of digits in a base,
ties to the even digit, with a least exponent below which digits are not kept.
On nonnegative numbers this rounding is monotone: inside one exponent because
nearest-even is, and across exponents because a power of the base lies between.
-/

namespace BlogOps.DigitRounding

variable {K : Type*} [Field K] [LinearOrder K] [IsStrictOrderedRing K] [FloorRing K]

/-- The nearest integer, of two the even one. -/
def nearestEven (x : K) : ℤ :=
  if 2 * Int.fract x < 1 then ⌊x⌋
  else if 2 * Int.fract x = 1 ∧ Even ⌊x⌋ then ⌊x⌋
  else ⌊x⌋ + 1

omit [IsStrictOrderedRing K] in
theorem floor_le_nearestEven (x : K) : ⌊x⌋ ≤ nearestEven x := by
  unfold nearestEven
  split_ifs <;> omega

omit [IsStrictOrderedRing K] in
theorem nearestEven_le_floor_add_one (x : K) : nearestEven x ≤ ⌊x⌋ + 1 := by
  unfold nearestEven
  split_ifs <;> omega

@[simp] theorem nearestEven_intCast (n : ℤ) : nearestEven (n : K) = n := by
  simp [nearestEven]

variable {x y : K}

theorem nearestEven_mono (h : x ≤ y) : nearestEven x ≤ nearestEven y := by
  rcases (Int.floor_le_floor h).lt_or_eq with hfloor | hfloor
  · have hx := nearestEven_le_floor_add_one x
    have hy := floor_le_nearestEven y
    omega
  · have hfract : Int.fract x ≤ Int.fract y := by
      unfold Int.fract
      rw [hfloor]
      linarith
    unfold nearestEven
    rw [hfloor]
    split_ifs with hx hy hy' hx' hy hy' hy hy'
    · exact le_rfl
    · exact le_rfl
    · omega
    · exact le_rfl
    · exact le_rfl
    · omega
    · exact absurd (show 2 * Int.fract x < 1 by linarith) hx
    · -- a tie or less at `y`, more than a tie at `x`
      have htie : 2 * Int.fract x = 1 := by
        have := not_lt.mp hx
        linarith [hy'.1]
      exact absurd ⟨htie, hy'.2⟩ hx'
    · exact le_rfl

/-- The exponent of the last digit kept of `x`. -/
def quantum (base precision : ℕ) (least : ℤ) (x : K) : ℤ :=
  max (Int.log base |x| - (precision - 1)) least

/-- `x` rounded to a multiple of `base ^ exponent`. -/
def roundAt (base : ℕ) (exponent : ℤ) (x : K) : K :=
  nearestEven (x / (base : K) ^ exponent) * (base : K) ^ exponent

def roundDigits (base precision : ℕ) (least : ℤ) (x : K) : K :=
  roundAt base (quantum base precision least x) x

section Monotone

variable {base : ℕ} (hbase : 1 < base)
include hbase

theorem zpow_base_pos (e : ℤ) : 0 < (base : K) ^ e :=
  zpow_pos (by exact_mod_cast zero_lt_one.trans hbase) e

theorem roundAt_mono (e : ℤ) (h : x ≤ y) : roundAt base e x ≤ roundAt base e y := by
  have hpos := zpow_base_pos (K := K) hbase e
  have hscaled : nearestEven (x / (base : K) ^ e) ≤ nearestEven (y / (base : K) ^ e) :=
    nearestEven_mono (by gcongr)
  have hcast : (nearestEven (x / (base : K) ^ e) : K) ≤ nearestEven (y / (base : K) ^ e) := by
    exact_mod_cast hscaled
  exact mul_le_mul_of_nonneg_right hcast hpos.le

/-- Powers of the base above the exponent are kept. -/
theorem roundAt_zpow {e k : ℤ} (hek : e ≤ k) : roundAt base e ((base : K) ^ k) = (base : K) ^ k := by
  have hne : (base : K) ≠ 0 := by
    have := zero_lt_one.trans hbase
    exact_mod_cast this.ne'
  obtain ⟨n, hn⟩ := Int.eq_ofNat_of_zero_le (sub_nonneg.mpr hek)
  have hquotient : (base : K) ^ k / (base : K) ^ e = ((base ^ n : ℕ) : ℤ) := by
    rw [← zpow_sub₀ hne, hn]
    simp
  unfold roundAt
  rw [hquotient, nearestEven_intCast, ← hquotient]
  exact div_mul_cancel₀ _ (zpow_base_pos hbase e).ne'

theorem roundDigits_nonneg (precision : ℕ) (least : ℤ) (hx : 0 ≤ x) :
    0 ≤ roundDigits base precision least x := by
  have hpos := zpow_base_pos (K := K) hbase (quantum base precision least x)
  have hscaled : 0 ≤ nearestEven (x / (base : K) ^ quantum base precision least x) := by
    have hfloor : 0 ≤ ⌊x / (base : K) ^ quantum base precision least x⌋ :=
      Int.floor_nonneg.mpr (div_nonneg hx hpos.le)
    exact hfloor.trans (floor_le_nearestEven _)
  exact mul_nonneg (by exact_mod_cast hscaled) hpos.le

theorem roundDigits_mono {precision : ℕ} (hprecision : 1 ≤ precision) (least : ℤ) (hx : 0 ≤ x)
    (h : x ≤ y) : roundDigits base precision least x ≤ roundDigits base precision least y := by
  rcases hx.eq_or_lt with rfl | hx
  · have hzero : roundDigits base precision least (0 : K) = 0 := by
      have := nearestEven_intCast (K := K) 0
      simp only [Int.cast_zero] at this
      simp [roundDigits, roundAt, this]
    rw [hzero]
    exact roundDigits_nonneg hbase precision least h
  have hy : 0 < y := hx.trans_le h
  have hlog : Int.log base x ≤ Int.log base y := Int.log_mono_right hx h
  unfold roundDigits
  have hqx : quantum base precision least x = max (Int.log base x - (precision - 1)) least := by
    rw [quantum, abs_of_pos hx]
  have hqy : quantum base precision least y = max (Int.log base y - (precision - 1)) least := by
    rw [quantum, abs_of_pos hy]
  have hle : quantum base precision least x ≤ quantum base precision least y := by
    rw [hqx, hqy]
    omega
  rcases hle.eq_or_lt with heq | hlt
  · rw [heq]
    exact roundAt_mono hbase _ h
  · -- the power of the base at the first digit of `y` lies between
    have hbetween : Int.log base x + 1 ≤ Int.log base y := by omega
    have hlow : x ≤ (base : K) ^ Int.log base y := (Int.lt_zpow_succ_log_self hbase x).le.trans
        (zpow_le_zpow_right₀ (by exact_mod_cast hbase.le) hbetween)
    have hhigh : (base : K) ^ Int.log base y ≤ y := Int.zpow_log_le_self hbase hy
    calc roundAt base (quantum base precision least x) x
        ≤ roundAt base (quantum base precision least x) ((base : K) ^ Int.log base y) :=
          roundAt_mono hbase _ hlow
      _ = (base : K) ^ Int.log base y := roundAt_zpow hbase (by omega)
      _ = roundAt base (quantum base precision least y) ((base : K) ^ Int.log base y) :=
          (roundAt_zpow hbase (by omega)).symm
      _ ≤ roundAt base (quantum base precision least y) y := roundAt_mono hbase _ hhigh

end Monotone

end BlogOps.DigitRounding
