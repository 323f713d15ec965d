import LiveSheet.Number.Binary64
import LiveSheet.Proofs.Number.Comparison
import Mathlib.Tactic.Ring

namespace LiveSheet.Number

/-! Which numbers are rounded to zero: those up to half of the least positive one, where
the tie goes to the even significand. -/

theorem pow_toNat_div {base : ℚ} (h : base ≠ 0) (power : Int) :
    base ^ power.toNat / base ^ (-power).toNat = base ^ power := by
  rw [← zpow_natCast, ← zpow_natCast, ← zpow_sub₀ h]
  congr 1
  omega

theorem twoTo_div_twoTo (power : Int) : (twoTo power / twoTo (-power) : ℚ) = 2 ^ power := by
  rw [twoTo, twoTo, Nat.pow_eq, Nat.pow_eq, Nat.cast_pow, Nat.cast_pow, Nat.cast_ofNat,
    pow_toNat_div (by decide)]

theorem tenTo_div_tenTo (power : Int) : (tenTo power / tenTo (-power) : ℚ) = 10 ^ power := by
  rw [tenTo, tenTo, Nat.pow_eq, Nat.pow_eq, Nat.cast_pow, Nat.cast_pow, Nat.cast_ofNat,
    pow_toNat_div (by decide)]

namespace Scientific

def decimal (number : Scientific) : Decimal :=
  { coefficient := number.coefficient, exponent := number.power }

def value (number : Scientific) : ℚ :=
  number.coefficient * 10 ^ number.power

theorem size_decimal (number : Scientific) : number.decimal.size = number.value := rfl

theorem order_decimal (number : Scientific) :
    number.decimal.order = (digitsOf number.coefficient).length + number.power := rfl

end Scientific

namespace Decimal

theorem half_lt_size {number : Decimal} (hnonzero : number.coefficient ≠ 0)
    (h : 310 < number.order) : 2 ^ (-1075 : Int) < number.size :=
  calc (2 : ℚ) ^ (-1075 : Int)
      < 1 := zpow_lt_one_of_neg₀ (by decide) (by decide)
    _ ≤ 10 ^ (number.order - 1) := one_le_zpow₀ (by decide) (by omega)
    _ ≤ number.size := pow_order_le_size hnonzero

theorem size_le_half {number : Decimal} (h : number.order < -330) :
    number.size ≤ 2 ^ (-1075 : Int) :=
  calc number.size
      ≤ 10 ^ number.order := (size_lt_pow_order number).le
    _ ≤ 10 ^ (-331 : Int) := zpow_le_zpow_right₀ (by decide) (by omega)
    _ ≤ 2 ^ (-1075 : Int) := by
        rw [zpow_neg, zpow_neg]
        exact inv_anti₀ (zpow_pos (by decide) _) (by decide +kernel)

end Decimal

namespace Binary64

theorem divideToEven_eq_zero_iff {numerator denominator : Nat} (h : 0 < denominator) :
    divideToEven numerator denominator = 0 ↔ 2 * numerator ≤ denominator := by
  have hdivides := Nat.div_add_mod numerator denominator
  by_cases hless : numerator < denominator
  · rw [divideToEven, Nat.div_eq_of_lt hless, Nat.mod_eq_of_lt hless]
    split
    · omega
    split
    · omega
    · simp
      omega
  · have hquotient : 0 < numerator / denominator := Nat.div_pos (by omega) h
    unfold divideToEven
    dsimp only
    split
    · omega
    split
    · omega
    split <;> omega

theorem two_pow_floorLog2_le {numerator denominator : Nat} (hnumerator : numerator ≠ 0)
    (hdenominator : 0 < denominator) :
    (2 : ℚ) ^ floorLog2 numerator denominator ≤ numerator / denominator := by
  have hpositive : (0 : ℚ) < denominator := Nat.cast_pos.mpr hdenominator
  rw [le_div_iff₀ hpositive]
  unfold floorLog2
  dsimp only
  split
  · -- The guess is one too large, but the digits of both bound the quotient below it.
    have hlow : (2 : ℚ) ^ (numerator.log2 : Int) ≤ numerator := by
      rw [zpow_natCast]
      exact_mod_cast Nat.log2_self_le hnumerator
    have hhigh : (denominator : ℚ) ≤ 2 ^ ((denominator.log2 : Int) + 1) := by
      exact_mod_cast Nat.lt_log2_self.le
    calc (2 : ℚ) ^ ((numerator.log2 : Int) - denominator.log2 - 1) * denominator
        ≤ 2 ^ ((numerator.log2 : Int) - denominator.log2 - 1) *
            2 ^ ((denominator.log2 : Int) + 1) :=
          mul_le_mul_of_nonneg_left hhigh (zpow_pos (by decide) _).le
      _ = 2 ^ (numerator.log2 : Int) := by
          rw [← zpow_add₀ (by decide)]
          congr 1
          omega
      _ ≤ numerator := hlow
  · rename_i hguess
    generalize (numerator.log2 : Int) - denominator.log2 = guess at hguess
    have hscale : (0 : ℚ) < twoTo (-guess) := Nat.cast_pos.mpr (twoTo_pos _)
    rw [← twoTo_div_twoTo, div_mul_eq_mul_div, div_le_iff₀ hscale, mul_comm]
    exact_mod_cast Nat.le_of_not_lt hguess

theorem isZero_pack {negative : Bool} {significand : Nat} {exponent : Int} :
    (pack negative significand exponent).isZero = true ↔ significand = 0 ∧ exponent ≤ 971 := by
  have hbinary : twoTo 52 ≠ 0 := (twoTo_pos 52).ne'
  unfold pack
  by_cases hcarry : significand = twoTo 53
  · have hcarried : significand ≠ 0 := hcarry ▸ (twoTo_pos 53).ne'
    rw [if_pos hcarry]
    dsimp only
    split <;> cases negative <;> simp [isZero, hcarried, hbinary]
  · rw [if_neg hcarry]
    dsimp only
    split <;> cases negative <;> simp [isZero] <;> omega

section

variable {numerator : Int} {denominator : Nat} (hdenominator : 0 < denominator) (power : Int)

include hdenominator

theorem divideToEven_scaled {numerator : Nat} (exponent : Int) :
    divideToEven (numerator * twoTo (power - exponent))
        (denominator * twoTo (-(power - exponent))) = 0 ↔
      (numerator / denominator * 2 ^ power : ℚ) ≤ 2 ^ (exponent - 1) := by
  have hpositive : (0 : ℚ) < denominator := Nat.cast_pos.mpr hdenominator
  have hscale : (0 : ℚ) < twoTo (-(power - exponent)) := Nat.cast_pos.mpr (twoTo_pos _)
  have hplace : (0 : ℚ) < 2 ^ (exponent - 1) := zpow_pos (by decide) _
  have hhalf : (2 : ℚ) ^ power = 2 ^ (power - exponent) * (2 * 2 ^ (exponent - 1)) := by
    rw [← zpow_one_add₀ (by decide), ← zpow_add₀ (by decide)]
    congr 1
    omega
  have hsize : (numerator / denominator * 2 ^ power : ℚ) =
      2 * (numerator * twoTo (power - exponent)) /
        (denominator * twoTo (-(power - exponent))) * 2 ^ (exponent - 1) := by
    rw [hhalf, ← twoTo_div_twoTo (power - exponent)]
    ring
  rw [divideToEven_eq_zero_iff (Nat.mul_pos hdenominator (twoTo_pos _)), hsize,
    mul_le_iff_le_one_left hplace, div_le_one₀ (mul_pos hpositive hscale)]
  exact_mod_cast Iff.rfl

/-- A number is rounded to zero up to half of the least place there is. -/
theorem isZero_ofRatio :
    (ofRatio numerator denominator power).isZero = true ↔
      (numerator.natAbs / denominator * 2 ^ power : ℚ) ≤ 2 ^ (-1075 : Int) := by
  by_cases hzero : numerator = 0
  · rw [ofRatio, if_pos hzero, hzero, Int.natAbs_zero, Nat.cast_zero, zero_div, zero_mul]
    exact iff_of_true rfl (zpow_pos (by decide) _).le
  have hleads : (2 : ℚ) ^ (floorLog2 numerator.natAbs denominator + power) ≤
      numerator.natAbs / denominator * 2 ^ power := by
    rw [zpow_add₀ (by decide)]
    exact mul_le_mul_of_nonneg_right
      (two_pow_floorLog2_le (Int.natAbs_ne_zero.mpr hzero) hdenominator)
      (zpow_pos (by decide) _).le
  rw [ofRatio, if_neg hzero]
  dsimp only
  rw [isZero_pack, divideToEven_scaled hdenominator]
  rcases max_cases (floorLog2 numerator.natAbs denominator + power - 52) (-1074) with
    ⟨hmax, hleast⟩ | ⟨hmax, hleast⟩
  · -- With a place above the least one, fifty-three digits are kept and the number is large.
    rw [hmax]
    refine iff_of_false (fun h => absurd h.1 (not_le_of_gt ?_)) (not_le_of_gt ?_)
    · exact (zpow_lt_zpow_right₀ (by decide) (by omega)).trans_le hleads
    · exact (zpow_lt_zpow_right₀ (by decide) (by omega)).trans_le hleads
  · rw [hmax]
    exact and_iff_left (by decide)

end

theorem isZero_ofScientific (negative : Bool) (number : Scientific) :
    (ofScientific negative number).isZero = true ↔ number.value ≤ 2 ^ (-1075 : Int) := by
  unfold ofScientific
  split
  · rename_i hzero
    rw [Scientific.value, hzero, Nat.cast_zero, zero_mul]
    exact iff_of_true rfl (zpow_pos (by decide) _).le
  rename_i hnonzero
  dsimp only
  rw [← number.order_decimal]
  split
  · rename_i hlarge
    have hcoefficient : number.decimal.coefficient ≠ 0 := Int.natCast_ne_zero.mpr hnonzero
    exact iff_of_false Bool.false_ne_true
      (not_le_of_gt (number.size_decimal ▸ Decimal.half_lt_size hcoefficient hlarge))
  split
  · rename_i hsmall
    exact iff_of_true rfl (number.size_decimal ▸ Decimal.size_le_half hsmall)
  · have hsigned (size : Nat) : (if negative = true then -(size : Int) else size).natAbs = size := by
      split
      · rw [Int.natAbs_neg, Int.natAbs_natCast]
      · rw [Int.natAbs_natCast]
    rw [isZero_ofRatio (tenTo_pos _), hsigned, zpow_zero, mul_one, Nat.cast_mul, mul_div_assoc,
      tenTo_div_tenTo, Scientific.value]

end Binary64

end LiveSheet.Number
