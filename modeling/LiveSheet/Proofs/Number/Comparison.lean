import LiveSheet.Number.Decimal
import Mathlib.Algebra.Order.Field.Power
import Mathlib.Algebra.Order.Ring.Rat
import Mathlib.Algebra.Order.Field.Rat
import Mathlib.Order.Compare

namespace LiveSheet.Number

namespace Decimal

def value (number : Decimal) : ℚ :=
  number.coefficient * 10 ^ number.exponent

def size (number : Decimal) : ℚ :=
  number.coefficient.natAbs * 10 ^ number.exponent

theorem value_of_pos {number : Decimal} (h : 0 < number.coefficient) :
    number.value = number.size := by
  rw [value, size, Nat.cast_natAbs, abs_of_pos h]

theorem value_of_neg {number : Decimal} (h : number.coefficient < 0) :
    number.value = -number.size := by
  rw [value, size, Nat.cast_natAbs, abs_of_neg h, Int.cast_neg, neg_mul, neg_neg]

theorem lt_pow_length (value : Nat) : value < 10 ^ (digitsOf value).length :=
  (Nat.length_toDigits_le_iff (by decide : 1 < 10) Nat.length_toDigits_pos).mp (Nat.le_refl _)

theorem pow_length_le {value : Nat} (h : 0 < value) :
    10 ^ ((digitsOf value).length - 1) ≤ value := by
  by_cases hlength : 0 < (digitsOf value).length - 1
  · refine Nat.le_of_not_lt fun hless => ?_
    have hshort : (digitsOf value).length ≤ (digitsOf value).length - 1 :=
      (Nat.length_toDigits_le_iff (by decide : 1 < 10) hlength).mpr hless
    omega
  · rw [Nat.eq_zero_of_not_pos hlength]
    exact h

theorem size_lt_pow_order (number : Decimal) : number.size < 10 ^ number.order := by
  rw [size, order, zpow_add₀ (by decide), zpow_natCast]
  refine mul_lt_mul_of_pos_right ?_ (zpow_pos (by decide) _)
  exact_mod_cast lt_pow_length number.coefficient.natAbs

theorem pow_order_le_size {number : Decimal} (h : number.coefficient ≠ 0) :
    10 ^ (number.order - 1) ≤ number.size := by
  have hlength : 0 < (digitsOf number.coefficient.natAbs).length := Nat.length_toDigits_pos
  have horder : number.order - 1 =
      ((digitsOf number.coefficient.natAbs).length - 1 : Nat) + number.exponent := by
    rw [order]
    omega
  rw [size, horder, zpow_add₀ (by decide), zpow_natCast]
  refine mul_le_mul_of_nonneg_right ?_ (zpow_pos (by decide) _).le
  exact_mod_cast pow_length_le (Int.natAbs_pos.mpr h)

theorem size_lt_of_order_lt {left right : Decimal} (hright : right.coefficient ≠ 0)
    (h : left.order < right.order) : left.size < right.size :=
  calc left.size
      < 10 ^ left.order := size_lt_pow_order left
    _ ≤ 10 ^ (right.order - 1) := zpow_le_zpow_right₀ (by decide) (by omega)
    _ ≤ right.size := pow_order_le_size hright

theorem size_eq_sizeIn {number : Decimal} {unit : Int} (h : unit ≤ number.exponent) :
    number.size = number.sizeIn unit * 10 ^ unit := by
  have hpower : ((number.exponent - unit).toNat : Int) = number.exponent - unit :=
    Int.toNat_of_nonneg (by omega)
  rw [sizeIn, tenTo, Nat.cast_mul, Nat.pow_eq, Nat.cast_pow, mul_assoc, Nat.cast_ofNat,
    ← zpow_natCast, hpower, ← zpow_add₀ (by decide), sub_add_cancel, size]

theorem compareSize_eq {left right : Decimal} (hleft : left.coefficient ≠ 0)
    (hright : right.coefficient ≠ 0) :
    left.compareSize right = Ord.compare left.size right.size := by
  unfold compareSize
  split
  · rename_i hless
    exact (compare_lt_iff_lt.mpr (size_lt_of_order_lt hright hless)).symm
  split
  · rename_i hgreater
    exact (compare_gt_iff_gt.mpr (size_lt_of_order_lt hleft hgreater)).symm
  · have hunit : (0 : ℚ) < 10 ^ min left.exponent right.exponent := zpow_pos (by decide) _
    rw [size_eq_sizeIn (min_le_left left.exponent right.exponent),
      size_eq_sizeIn (min_le_right left.exponent right.exponent)]
    rw [← cmp_eq_compare, ← cmp_eq_compare, cmp_mul_pos_right hunit,
      Nat.strictMono_cast.cmp_map_eq]

theorem coefficient_lt_of_sign_lt {left right : Decimal}
    (h : left.coefficient.sign < right.coefficient.sign) :
    left.coefficient < 0 ∧ 0 ≤ right.coefficient ∨
      left.coefficient ≤ 0 ∧ 0 < right.coefficient := by
  rcases lt_trichotomy left.coefficient 0 with hleft | hleft | hleft <;>
    rcases lt_trichotomy right.coefficient 0 with hright | hright | hright <;>
    simp_all [Int.sign_eq_neg_one_of_neg, Int.sign_eq_one_of_pos, le_of_lt]

theorem value_lt_of_sign_lt {left right : Decimal}
    (h : left.coefficient.sign < right.coefficient.sign) : left.value < right.value := by
  have hleft : (0 : ℚ) < 10 ^ left.exponent := zpow_pos (by decide) _
  have hright : (0 : ℚ) < 10 ^ right.exponent := zpow_pos (by decide) _
  rcases coefficient_lt_of_sign_lt h with ⟨hnegative, hother⟩ | ⟨hother, hpositive⟩
  · calc left.value
        < 0 := mul_neg_of_neg_of_pos (Int.cast_lt_zero.mpr hnegative) hleft
      _ ≤ right.value := mul_nonneg (Int.cast_nonneg hother) hright.le
  · calc left.value
        ≤ 0 := mul_nonpos_of_nonpos_of_nonneg (Int.cast_nonpos.mpr hother) hleft.le
      _ < right.value := mul_pos (Int.cast_pos.mpr hpositive) hright

/-- Decimal numbers are in the order of what they stand for. -/
theorem compare_eq (left right : Decimal) :
    left.compare right = Ord.compare left.value right.value := by
  unfold compare
  split
  · rename_i hless
    exact (compare_lt_iff_lt.mpr (value_lt_of_sign_lt hless)).symm
  split
  · rename_i hgreater
    exact (compare_gt_iff_gt.mpr (value_lt_of_sign_lt hgreater)).symm
  -- The signs are the same from here on.
  rename_i hless hgreater
  have hsign : left.coefficient.sign = right.coefficient.sign := by omega
  split
  · rename_i hzero
    have hother : right.coefficient = 0 := by
      rw [hzero, Int.sign_zero] at hsign
      exact Int.sign_eq_zero_iff_zero.mp hsign.symm
    rw [value, value, hzero, hother, Int.cast_zero, zero_mul, zero_mul, compare_eq_iff_eq.mpr rfl]
  rename_i hnonzero
  split
  · rename_i hpositive
    have hother : 0 < right.coefficient := by
      rwa [← Int.sign_eq_one_iff_pos, ← hsign, Int.sign_eq_one_iff_pos]
    rw [compareSize_eq hpositive.ne' hother.ne', value_of_pos hpositive, value_of_pos hother]
  · have hnegative : left.coefficient < 0 := by omega
    have hother : right.coefficient < 0 := by
      rwa [← Int.sign_eq_neg_one_iff_neg, ← hsign, Int.sign_eq_neg_one_iff_neg]
    rw [compareSize_eq hother.ne hnegative.ne, value_of_neg hnegative, value_of_neg hother,
      ← cmp_eq_compare, ← cmp_eq_compare]
    have hneg : StrictAnti fun size : ℚ => -size := fun _ _ => neg_lt_neg
    exact (hneg.cmp_map_eq left.size right.size).symm

end Decimal

end LiveSheet.Number
