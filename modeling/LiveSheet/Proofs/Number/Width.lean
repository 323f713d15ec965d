import LiveSheet.Proofs.Number.Comparison

namespace LiveSheet.Number

/-! What a number is read as has no more digits than its text, and two zeros at the ends
of its mantissa.  The power of ten that it is written with stays apart. -/

theorem ofDigitChars_lt {digits : List Char} (h : ∀ char ∈ digits, char.isDigit = true)
    (front : Nat) : Nat.ofDigitChars 10 digits front < 10 ^ digits.length * (front + 1) := by
  induction digits generalizing front with
  | nil => simp
  | cons first rest ih =>
      obtain ⟨hfirst, hrest⟩ := List.forall_mem_cons.mp h
      have hdigit : first.toNat - 48 ≤ 9 := by
        simp only [Char.isDigit, Bool.and_eq_true, decide_eq_true_eq] at hfirst
        have hnine : first.toNat ≤ 57 := hfirst.2
        omega
      calc Nat.ofDigitChars 10 rest (10 * front + (first.toNat - 48))
          < 10 ^ rest.length * (10 * front + (first.toNat - 48) + 1) := ih hrest _
        _ ≤ 10 ^ rest.length * (10 * (front + 1)) := Nat.mul_le_mul_left _ (by omega)
        _ = 10 ^ (first :: rest).length * (front + 1) := by
            rw [List.length_cons, Nat.pow_succ, Nat.mul_assoc]

theorem valueOf_lt {digits : List Char} (h : ∀ char ∈ digits, char.isDigit = true) :
    valueOf digits < 10 ^ digits.length := by
  have hbound := ofDigitChars_lt h 0
  rwa [Nat.zero_add, Nat.mul_one] at hbound

theorem readGrouped?_lt {chars : List Char} {size : Nat} (h : readGrouped? chars = some size) :
    size < 10 ^ chars.length := by
  cases chars with
  | nil => cases h
  | cons first rest =>
      rw [readGrouped?] at h
      split at h
      · rename_i hdigits
        cases h
        rw [Bool.and_eq_true] at hdigits
        refine (valueOf_lt ?_).trans_le (Nat.pow_le_pow_right (by decide) ?_)
        · exact List.forall_mem_cons.mpr ⟨hdigits.1, fun char hmem => (List.mem_filter.mp hmem).2⟩
        · exact Nat.succ_le_succ (List.length_filter_le _ _)
      · cases h

theorem readInteger?_lt {chars : List Char} {value : Int} (h : readInteger? chars = some value) :
    value.natAbs < 10 ^ chars.length := by
  have hlonger (rest : List Char) : 10 ^ rest.length ≤ 10 ^ (rest.length + 1) :=
    Nat.pow_le_pow_right (by decide) (Nat.le_succ _)
  unfold readInteger? at h
  split at h <;> obtain ⟨size, hsize, rfl⟩ := Option.map_eq_some_iff.mp h
  · rw [Int.natAbs_neg, Int.natAbs_natCast]
    exact (readGrouped?_lt hsize).trans_le (hlonger _)
  · exact (readGrouped?_lt hsize).trans_le (hlonger _)
  · exact readGrouped?_lt hsize

namespace Decimal

theorem length_spelledOut_le (mantissa : List Char) :
    (spelledOut mantissa).length ≤ mantissa.length + 2 := by
  unfold spelledOut
  dsimp only
  split <;> split <;> simp

theorem ofParts?_lt {base : List Char} {power : Int} {number : Decimal}
    (h : ofParts? base power = some number) :
    number.coefficient.natAbs < 10 ^ base.length := by
  unfold ofParts? at h
  dsimp only at h
  split at h
  · obtain ⟨value, hvalue, rfl⟩ := Option.map_eq_some_iff.mp h
    refine (readInteger?_lt hvalue).trans_le (Nat.pow_le_pow_right (by decide) ?_)
    have hcut : base.takeWhile (· != '.') ++ base.dropWhile (· != '.') = base :=
      List.takeWhile_append_dropWhile
    have hparts := congrArg List.length hcut
    simp only [List.length_append, List.length_drop] at hparts ⊢
    omega
  · cases h

theorem readUnsigned?_lt {sign unsigned : List Char} {number : Decimal}
    (h : readUnsigned? sign unsigned = some number) :
    number.coefficient.natAbs < 10 ^ (sign.length + unsigned.length + 2) := by
  have hbase : (sign ++ spelledOut (unsigned.takeWhile fun char => !isExponentMark char)).length ≤
      sign.length + unsigned.length + 2 := by
    have hspelled := length_spelledOut_le (unsigned.takeWhile fun char => !isExponentMark char)
    have hmantissa : (unsigned.takeWhile fun char => !isExponentMark char).length ≤
      unsigned.length := (List.takeWhile_prefix _).length_le
    rw [List.length_append]
    omega
  have hbound := Nat.pow_le_pow_right (by decide : 0 < 10) hbase
  unfold readUnsigned? at h
  dsimp only at h
  split at h
  · exact (ofParts?_lt h).trans_le hbound
  · obtain ⟨power, -, hnumber⟩ := Option.bind_eq_some_iff.mp h
    exact (ofParts?_lt hnumber).trans_le hbound

theorem read?_lt {chars : List Char} {number : Decimal} (h : read? chars = some number) :
    number.coefficient.natAbs < 10 ^ (chars.length + 2) := by
  unfold read? at h
  split at h
  · have hread := readUnsigned?_lt h
    rwa [List.length_singleton, Nat.add_comm 1] at hread
  · have hread := readUnsigned?_lt h
    rwa [List.length_nil, Nat.zero_add] at hread

theorem sizeIn_lt {left right : Decimal} (h : left.order = right.order) :
    left.sizeIn (min left.exponent right.exponent) <
      10 ^ max (digitsOf left.coefficient.natAbs).length
        (digitsOf right.coefficient.natAbs).length := by
  have hshift : (digitsOf left.coefficient.natAbs).length +
        (left.exponent - min left.exponent right.exponent).toNat ≤
      max (digitsOf left.coefficient.natAbs).length
        (digitsOf right.coefficient.natAbs).length := by
    unfold order at h
    omega
  calc left.sizeIn (min left.exponent right.exponent)
      < 10 ^ (digitsOf left.coefficient.natAbs).length *
          10 ^ (left.exponent - min left.exponent right.exponent).toNat :=
        Nat.mul_lt_mul_of_pos_right (lt_pow_length _) (tenTo_pos _)
    _ = 10 ^ ((digitsOf left.coefficient.natAbs).length +
          (left.exponent - min left.exponent right.exponent).toNat) := (Nat.pow_add _ _ _).symm
    _ ≤ _ := Nat.pow_le_pow_right (by decide) hshift

/-- A comparison works with no number that is longer than the longer text. -/
theorem sizeIn_lt_of_read? {chars others : List Char} {left right : Decimal}
    (hleft : read? chars = some left) (hright : read? others = some right)
    (h : left.order = right.order) :
    left.sizeIn (min left.exponent right.exponent) <
      10 ^ (max chars.length others.length + 2) := by
  have hlength {text : List Char} {number : Decimal} (hread : read? text = some number) :
      (digitsOf number.coefficient.natAbs).length ≤ text.length + 2 :=
    (Nat.length_toDigits_le_iff (by decide : 1 < 10) (by omega)).mpr (read?_lt hread)
  have hlong := hlength hleft
  have hother := hlength hright
  exact (sizeIn_lt h).trans_le (Nat.pow_le_pow_right (by decide) (by omega))

end Decimal

end LiveSheet.Number
