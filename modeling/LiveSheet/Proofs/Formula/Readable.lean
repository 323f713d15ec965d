import LiveSheet.Proofs.Formula.Magnitude
import LiveSheet.Proofs.Number.Underflow

namespace LiveSheet.Formula

open LiveSheet.Number
open LiveSheet.Text

theorem readExponent?_of_exponent {exponent : List Char} (h : Exponent exponent) :
    readExponent? exponent = some (writtenPower exponent) := by
  cases exponent with
  | nil => rfl
  | cons mark power =>
      have hmark : isExponentMark mark = true := by
        have hfirst := h.mark mark rfl
        rwa [Bool.not_eq_false'] at hfirst
      rw [readExponent?, if_pos hmark, readPower?_of_exponent h]

section

variable {digits fraction exponent : List Char} (hexponent : Exponent exponent)

include hexponent

theorem scientific_whole (hdigits : Digits digits) :
    Scientific.read? (digits ++ exponent) =
      some { coefficient := valueOf digits, power := writtenPower exponent } := by
  have hempty : digits.isEmpty = false := by simpa using hdigits.ne_nil
  have hpoint : ∀ rest, exponent ≠ '.' :: rest := by
    rintro rest rfl
    exact (hexponent.head '.' rfl).2 rfl
  simp only [Scientific.read?, takeWhile_append_of_all hdigits.digit hexponent.not_digit,
    dropWhile_append_of_all hdigits.digit hexponent.not_digit, hempty, Bool.false_and,
    readExponent?_of_exponent hexponent, Option.map_some, List.append_nil, List.length_nil]
  simp

theorem scientific_pointed (hdigits : ∀ char ∈ digits, char.isDigit = true)
    (hfraction : ∀ char ∈ fraction, char.isDigit = true) (hsome : digits ++ fraction ≠ []) :
    Scientific.read? (digits ++ '.' :: fraction ++ exponent) =
      some { coefficient := valueOf (digits ++ fraction)
             power := writtenPower exponent - fraction.length } := by
  have hpoint := point_not_isDigit (fraction ++ exponent)
  have hempty : (digits.isEmpty && fraction.isEmpty) = false := by
    rw [Bool.eq_false_iff]
    simpa using hsome
  rw [List.append_assoc, List.cons_append]
  simp only [Scientific.read?, takeWhile_append_of_all hdigits hpoint,
    dropWhile_append_of_all hdigits hpoint,
    takeWhile_append_of_all hfraction hexponent.not_digit,
    dropWhile_append_of_all hfraction hexponent.not_digit, hempty,
    readExponent?_of_exponent hexponent, Option.map_some]
  simp

end

theorem numeralValue_nonneg (number : List Char) : 0 ≤ numeralValue number :=
  mul_nonneg (add_nonneg (Nat.cast_nonneg _) (div_nonneg (Nat.cast_nonneg _)
    (pow_pos (by decide) _).le)) (zpow_pos (by decide) _).le

theorem numeralValue_append {mantissa exponent : List Char} (hmantissa : Mantissa mantissa)
    (hexponent : Exponent exponent) : numeralValue (mantissa ++ exponent) =
      mantissaValue mantissa * 10 ^ writtenPower exponent := by
  rw [numeralValue, mantissaOf_append hmantissa hexponent, exponentOf_append hmantissa hexponent]

theorem numeralValue_pointed {digits fraction exponent : List Char}
    (hmantissa : Mantissa (digits ++ '.' :: fraction))
    (hdigits : ∀ char ∈ digits, char.isDigit = true) (hexponent : Exponent exponent) :
    numeralValue (digits ++ '.' :: fraction ++ exponent) =
      valueOf (digits ++ fraction) * 10 ^ (writtenPower exponent - fraction.length) := by
  rw [numeralValue_append hmantissa hexponent, mantissaValue_pointed hdigits,
    zpow_sub₀ (by decide), zpow_natCast]
  ring

/-- Scientific notation is read for the number that is written in it. -/
theorem Numeral.scientific {number : List Char} (h : Numeral number) :
    ∃ scientific, Scientific.read? number = some scientific ∧
      scientific.value = numeralValue number := by
  obtain ⟨hmantissa, hexponent⟩ := h
  cases hmantissa with
  | whole hdigits =>
      refine ⟨_, scientific_whole hexponent hdigits, ?_⟩
      rw [numeralValue_append (.whole hdigits) hexponent, (parts_whole hdigits).value_eq,
        List.append_nil, List.length_nil, pow_zero, div_one]
      rfl
  | pointed hdigits hfraction =>
      refine ⟨_, scientific_pointed hexponent hdigits.digit hfraction
        (List.append_ne_nil_of_left_ne_nil hdigits.ne_nil _), ?_⟩
      rw [numeralValue_pointed (.pointed hdigits hfraction) hdigits.digit hexponent]
      rfl
  | @leading fraction hfraction =>
      have hnone : ∀ char ∈ ([] : List Char), char.isDigit = true := List.forall_mem_nil _
      refine ⟨_, scientific_pointed hexponent hnone hfraction.digit hfraction.ne_nil, ?_⟩
      exact (numeralValue_pointed (.leading hfraction) hnone hexponent).symm

theorem toLower_of_startsNumber {first : Char} {rest : List Char}
    (h : startsNumber first rest = true) : first.toLower = first := by
  rcases digit_or_point_of_startsNumber h with hdigit | rfl
  · have hother : ¬ (first.val ≥ 'A'.val ∧ first.val ≤ 'Z'.val) := by
      simp only [Char.isDigit, Bool.and_eq_true, decide_eq_true_eq] at hdigit
      rintro ⟨hcapital, -⟩
      exact absurd (UInt32.le_trans hcapital hdigit.2) (by decide)
    delta Char.toLower
    rw [dif_neg hother]
  · rfl

theorem Numeral.named?_eq_none {number : List Char} (h : Numeral number) (negative : Bool) :
    Binary64.named? number negative = none := by
  obtain ⟨first, rest, rfl, hstart⟩ := h.starts
  have hne (name : String) (hname : ∀ char ∈ name.toList.head?, ¬ char.isDigit = true ∧ char ≠ '.') :
      String.ofList ((first :: rest).map Char.toLower) ≠ name := by
    rintro rfl
    rw [String.toList_ofList, List.map_cons, toLower_of_startsNumber hstart] at hname
    exact (digit_or_point_of_startsNumber hstart).elim (hname first rfl).1 (hname first rfl).2
  have hinf := hne "inf" (by rintro char ⟨⟩; decide)
  have hinfinity := hne "infinity" (by rintro char ⟨⟩; decide)
  have hnan := hne "nan" (by rintro char ⟨⟩; decide)
  simp only [Binary64.named?, hinf, hinfinity, hnan, decide_false, Bool.or_false,
    Bool.false_eq_true, if_false]

theorem Numeral.binary64_eq {number : List Char} (h : Numeral number) (sign : Sign) :
    ∃ negative scientific, scientific.value = numeralValue number ∧
      Binary64.read? (sign.kept.toList ++ number) =
        some (Binary64.ofScientific negative scientific) := by
  obtain ⟨scientific, hread, hvalue⟩ := h.scientific
  have hunsigned (negative : Bool) : Binary64.readUnsigned? negative number =
      some (Binary64.ofScientific negative scientific) := by
    simp only [Binary64.readUnsigned?, h.named?_eq_none, hread, Option.map_some]
  obtain ⟨hkept, -⟩ | ⟨hkept, -⟩ := sign.kept_cases
  · obtain ⟨hminus, hplus⟩ := h.not_sign
    exact ⟨false, scientific, hvalue,
      by rw [hkept, List.nil_append, Binary64.read?.eq_3 number hminus hplus, hunsigned]⟩
  · exact ⟨true, scientific, hvalue,
      by rw [hkept, List.singleton_append, Binary64.read?, hunsigned]⟩

namespace Literal

def unsigned (literal : Literal) : List Char :=
  match literal.text.toList with
  | '-' :: number => number
  | number => number

/-- The number that the text of a literal stands for, of any size and to the last
digit. -/
def exactValue (literal : Literal) : ℚ :=
  if literal.text.toList.head? = some '-' then -numeralValue literal.unsigned
  else numeralValue literal.unsigned

/-- Whether the power of ten that the last digit of a literal counts is within 64 bits.  A
decimal keeps it with its sign turned, as the number of its places. -/
def FitsPower (literal : Literal) : Prop :=
  -2 ^ 63 < lastPower literal.unsigned ∧ lastPower literal.unsigned ≤ 2 ^ 63

instance (literal : Literal) : Decidable literal.FitsPower :=
  inferInstanceAs (Decidable (_ ∧ _))

theorem fitsScale_iff {literal : Literal} :
    Decimal.fitsScale (-lastPower literal.unsigned) = true ↔ literal.FitsPower := by
  have hword : (twoTo 63 : Int) = 2 ^ 63 := rfl
  simp only [Decimal.fitsScale, FitsPower, hword, Bool.and_eq_true, decide_eq_true_eq]
  omega

structure Shows (literal : Literal) (sign : Sign) (number : List Char) : Prop where
  numeral : Numeral number
  text_eq : literal.text.toList = sign.kept.toList ++ number
  numeric : literal.kind ≠ .string
  whole : literal.kind = .int → Digits number

def IsNumber (literal : Literal) : Prop :=
  ∃ sign number, literal.Shows sign number

section

variable {literal : Literal} {sign : Sign} {number : List Char}

theorem Shows.unsigned_eq (h : literal.Shows sign number) : literal.unsigned = number := by
  obtain ⟨hkept, -⟩ | ⟨hkept, -⟩ := sign.kept_cases
  · have htext := h.text_eq
    rw [hkept, List.nil_append] at htext
    rw [unsigned.eq_def, htext]
    split
    · exact absurd rfl (h.numeral.not_sign.1 _)
    · rfl
  · have htext := h.text_eq
    rw [hkept, List.singleton_append] at htext
    rw [unsigned, htext]
    rfl

theorem Shows.exactValue_eq (h : literal.Shows sign number) :
    literal.exactValue = sign.factor * numeralValue number := by
  obtain ⟨hkept, hfactor⟩ | ⟨hkept, hfactor⟩ := sign.kept_cases
  · have hhead : literal.text.toList.head? ≠ some '-' := by
      rw [h.text_eq, hkept, List.nil_append]
      intro hminus
      obtain ⟨rest, hnumber⟩ := List.head?_eq_some_iff.mp hminus
      exact h.numeral.not_sign.1 rest hnumber
    rw [exactValue, if_neg hhead, h.unsigned_eq, hfactor, Int.cast_one, one_mul]
  · have hhead : literal.text.toList.head? = some '-' := by
      rw [h.text_eq, hkept]
      rfl
    rw [exactValue, if_pos hhead, h.unsigned_eq, hfactor, Int.cast_neg, Int.cast_one, neg_one_mul]

theorem Shows.decimal_eq (h : literal.Shows sign number) :
    (literal.FitsPower ∧ ∃ size, literal.decimal = .ok size ∧ size.value = literal.exactValue) ∨
      (¬ literal.FitsPower ∧ literal.decimal = .error (.invalidNumber literal.text)) := by
  obtain ⟨size, hvalue, hread⟩ := h.numeral.read?_eq sign
  rw [← h.exactValue_eq] at hvalue
  rw [← h.text_eq, ← h.unsigned_eq] at hread
  rw [decimal, if_neg h.numeric, hread]
  by_cases hfits : literal.FitsPower
  · exact Or.inl ⟨hfits, size, by rw [if_pos (fitsScale_iff.mpr hfits)], hvalue⟩
  · exact Or.inr ⟨hfits, by rw [if_neg (mt fitsScale_iff.mp hfits)]⟩

theorem Shows.abs_exactValue (h : literal.Shows sign number) :
    |literal.exactValue| = numeralValue number := by
  rw [h.exactValue_eq, abs_mul, abs_of_nonneg (numeralValue_nonneg number)]
  obtain ⟨-, hfactor⟩ | ⟨-, hfactor⟩ := sign.kept_cases <;>
  · rw [hfactor]
    simp

theorem Shows.binary64_eq (h : literal.Shows sign number) :
    ∃ negative scientific, scientific.value = |literal.exactValue| ∧
      literal.binary64 = .ok (Binary64.ofScientific negative scientific) := by
  obtain ⟨negative, scientific, hvalue, hread⟩ := h.numeral.binary64_eq sign
  rw [← h.text_eq] at hread
  exact ⟨negative, scientific, hvalue.trans h.abs_exactValue.symm, by rw [binary64, hread]⟩

theorem Shows.exists_integer (h : literal.Shows sign number) (hint : literal.kind = .int) :
    ∃ value, literal.integer = .ok value := by
  have hread := sign.readInteger?_digits (h.whole hint)
  rw [← h.text_eq] at hread
  exact ⟨_, by rw [integer, hread]⟩

end

theorem Settled.isNumber {literal : Literal} (h : literal.Settled)
    (hnumeric : literal.kind ≠ .string) : literal.IsNumber := by
  rcases h with hsame | ⟨hfloat, sign, digits, hdigits, htext⟩
  · obtain ⟨sign, number, hwrites⟩ | hstring := ofText_cases literal.text
    · have hread := ofText_of_writes hwrites
      rw [hsame] at hread
      obtain ⟨first, rest, hnumber, -⟩ := hwrites.numeral.starts
      refine ⟨sign, number, hwrites.numeral, ?_, hnumeric, fun hint => ?_⟩
      · rw [congrArg text hread, String.toList_append, String.toList_ofList]
      · have hkind := congrArg kind hread
        rw [hint] at hkind
        by_cases hall : number.all Char.isDigit = true
        · exact ⟨hnumber ▸ List.cons_ne_nil _ _, List.all_eq_true.mp hall⟩
        · rw [if_neg hall] at hkind
          cases hkind
    · rw [hsame] at hstring
      exact absurd (congrArg kind hstring) hnumeric
  · refine ⟨sign, digits, (Mantissa.whole hdigits).numeral, ?_, hnumeric, fun hint => ?_⟩
    · rw [htext, String.toList_append, String.toList_ofList]
    · rw [hfloat] at hint
      cases hint

theorem compareLiterals_of_decimal {left right : Literal} {size other : Decimal}
    (hleft : left.decimal = .ok size) (hright : right.decimal = .ok other) :
    compareLiterals left right = .ok (Ord.compare size.value other.value) := by
  rw [compareLiterals, hleft, hright, ← Decimal.compare_eq]
  rfl

/-- Numbers whose powers of ten fit are compared as the numbers that they stand for. -/
theorem compareLiterals_eq {left right : Literal} (hleft : left.IsNumber)
    (hright : right.IsNumber) (hfits : left.FitsPower) (hother : right.FitsPower) :
    compareLiterals left right = .ok (Ord.compare left.exactValue right.exactValue) := by
  obtain ⟨sign, number, hshows⟩ := hleft
  obtain ⟨otherSign, otherNumber, hotherShows⟩ := hright
  obtain ⟨-, size, hsize, hvalue⟩ := hshows.decimal_eq.resolve_right fun h => h.1 hfits
  obtain ⟨-, otherSize, hotherSize, hotherValue⟩ :=
    hotherShows.decimal_eq.resolve_right fun h => h.1 hother
  rw [compareLiterals_of_decimal hsize hotherSize, hvalue, hotherValue]

example : (ofText "-.50e+3").exactValue = -500 ∧
    compareLiterals (ofText "-.50e+3") (ofText "-500") = .ok .eq := by
  decide +kernel

end Literal

end LiveSheet.Formula
