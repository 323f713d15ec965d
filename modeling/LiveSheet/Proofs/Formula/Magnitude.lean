import LiveSheet.Formula.Arithmetic
import LiveSheet.Proofs.Formula.Stable
import LiveSheet.Proofs.Number.Comparison
import Mathlib.Tactic.Ring

namespace LiveSheet.Formula

open LiveSheet.Number
open LiveSheet.Text

def behindPoint (mantissa : List Char) : List Char :=
  (mantissa.dropWhile Char.isDigit).drop 1

def mantissaValue (mantissa : List Char) : ℚ :=
  valueOf (mantissa.takeWhile Char.isDigit) +
    valueOf (behindPoint mantissa) / 10 ^ (behindPoint mantissa).length

/-- The decimal places of a mantissa.  A point at its end has one, for the zero that it
leaves out. -/
def places (mantissa : List Char) : Nat :=
  if mantissa.getLast? = some '.' then 1 else (behindPoint mantissa).length

def writtenPower : List Char → Int
  | [] => 0
  | _ :: '-' :: digits => -(valueOf digits : Int)
  | _ :: '+' :: digits => valueOf digits
  | _ :: digits => valueOf digits

def mantissaOf (number : List Char) : List Char :=
  number.takeWhile fun char => !isExponentMark char

def exponentOf (number : List Char) : List Char :=
  number.dropWhile fun char => !isExponentMark char

def numeralValue (number : List Char) : ℚ :=
  mantissaValue (mantissaOf number) * 10 ^ writtenPower (exponentOf number)

def lastPower (number : List Char) : Int :=
  writtenPower (exponentOf number) - places (mantissaOf number)

theorem valueOf_append (first second : List Char) :
    valueOf (first ++ second) = 10 ^ second.length * valueOf first + valueOf second := by
  rw [valueOf, Nat.ofDigitChars_append, Nat.ofDigitChars_eq_ofDigitChars_zero]
  rfl

theorem readDigits?_digits {digits : List Char} (h : Digits digits) :
    readDigits? digits = some (valueOf digits) := by
  have hempty : digits.isEmpty = false := by simpa using h.ne_nil
  have hall : digits.all Char.isDigit = true := List.all_eq_true.mpr h.digit
  rw [readDigits?, hempty, hall]
  rfl

theorem readGrouped?_digits {digits : List Char} (h : Digits digits) :
    readGrouped? digits = some (valueOf digits) := by
  obtain ⟨first, rest, rfl⟩ := List.exists_cons_of_ne_nil h.ne_nil
  obtain ⟨hfirst, hrest⟩ := List.forall_mem_cons.mp h.digit
  have hall : rest.all (fun char => char.isDigit || char == '_') = true :=
    List.all_eq_true.mpr fun char hmem => by rw [hrest char hmem, Bool.true_or]
  rw [readGrouped?, hfirst, hall, List.filter_eq_self.mpr hrest]
  rfl

theorem Digits.append {digits tail : List Char} (h : Digits digits)
    (htail : ∀ char ∈ tail, char.isDigit = true) : Digits (digits ++ tail) :=
  ⟨List.append_ne_nil_of_left_ne_nil h.ne_nil tail,
    fun char hmem => (List.mem_append.mp hmem).elim (h.digit char) (htail char)⟩

theorem Digits.not_sign {digits : List Char} (h : Digits digits) {rest : List Char} :
    digits ≠ '-' :: rest ∧ digits ≠ '+' :: rest := by
  constructor <;> rintro rfl <;> exact absurd (h.digit _ List.mem_cons_self) (by decide)

namespace Sign

def factor : Sign → Int
  | .minus => -1
  | .absent | .plus => 1

theorem kept_cases (sign : Sign) :
    (sign.kept.toList = [] ∧ sign.factor = 1) ∨
      (sign.kept.toList = ['-'] ∧ sign.factor = -1) := by
  cases sign with
  | minus => exact Or.inr ⟨rfl, rfl⟩
  | _ => exact Or.inl ⟨rfl, rfl⟩

theorem readInteger?_digits (sign : Sign) {digits : List Char} (h : Digits digits) :
    readInteger? (sign.kept.toList ++ digits) = some (sign.factor * valueOf digits) := by
  obtain ⟨hkept, hfactor⟩ | ⟨hkept, hfactor⟩ := sign.kept_cases
  · rw [hkept, hfactor, List.nil_append, one_mul, readInteger?.eq_def]
    split
    · exact absurd rfl h.not_sign.1
    · exact absurd rfl h.not_sign.2
    · rw [readGrouped?_digits h, Option.map_some]
  · rw [hkept, hfactor, List.singleton_append, readInteger?, readGrouped?_digits h,
      Option.map_some, neg_one_mul]

end Sign

theorem Mantissa.not_mark {mantissa : List Char} (h : Mantissa mantissa) :
    ∀ char ∈ mantissa, (!isExponentMark char) = true := by
  have hdigit (char : Char) (hchar : char.isDigit = true) : (!isExponentMark char) = true := by
    rw [Bool.not_eq_true']
    refine Bool.eq_false_iff.mpr fun hmark => ?_
    rcases (isExponentMark_iff char).mp hmark with rfl | rfl <;> exact absurd hchar (by decide)
  cases h with
  | whole hdigits => exact fun char hmem => hdigit char (hdigits.digit char hmem)
  | pointed hdigits hfraction =>
      intro char hmem
      rcases List.mem_append.mp hmem with hmem | hmem
      · exact hdigit char (hdigits.digit char hmem)
      rcases List.mem_cons.mp hmem with rfl | hmem
      · rfl
      · exact hdigit char (hfraction char hmem)
  | leading hfraction =>
      intro char hmem
      rcases List.mem_cons.mp hmem with rfl | hmem
      · rfl
      · exact hdigit char (hfraction.digit char hmem)

theorem Exponent.mark {exponent : List Char} (h : Exponent exponent) :
    ∀ char ∈ exponent.head?, (!isExponentMark char) = false := by
  cases h with
  | absent => exact fun char hmem => absurd hmem (Option.not_mem_none char)
  | @marked mark _ _ hmark _ _ =>
      rintro char ⟨⟩
      rw [(isExponentMark_iff mark).mpr hmark, Bool.not_true]

section

variable {mantissa exponent : List Char} (hmantissa : Mantissa mantissa)
  (hexponent : Exponent exponent)

include hmantissa hexponent

theorem mantissaOf_append : mantissaOf (mantissa ++ exponent) = mantissa :=
  takeWhile_append_of_all hmantissa.not_mark hexponent.mark

theorem exponentOf_append : exponentOf (mantissa ++ exponent) = exponent :=
  dropWhile_append_of_all hmantissa.not_mark hexponent.mark

end

structure Parts (mantissa whole fraction : List Char) : Prop where
  digits : Digits whole
  fraction_digit : ∀ char ∈ fraction, char.isDigit = true
  spelled : Decimal.spelledOut mantissa = whole ∧ fraction = [] ∨
    Decimal.spelledOut mantissa = whole ++ '.' :: fraction
  places_eq : places mantissa = fraction.length
  value_eq : mantissaValue mantissa = valueOf (whole ++ fraction) / 10 ^ fraction.length

theorem head?_ne_point {digits : List Char} (h : Digits digits) (tail : List Char) :
    (digits ++ tail).head? ≠ some '.' := by
  obtain ⟨first, rest, rfl⟩ := List.exists_cons_of_ne_nil h.ne_nil
  rw [List.cons_append, List.head?_cons]
  rintro ⟨⟩
  exact absurd (h.digit _ List.mem_cons_self) (by decide)

theorem getLast?_ne_point (front : List Char) {digits : List Char} (h : Digits digits) :
    (front ++ digits).getLast? ≠ some '.' := by
  rw [List.getLast?_append_of_ne_nil front h.ne_nil]
  intro hlast
  exact absurd (h.digit _ (List.mem_of_getLast? hlast)) (by decide)

theorem value_parts (whole fraction : List Char) :
    (valueOf whole + valueOf fraction / 10 ^ fraction.length : ℚ) =
      valueOf (whole ++ fraction) / 10 ^ fraction.length := by
  have hpower : (10 : ℚ) ^ fraction.length ≠ 0 := pow_ne_zero _ (by decide)
  rw [valueOf_append, eq_div_iff hpower, add_mul, div_mul_cancel₀ _ hpower]
  push_cast
  ring

theorem point_not_isDigit (rest : List Char) :
    ∀ char ∈ ('.' :: rest).head?, char.isDigit = false := by
  rintro char ⟨⟩
  rfl

theorem behindPoint_digits {digits : List Char} (h : ∀ char ∈ digits, char.isDigit = true) :
    behindPoint digits = [] := by
  rw [behindPoint, List.dropWhile_eq_nil_iff.mpr h, List.drop_nil]

section

variable {digits : List Char} (hdigits : ∀ char ∈ digits, char.isDigit = true)
  (fraction : List Char)

include hdigits

theorem takeWhile_pointed : (digits ++ '.' :: fraction).takeWhile Char.isDigit = digits :=
  takeWhile_append_of_all hdigits (point_not_isDigit fraction)

theorem behindPoint_pointed : behindPoint (digits ++ '.' :: fraction) = fraction := by
  rw [behindPoint, dropWhile_append_of_all hdigits (point_not_isDigit fraction), List.drop_one,
    List.tail_cons]

theorem mantissaValue_pointed :
    mantissaValue (digits ++ '.' :: fraction) =
      valueOf (digits ++ fraction) / 10 ^ fraction.length := by
  rw [mantissaValue, takeWhile_pointed hdigits, behindPoint_pointed hdigits, value_parts]

end

theorem parts_whole {digits : List Char} (h : Digits digits) : Parts digits digits [] where
  digits := h
  fraction_digit := List.forall_mem_nil _
  spelled := by
    have hhead := head?_ne_point h []
    have hlast : digits.getLast? ≠ some '.' := getLast?_ne_point [] h
    rw [List.append_nil] at hhead
    refine Or.inl ⟨?_, rfl⟩
    simp only [Decimal.spelledOut, if_neg hhead, if_neg hlast]
  places_eq := by
    have hlast : digits.getLast? ≠ some '.' := getLast?_ne_point [] h
    rw [places, if_neg hlast, behindPoint_digits h.digit]
  value_eq := by
    rw [mantissaValue, behindPoint_digits h.digit, List.takeWhile_eq_self_iff.mpr h.digit,
      value_parts]

theorem parts_pointed {digits fraction : List Char} (hdigits : Digits digits)
    (hfraction : Digits fraction) : Parts (digits ++ '.' :: fraction) digits fraction where
  digits := hdigits
  fraction_digit := hfraction.digit
  spelled := by
    have hlast := getLast?_ne_point (digits ++ ['.']) hfraction
    rw [List.append_assoc, List.singleton_append] at hlast
    refine Or.inr ?_
    simp only [Decimal.spelledOut, if_neg (head?_ne_point hdigits _), if_neg hlast]
  places_eq := by
    have hlast := getLast?_ne_point (digits ++ ['.']) hfraction
    rw [List.append_assoc, List.singleton_append] at hlast
    rw [places, if_neg hlast, behindPoint_pointed hdigits.digit]
  value_eq := mantissaValue_pointed hdigits.digit fraction

theorem parts_closed {digits : List Char} (h : Digits digits) :
    Parts (digits ++ ['.']) digits ['0'] where
  digits := h
  fraction_digit := List.forall_mem_singleton.mpr rfl
  spelled := by
    refine Or.inr ?_
    simp only [Decimal.spelledOut, if_neg (head?_ne_point h _), List.getLast?_concat, if_true,
      List.append_assoc, List.singleton_append]
  places_eq := by
    rw [places, List.getLast?_concat, if_pos rfl, List.length_singleton]
  value_eq := by
    rw [mantissaValue_pointed h.digit, List.append_nil, List.length_nil, pow_zero, div_one,
      valueOf_append, List.length_singleton]
    have hzero : valueOf ['0'] = 0 := rfl
    rw [hzero, add_zero, Nat.cast_mul]
    simp

theorem parts_leading {fraction : List Char} (h : Digits fraction) :
    Parts ('.' :: fraction) ['0'] fraction where
  digits := ⟨List.cons_ne_nil _ _, List.forall_mem_singleton.mpr rfl⟩
  fraction_digit := h.digit
  spelled := by
    have hlast : ('.' :: fraction).getLast? ≠ some '.' := getLast?_ne_point ['.'] h
    refine Or.inr ?_
    simp only [Decimal.spelledOut, List.head?_cons, if_true, if_neg hlast,
      List.singleton_append]
  places_eq := by
    have hlast : ('.' :: fraction).getLast? ≠ some '.' := getLast?_ne_point ['.'] h
    have hbehind : behindPoint ('.' :: fraction) = fraction :=
      behindPoint_pointed (List.forall_mem_nil _) fraction
    rw [places, if_neg hlast, hbehind]
  value_eq := by
    have hvalue : mantissaValue ('.' :: fraction) = valueOf fraction / 10 ^ fraction.length :=
      mantissaValue_pointed (List.forall_mem_nil _) fraction
    have hzero : valueOf ['0'] = 0 := rfl
    rw [hvalue, valueOf_append, hzero, mul_zero, zero_add]

theorem Mantissa.exists_parts {mantissa : List Char} (h : Mantissa mantissa) :
    ∃ whole fraction, Parts mantissa whole fraction := by
  cases h with
  | whole hdigits => exact ⟨_, _, parts_whole hdigits⟩
  | @pointed digits fraction hdigits hfraction =>
      by_cases hempty : fraction = []
      · subst hempty
        exact ⟨_, _, parts_closed hdigits⟩
      · exact ⟨_, _, parts_pointed hdigits ⟨hempty, hfraction⟩⟩
  | leading hfraction => exact ⟨_, _, parts_leading hfraction⟩

theorem readPower?_of_exponent {mark : Char} {power : List Char}
    (h : Exponent (mark :: power)) : readPower? power = some (writtenPower (mark :: power)) := by
  cases h with
  | @marked _ sign digits _ hsign hdigits =>
      have hread := readDigits?_digits hdigits
      obtain ⟨hminus, hplus⟩ : (∀ rest, digits ≠ '-' :: rest) ∧ ∀ rest, digits ≠ '+' :: rest :=
        ⟨fun _ => hdigits.not_sign.1, fun _ => hdigits.not_sign.2⟩
      rcases hsign with rfl | rfl | rfl
      · rw [List.nil_append, readPower?.eq_3 digits hminus hplus, hread,
          writtenPower.eq_4 mark digits hminus hplus, Option.map_some]
      · rw [List.singleton_append, readPower?, hread, writtenPower, Option.map_some]
      · rw [List.singleton_append, readPower?, hread, writtenPower, Option.map_some]

theorem readUnsigned?_eq (signs : List Char) {number : List Char} (h : Numeral number) :
    Decimal.readUnsigned? signs number =
      Decimal.ofParts? (signs ++ Decimal.spelledOut (mantissaOf number))
        (writtenPower (exponentOf number)) := by
  have hexponent : Exponent (exponentOf number) := by
    obtain ⟨hmantissa, hexponent⟩ := h
    rwa [exponentOf_append hmantissa hexponent]
  have hdrop : number.dropWhile (fun char => !isExponentMark char) = exponentOf number := rfl
  have htake : number.takeWhile (fun char => !isExponentMark char) = mantissaOf number := rfl
  simp only [Decimal.readUnsigned?, hdrop, htake]
  cases hsplit : exponentOf number with
  | nil => rw [writtenPower]
  | cons mark power =>
      rw [hsplit] at hexponent
      simp only [readPower?_of_exponent hexponent, Option.bind_some]

theorem Parts.ofParts?_eq {mantissa whole fraction : List Char} (h : Parts mantissa whole fraction)
    (sign : Sign) (power : Int) :
    Decimal.ofParts? (sign.kept.toList ++ Decimal.spelledOut mantissa) power =
      if Decimal.fitsScale (places mantissa - power) then
        some { coefficient := sign.factor * valueOf (whole ++ fraction)
               exponent := power - places mantissa }
      else none := by
  -- Neither a sign nor a digit is a point, so the text is cut at that of the mantissa.
  have hfront : ∀ char ∈ sign.kept.toList ++ whole, (char != '.') = true := by
    intro char hmem
    rcases List.mem_append.mp hmem with hmem | hmem
    · obtain ⟨hkept, -⟩ | ⟨hkept, -⟩ := sign.kept_cases <;> rw [hkept] at hmem
      · cases hmem
      · rw [List.mem_singleton.mp hmem]
        rfl
    · refine bne_iff_ne.mpr ?_
      rintro rfl
      exact absurd (h.digits.digit _ hmem) (by decide)
  have hsplit : (sign.kept.toList ++ Decimal.spelledOut mantissa).takeWhile (· != '.') =
        sign.kept.toList ++ whole ∧
      ((sign.kept.toList ++ Decimal.spelledOut mantissa).dropWhile (· != '.')).drop 1 =
        fraction := by
    obtain ⟨hspelled, rfl⟩ | hspelled := h.spelled
    · rw [hspelled, List.takeWhile_eq_self_iff.mpr hfront, List.dropWhile_eq_nil_iff.mpr hfront]
      exact ⟨rfl, rfl⟩
    · have hpoint : ∀ char ∈ ('.' :: fraction).head?, (char != '.') = false := by
        rintro char ⟨⟩
        rfl
      rw [hspelled, ← List.append_assoc, takeWhile_append_of_all hfront hpoint,
        dropWhile_append_of_all hfront hpoint]
      exact ⟨rfl, rfl⟩
  have hplaces : (fraction.filter (· != '_')).length = places mantissa := by
    rw [h.places_eq, List.filter_eq_self.mpr]
    intro char hmem
    refine bne_iff_ne.mpr ?_
    rintro rfl
    exact absurd (h.fraction_digit _ hmem) (by decide)
  have hread := sign.readInteger?_digits (h.digits.append h.fraction_digit)
  simp only [Decimal.ofParts?, hsplit, hplaces, List.append_assoc, hread, Option.map_some]

theorem Numeral.not_sign {number : List Char} (h : Numeral number) :
    (∀ rest, number ≠ '-' :: rest) ∧ ∀ rest, number ≠ '+' :: rest := by
  obtain ⟨first, rest, rfl, hstart⟩ := h.starts
  constructor <;>
  · rintro tail ⟨⟩
    exact absurd (digit_or_point_of_startsNumber hstart) (by decide)

theorem Numeral.read?_kept {number : List Char} (h : Numeral number) (sign : Sign) :
    Decimal.read? (sign.kept.toList ++ number) =
      Decimal.readUnsigned? sign.kept.toList number := by
  obtain ⟨hkept, -⟩ | ⟨hkept, -⟩ := sign.kept_cases
  · rw [hkept, List.nil_append, Decimal.read?.eq_2 number h.not_sign.1]
  · rw [hkept]
    rfl

theorem Numeral.read?_eq {number : List Char} (h : Numeral number) (sign : Sign) :
    ∃ decimal : Decimal, decimal.value = sign.factor * numeralValue number ∧
      Decimal.read? (sign.kept.toList ++ number) =
        if Decimal.fitsScale (-lastPower number) then some decimal else none := by
  obtain ⟨whole, fraction, hparts⟩ : ∃ whole fraction, Parts (mantissaOf number) whole fraction := by
    obtain ⟨hmantissa, hexponent⟩ := h
    rw [mantissaOf_append hmantissa hexponent]
    exact hmantissa.exists_parts
  refine ⟨{ coefficient := sign.factor * valueOf (whole ++ fraction)
            exponent := lastPower number }, ?_, ?_⟩
  · rw [Decimal.value, numeralValue, hparts.value_eq, lastPower, hparts.places_eq,
      zpow_sub₀ (by decide), zpow_natCast]
    push_cast
    ring
  · have hscale : (places (mantissaOf number) : Int) - writtenPower (exponentOf number) =
        -lastPower number := (neg_sub _ _).symm
    rw [h.read?_kept, readUnsigned?_eq _ h, hparts.ofParts?_eq, hscale]
    rfl

end LiveSheet.Formula
