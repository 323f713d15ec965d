import LiveSheet.Proofs.Formula.Operands
import LiveSheet.Proofs.Number.Width

namespace LiveSheet.Formula

open LiveSheet.Number

/-! Comparison and division by the exact numbers that literals are written as.  Neither
looks at the kind of a number. -/

namespace Literal

structure Scanned (literal : Literal) : Prop where
  numeric : literal.kind ≠ .string
  reads : ∃ sign : Sign, ∃ number token, literal.text = sign.kept ++ String.ofList number ∧
    readToken number = .token token number [] ∧ token.IsNumber

def asFloat (literal : Literal) : Literal :=
  { kind := .float, text := literal.text }

section

variable {literal : Literal}

theorem Scanned.shows (h : literal.Scanned) : ∃ sign number, literal.asFloat.Shows sign number := by
  obtain ⟨sign, number, token, htext, hread, hnumber⟩ := h.reads
  refine ⟨sign, number, (numeral_of_readToken hread hnumber).1, ?_, LiteralKind.noConfusion,
    LiteralKind.noConfusion⟩
  rw [asFloat, htext, String.toList_append, String.toList_ofList]

theorem decimal_asFloat (h : literal.kind ≠ .string) : literal.asFloat.decimal = literal.decimal := by
  have hfloat : literal.asFloat.kind ≠ .string := LiteralKind.noConfusion
  rw [decimal, decimal, if_neg h, if_neg hfloat]
  rfl

theorem Scanned.decimal_eq (h : literal.Scanned) :
    (literal.FitsPower ∧ ∃ size, literal.decimal = .ok size ∧ size.value = literal.exactValue) ∨
      (¬ literal.FitsPower ∧ literal.decimal = .error (.invalidNumber literal.text)) := by
  obtain ⟨sign, number, hshows⟩ := h.shows
  rw [← decimal_asFloat h.numeric]
  exact hshows.decimal_eq

theorem Scanned.binary64_eq (h : literal.Scanned) :
    ∃ negative scientific, scientific.value = |literal.exactValue| ∧
      literal.binary64 = .ok (Binary64.ofScientific negative scientific) := by
  obtain ⟨sign, number, hshows⟩ := h.shows
  exact hshows.binary64_eq

theorem read?_of_decimal {size : Decimal} (h : literal.decimal = .ok size) :
    Decimal.read? literal.text.toList = some size := by
  unfold decimal at h
  split at h
  · cases h
  split at h
  · rename_i hread
    cases h
    exact hread
  · cases h

structure Comparable (literal : Literal) : Prop where
  scanned : literal.Scanned
  fits : literal.FitsPower

theorem Comparable.decimal_eq (h : literal.Comparable) :
    ∃ size, literal.decimal = .ok size ∧ size.value = literal.exactValue := by
  obtain ⟨-, hsize⟩ | ⟨hout, -⟩ := h.scanned.decimal_eq
  · exact hsize
  · exact absurd h.fits hout

end

section

variable {left middle right : Literal}

theorem Comparable.compareLiterals_eq (hleft : left.Comparable) (hright : right.Comparable) :
    compareLiterals left right = .ok (Ord.compare left.exactValue right.exactValue) := by
  obtain ⟨size, hsize, hvalue⟩ := hleft.decimal_eq
  obtain ⟨other, hother, hotherValue⟩ := hright.decimal_eq
  rw [compareLiterals_of_decimal hsize hother, hvalue, hotherValue]

def AtMost (left right : Literal) : Prop :=
  ∃ order, compareLiterals left right = .ok order ∧ order ≠ .gt

theorem Comparable.atMost_iff (hleft : left.Comparable) (hright : right.Comparable) :
    left.AtMost right ↔ left.exactValue ≤ right.exactValue := by
  rw [AtMost, hleft.compareLiterals_eq hright]
  constructor
  · rintro ⟨order, horder, hnot⟩
    cases horder
    exact compare_le_iff_le.mp hnot
  · exact fun h => ⟨_, rfl, compare_le_iff_le.mpr h⟩

end

theorem comparable_zero : Comparable { kind := .int, text := "0" } where
  scanned := ⟨LiteralKind.noConfusion, .absent, ['0'], .int "0", rfl, rfl, trivial⟩
  fits := by decide

theorem exactValue_zero : exactValue { kind := .int, text := "0" } = 0 := by
  decide +kernel

/-- Numbers are compared by the exact values of their texts, which never fails while their
powers of ten are within bounds.  So the comparison orders them, and those of one value are
equal whatever their texts are.  What it brings to one unit stays as short as the texts. -/
theorem compareLiterals_exact {left middle right : Literal} (hleft : left.Comparable)
    (hmiddle : middle.Comparable) (hright : right.Comparable) :
    compareLiterals left right = .ok (Ord.compare left.exactValue right.exactValue) ∧
      (compareLiterals left right = .ok .eq ↔ left.exactValue = right.exactValue) ∧
      (left.AtMost right ∨ right.AtMost left) ∧
      (left.AtMost middle → middle.AtMost right → left.AtMost right) ∧
      ∀ size other, left.decimal = .ok size → right.decimal = .ok other →
        size.order = other.order →
          size.sizeIn (min size.exponent other.exponent) <
            10 ^ (max left.text.toList.length right.text.toList.length + 2) := by
  have hcompare := hleft.compareLiterals_eq hright
  refine ⟨hcompare, ?_, ?_, fun hfirst hsecond => ?_, fun size other hsize hother horder => ?_⟩
  · rw [hcompare, Except.ok.injEq, compare_eq_iff_eq]
  · rw [hleft.atMost_iff hright, hright.atMost_iff hleft]
    exact le_total _ _
  · rw [hleft.atMost_iff hmiddle] at hfirst
    rw [hmiddle.atMost_iff hright] at hsecond
    rw [hleft.atMost_iff hright]
    exact hfirst.trans hsecond
  · exact Decimal.sizeIn_lt_of_read? (read?_of_decimal hsize) (read?_of_decimal hother) horder

def huge : Literal :=
  { kind := .float, text := "1.e9223372036854775807" }

theorem compareLiterals_exact_huge :
    Comparable { kind := .float, text := "-.50e1" } ∧
      Comparable { kind := .int, text := "-5" } ∧ huge.Comparable ∧
      compareLiterals { kind := .float, text := "-.50e1" } { kind := .int, text := "-5" } =
        .ok .eq ∧
      exactValue { kind := .float, text := "-.50e1" } < huge.exactValue := by
  have hleft : Comparable { kind := .float, text := "-.50e1" } :=
    ⟨⟨LiteralKind.noConfusion, .minus, ".50e1".toList, .float ".50e1", rfl, rfl, trivial⟩,
      by decide⟩
  have hmiddle : Comparable { kind := .int, text := "-5" } :=
    ⟨⟨LiteralKind.noConfusion, .minus, ['5'], .int "5", rfl, rfl, trivial⟩, by decide⟩
  have hright : huge.Comparable :=
    ⟨⟨LiteralKind.noConfusion, .absent, huge.text.toList, .float huge.text, rfl, rfl, trivial⟩,
      by decide⟩
  have hequal : exactValue { kind := .float, text := "-.50e1" } =
      exactValue { kind := .int, text := "-5" } := by
    decide +kernel
  have hless : compareLiterals { kind := .float, text := "-.50e1" } huge = .ok .lt := by
    decide +kernel
  refine ⟨hleft, hmiddle, hright, (compareLiterals_exact hleft hright hmiddle).2.1.mpr hequal, ?_⟩
  rw [(compareLiterals_exact hleft hmiddle hright).1, Except.ok.injEq] at hless
  exact compare_lt_iff_lt.mp hless

end Literal

section

variable {left right : Literal}

theorem apply_div_divisionByZero (hleft : left.Scanned) (hright : right.Scanned) :
    apply .div left right = .error .divisionByZero ↔
      |right.exactValue| ≤ 2 ^ (-1075 : Int) := by
  obtain ⟨sign, dividend, -, hdividend⟩ := hleft.binary64_eq
  obtain ⟨negative, divisor, hvalue, hdivisor⟩ := hright.binary64_eq
  have happly : apply .div left right =
      if (Binary64.ofScientific negative divisor).isZero then .error .divisionByZero
      else Literal.ofBinary64 (Binary64.div (Binary64.ofScientific sign dividend)
        (Binary64.ofScientific negative divisor)) := by
    rw [apply_eq_numeric hleft.numeric hright.numeric, applyNumeric, Operator.exact?]
    dsimp only
    rw [applyRounded, hdividend, hdivisor]
    rfl
  rw [happly, ← hvalue, ← Binary64.isZero_ofScientific negative divisor]
  split
  · rename_i hzero
    exact iff_of_true rfl hzero
  · rename_i hnonzero
    refine iff_of_false (fun hfails => ?_) hnonzero
    cases ofBinary64_fails hfails

/-- A division by a number fails for it just if it is at most half of the least positive
number in size.  So it always does if the number is zero, which a comparison with zero tells
exactly while the power of ten is within bounds. -/
theorem divisionByZero_iff (hleft : left.Scanned) (hright : right.Scanned) :
    (apply .div left right = .error .divisionByZero ↔
        |right.exactValue| ≤ 2 ^ (-1075 : Int)) ∧
      (right.exactValue = 0 → apply .div left right = .error .divisionByZero) ∧
      (right.FitsPower →
        (compareLiterals right { kind := .int, text := "0" } = .ok .eq ↔
          right.exactValue = 0)) := by
  refine ⟨apply_div_divisionByZero hleft hright, fun hzero => ?_, fun hfits => ?_⟩
  · rw [apply_div_divisionByZero hleft hright, hzero, abs_zero]
    exact (zpow_pos (by decide) _).le
  · have hright : right.Comparable := ⟨hright, hfits⟩
    rw [hright.compareLiterals_eq Literal.comparable_zero, Except.ok.injEq, compare_eq_iff_eq,
      Literal.exactValue_zero]

end

def tiny : Literal :=
  { kind := .float, text := "2e-324" }

theorem scanned_tiny : tiny.Scanned :=
  ⟨LiteralKind.noConfusion, .absent, tiny.text.toList, .float tiny.text, rfl, rfl, trivial⟩

theorem divisionByZero_iff_tiny :
    Literal.Scanned { kind := .int, text := "0" } ∧ tiny.Scanned ∧
      apply .div { kind := .int, text := "0" } tiny = .error .divisionByZero := by
  have hzero : Literal.Scanned { kind := .int, text := "0" } := Literal.comparable_zero.scanned
  have hhalf : |tiny.exactValue| ≤ 2 ^ (-1075 : Int) := by decide +kernel
  exact ⟨hzero, scanned_tiny, (divisionByZero_iff hzero scanned_tiny).1.mpr hhalf⟩

theorem divisionByZero_of_tiny :
    Literal.Scanned { kind := .int, text := "0" } ∧ tiny.Scanned ∧
      ¬ (apply .div { kind := .int, text := "0" } tiny = .error .divisionByZero ↔
        tiny.exactValue = 0) := by
  have hfails : apply .div { kind := .int, text := "0" } tiny = .error .divisionByZero := by
    decide +kernel
  have hnonzero : tiny.exactValue ≠ 0 := by decide +kernel
  exact ⟨Literal.comparable_zero.scanned, scanned_tiny, fun h => hnonzero (h.mp hfails)⟩

end LiveSheet.Formula
