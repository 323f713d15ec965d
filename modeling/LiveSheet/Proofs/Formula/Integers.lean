import LiveSheet.Proofs.Formula.Extrema
import LiveSheet.Proofs.Number.Width
import Mathlib.Data.List.Forall2

namespace LiveSheet.Formula

open LiveSheet.Number
open LiveSheet.Text

/-! Integers of any size are text between two operators.  What is read is what was
written, so the operators that integers are closed under are exact, and so are sums, least
and greatest numbers. -/

section

variable {digits : List Char} (h : Digits digits)

include h

theorem mantissaOf_digits : mantissaOf digits = digits := by
  have hmantissa := mantissaOf_append (.whole h) .absent
  rwa [List.append_nil] at hmantissa

theorem exponentOf_digits : exponentOf digits = [] := by
  have hexponent := exponentOf_append (.whole h) .absent
  rwa [List.append_nil] at hexponent

theorem numeralValue_digits : numeralValue digits = valueOf digits := by
  rw [numeralValue, mantissaOf_digits h, exponentOf_digits h, (parts_whole h).value_eq,
    List.append_nil]
  simp [writtenPower]

theorem lastPower_digits : lastPower digits = 0 := by
  rw [lastPower, mantissaOf_digits h, exponentOf_digits h, (parts_whole h).places_eq]
  rfl

end

namespace Literal

structure StandsFor (literal : Literal) (value : Int) : Prop where
  kind : literal.kind = .int
  whole : IsWhole literal.text
  exact : literal.exactValue = value

section

variable {literal : Literal} {value : Int}

theorem Shows.standsFor {sign : Sign} {digits : List Char} (h : literal.Shows sign digits)
    (hkind : literal.kind = .int) : literal.StandsFor (sign.factor * valueOf digits) := by
  refine ⟨hkind, ⟨sign, digits, h.whole hkind, ?_⟩, ?_⟩
  · rw [← String.toList_inj, h.text_eq, String.toList_append, String.toList_ofList]
  · rw [h.exactValue_eq, numeralValue_digits (h.whole hkind)]
    push_cast
    rfl

theorem StandsFor.exists_shows (h : literal.StandsFor value) :
    ∃ sign digits, literal.Shows sign digits ∧ sign.factor * valueOf digits = value := by
  obtain ⟨sign, digits, hdigits, htext⟩ := h.whole
  have hshows : literal.Shows sign digits := by
    refine ⟨(Mantissa.whole hdigits).numeral, ?_, numeric_of_int h.kind, fun _ => hdigits⟩
    rw [htext, String.toList_append, String.toList_ofList]
  have hexact := (hshows.standsFor h.kind).exact.symm.trans h.exact
  exact ⟨sign, digits, hshows, Int.cast_injective hexact⟩

theorem StandsFor.unique {other : Int} (h : literal.StandsFor value)
    (hother : literal.StandsFor other) : other = value :=
  Int.cast_injective (hother.exact.symm.trans h.exact)

theorem Settled.standsFor (h : literal.Settled) (hkind : literal.kind = .int) :
    ∃ value, literal.StandsFor value := by
  obtain ⟨sign, digits, hshows⟩ := h.isNumber (numeric_of_int hkind)
  exact ⟨_, hshows.standsFor hkind⟩

theorem StandsFor.integer_eq (h : literal.StandsFor value) : literal.integer = .ok value := by
  obtain ⟨sign, digits, hshows, rfl⟩ := h.exists_shows
  have hread := sign.readInteger?_digits (hshows.whole h.kind)
  rw [← hshows.text_eq] at hread
  rw [integer, hread]

theorem StandsFor.measured (h : literal.StandsFor value) : literal.Measured := by
  obtain ⟨sign, digits, hshows, -⟩ := h.exists_shows
  refine ⟨⟨sign, digits, hshows⟩, ?_⟩
  rw [FitsPower, hshows.unsigned_eq, lastPower_digits (hshows.whole h.kind)]
  decide

end

def IsCanonical (text : String) : Prop :=
  ∃ sign : Sign, ∃ digits, Digits digits ∧ text = sign.kept ++ String.ofList digits ∧
    (digits.head? = some '0' → text = "0")

theorem eq_zero_of_head? {value : Nat} (h : (digitsOf value).head? = some '0') : value = 0 := by
  obtain ⟨rest, hdigits⟩ := List.head?_eq_some_iff.mp h
  by_contra hnonzero
  have hrest : ∀ char ∈ rest, char.isDigit = true := fun char hmem =>
    isDigit_of_mem_digitsOf (hdigits ▸ List.mem_cons_of_mem '0' hmem)
  have hzero : valueOf ('0' :: rest) = valueOf rest := by
    rw [← List.singleton_append, valueOf_append]
    exact Nat.zero_add _
  have hvalue : value = valueOf rest := by
    rw [← hzero, ← hdigits, valueOf_digitsOf]
  have hlower := Decimal.pow_length_le (Nat.pos_of_ne_zero hnonzero)
  rw [hdigits, List.length_cons, Nat.add_sub_cancel, hvalue] at hlower
  exact absurd (valueOf_lt hrest) (not_lt.mpr hlower)

theorem text_ofInteger (value : Int) :
    ∃ sign : Sign, (ofInteger value).text = sign.kept ++ String.ofList (digitsOf value.natAbs) ∧
      sign.factor * (value.natAbs : Int) = value ∧ (value = 0 → sign = .absent) := by
  unfold ofInteger integerText
  split
  · rename_i hnegative
    refine ⟨.minus, ofList_minus _, ?_, fun hzero => absurd hnegative (by omega)⟩
    rw [Sign.factor]
    omega
  · refine ⟨.absent, ofList_absent _, ?_, fun _ => rfl⟩
    rw [Sign.factor]
    omega

theorem standsFor_ofInteger (value : Int) : (ofInteger value).StandsFor value := by
  obtain ⟨sign, htext, hvalue, -⟩ := text_ofInteger value
  have hdigits := digits_digitsOf value.natAbs
  have hshows : (ofInteger value).Shows sign (digitsOf value.natAbs) := by
    refine ⟨(Mantissa.whole hdigits).numeral, ?_, LiteralKind.noConfusion, fun _ => hdigits⟩
    rw [htext, String.toList_append, String.toList_ofList]
  have hstands := hshows.standsFor rfl
  rwa [valueOf_digitsOf, hvalue] at hstands

theorem isCanonical_ofInteger (value : Int) : IsCanonical (ofInteger value).text := by
  obtain ⟨sign, htext, -, hsign⟩ := text_ofInteger value
  refine ⟨sign, _, digits_digitsOf value.natAbs, htext, fun hhead => ?_⟩
  have hzero : value = 0 := Int.natAbs_eq_zero.mp (eq_zero_of_head? hhead)
  rw [hzero]
  rfl

end Literal

section

variable {op : Operator} {combine : Int → Int → Int} {left right literal : Literal} {m n : Int}

theorem apply_integers (hexact : op.exact? = some combine) (hleft : left.StandsFor m)
    (hright : right.StandsFor n) : apply op left right = .ok (Literal.ofInteger (combine m n)) := by
  rw [apply_eq_numeric (Literal.numeric_of_int hleft.kind) (Literal.numeric_of_int hright.kind),
    applyNumeric, hexact]
  dsimp only
  rw [if_neg (by rw [hleft.kind, hright.kind]; decide), applyExact, hleft.integer_eq,
    hright.integer_eq]
  rfl

theorem applySign_integer (hexact : op.exact? = some combine) (h : literal.StandsFor n) :
    applySign op literal = .ok (Literal.ofInteger (combine 0 n)) := by
  rw [applySign, h.kind]
  exact apply_integers hexact (Literal.standsFor_ofInteger 0) h

theorem isCanonical_apply (h : apply op left right = .ok literal) (hkind : literal.kind = .int) :
    Literal.IsCanonical literal.text := by
  obtain ⟨hleft, hright⟩ := numeric_of_apply h
  rw [apply_eq_numeric hleft hright, applyNumeric] at h
  have hrounded (h : applyRounded op left right = .ok literal) :
      Literal.IsCanonical literal.text := by
    rw [kind_applyRounded h] at hkind
    cases hkind
  split at h
  · split at h
    · exact hrounded h
    · obtain ⟨first, -, h⟩ := exists_of_ok_bind h
      obtain ⟨second, -, h⟩ := exists_of_ok_bind h
      cases h
      exact Literal.isCanonical_ofInteger _
  · exact hrounded h

end

namespace Aggregate

section

variable {first next literal : Literal} {rest : List Literal} {n : Int} {values : List Int}

theorem total_integers (hfirst : first.StandsFor n)
    (hrest : List.Forall₂ Literal.StandsFor rest values) :
    ∃ literal, total first rest = .ok literal ∧ literal.StandsFor (n + values.sum) := by
  -- The sum so far is an integer of its own.
  induction hrest generalizing first n with
  | nil =>
      refine ⟨first, rfl, ?_⟩
      rwa [List.sum_nil, Int.add_zero]
  | @cons next value rest values hnext _ ih =>
      have hadds : apply .add first next = .ok (Literal.ofInteger (n + value)) :=
        apply_integers rfl hfirst hnext
      obtain ⟨literal, htotal, hstands⟩ := ih (Literal.standsFor_ofInteger (n + value))
      refine ⟨literal, ?_, ?_⟩
      · rw [total, List.foldlM_cons, hadds]
        exact htotal
      · rwa [List.sum_cons, ← Int.add_assoc]

theorem isCanonical_total (h : total first (next :: rest) = .ok literal)
    (hkind : literal.kind = .int) : Literal.IsCanonical literal.text := by
  rw [total, List.foldlM_cons] at h
  obtain ⟨sum, hadds, h⟩ := exists_of_ok_bind h
  refine foldlM_keeps (P := fun sum => sum.kind = .int → Literal.IsCanonical sum.text) ?_
    (isCanonical_apply hadds) h hkind
  exact fun best candidate result _ _ hadds => isCanonical_apply hadds

end

end Aggregate

def gathered? (name : String) (values : List Int) : Option Int :=
  if name = "SUM" then some values.sum
  else if name = "MIN" then values.min?
  else if name = "MAX" then values.max?
  else none

theorem exists_aggregate {name : String} (hname : name ∈ ["SUM", "MIN", "MAX"]) :
    ∃ aggregate, Aggregate.ofName? name = some aggregate := by
  simp only [List.mem_cons, List.not_mem_nil, or_false] at hname
  rcases hname with rfl | rfl | rfl <;> exact ⟨_, rfl⟩

theorem exists_of_forall₂ {R : α → β → Prop} {firsts : List α} {seconds : List β}
    (h : List.Forall₂ R firsts seconds) {first : α} (hmem : first ∈ firsts) :
    ∃ second ∈ seconds, R first second := by
  induction h with
  | nil => cases hmem
  | cons hfirst _ ih =>
      rcases List.mem_cons.mp hmem with rfl | hmem
      · exact ⟨_, List.mem_cons_self, hfirst⟩
      · obtain ⟨second, hsecond, hrelated⟩ := ih hmem
        exact ⟨second, List.mem_cons_of_mem _ hsecond, hrelated⟩

section

variable {literals : List Literal} {values : List Int}
  (h : List.Forall₂ Literal.StandsFor literals values)

include h

theorem FirstBy.integer {ahead : ℚ → ℚ → Prop} [IsStrictTotalOrder ℚ ahead] {result : Literal}
    (hfirst : FirstBy ahead literals result) :
    ∃ value ∈ values, result.StandsFor value ∧ ∀ other ∈ values, ¬ ahead other value := by
  obtain ⟨value, hvalue, hstands⟩ := exists_of_forall₂ h hfirst.mem
  refine ⟨value, hvalue, hstands, fun other hother => ?_⟩
  have hflip : List.Forall₂ (flip Literal.StandsFor) values literals := List.Forall₂.flip h
  obtain ⟨literal, hliteral, hexact⟩ := exists_of_forall₂ hflip hother
  have hnot := hfirst.not_ahead hliteral
  rwa [hstands.exact, hexact.exact] at hnot

theorem applyAggregate_integers {name : String} {aggregate : Aggregate}
    (hname : name ∈ ["SUM", "MIN", "MAX"]) (hfunction : Aggregate.ofName? name = some aggregate)
    (hsome : literals ≠ []) :
    ∃ literal value, applyAggregate name aggregate literals = .ok literal ∧
      literal.StandsFor value ∧ gathered? name values = some value := by
  have hmeasured : ∀ literal ∈ literals, literal.Measured := by
    intro literal hmem
    obtain ⟨value, -, hstands⟩ := exists_of_forall₂ h hmem
    exact hstands.measured
  simp only [List.mem_cons, List.not_mem_nil, or_false] at hname
  rcases hname with rfl | rfl | rfl
  · cases hfunction
    cases h with
    | nil => exact absurd rfl hsome
    | cons hfirst hrest =>
        obtain ⟨literal, htotal, hstands⟩ := Aggregate.total_integers hfirst hrest
        rw [← List.sum_cons] at hstands
        exact ⟨literal, _, htotal, hstands, rfl⟩
  · obtain ⟨same, result, hsame, hresult, hfirst⟩ := LooksFor.min.exists_first hsome hmeasured
    cases hfunction.symm.trans hsame
    obtain ⟨value, hvalue, hstands, hleast⟩ := hfirst.integer h
    have hmin : values.min? = some value := by
      refine List.min?_eq_some_iff.mpr ⟨hvalue, fun other hother => ?_⟩
      exact_mod_cast not_lt.mp (hleast other hother)
    exact ⟨result, value, hresult, hstands, hmin⟩
  · obtain ⟨same, result, hsame, hresult, hfirst⟩ := LooksFor.max.exists_first hsome hmeasured
    cases hfunction.symm.trans hsame
    obtain ⟨value, hvalue, hstands, hgreatest⟩ := hfirst.integer h
    have hmax : values.max? = some value := by
      refine List.max?_eq_some_iff.mpr ⟨hvalue, fun other hother => ?_⟩
      exact_mod_cast not_lt.mp (hgreatest other hother)
    exact ⟨result, value, hresult, hstands, hmax⟩

end

end LiveSheet.Formula
