import LiveSheet.Proofs.Formula.Acceptance
import LiveSheet.Proofs.Formula.Numeral
import LiveSheet.Proofs.Formula.Requests

namespace LiveSheet.Formula

open LiveSheet.Number
open LiveSheet.Text

theorem digits_digitsOf (value : Nat) : Digits (digitsOf value) :=
  ⟨digitsOf_ne_nil value, fun _ hmem => isDigit_of_mem_digitsOf hmem⟩

theorem mantissa_pointed {whole fraction : List Char} (hwhole : Digits whole)
    (hfraction : ∀ char ∈ fraction, char.isDigit = true) : Mantissa (pointed whole fraction) := by
  have hkept : ∀ char ∈ dropTrailingZeros fraction, char.isDigit = true := by
    intro char hmem
    refine hfraction char (List.mem_reverse.mp ?_)
    exact (List.dropWhile_suffix _).subset (List.mem_reverse.mp hmem)
  unfold pointed
  split
  · exact .whole hwhole
  · exact .pointed hwhole hkept

theorem mantissa_positional (digits : Nat) (place : Int) : Mantissa (positional digits place) := by
  have hdigits := digits_digitsOf digits
  have hzero (count : Nat) : ∀ char ∈ List.replicate count '0', char.isDigit = true := by
    intro char hmem
    rw [List.eq_of_mem_replicate hmem]
    decide
  simp only [positional]
  split
  · refine .whole ⟨List.append_ne_nil_of_left_ne_nil hdigits.ne_nil _, fun char hmem => ?_⟩
    exact (List.mem_append.mp hmem).elim (hdigits.digit char) (hzero _ char)
  · generalize (-place).toNat = places
    have hpadded : ∀ char ∈ List.replicate (places + 1 - (digitsOf digits).length) '0' ++
        digitsOf digits, char.isDigit = true :=
      fun char hmem => (List.mem_append.mp hmem).elim (hzero _ char) (hdigits.digit char)
    have hlength : places < (List.replicate (places + 1 - (digitsOf digits).length) '0' ++
        digitsOf digits).length := by
      rw [List.length_append, List.length_replicate]
      omega
    generalize List.replicate (places + 1 - (digitsOf digits).length) '0' ++
      digitsOf digits = padded at hpadded hlength
    refine mantissa_pointed ⟨?_, fun char hmem => hpadded char (List.mem_of_mem_take hmem)⟩
      fun char hmem => hpadded char (List.mem_of_mem_drop hmem)
    rw [← List.length_pos_iff, List.length_take]
    omega

theorem Mantissa.numeral {chars : List Char} (h : Mantissa chars) : Numeral chars := by
  have hnumeral := Numeral.intro h .absent
  rwa [List.append_nil] at hnumeral

theorem ofList_minus (chars : List Char) :
    String.ofList ('-' :: chars) = Sign.minus.kept ++ String.ofList chars := by
  rw [← List.singleton_append, String.ofList_append]
  rfl

theorem ofList_absent (chars : List Char) :
    String.ofList chars = Sign.absent.kept ++ String.ofList chars :=
  (String.empty_append).symm

theorem finiteText_eq (significand exponent : Int) :
    ∃ sign : Sign, ∃ number, Numeral number ∧
      String.ofList (Binary64.finiteText significand exponent) =
        sign.kept ++ String.ofList number := by
  unfold Binary64.finiteText
  split
  · exact ⟨.absent, ['0'], (Mantissa.whole (digits_digitsOf 0)).numeral, ofList_absent _⟩
  · rcases shortestDigits significand.natAbs exponent with ⟨digits, place⟩
    have hnumber := (mantissa_positional digits place).numeral
    simp only
    split
    · exact ⟨.minus, _, hnumber, ofList_minus _⟩
    · exact ⟨.absent, _, hnumber, ofList_absent _⟩

def IsWhole (text : String) : Prop :=
  ∃ sign : Sign, ∃ digits, Digits digits ∧ text = sign.kept ++ String.ofList digits

namespace Literal

theorem writes_kept (sign : Sign) {number : List Char} (h : Numeral number) :
    ∃ kept : Sign, kept.kept = sign.kept ∧
      Writes (sign.kept ++ String.ofList number).toList kept number := by
  have hnone : ∀ char ∈ ([] : List Char), isBlank char = true := List.forall_mem_nil _
  cases sign with
  | minus =>
      refine ⟨.minus, rfl, h, [], [], [], ?_, hnone, hnone, hnone⟩
      rw [String.toList_append, String.toList_ofList, List.append_nil]
      rfl
  | _ =>
      refine ⟨.absent, rfl, h, [], [], [], ?_, hnone, hnone, hnone⟩
      rw [String.toList_append, String.toList_ofList, List.append_nil]
      rfl

theorem ofText_kept (sign : Sign) {number : List Char} (h : Numeral number) :
    ofText (sign.kept ++ String.ofList number) =
      { kind := if number.all Char.isDigit then .int else .float,
        text := sign.kept ++ String.ofList number } := by
  obtain ⟨kept, hkept, hwrites⟩ := writes_kept sign h
  rw [ofText_of_writes hwrites, hkept]

theorem ofText_of_isWhole {text : String} (h : IsWhole text) :
    ofText text = { kind := .int, text } := by
  obtain ⟨sign, digits, hdigits, rfl⟩ := h
  rw [ofText_kept sign (Mantissa.whole hdigits).numeral,
    if_pos (List.all_eq_true.mpr hdigits.digit)]

/-! A value is settled when its text is read back as it, but that a whole number which
was computed as a float is read back as an integer. -/

def Settled (literal : Literal) : Prop :=
  ofText literal.text = literal ∨ (literal.kind = .float ∧ IsWhole literal.text)

theorem Settled.text_eq {literal : Literal} (h : literal.Settled) :
    (ofText literal.text).text = literal.text := by
  rcases h with hsame | ⟨-, hwhole⟩
  · rw [hsame]
  · rw [ofText_of_isWhole hwhole]

theorem settled_ofText (text : String) : (ofText text).Settled := by
  refine Or.inl ?_
  rcases ofText_cases text with ⟨sign, number, hwrites⟩ | hstring
  · rw [ofText_of_writes hwrites]
    exact ofText_kept sign hwrites.numeral
  · rw [hstring]
    exact hstring

theorem settled_ofInteger (value : Int) : (ofInteger value).Settled := by
  refine Or.inl (ofText_of_isWhole ?_)
  have hdigits := digits_digitsOf value.natAbs
  unfold ofInteger integerText
  split
  · exact ⟨.minus, _, hdigits, ofList_minus _⟩
  · exact ⟨.absent, _, hdigits, ofList_absent _⟩

theorem settled_float (sign : Sign) {number : List Char} (h : Numeral number) :
    Settled { kind := .float, text := sign.kept ++ String.ofList number } := by
  by_cases hall : number.all Char.isDigit = true
  · obtain ⟨first, rest, hnumber, -⟩ := h.starts
    exact Or.inr ⟨rfl, sign, number,
      ⟨hnumber ▸ List.cons_ne_nil _ _, List.all_eq_true.mp hall⟩, rfl⟩
  · refine Or.inl ?_
    rw [ofText_kept sign h, if_neg hall]

theorem settled_ofBinary64 {value : Binary64} {literal : Literal}
    (h : ofBinary64 value = .ok literal) : literal.Settled := by
  unfold ofBinary64 Binary64.text? at h
  cases value with
  | finite significand exponent =>
      obtain ⟨sign, number, hnumber, htext⟩ := finiteText_eq significand exponent
      cases h
      rw [htext]
      exact settled_float sign hnumber
  | infinite negative => cases h
  | nan => cases h

theorem settled_of_token? {literal : Literal} {token : Token}
    (h : literal.token? = some token) (halone : token.StandsAlone) : literal.Settled := by
  have hread : tokenize literal.text = .ok [token] ∧ ofTokens? [token] = some literal := by
    obtain ⟨kind, text⟩ := literal
    cases kind with
    | string => cases h
    | int =>
        cases h
        exact ⟨halone, by rw [ofTokens?, ofNumber?, String.empty_append]⟩
    | float =>
        cases h
        exact ⟨halone, by rw [ofTokens?, ofNumber?, String.empty_append]⟩
  refine Or.inl ?_
  simp only [ofText, hread.1, hread.2, Option.getD_some]

end Literal

theorem exists_of_ok_bind {first : Except ε α} {next : α → Except ε β} {result : β}
    (h : (first >>= next) = .ok result) :
    ∃ value, first = .ok value ∧ next value = .ok result := by
  cases first with
  | error error => cases h
  | ok value => exact ⟨value, rfl, h⟩

section

variable {op : Operator} {left right literal : Literal}

theorem settled_applyRounded (h : applyRounded op left right = .ok literal) :
    literal.Settled := by
  obtain ⟨dividend, -, h⟩ := exists_of_ok_bind h
  obtain ⟨divisor, -, h⟩ := exists_of_ok_bind h
  split at h
  · cases h
  · exact Literal.settled_ofBinary64 h

theorem settled_applyExact {combine : Int → Int → Int}
    (h : applyExact combine left right = .ok literal) : literal.Settled := by
  obtain ⟨first, -, h⟩ := exists_of_ok_bind h
  obtain ⟨second, -, h⟩ := exists_of_ok_bind h
  cases h
  exact Literal.settled_ofInteger _

theorem settled_apply (h : apply op left right = .ok literal) : literal.Settled := by
  unfold apply applyNumeric at h
  split at h
  · cases h
  split at h
  · cases h
  split at h
  · split at h
    · exact settled_applyRounded h
    · exact settled_applyExact h
  · exact settled_applyRounded h

end

section

variable {first literal : Literal} {rest : List Literal}

theorem foldlM_keeps {combine : Literal → Literal → Except EvalError Literal} {P : Literal → Prop}
    (hcombine : ∀ best candidate result, P best → candidate ∈ rest →
      combine best candidate = .ok result → P result)
    (hfirst : P first) (h : rest.foldlM combine first = .ok literal) : P literal := by
  induction rest generalizing first with
  | nil =>
      cases h
      exact hfirst
  | cons next rest ih =>
      rw [List.foldlM_cons] at h
      obtain ⟨middle, hmiddle, h⟩ := exists_of_ok_bind h
      refine ih (fun best candidate result hbest hmem => ?_) ?_ h
      · exact hcombine best candidate result hbest (List.mem_cons_of_mem _ hmem)
      · exact hcombine first next middle hfirst List.mem_cons_self hmiddle

theorem settled_foldlM {combine : Literal → Literal → Except EvalError Literal}
    (hcombine : ∀ best candidate result, best.Settled → candidate.Settled →
      combine best candidate = .ok result → result.Settled)
    (hfirst : first.Settled) (hrest : ∀ value ∈ rest, value.Settled)
    (h : rest.foldlM combine first = .ok literal) : literal.Settled := by
  refine foldlM_keeps (fun best candidate result hbest hmem => ?_) hfirst h
  exact hcombine best candidate result hbest (hrest candidate hmem)

theorem settled_better {wins : Ordering} {best candidate result : Literal}
    (hbest : best.Settled) (hcandidate : candidate.Settled)
    (h : Aggregate.better wins best candidate = .ok result) : result.Settled := by
  obtain ⟨order, -, h⟩ := exists_of_ok_bind h
  cases h
  split
  · exact hcandidate
  · exact hbest

theorem settled_extremum {wins : Ordering} (hfirst : first.Settled)
    (hrest : ∀ value ∈ rest, value.Settled)
    (h : Aggregate.extremum wins first rest = .ok literal) : literal.Settled := by
  obtain ⟨size, -, h⟩ := exists_of_ok_bind h
  exact settled_foldlM (fun _ _ _ hbest hcandidate => settled_better hbest hcandidate)
    hfirst hrest h

theorem settled_applyTo {aggregate : Aggregate} (hfirst : first.Settled)
    (hrest : ∀ value ∈ rest, value.Settled)
    (h : aggregate.applyTo first rest = .ok literal) : literal.Settled := by
  cases aggregate with
  | sum => exact settled_foldlM (fun _ _ _ _ _ => settled_apply) hfirst hrest h
  | avg =>
      obtain ⟨total, -, h⟩ := exists_of_ok_bind h
      exact settled_apply h
  | min => exact settled_extremum hfirst hrest h
  | max => exact settled_extremum hfirst hrest h

theorem settled_applyAggregate {name : String} {aggregate : Aggregate} {values : List Literal}
    (hvalues : ∀ value ∈ values, value.Settled)
    (h : applyAggregate name aggregate values = .ok literal) : literal.Settled := by
  cases values with
  | nil => cases h
  | cons first rest =>
      exact settled_applyTo (hvalues first List.mem_cons_self)
        (fun value hmem => hvalues value (List.mem_cons_of_mem _ hmem)) h

end

namespace Evaluation

/-- Whether a property holds of everything that an evaluation can come to, whatever it
is answered. -/
inductive Always (P : α → Prop) : Evaluation α → Prop where
  | done {value : α} (h : P value) : Always P (.done value)
  | failed (error : EvalError) : Always P (.failed error)
  | ask {request : Request} {resume : String → Evaluation α}
      (h : ∀ text, Always P (resume text)) : Always P (.ask request resume)

variable {P : α → Prop} {Q : β → Prop}

theorem Always.bind {evaluation : Evaluation α} {next : α → Evaluation β}
    (h : evaluation.Always P) (hnext : ∀ value, P value → (next value).Always Q) :
    (evaluation >>= next).Always Q := by
  induction h with
  | done h => exact hnext _ h
  | failed error => exact .failed error
  | ask _ ih => exact .ask ih

theorem always_ofExcept {result : Except EvalError α} (h : ∀ value, result = .ok value → P value) :
    (ofExcept result).Always P := by
  cases result with
  | ok value => exact .done (h value rfl)
  | error error => exact .failed error

theorem Always.settle {evaluation : Evaluation α} (h : evaluation.Always P)
    {answer : Request → Option String} {value : α}
    (hsettle : evaluation.settle answer = some value) : P value := by
  induction h with
  | done h =>
      cases hsettle
      exact h
  | failed error => cases hsettle
  | ask _ ih =>
      obtain ⟨text, -, hrest⟩ := Option.bind_eq_some_iff.mp hsettle
      exact ih text hrest

theorem Always.run {evaluation : Evaluation α} (h : evaluation.Always P)
    {answer : Request → StateM σ (Except ε String)} {fail : EvalError → ε} {state : σ} {value : α}
    (hrun : ((evaluation.run answer fail).run state).1 = .ok value) : P value := by
  induction h generalizing state with
  | done h =>
      cases hrun
      exact h
  | failed error => cases hrun
  | @ask request resume _ ih =>
      rcases hanswer : (answer request).run state with ⟨_ | text, after⟩
      · simp only [Evaluation.run, StateT.run_bind, hanswer] at hrun
        cases hrun
      · simp only [Evaluation.run, StateT.run_bind, hanswer] at hrun
        exact ih text hrun

end Evaluation

theorem always_askLocator (arguments : List Expr) :
    (askLocator arguments).Always Literal.Settled := by
  unfold askLocator
  split
  · exact .ask fun text => .done (Literal.settled_ofText text)
  · exact .failed _
  · exact .failed _

theorem always_evaluateAll {arguments : List Expr}
    (h : ∀ argument ∈ arguments, (evaluate argument).Always Literal.Settled) :
    (evaluateAll arguments).Always fun values => ∀ value ∈ values, value.Settled := by
  induction arguments with
  | nil =>
      rw [evaluateAll]
      exact .done (List.forall_mem_nil _)
  | cons first rest ih =>
      rw [evaluateAll]
      refine (h first List.mem_cons_self).bind fun value hvalue => ?_
      refine (ih fun other hmem => h other (List.mem_cons_of_mem _ hmem)).bind
        fun values hvalues => ?_
      exact .done (List.forall_mem_cons.mpr ⟨hvalue, hvalues⟩)

theorem always_call (name : String) {arguments : List Expr}
    (h : ∀ argument ∈ arguments, (evaluate argument).Always Literal.Settled) :
    (evaluate (.call name arguments)).Always Literal.Settled := by
  rw [evaluate]
  split
  · exact always_askLocator arguments
  split
  · exact .failed _
  · refine (always_evaluateAll h).bind fun values hvalues => ?_
    exact Evaluation.always_ofExcept fun value => settled_applyAggregate hvalues

theorem always_identifier (name : String) :
    (evaluate (.identifier name)).Always Literal.Settled := by
  rw [evaluate]
  exact .ask fun text => .done (Literal.settled_ofText text)

/-- Everything that a formula comes to is settled. -/
theorem Expr.WellFormed.always_settled {expr : Expr} (h : expr.WellFormed) :
    (evaluate expr).Always Literal.Settled := by
  induction h with
  | number hnumber halone =>
      rw [evaluate]
      exact .done (Literal.settled_of_token? hnumber halone)
  | identifier _ => exact always_identifier _
  | unary _ _ _ ih =>
      rw [evaluate]
      exact ih.bind fun _ _ => Evaluation.always_ofExcept fun _ => settled_apply
  | binary _ _ _ _ ihLeft ihRight =>
      rw [evaluate]
      exact ihLeft.bind fun _ _ => ihRight.bind fun _ _ =>
        Evaluation.always_ofExcept fun _ => settled_apply
  | paren _ ih =>
      rw [evaluate]
      exact ih
  | call _ _ _ ih => exact always_call _ ih
  | bareExternal _ _ => exact always_call _ (List.forall_mem_nil _)
  | external _ _ _ =>
      refine always_call _ fun argument hmem => ?_
      rw [List.mem_singleton.mp hmem]
      exact always_identifier _

end LiveSheet.Formula
