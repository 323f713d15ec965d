import LiveSheet.Proofs.Formula.Readable

namespace LiveSheet.Formula

open LiveSheet.Number
open LiveSheet.Text

namespace Literal

/-- What arithmetic can do with a literal that is no text. -/
structure Readable (literal : Literal) : Prop where
  binary64 : literal.kind ≠ .string → ∃ value, literal.binary64 = .ok value
  integer : literal.kind = .int → ∃ value, literal.integer = .ok value

theorem IsNumber.readable {literal : Literal} (h : literal.IsNumber) : literal.Readable := by
  obtain ⟨sign, number, hshows⟩ := h
  obtain ⟨negative, scientific, -, hread⟩ := hshows.binary64_eq
  exact ⟨fun _ => ⟨_, hread⟩, hshows.exists_integer⟩

theorem numeric_of_int {literal : Literal} (h : literal.kind = .int) : literal.kind ≠ .string :=
  h ▸ LiteralKind.noConfusion

theorem Settled.readable {literal : Literal} (h : literal.Settled) : literal.Readable where
  binary64 hnumeric := (h.isNumber hnumeric).readable.binary64 hnumeric
  integer hint := (h.isNumber (numeric_of_int hint)).readable.integer hint

theorem readable_zero (kind : LiteralKind) : Readable { kind, text := "0" } := by
  cases kind with
  | string => exact ⟨fun hnumeric => absurd rfl hnumeric, LiteralKind.noConfusion⟩
  | int | float =>
      have hdigits : Digits ['0'] := ⟨List.cons_ne_nil _ _, List.forall_mem_singleton.mpr rfl⟩
      exact IsNumber.readable ⟨.absent, ['0'], (Mantissa.whole hdigits).numeral, rfl,
        LiteralKind.noConfusion, fun _ => hdigits⟩

theorem Settled.decimal_fails {literal : Literal} (h : literal.Settled) {error : EvalError}
    (hfails : literal.decimal = .error error) : error = .invalidNumber literal.text ∧
      (literal.kind = .string ∨ literal.IsNumber ∧ ¬ literal.FitsPower) := by
  by_cases hstring : literal.kind = .string
  · rw [decimal, if_pos hstring] at hfails
    exact ⟨(Except.error.inj hfails).symm, Or.inl hstring⟩
  have hnumber := h.isNumber hstring
  obtain ⟨sign, number, hshows⟩ := hnumber
  obtain ⟨-, size, hsize, -⟩ | ⟨hfits, hinvalid⟩ := hshows.decimal_eq
  · rw [hsize] at hfails
    cases hfails
  · rw [hinvalid] at hfails
    exact ⟨(Except.error.inj hfails).symm, Or.inr ⟨⟨sign, number, hshows⟩, hfits⟩⟩

theorem numeric_of_decimal {literal : Literal} {size : Decimal} (h : literal.decimal = .ok size) :
    literal.kind ≠ .string := by
  intro hstring
  rw [decimal, if_pos hstring] at h
  cases h

end Literal

theorem cases_of_error_bind {first : Except ε α} {next : α → Except ε β} {error : ε}
    (h : (first >>= next) = .error error) :
    first = .error error ∨ ∃ value, first = .ok value ∧ next value = .error error := by
  cases first with
  | error other =>
      cases h
      exact Or.inl rfl
  | ok value => exact Or.inr ⟨value, rfl, h⟩

/-- The failures of an operator.  A text is blamed before a number is looked at. -/
inductive Operator.Refuses (op : Operator) (left right : Literal) : EvalError → Prop where
  | left (h : left.kind = .string) : Refuses op left right (.typeMismatch op left.text)
  | right (hleft : left.kind ≠ .string) (h : right.kind = .string) :
      Refuses op left right (.typeMismatch op right.text)
  | divisionByZero (hleft : left.kind ≠ .string) (hright : right.kind ≠ .string) :
      Refuses op left right .divisionByZero
  | overflow (hleft : left.kind ≠ .string) (hright : right.kind ≠ .string) :
      Refuses op left right .overflow

section

variable {op : Operator} {left right literal : Literal}

theorem apply_eq_numeric (hleft : left.kind ≠ .string) (hright : right.kind ≠ .string) :
    apply op left right = applyNumeric op left right := by
  rw [apply, if_neg hleft, if_neg hright]

theorem numeric_of_apply (h : apply op left right = .ok literal) :
    left.kind ≠ .string ∧ right.kind ≠ .string := by
  refine ⟨fun hleft => ?_, fun hright => ?_⟩
  · rw [apply, if_pos hleft] at h
    cases h
  · unfold apply at h
    rw [if_pos hright] at h
    split at h <;> cases h

theorem ofBinary64_fails {value : Binary64} {error : EvalError}
    (h : Literal.ofBinary64 value = .error error) : error = .overflow := by
  unfold Literal.ofBinary64 at h
  split at h
  · cases h
  · exact (Except.error.inj h).symm

theorem kind_ofBinary64 {value : Binary64} (h : Literal.ofBinary64 value = .ok literal) :
    literal.kind = .float := by
  unfold Literal.ofBinary64 at h
  split at h
  · cases h
    rfl
  · cases h

theorem kind_applyRounded (h : applyRounded op left right = .ok literal) :
    literal.kind = .float := by
  obtain ⟨dividend, -, h⟩ := exists_of_ok_bind h
  obtain ⟨divisor, -, h⟩ := exists_of_ok_bind h
  split at h
  · cases h
  · exact kind_ofBinary64 h

theorem kind_applyExact {combine : Int → Int → Int}
    (h : applyExact combine left right = .ok literal) : literal.kind = .int := by
  obtain ⟨first, -, h⟩ := exists_of_ok_bind h
  obtain ⟨second, -, h⟩ := exists_of_ok_bind h
  cases h
  rfl

theorem numeric_apply (h : apply op left right = .ok literal) : literal.kind ≠ .string := by
  obtain ⟨hleft, hright⟩ := numeric_of_apply h
  rw [apply_eq_numeric hleft hright, applyNumeric] at h
  have hkind : literal.kind = .float ∨ literal.kind = .int := by
    split at h
    · split at h
      · exact Or.inl (kind_applyRounded h)
      · exact Or.inr (kind_applyExact h)
    · exact Or.inl (kind_applyRounded h)
  rcases hkind with hkind | hkind <;>
  · rw [hkind]
    exact LiteralKind.noConfusion

section

variable (hleft : left.Readable) (hright : right.Readable) {error : EvalError}

include hleft hright

theorem applyRounded_fails (hleftNumeric : left.kind ≠ .string)
    (hrightNumeric : right.kind ≠ .string) (h : applyRounded op left right = .error error) :
    error = .divisionByZero ∨ error = .overflow := by
  obtain ⟨dividend, hdividend⟩ := hleft.binary64 hleftNumeric
  obtain ⟨divisor, hdivisor⟩ := hright.binary64 hrightNumeric
  rw [applyRounded, hdividend, hdivisor] at h
  change (if op = .div && divisor.isZero then Except.error EvalError.divisionByZero
    else Literal.ofBinary64 (op.rounded dividend divisor)) = .error error at h
  split at h
  · exact Or.inl (Except.error.inj h).symm
  · exact Or.inr (ofBinary64_fails h)

theorem applyExact_succeeds (combine : Int → Int → Int) (hleftInt : left.kind = .int)
    (hrightInt : right.kind = .int) : ∃ literal, applyExact combine left right = .ok literal := by
  obtain ⟨first, hfirst⟩ := hleft.integer hleftInt
  obtain ⟨second, hsecond⟩ := hright.integer hrightInt
  rw [applyExact, hfirst, hsecond]
  exact ⟨_, rfl⟩

theorem applyNumeric_fails (hleftNumeric : left.kind ≠ .string)
    (hrightNumeric : right.kind ≠ .string) (h : applyNumeric op left right = .error error) :
    error = .divisionByZero ∨ error = .overflow := by
  unfold applyNumeric at h
  split at h
  · split at h
    · exact applyRounded_fails hleft hright hleftNumeric hrightNumeric h
    · rename_i combine _ hexact
      have hint (literal : Literal) (hnumeric : literal.kind ≠ .string)
          (hfloat : ¬ literal.kind = .float) : literal.kind = .int := by
        cases hkind : literal.kind with
        | int => rfl
        | float => exact absurd hkind hfloat
        | string => exact absurd hkind hnumeric
      simp only [Bool.or_eq_true, decide_eq_true_eq, not_or] at hexact
      obtain ⟨literal, hok⟩ := applyExact_succeeds hleft hright combine
        (hint left hleftNumeric hexact.1) (hint right hrightNumeric hexact.2)
      rw [hok] at h
      cases h
  · exact applyRounded_fails hleft hright hleftNumeric hrightNumeric h

theorem apply_refuses (h : apply op left right = .error error) :
    op.Refuses left right error := by
  by_cases hleftText : left.kind = .string
  · rw [apply, if_pos hleftText] at h
    cases h
    exact .left hleftText
  by_cases hrightText : right.kind = .string
  · rw [apply, if_neg hleftText, if_pos hrightText] at h
    cases h
    exact .right hleftText hrightText
  rw [apply_eq_numeric hleftText hrightText] at h
  obtain rfl | rfl := applyNumeric_fails hleft hright hleftText hrightText h
  · exact .divisionByZero hleftText hrightText
  · exact .overflow hleftText hrightText

end

/-- A sign blames its zero for a text, since the zero takes on the kind of the operand. -/
theorem applySign_refuses {operand : Literal} (h : operand.Readable) {error : EvalError}
    (hfails : applySign op operand = .error error) :
    (operand.kind = .string ∧ error = .typeMismatch op "0") ∨
      (operand.kind ≠ .string ∧ (error = .divisionByZero ∨ error = .overflow)) := by
  cases apply_refuses (Literal.readable_zero operand.kind) h hfails with
  | left htext => exact Or.inl ⟨htext, rfl⟩
  | right hnumeric htext => exact absurd htext hnumeric
  | divisionByZero hnumeric _ => exact Or.inr ⟨hnumeric, Or.inl rfl⟩
  | overflow hnumeric _ => exact Or.inr ⟨hnumeric, Or.inr rfl⟩

end

section

variable {combine : Literal → Literal → Except EvalError Literal} {first literal : Literal}
  {rest : List Literal}

theorem exists_step_of_fails {error : EvalError} (h : rest.foldlM combine first = .error error) :
    ∃ front next behind middle, rest = front ++ next :: behind ∧
      front.foldlM combine first = .ok middle ∧ combine middle next = .error error := by
  induction rest generalizing first with
  | nil => cases h
  | cons next rest ih =>
      rw [List.foldlM_cons] at h
      obtain hstep | ⟨middle, hstep, hrest⟩ := cases_of_error_bind h
      · exact ⟨[], next, rest, first, rfl, rfl, hstep⟩
      obtain ⟨front, failing, behind, last, rfl, hfront, hfails⟩ := ih hrest
      refine ⟨next :: front, failing, behind, last, rfl, ?_, hfails⟩
      rw [List.foldlM_cons, hstep]
      exact hfront

theorem exists_step_of_mem {next : Literal} (hmem : next ∈ rest)
    (h : rest.foldlM combine first = .ok literal) :
    ∃ middle result, combine middle next = .ok result := by
  induction rest generalizing first with
  | nil => cases hmem
  | cons other rest ih =>
      rw [List.foldlM_cons] at h
      obtain ⟨middle, hmiddle, h⟩ := exists_of_ok_bind h
      rcases List.mem_cons.mp hmem with rfl | hmem
      · exact ⟨first, middle, hmiddle⟩
      · exact ih hmem h

end

namespace Aggregate

section

variable {first literal : Literal} {rest : List Literal}

theorem total_text (h : total first rest = .ok literal) (htext : literal.kind = .string) :
    literal = first := by
  refine foldlM_keeps (P := fun sum => sum.kind = .string → sum = first) ?_ (fun _ => rfl) h htext
  exact fun best candidate result _ _ hadds hresult => absurd hresult (numeric_apply hadds)

theorem settled_total (hfirst : first.Settled) (hrest : ∀ value ∈ rest, value.Settled)
    (h : total first rest = .ok literal) : literal.Settled :=
  settled_foldlM (fun _ _ _ _ _ => settled_apply) hfirst hrest h

theorem total_numeric (h : total first rest = .ok literal) :
    (∀ value ∈ rest, value.kind ≠ .string) ∧ (rest ≠ [] → first.kind ≠ .string) := by
  constructor
  · intro value hmem
    obtain ⟨middle, result, hadds⟩ := exists_step_of_mem hmem h
    exact (numeric_of_apply hadds).2
  · intro hrest
    obtain ⟨next, others, rfl⟩ := List.exists_cons_of_ne_nil hrest
    rw [total, List.foldlM_cons] at h
    obtain ⟨middle, hadds, -⟩ := exists_of_ok_bind h
    exact (numeric_of_apply hadds).1

theorem extremum_mem {wins : Ordering} (h : extremum wins first rest = .ok literal) :
    literal ∈ first :: rest := by
  obtain ⟨size, -, h⟩ := exists_of_ok_bind h
  refine foldlM_keeps (P := (· ∈ first :: rest)) ?_ List.mem_cons_self h
  intro best candidate result hbest hcandidate hbetter
  obtain ⟨order, -, hresult⟩ := exists_of_ok_bind hbetter
  cases hresult
  split
  · exact List.mem_cons_of_mem _ hcandidate
  · exact hbest

theorem extremum_numeric {wins : Ordering} (h : extremum wins first rest = .ok literal) :
    ∀ value ∈ first :: rest, value.kind ≠ .string := by
  obtain ⟨size, hsize, h⟩ := exists_of_ok_bind h
  refine List.forall_mem_cons.mpr ⟨Literal.numeric_of_decimal hsize, fun value hmem => ?_⟩
  obtain ⟨best, result, hbetter⟩ := exists_step_of_mem hmem h
  obtain ⟨order, hcompares, -⟩ := exists_of_ok_bind hbetter
  obtain ⟨candidate, hcandidate, -⟩ := exists_of_ok_bind hcompares
  exact Literal.numeric_of_decimal hcandidate

end

/-- The failures of a function of settled arguments. -/
inductive Refuses (aggregate : Aggregate) (values : List Literal) : EvalError → Prop where
  | noArguments (name : String) (h : values = []) :
      Refuses aggregate values (.invalidCall (.noArguments name))
  | text {op : Operator} {value : Literal} (hadds : aggregate = .sum ∨ aggregate = .avg)
      (hmem : value ∈ values) (htext : value.kind = .string) :
      Refuses aggregate values (.typeMismatch op value.text)
  | arithmetic {error : EvalError} (hadds : aggregate = .sum ∨ aggregate = .avg)
      (h : error = .divisionByZero ∨ error = .overflow) : Refuses aggregate values error
  | unmeasured {value : Literal} (hpicks : aggregate = .min ∨ aggregate = .max)
      (hmem : value ∈ values)
      (h : value.kind = .string ∨ value.IsNumber ∧ ¬ value.FitsPower) :
      Refuses aggregate values (.invalidNumber value.text)

section

variable {first : Literal} {rest : List Literal} {error : EvalError}
  (hfirst : first.Settled) (hrest : ∀ value ∈ rest, value.Settled)

include hfirst hrest

theorem total_refuses {aggregate : Aggregate} (hadds : aggregate = .sum ∨ aggregate = .avg)
    (h : total first rest = .error error) : aggregate.Refuses (first :: rest) error := by
  obtain ⟨front, next, behind, sum, rfl, hsum, hfails⟩ := exists_step_of_fails h
  have hnext : next ∈ first :: (front ++ next :: behind) :=
    List.mem_cons_of_mem _ (List.mem_append_right _ List.mem_cons_self)
  have hfront : ∀ value ∈ front, value.Settled :=
    fun value hmem => hrest value (List.mem_append_left _ hmem)
  have hsettled := settled_total hfirst hfront hsum
  have hother := (hrest next (List.mem_append_right _ List.mem_cons_self)).readable
  cases apply_refuses hsettled.readable hother hfails with
  | left htext =>
      -- The sum so far is a text only where nothing was added to it.
      obtain rfl := total_text hsum htext
      exact .text hadds List.mem_cons_self htext
  | right _ htext => exact .text hadds hnext htext
  | divisionByZero _ _ => exact .arithmetic hadds (Or.inl rfl)
  | overflow _ _ => exact .arithmetic hadds (Or.inr rfl)

theorem mean_refuses (h : mean first rest = .error error) :
    avg.Refuses (first :: rest) error := by
  obtain htotal | ⟨sum, htotal, hfails⟩ := cases_of_error_bind h
  · exact total_refuses hfirst hrest (Or.inr rfl) htotal
  have hsettled := settled_total hfirst hrest htotal
  have hcount := (Literal.settled_ofInteger (rest.length + 1 : Nat)).readable
  cases apply_refuses hsettled.readable hcount hfails with
  | left htext =>
      obtain rfl := total_text htotal htext
      exact .text (Or.inr rfl) List.mem_cons_self htext
  | right _ htext => cases htext
  | divisionByZero _ _ => exact .arithmetic (Or.inr rfl) (Or.inl rfl)
  | overflow _ _ => exact .arithmetic (Or.inr rfl) (Or.inr rfl)

theorem extremum_refuses {aggregate : Aggregate} {wins : Ordering}
    (hpicks : aggregate = .min ∨ aggregate = .max) (h : extremum wins first rest = .error error) :
    aggregate.Refuses (first :: rest) error := by
  have hunmeasured (value : Literal) (hmem : value ∈ first :: rest)
      (hfails : value.decimal = .error error) : aggregate.Refuses (first :: rest) error := by
    obtain ⟨rfl, hwhy⟩ :=
      (List.forall_mem_cons.mpr ⟨hfirst, hrest⟩ value hmem).decimal_fails hfails
    exact .unmeasured hpicks hmem hwhy
  obtain hsize | ⟨size, hsize, hfolds⟩ := cases_of_error_bind h
  · exact hunmeasured first List.mem_cons_self hsize
  obtain ⟨front, next, behind, best, rfl, hbest, hfails⟩ := exists_step_of_fails hfolds
  have hpicked : extremum wins first front = .ok best := by
    rw [extremum, hsize]
    exact hbest
  have hmem : best ∈ first :: (front ++ next :: behind) :=
    List.cons_subset_cons _ (List.subset_append_left _ _) (extremum_mem hpicked)
  obtain hcompares | ⟨order, -, hdone⟩ := cases_of_error_bind hfails
  · obtain hnext | ⟨candidate, -, hothers⟩ := cases_of_error_bind hcompares
    · exact hunmeasured next
        (List.mem_cons_of_mem _ (List.mem_append_right _ List.mem_cons_self)) hnext
    obtain hsecond | ⟨other, -, hdone⟩ := cases_of_error_bind hothers
    · exact hunmeasured best hmem hsecond
    · cases hdone
  · cases hdone

end

end Aggregate

section

variable {name : String} {aggregate : Aggregate} {values : List Literal}

theorem applyAggregate_refuses (hvalues : ∀ value ∈ values, value.Settled) {error : EvalError}
    (h : applyAggregate name aggregate values = .error error) : aggregate.Refuses values error := by
  cases values with
  | nil =>
      cases h
      exact .noArguments name rfl
  | cons first rest =>
      obtain ⟨hfirst, hrest⟩ := List.forall_mem_cons.mp hvalues
      cases aggregate with
      | sum => exact Aggregate.total_refuses hfirst hrest (Or.inl rfl) h
      | avg => exact Aggregate.mean_refuses hfirst hrest h
      | min => exact Aggregate.extremum_refuses hfirst hrest (Or.inl rfl) h
      | max => exact Aggregate.extremum_refuses hfirst hrest (Or.inr rfl) h

theorem applyAggregate_text {value literal : Literal} (hmem : value ∈ values)
    (htext : value.kind = .string) (h : applyAggregate name aggregate values = .ok literal) :
    aggregate = .sum ∧ values = [value] ∧ literal = value := by
  cases values with
  | nil => cases hmem
  | cons first rest =>
      have hlone {sum : Literal} (htotal : Aggregate.total first rest = .ok sum) :
          first = value ∧ rest = [] ∧ sum = value := by
        obtain ⟨hrest, hfirst⟩ := Aggregate.total_numeric htotal
        obtain rfl : value = first :=
          (List.mem_cons.mp hmem).resolve_right fun hmem => hrest value hmem htext
        obtain rfl : rest = [] := Decidable.byContradiction fun hne => hfirst hne htext
        cases htotal
        exact ⟨rfl, rfl, rfl⟩
      cases aggregate with
      | sum =>
          obtain ⟨rfl, rfl, rfl⟩ := hlone h
          exact ⟨rfl, rfl, rfl⟩
      | avg =>
          obtain ⟨sum, htotal, hdivides⟩ := exists_of_ok_bind h
          obtain ⟨rfl, rfl, rfl⟩ := hlone htotal
          exact absurd htext (numeric_of_apply hdivides).1
      | min | max => exact absurd htext (Aggregate.extremum_numeric h value hmem)

theorem mem_of_applyAggregate_text {literal : Literal}
    (h : applyAggregate name aggregate values = .ok literal) (htext : literal.kind = .string) :
    literal ∈ values := by
  cases values with
  | nil => cases h
  | cons first rest =>
      cases aggregate with
      | sum =>
          obtain rfl := Aggregate.total_text h htext
          exact List.mem_cons_self
      | avg =>
          obtain ⟨sum, -, hdivides⟩ := exists_of_ok_bind h
          exact absurd htext (numeric_apply hdivides)
      | min | max => exact Aggregate.extremum_mem h

end

end LiveSheet.Formula
