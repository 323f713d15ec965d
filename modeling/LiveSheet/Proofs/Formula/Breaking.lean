import LiveSheet.Proofs.Formula.Exchange

namespace LiveSheet.Formula

open LiveSheet.Text

theorem Aggregate.ne_external_of_ofName? {name : String} {aggregate : Aggregate}
    (h : ofName? name = some aggregate) : name ≠ externalFunction := by
  rintro rfl
  cases h

section

variable {name : String} {arguments : List Expr}

theorem evaluate_external (h : uppercase name = externalFunction) :
    evaluate (.call name arguments) = askLocator arguments := by
  rw [evaluate, if_pos h]

theorem evaluate_unknown (hname : uppercase name ≠ externalFunction)
    (h : Aggregate.ofName? (uppercase name) = none) :
    evaluate (.call name arguments) = .failed (.unknownFunction name) := by
  rw [evaluate, if_neg hname, h]

theorem evaluate_aggregate {aggregate : Aggregate}
    (h : Aggregate.ofName? (uppercase name) = some aggregate) :
    evaluate (.call name arguments) = (do
      let values ← evaluateAll arguments
      .ofExcept (applyAggregate (uppercase name) aggregate values)) := by
  rw [evaluate, if_neg (Aggregate.ne_external_of_ofName? h), h]

end

theorem run_aggregate {name : String} {aggregate : Aggregate}
    (hname : Aggregate.ofName? (uppercase name) = some aggregate) {arguments : List Expr}
    {answer : Request → StateM σ (Except ε String)} {fail : EvalError → ε} {state : σ}
    {values : List Literal}
    (hvalues : (((evaluateAll arguments).run answer fail).run state).1 = .ok values) :
    (((evaluate (.call name arguments)).run answer fail).run state).1 =
      (applyAggregate (uppercase name) aggregate values).mapError fail := by
  rw [evaluate_aggregate hname, Evaluation.run_bind]
  generalize ((evaluateAll arguments).run answer fail).run state = reply at hvalues
  obtain ⟨result, after⟩ := reply
  subst hvalues
  dsimp only
  cases applyAggregate (uppercase name) aggregate values <;> rfl

namespace Expr

/-- The parts that the evaluation of an expression comes to, with what it has heard until
then.  A locator is no part. -/
inductive ComesTo : Expr → List Exchange → Expr → Prop where
  | self (expr : Expr) : ComesTo expr [] expr
  | operand {op : Operator} {operand part : Expr} {heard : List Exchange}
      (h : operand.ComesTo heard part) : ComesTo (.unary op operand) heard part
  | left {op : Operator} {left right part : Expr} {heard : List Exchange}
      (h : left.ComesTo heard part) : ComesTo (.binary op left right) heard part
  | right {op : Operator} {left right part : Expr} {value : Literal} {first heard : List Exchange}
      (hleft : (evaluate left).Ends first (.ok value)) (h : right.ComesTo heard part) :
      ComesTo (.binary op left right) (first ++ heard) part
  | inner {inner part : Expr} {heard : List Exchange} (h : inner.ComesTo heard part) :
      ComesTo (.paren inner) heard part
  | argument {name : String} {aggregate : Aggregate} {front rest : List Expr}
      {argument part : Expr} {values : List Literal} {first heard : List Exchange}
      (hname : Aggregate.ofName? (uppercase name) = some aggregate)
      (hfront : (evaluateAll front).Ends first (.ok values)) (h : argument.ComesTo heard part) :
      ComesTo (.call name (front ++ argument :: rest)) (first ++ heard) part

/-- The failures of an expression itself.  What is heard on the way to its operands is all
that is heard. -/
inductive Breaks : Expr → List Exchange → EvalError → Prop where
  | sign {op : Operator} {operand : Expr} {value : Literal} {heard : List Exchange}
      {error : EvalError} (hoperand : (evaluate operand).Ends heard (.ok value))
      (hfails : applySign op value = .error error) : Breaks (.unary op operand) heard error
  | operator {op : Operator} {left right : Expr} {first second : Literal}
      {heard later : List Exchange} {error : EvalError}
      (hleft : (evaluate left).Ends heard (.ok first))
      (hright : (evaluate right).Ends later (.ok second))
      (hfails : apply op first second = .error error) :
      Breaks (.binary op left right) (heard ++ later) error
  | locator {name : String} {arguments : List Expr} {error : EvalError}
      (hname : uppercase name = externalFunction) (hfails : askLocator arguments = .failed error) :
      Breaks (.call name arguments) [] error
  | unknown {name : String} {arguments : List Expr} (hname : uppercase name ≠ externalFunction)
      (hfunction : Aggregate.ofName? (uppercase name) = none) :
      Breaks (.call name arguments) [] (.unknownFunction name)
  | aggregate {name : String} {arguments : List Expr} {aggregate : Aggregate}
      {values : List Literal} {heard : List Exchange} {error : EvalError}
      (hname : Aggregate.ofName? (uppercase name) = some aggregate)
      (harguments : (evaluateAll arguments).Ends heard (.ok values))
      (hfails : applyAggregate (uppercase name) aggregate values = .error error) :
      Breaks (.call name arguments) heard error
  | invalid : Breaks .invalid [] .invalidNode

def FailsWith (expr : Expr) (heard : List Exchange) (error : EvalError) : Prop :=
  ∃ before own part, heard = before ++ own ∧ expr.ComesTo before part ∧ part.Breaks own error

end Expr

theorem always_length (arguments : List Expr) :
    (evaluateAll arguments).Always fun values => values.length = arguments.length := by
  have hevery (expr : Expr) : (evaluate expr).Always fun _ => True := by
    generalize evaluate expr = evaluation
    induction evaluation with
    | done value => exact .done trivial
    | failed error => exact .failed error
    | ask request resume ih => exact .ask ih
  induction arguments with
  | nil =>
      rw [evaluateAll]
      exact .done rfl
  | cons first rest ih =>
      rw [evaluateAll]
      refine (hevery first).bind fun value _ => ih.bind fun values hvalues => .done ?_
      rw [List.length_cons, List.length_cons, hvalues]

section

variable {heard : List Exchange} {arguments : List Expr}

theorem exists_argument_of_fails {error : EvalError}
    (h : (evaluateAll arguments).Ends heard (.error error)) :
    ∃ front argument rest values first second, arguments = front ++ argument :: rest ∧
      heard = first ++ second ∧ (evaluateAll front).Ends first (.ok values) ∧
      (evaluate argument).Ends second (.error error) := by
  induction arguments generalizing heard with
  | nil =>
      rw [evaluateAll] at h
      cases h
  | cons argument rest ih =>
      rw [evaluateAll] at h
      obtain ⟨other, hother, hfails⟩ | ⟨value, first, second, rfl, hfirst, hrest⟩ := h.bind_cases
      · cases hother
        refine ⟨[], argument, rest, [], [], heard, rfl, rfl, ?_, hfails⟩
        rw [evaluateAll]
        exact .done []
      obtain ⟨other, hother, hfails⟩ | ⟨values, third, fourth, -, -, hdone⟩ := hrest.bind_cases
      · cases hother
        obtain ⟨front, failing, behind, values, early, late, rfl, rfl, hfront, hfailing⟩ :=
          ih hfails
        refine ⟨argument :: front, failing, behind, value :: values, first ++ early, late, rfl,
          (List.append_assoc _ _ _).symm, ?_, hfailing⟩
        rw [evaluateAll]
        refine hfirst.bind ?_
        rw [← List.append_nil early]
        exact hfront.bind (.done _)
      · cases hdone

theorem fails_of_argument {front rest : List Expr} {argument : Expr} {values : List Literal}
    {first second : List Exchange} {error : EvalError}
    (hfront : (evaluateAll front).Ends first (.ok values))
    (hfails : (evaluate argument).Ends second (.error error)) :
    (evaluateAll (front ++ argument :: rest)).Ends (first ++ second) (.error error) := by
  induction front generalizing first values with
  | nil =>
      rw [evaluateAll] at hfront
      cases hfront
      rw [List.nil_append, List.nil_append, evaluateAll]
      exact hfails.bind_error
  | cons head tail ih =>
      rw [evaluateAll] at hfront
      obtain ⟨value, early, late, rfl, hhead, hrest⟩ := hfront.bind_ok
      obtain ⟨others, middle, last, rfl, htail, hdone⟩ := hrest.bind_ok
      cases hdone
      rw [List.append_nil, List.append_assoc, List.cons_append, evaluateAll]
      exact hhead.bind (ih htail).bind_error

theorem exists_argument_of_value {values : List Literal} {value : Literal}
    (h : (evaluateAll arguments).Ends heard (.ok values)) (hvalue : value ∈ values) :
    ∃ argument ∈ arguments, ∃ part ⊆ heard, (evaluate argument).Ends part (.ok value) := by
  induction arguments generalizing heard values with
  | nil =>
      rw [evaluateAll] at h
      cases h
      cases hvalue
  | cons argument rest ih =>
      rw [evaluateAll] at h
      obtain ⟨own, first, second, rfl, hfirst, hrest⟩ := h.bind_ok
      obtain ⟨others, third, fourth, rfl, hthird, hdone⟩ := hrest.bind_ok
      cases hdone
      rcases List.mem_cons.mp hvalue with rfl | hvalue
      · exact ⟨argument, List.mem_cons_self, first, List.subset_append_left _ _, hfirst⟩
      · obtain ⟨other, hother, part, hpart, hends⟩ := ih hthird hvalue
        refine ⟨other, List.mem_cons_of_mem _ hother, part, ?_, hends⟩
        rw [List.append_nil]
        exact List.Subset.trans hpart (List.subset_append_right _ _)

end

namespace Expr

theorem FailsWith.lift {expr part : Expr} {heard : List Exchange} {error : EvalError}
    (h : part.FailsWith heard error) (before : List Exchange)
    (hlift : ∀ own inside, part.ComesTo own inside → expr.ComesTo (before ++ own) inside) :
    expr.FailsWith (before ++ heard) error := by
  obtain ⟨own, late, inside, rfl, hcomes, hbreaks⟩ := h
  exact ⟨before ++ own, late, inside, (List.append_assoc _ _ _).symm, hlift own inside hcomes,
    hbreaks⟩

theorem Breaks.failsWith {expr : Expr} {heard : List Exchange} {error : EvalError}
    (h : expr.Breaks heard error) : expr.FailsWith heard error :=
  ⟨[], heard, expr, rfl, .self expr, h⟩

theorem failsWith_aggregate {name : String} {aggregate : Aggregate} {arguments : List Expr}
    {heard : List Exchange} {error : EvalError}
    (hname : Aggregate.ofName? (uppercase name) = some aggregate)
    (hends : (evaluate (.call name arguments)).Ends heard (.error error))
    (h : ∀ argument ∈ arguments, ∀ own, (evaluate argument).Ends own (.error error) →
      argument.FailsWith own error) : (Expr.call name arguments).FailsWith heard error := by
  rw [evaluate_aggregate hname] at hends
  obtain ⟨other, hother, hfails⟩ | ⟨values, first, second, rfl, hvalues, hlast⟩ := hends.bind_cases
  · cases hother
    obtain ⟨front, argument, rest, values, first, second, rfl, rfl, hfront, hfailing⟩ :=
      exists_argument_of_fails hfails
    refine (h argument (List.mem_append_right _ List.mem_cons_self) second hfailing).lift first ?_
    exact fun own inside hcomes => .argument hname hfront hcomes
  · obtain ⟨rfl, hfails⟩ := Evaluation.ends_ofExcept hlast
    rw [List.append_nil]
    exact (Breaks.aggregate hname hvalues hfails).failsWith

theorem failsWith_call {name : String} {arguments : List Expr} {heard : List Exchange}
    {error : EvalError} (hends : (evaluate (.call name arguments)).Ends heard (.error error))
    (h : ∀ argument ∈ arguments, ∀ own, (evaluate argument).Ends own (.error error) →
      argument.FailsWith own error) : (Expr.call name arguments).FailsWith heard error := by
  by_cases hname : uppercase name = externalFunction
  · rw [evaluate_external hname] at hends
    -- A locator that is asked for comes to a value, so what fails is the shape.
    generalize hasks : askLocator arguments = asks at hends
    unfold askLocator at hasks
    split at hasks
    · subst hasks
      cases hends with
      | ask hdone => cases hdone
    all_goals
      subst hasks
      cases hends
      exact (Breaks.locator hname (by simp_all [askLocator])).failsWith
  cases hfunction : Aggregate.ofName? (uppercase name) with
  | none =>
      rw [evaluate_unknown hname hfunction] at hends
      cases hends
      exact (Breaks.unknown hname hfunction).failsWith
  | some aggregate => exact failsWith_aggregate hfunction hends h

/-- An evaluation that fails does so with the failure of a part that it has come to. -/
theorem WellFormed.failsWith {expr : Expr} (h : expr.WellFormed) {heard : List Exchange}
    {error : EvalError} (hends : (evaluate expr).Ends heard (.error error)) :
    expr.FailsWith heard error := by
  -- What is heard is split where the operand ends that has come to a value.
  induction h generalizing heard with
  | number _ _ =>
      rw [evaluate] at hends
      cases hends
  | identifier _ =>
      rw [evaluate] at hends
      cases hends with
      | ask hdone => cases hdone
  | unary _ _ _ ih =>
      rw [evaluate] at hends
      obtain ⟨other, hother, hfails⟩ | ⟨value, first, second, rfl, hvalue, hlast⟩ :=
        hends.bind_cases
      · cases hother
        exact (ih hfails).lift [] fun own inside hcomes => .operand hcomes
      · obtain ⟨rfl, hfails⟩ := Evaluation.ends_ofExcept hlast
        rw [List.append_nil]
        exact (Breaks.sign hvalue hfails).failsWith
  | binary _ _ _ _ ihLeft ihRight =>
      rw [evaluate] at hends
      obtain ⟨other, hother, hfails⟩ | ⟨left, first, second, rfl, hleft, hends⟩ :=
        hends.bind_cases
      · cases hother
        exact (ihLeft hfails).lift [] fun own inside hcomes => .left hcomes
      obtain ⟨other, hother, hfails⟩ | ⟨right, second, third, rfl, hright, hlast⟩ :=
        hends.bind_cases
      · cases hother
        exact (ihRight hfails).lift first fun own inside hcomes => .right hleft hcomes
      · obtain ⟨rfl, hfails⟩ := Evaluation.ends_ofExcept hlast
        rw [List.append_nil]
        exact (Breaks.operator hleft hright hfails).failsWith
  | paren _ ih =>
      rw [evaluate] at hends
      exact (ih hends).lift [] fun own inside hcomes => .inner hcomes
  | call _ _ _ ih => exact failsWith_call hends fun argument hmem own hfails => ih argument hmem hfails
  | bareExternal _ _ => exact failsWith_call hends (List.forall_mem_nil _)
  | external _ _ _ =>
      refine failsWith_call hends fun argument hmem own hfails => ?_
      rw [List.mem_singleton.mp hmem, evaluate] at hfails
      cases hfails with
      | ask hdone => cases hdone

theorem Breaks.ends {part : Expr} {own : List Exchange} {error : EvalError}
    (h : part.Breaks own error) : (evaluate part).Ends own (.error error) := by
  cases h with
  | sign hoperand hfails =>
      rw [evaluate, ← List.append_nil own]
      refine hoperand.bind ?_
      rw [hfails]
      exact .failed error
  | @operator _ _ _ _ _ _ later _ hleft hright hfails =>
      rw [evaluate]
      refine hleft.bind ?_
      rw [← List.append_nil later]
      refine hright.bind ?_
      rw [hfails]
      exact .failed error
  | locator hname hfails =>
      rw [evaluate_external hname, hfails]
      exact .failed error
  | unknown hname hfunction =>
      rw [evaluate_unknown hname hfunction]
      exact .failed _
  | aggregate hname harguments hfails =>
      rw [evaluate_aggregate hname, ← List.append_nil own]
      refine harguments.bind ?_
      rw [hfails]
      exact .failed error
  | invalid =>
      rw [evaluate]
      exact .failed _

theorem ComesTo.ends {expr part : Expr} {before own : List Exchange} {error : EvalError}
    (hcomes : expr.ComesTo before part) (h : (evaluate part).Ends own (.error error)) :
    (evaluate expr).Ends (before ++ own) (.error error) := by
  induction hcomes with
  | self _ => exact h
  | operand _ ih | left _ ih =>
      rw [evaluate]
      exact (ih h).bind_error
  | right hleft _ ih =>
      rw [evaluate, List.append_assoc]
      exact hleft.bind (ih h).bind_error
  | inner _ ih =>
      rw [evaluate]
      exact ih h
  | argument hname hfront _ ih =>
      rw [evaluate_aggregate hname, List.append_assoc]
      exact (fails_of_argument hfront (ih h)).bind_error

/-- An evaluation fails just with the failures of the parts that it comes to. -/
theorem WellFormed.ends_error_iff {expr : Expr} (h : expr.WellFormed) {heard : List Exchange}
    {error : EvalError} :
    (evaluate expr).Ends heard (.error error) ↔ expr.FailsWith heard error := by
  refine ⟨h.failsWith, ?_⟩
  rintro ⟨before, own, part, rfl, hcomes, hbreaks⟩
  exact hcomes.ends hbreaks.ends

end Expr

end LiveSheet.Formula
