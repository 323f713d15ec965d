import LiveSheet.Proofs.Formula.Failing

namespace LiveSheet.Formula

open LiveSheet.Text

/-! A text that an expression comes to was heard as it is, since no operator comes to one
and a function only hands an argument on. -/

def HeardText (heard : List Exchange) (text : String) : Prop :=
  (∃ request, (request, text) ∈ heard) ∧ (Literal.ofText text).kind = .string

theorem HeardText.mono {first second : List Exchange} {text : String}
    (h : HeardText first text) (hsub : first ⊆ second) : HeardText second text := by
  obtain ⟨⟨request, hmem⟩, hkind⟩ := h
  exact ⟨⟨request, hsub hmem⟩, hkind⟩

theorem heardText_singleton (request : Request) {text : String}
    (htext : (Literal.ofText text).kind = .string) :
    HeardText [(request, text)] (Literal.ofText text).text := by
  obtain ⟨sign, number, hwrites⟩ | hsame := Literal.ofText_cases text
  · rw [Literal.ofText_of_writes hwrites] at htext
    split at htext <;> cases htext
  · rw [hsame]
    exact ⟨⟨request, List.mem_singleton_self _⟩, htext⟩

namespace Expr

theorem heardText_of_call {name : String} {arguments : List Expr} {heard : List Exchange}
    {value : Literal} (hends : (evaluate (.call name arguments)).Ends heard (.ok value))
    (htext : value.kind = .string)
    (h : ∀ argument ∈ arguments, ∀ own, (evaluate argument).Ends own (.ok value) →
      HeardText own value.text) : HeardText heard value.text := by
  by_cases hname : uppercase name = externalFunction
  · rw [evaluate_external hname] at hends
    unfold askLocator at hends
    split at hends
    · cases hends with
      | ask hdone =>
          cases hdone
          exact heardText_singleton _ htext
    all_goals cases hends
  cases hfunction : Aggregate.ofName? (uppercase name) with
  | none =>
      rw [evaluate_unknown hname hfunction] at hends
      cases hends
  | some aggregate =>
      rw [evaluate_aggregate hfunction] at hends
      obtain ⟨values, first, second, rfl, hvalues, hlast⟩ := hends.bind_ok
      obtain ⟨-, hresult⟩ := Evaluation.ends_ofExcept hlast
      obtain ⟨argument, hmem, part, hpart, hargument⟩ :=
        exists_argument_of_value hvalues (mem_of_applyAggregate_text hresult htext)
      exact (h argument hmem part hargument).mono
        (List.Subset.trans hpart (List.subset_append_left _ _))

theorem WellFormed.heardText {expr : Expr} (h : expr.WellFormed) {heard : List Exchange}
    {value : Literal} (hends : (evaluate expr).Ends heard (.ok value))
    (htext : value.kind = .string) : HeardText heard value.text := by
  -- An operator comes to a number, so only the other trees can come to a text.
  induction h generalizing heard with
  | number hnumber _ =>
      rw [evaluate] at hends
      cases hends
      obtain ⟨kind, text⟩ := value
      subst htext
      cases hnumber
  | identifier _ =>
      rw [evaluate] at hends
      cases hends with
      | ask hdone =>
          cases hdone
          exact heardText_singleton _ htext
  | unary _ _ _ _ =>
      rw [evaluate] at hends
      obtain ⟨operand, first, second, rfl, -, hlast⟩ := hends.bind_ok
      exact absurd htext (numeric_apply (Evaluation.ends_ofExcept hlast).2)
  | binary _ _ _ _ _ _ =>
      rw [evaluate] at hends
      obtain ⟨left, first, second, rfl, -, hright⟩ := hends.bind_ok
      obtain ⟨right, third, fourth, rfl, -, hlast⟩ := hright.bind_ok
      exact absurd htext (numeric_apply (Evaluation.ends_ofExcept hlast).2)
  | paren _ ih =>
      rw [evaluate] at hends
      exact ih hends
  | call _ _ _ ih =>
      exact heardText_of_call hends htext fun argument hmem own hown => ih argument hmem hown
  | bareExternal _ _ => exact heardText_of_call hends htext (List.forall_mem_nil _)
  | external _ _ _ =>
      refine heardText_of_call hends htext fun argument hmem own hown => ?_
      rw [List.mem_singleton.mp hmem, evaluate] at hown
      cases hown with
      | ask hdone =>
          cases hdone
          exact heardText_singleton _ htext

/-- Whether an evaluation that has heard these texts has come to a sign in front of a
text. -/
def SignsText (expr : Expr) (heard : List Exchange) (op : Operator) : Prop :=
  ∃ before own operand value, heard = before ++ own ∧ expr.ComesTo before (.unary op operand) ∧
    (evaluate operand).Ends own (.ok value) ∧ value.kind = .string

theorem SignsText.ends {expr : Expr} {heard : List Exchange} {op : Operator}
    (h : expr.SignsText heard op) :
    (evaluate expr).Ends heard (.error (.typeMismatch op "0")) := by
  obtain ⟨before, own, operand, value, rfl, hcomes, hoperand, htext⟩ := h
  refine hcomes.ends (Breaks.ends (.sign hoperand ?_))
  rw [applySign, apply, if_pos htext]

/-- Every other failure of the kind blames a text that was heard. -/
theorem Breaks.blames {expr part : Expr} {before own : List Exchange} {op : Operator}
    {operand : String} (hbreaks : part.Breaks own (.typeMismatch op operand))
    (h : part.WellFormed) (hcomes : expr.ComesTo before part) :
    expr.SignsText (before ++ own) op ∨ HeardText (before ++ own) operand := by
  have hown := List.subset_append_right before own
  cases hbreaks with
  | sign hoperand hfails =>
      cases h with
      | unary _ hwell _ =>
          obtain ⟨htext, herror⟩ | ⟨-, harithmetic⟩ :=
            applySign_refuses (hwell.settled hoperand).readable hfails
          · cases herror
            exact Or.inl ⟨before, own, _, _, rfl, hcomes, hoperand, htext⟩
          · rcases harithmetic with harithmetic | harithmetic <;> cases harithmetic
  | operator hleft hright hfails =>
      cases h with
      | binary hwell hother _ _ =>
          refine Or.inr (HeardText.mono ?_ hown)
          cases apply_refuses (hwell.settled hleft).readable (hother.settled hright).readable
            hfails with
          | left htext => exact (hwell.heardText hleft htext).mono (List.subset_append_left _ _)
          | right _ htext =>
              exact (hother.heardText hright htext).mono (List.subset_append_right _ _)
  | locator hname hfails =>
      obtain rfl | ⟨locator, rfl⟩ := h.locator hname <;> cases hfails
  | aggregate hname harguments hfails =>
      have hwell := h.of_mem_arguments (Aggregate.ne_external_of_ofName? hname)
      cases applyAggregate_refuses (settled_of_evaluateAll hwell harguments) hfails with
      | text _ hmem htext =>
          obtain ⟨argument, hargument, used, hused, hends⟩ :=
            exists_argument_of_value harguments hmem
          exact Or.inr (((hwell argument hargument).heardText hends htext).mono
            (List.Subset.trans hused hown))
      | arithmetic _ harithmetic =>
          rcases harithmetic with harithmetic | harithmetic <;> cases harithmetic

end Expr

/-- A failure of a parsed formula for a text among its operands blames a text that was
heard, unless an operator is a sign in front of the text: then it blames a zero. -/
theorem typeMismatch_blames {body : String} {expr : Expr} (hparse : parse body = .ok expr)
    (answer : Request → StateM σ (Except ε String)) (fail : EvalError → ε) (state : σ)
    {error : ε} (herror : (((evaluate expr).run answer fail).run state).1 = .error error) :
    (∃ request, ((evaluate expr).exchanges answer state).getLast? =
      some (request, .error error)) ∨
    ∃ heard own, (evaluate expr).exchanges answer state =
        heard.map (Prod.map id Except.ok) ∧
      error = fail own ∧
      ∀ op operand, own = .typeMismatch op operand →
        (expr.SignsText heard op → operand = "0") ∧
          (¬ expr.SignsText heard op → HeardText heard operand) := by
  have hwell := (parse_eq_ok_iff.mp hparse).1
  refine (Evaluation.run_fails herror).imp id ?_
  rintro ⟨heard, own, hheard, rfl, hends⟩
  refine ⟨heard, own, hheard, rfl, ?_⟩
  rintro op operand rfl
  refine ⟨fun hsigns => ?_, fun hnone => ?_⟩
  · have hsame := hends.unique hsigns.ends
    cases hsame
    rfl
  · obtain ⟨before, late, part, rfl, hcomes, hbreaks⟩ := hwell.ends_error_iff.mp hends
    exact (hbreaks.blames (hcomes.wellFormed hwell) hcomes).resolve_left hnone

def answering (text : String) (_ : Request) : StateM Unit (Except EvalError String) :=
  pure (.ok text)

def sumWithCell : Expr :=
  .call "SUM" [.literal { kind := .int, text := "1" }, .paren (.identifier "s")]

theorem typeMismatch_blames_sumWithCell :
    parse "SUM(1, (s))" = .ok sumWithCell ∧
      (((evaluate sumWithCell).run (answering "text") id).run ()).1 =
        .error (.typeMismatch .add "text") ∧
      ∃ heard, HeardText heard "text" := by
  have hparse : parse "SUM(1, (s))" = .ok sumWithCell := rfl
  have herror : (((evaluate sumWithCell).run (answering "text") id).run ()).1 =
      .error (.typeMismatch .add "text") := by
    decide +kernel
  have hexchanges : (evaluate sumWithCell).exchanges (answering "text") () =
      [(.cell "s", .ok "text")] := by
    decide +kernel
  refine ⟨hparse, herror, ?_⟩
  obtain ⟨request, hlast⟩ | ⟨heard, own, -, rfl, hblames⟩ :=
    typeMismatch_blames hparse (answering "text") id () herror
  · rw [hexchanges] at hlast
    cases hlast
  · obtain ⟨hzero, hheard⟩ := hblames _ _ rfl
    exact ⟨heard, hheard fun hsigns => absurd (hzero hsigns) (by decide)⟩

theorem sign_blames_zero :
    parse "-s" = .ok (.unary .sub (.identifier "s")) ∧
      (evaluate (.unary .sub (.identifier "s"))).exchanges (answering "text") () =
        [(.cell "s", .ok "text")] ∧
      (((evaluate (.unary .sub (.identifier "s"))).run (answering "text") id).run ()).1 =
        .error (.typeMismatch .sub "0") ∧
      (Literal.ofText "0").kind = .int := by
  refine ⟨rfl, ?_, ?_, ?_⟩ <;> decide +kernel

/-- A function fails with a text among its arguments, but for a sum of the text alone,
which is the text. -/
theorem aggregate_of_text {name : String} {aggregate : Aggregate}
    (hname : Aggregate.ofName? (uppercase name) = some aggregate) {arguments : List Expr}
    (answer : Request → StateM σ (Except ε String)) (fail : EvalError → ε) (state : σ)
    {values : List Literal}
    (hvalues : (((evaluateAll arguments).run answer fail).run state).1 = .ok values)
    {text : Literal} (hmem : text ∈ values) (htext : text.kind = .string) :
    if aggregate = .sum ∧ arguments.length = 1 then
      (((evaluate (.call name arguments)).run answer fail).run state).1 = .ok text
    else
      ∃ error, (((evaluate (.call name arguments)).run answer fail).run state).1 =
        .error (fail error) := by
  have hlength := (always_length arguments).run hvalues
  rw [run_aggregate hname hvalues]
  split
  · rename_i hlone
    obtain ⟨rfl, hone⟩ := hlone
    rw [← hlength] at hone
    obtain ⟨lone, rfl⟩ := List.length_eq_one_iff.mp hone
    obtain rfl := List.mem_singleton.mp hmem
    rfl
  · rename_i hmany
    cases hresult : applyAggregate (uppercase name) aggregate values with
    | error error => exact ⟨error, rfl⟩
    | ok result =>
        obtain ⟨rfl, rfl, rfl⟩ := applyAggregate_text hmem htext hresult
        exact absurd ⟨rfl, hlength.symm⟩ hmany

theorem aggregate_of_text_average :
    (((evaluateAll [.identifier "s"]).run (answering "hello") id).run ()).1 =
        .ok [{ kind := .string, text := "hello" }] ∧
      ∃ error, (((evaluate (.call "avg" [.identifier "s"])).run (answering "hello") id).run
        ()).1 = .error error := by
  have hvalues : (((evaluateAll [.identifier "s"]).run (answering "hello") id).run ()).1 =
      .ok [{ kind := .string, text := "hello" }] := by
    decide +kernel
  have hname : Aggregate.ofName? (uppercase "avg") = some .avg := by decide +kernel
  exact ⟨hvalues, aggregate_of_text hname (answering "hello") id () hvalues
    (List.mem_singleton_self _) rfl⟩

theorem sum_returns_text :
    Aggregate.ofName? (uppercase "SUM") = some .sum ∧
      (((evaluateAll [.identifier "s"]).run (answering "hello") id).run ()).1 =
        .ok [{ kind := .string, text := "hello" }] ∧
      (((evaluate (.call "SUM" [.identifier "s"])).run (answering "hello") id).run ()).1 =
        .ok { kind := .string, text := "hello" } := by
  refine ⟨?_, ?_, ?_⟩ <;> decide +kernel

end LiveSheet.Formula
