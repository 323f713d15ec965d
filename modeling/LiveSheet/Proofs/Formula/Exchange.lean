import LiveSheet.Proofs.Formula.Asking
import LiveSheet.Proofs.Formula.Stable

namespace LiveSheet.Formula

/-! What an evaluation comes to depends on the texts that it hears, and not on how they
are found.  A run of it is told by what it heard, unless a request was refused. -/

abbrev Exchange := Request × String

namespace Evaluation

/-- What an evaluation comes to when it hears the texts of a list, in order and to the
last. -/
inductive Ends : Evaluation α → List Exchange → Except EvalError α → Prop where
  | done (value : α) : Ends (.done value) [] (.ok value)
  | failed (error : EvalError) : Ends (.failed error) [] (.error error)
  | ask {request : Request} {resume : String → Evaluation α} {text : String}
      {heard : List Exchange} {result : Except EvalError α}
      (h : Ends (resume text) heard result) :
      Ends (.ask request resume) ((request, text) :: heard) result

section

variable {evaluation : Evaluation α} {next : α → Evaluation β} {heard : List Exchange}

theorem Ends.bind_cases {result : Except EvalError β} (h : (evaluation >>= next).Ends heard result) :
    (∃ error, result = .error error ∧ evaluation.Ends heard (.error error)) ∨
      ∃ value first second, heard = first ++ second ∧ evaluation.Ends first (.ok value) ∧
        (next value).Ends second result := by
  induction evaluation generalizing heard with
  | done value => exact Or.inr ⟨value, [], heard, rfl, .done value, h⟩
  | failed error =>
      cases h
      exact Or.inl ⟨error, rfl, .failed error⟩
  | ask request resume ih =>
      cases h with
      | @ask _ _ text rest _ hrest =>
          obtain ⟨error, hresult, hends⟩ | ⟨value, first, second, rfl, hfirst, hsecond⟩ :=
            ih text hrest
          · exact Or.inl ⟨error, hresult, .ask hends⟩
          · exact Or.inr ⟨value, (request, text) :: first, second, rfl, .ask hfirst, hsecond⟩

theorem Ends.bind {value : α} {later : List Exchange} {result : Except EvalError β}
    (h : evaluation.Ends heard (.ok value)) (hnext : (next value).Ends later result) :
    (evaluation >>= next).Ends (heard ++ later) result := by
  induction evaluation generalizing heard with
  | done other =>
      cases h
      exact hnext
  | failed error => cases h
  | ask request resume ih =>
      cases h with
      | ask hrest => exact .ask (ih _ hrest)

theorem Ends.bind_ok {result : β} (h : (evaluation >>= next).Ends heard (.ok result)) :
    ∃ value first second, heard = first ++ second ∧ evaluation.Ends first (.ok value) ∧
      (next value).Ends second (.ok result) := by
  refine h.bind_cases.resolve_left ?_
  rintro ⟨error, hresult, -⟩
  cases hresult

theorem Ends.bind_error {error : EvalError} (h : evaluation.Ends heard (.error error)) :
    (evaluation >>= next).Ends heard (.error error) := by
  induction evaluation generalizing heard with
  | done value => cases h
  | failed other =>
      cases h
      exact .failed error
  | ask request resume ih =>
      cases h with
      | ask hrest => exact .ask (ih _ hrest)

theorem Ends.unique {first second : Except EvalError α} (h : evaluation.Ends heard first)
    (hother : evaluation.Ends heard second) : first = second := by
  induction h with
  | done value =>
      cases hother
      rfl
  | failed error =>
      cases hother
      rfl
  | ask _ ih =>
      cases hother with
      | ask hrest => exact ih hrest

theorem ends_ofExcept {result other : Except EvalError α}
    (h : (ofExcept result).Ends heard other) : heard = [] ∧ result = other := by
  cases result <;>
  · cases h
    exact ⟨rfl, rfl⟩

theorem Always.ends {P : α → Prop} (h : evaluation.Always P) {value : α}
    (hends : evaluation.Ends heard (.ok value)) : P value := by
  induction h generalizing heard with
  | done h =>
      cases hends
      exact h
  | failed error => cases hends
  | ask _ ih =>
      cases hends with
      | ask hrest => exact ih _ hrest

end

/-- What is asked while an evaluation is carried out and what it is answered with, in
order.  A request that is refused is the last one. -/
def exchanges (answer : Request → StateM σ (Except ε String)) :
    Evaluation α → σ → List (Request × Except ε String)
  | .done _, _ | .failed _, _ => []
  | .ask request resume, state =>
      match (answer request).run state with
      | (.ok text, after) => (request, .ok text) :: exchanges answer (resume text) after
      | (.error error, _) => [(request, .error error)]

section

variable {answer : Request → StateM σ (Except ε String)} {fail : EvalError → ε}

theorem run_ask (request : Request) (resume : String → Evaluation α) (state : σ) :
    ((Evaluation.ask request resume).run answer fail).run state =
      match (answer request).run state with
      | (.ok text, after) => ((resume text).run answer fail).run after
      | (.error error, after) => (.error error, after) := by
  rcases hanswer : (answer request).run state with ⟨_ | text, after⟩ <;>
    simp [Evaluation.run, hanswer] <;> rfl

theorem run_bind (evaluation : Evaluation α) (next : α → Evaluation β) (state : σ) :
    ((evaluation >>= next).run answer fail).run state =
      match (evaluation.run answer fail).run state with
      | (.ok value, after) => ((next value).run answer fail).run after
      | (.error error, after) => (.error error, after) := by
  induction evaluation generalizing state with
  | done value => rfl
  | failed error => rfl
  | ask request resume ih =>
      rw [ask_bind, run_ask, run_ask]
      split
      · exact ih _ _
      · rfl

theorem map_fst_exchanges (evaluation : Evaluation α) (state : σ) :
    (evaluation.exchanges answer state).map Prod.fst = evaluation.asked answer fail state := by
  induction evaluation generalizing state with
  | done value => rfl
  | failed error => rfl
  | ask request resume ih =>
      rw [exchanges, asked_ask]
      rcases (answer request).run state with ⟨_ | text, after⟩
      · rfl
      · exact congrArg (List.cons request) (ih text after)

variable (answer fail) in
/-- An evaluation that is carried out stops where a request is refused, or comes to what
it comes to on the texts that it heard. -/
theorem run_cases (evaluation : Evaluation α) (state : σ) :
    (∃ request error,
      (evaluation.exchanges answer state).getLast? = some (request, .error error) ∧
        ((evaluation.run answer fail).run state).1 = .error error) ∨
    ∃ heard result,
      evaluation.exchanges answer state = heard.map (Prod.map id Except.ok) ∧
        evaluation.Ends heard result ∧
        ((evaluation.run answer fail).run state).1 = result.mapError fail := by
  induction evaluation generalizing state with
  | done value => exact Or.inr ⟨[], .ok value, rfl, .done value, rfl⟩
  | failed error => exact Or.inr ⟨[], .error error, rfl, .failed error, rfl⟩
  | ask request resume ih =>
      rw [run_ask, exchanges]
      rcases (answer request).run state with ⟨error | text, after⟩
      · exact Or.inl ⟨request, error, rfl, rfl⟩
      · obtain ⟨other, error, hlast, hrun⟩ | ⟨heard, result, hheard, hends, hrun⟩ := ih text after
        · refine Or.inl ⟨other, error, ?_, hrun⟩
          rw [List.getLast?_cons, hlast]
          rfl
        · refine Or.inr ⟨(request, text) :: heard, result, ?_, .ask hends, hrun⟩
          simp only [hheard, List.map_cons, Prod.map, id_eq]

theorem run_fails {evaluation : Evaluation α} {state : σ} {error : ε}
    (h : ((evaluation.run answer fail).run state).1 = .error error) :
    (∃ request, (evaluation.exchanges answer state).getLast? = some (request, .error error)) ∨
      ∃ heard own, evaluation.exchanges answer state = heard.map (Prod.map id Except.ok) ∧
        error = fail own ∧ evaluation.Ends heard (.error own) := by
  obtain ⟨request, refused, hlast, hrun⟩ | ⟨heard, result, hheard, hends, hrun⟩ :=
    evaluation.run_cases answer fail state
  · rw [hrun] at h
    cases h
    exact Or.inl ⟨request, hlast⟩
  · rw [hrun] at h
    cases result with
    | ok value => cases h
    | error own =>
        cases h
        exact Or.inr ⟨heard, own, hheard, rfl, hends⟩

end

end Evaluation

end LiveSheet.Formula
