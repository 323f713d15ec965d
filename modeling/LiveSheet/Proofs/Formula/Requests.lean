import LiveSheet.Formula.Evaluate

namespace LiveSheet.Formula

open LiveSheet.Text

def locatorRequests : List Expr → List Request
  | [.identifier locator] => [.external locator]
  | _ => []

mutual

def Expr.requests : Expr → List Request
  | .literal _ | .invalid => []
  | .identifier name => [.cell name]
  | .unary _ operand => operand.requests
  | .binary _ left right => left.requests ++ right.requests
  | .paren inner => inner.requests
  | .call name arguments =>
      if uppercase name = externalFunction then locatorRequests arguments
      else Expr.allRequests arguments

def Expr.allRequests : List Expr → List Request
  | [] => []
  | first :: rest => first.requests ++ Expr.allRequests rest

end

namespace Evaluation

/-- An evaluation follows a plan when it makes the requests on it, one after
the other, unless it fails on the way. -/
def Follows : Evaluation α → List Request → Prop
  | .done _, plan => plan = []
  | .failed _, _ => True
  | .ask request resume, plan =>
      ∃ rest, plan = request :: rest ∧ ∀ text, (resume text).Follows rest

theorem Follows.bind {evaluation : Evaluation α} {next : α → Evaluation β}
    {plan rest : List Request} (h : evaluation.Follows plan)
    (hnext : ∀ value, (next value).Follows rest) :
    (evaluation >>= next).Follows (plan ++ rest) := by
  induction evaluation generalizing plan with
  | done value =>
      obtain rfl : plan = [] := h
      exact hnext value
  | failed error => trivial
  | ask request resume ih =>
      obtain ⟨others, rfl, hothers⟩ := h
      exact ⟨others ++ rest, rfl, fun text => ih text (hothers text)⟩

theorem Follows.bind_last {evaluation : Evaluation α} {next : α → Evaluation β}
    {plan : List Request} (h : evaluation.Follows plan)
    (hnext : ∀ value, (next value).Follows []) :
    (evaluation >>= next).Follows plan := by
  rw [← List.append_nil plan]
  exact h.bind hnext

theorem ofExcept_follows (result : Except EvalError α) :
    (ofExcept result).Follows [] := by
  cases result with
  | ok value => rfl
  | error error => trivial

def settle (answer : Request → Option String) : Evaluation α → Option α
  | .done value => some value
  | .failed _ => none
  | .ask request resume => (answer request).bind fun text => (resume text).settle answer

theorem settle_mono {answer other : Request → Option String}
    (h : ∀ request text, answer request = some text → other request = some text)
    {evaluation : Evaluation α} {value : α}
    (hsettle : evaluation.settle answer = some value) :
    evaluation.settle other = some value := by
  induction evaluation with
  | done result => exact hsettle
  | failed error => cases hsettle
  | ask request resume ih =>
      obtain ⟨text, htext, hrest⟩ := Option.bind_eq_some_iff.mp hsettle
      exact Option.bind_eq_some_iff.mpr ⟨text, h request text htext, ih text hrest⟩

theorem settle_unique {first second : Request → Option String}
    (h : ∀ request text other, first request = some text → second request = some other →
      text = other)
    {evaluation : Evaluation α} {value other : α}
    (hfirst : evaluation.settle first = some value)
    (hsecond : evaluation.settle second = some other) : value = other := by
  induction evaluation with
  | done result => exact Option.some.inj (hfirst.symm.trans hsecond)
  | failed error => cases hfirst
  | ask request resume ih =>
      obtain ⟨text, htext, hfirst⟩ := Option.bind_eq_some_iff.mp hfirst
      obtain ⟨reply, hreply, hsecond⟩ := Option.bind_eq_some_iff.mp hsecond
      obtain rfl := h request text reply htext hreply
      exact ih text hfirst hsecond

theorem Follows.settle_congr {answer other : Request → Option String}
    {evaluation : Evaluation α} {plan : List Request} (hplan : evaluation.Follows plan)
    (h : ∀ request ∈ plan, answer request = other request) :
    evaluation.settle answer = evaluation.settle other := by
  induction evaluation generalizing plan with
  | done result => rfl
  | failed error => rfl
  | ask request resume ih =>
      obtain ⟨rest, rfl, hrest⟩ := hplan
      simp only [settle, h request List.mem_cons_self]
      refine congrArg _ (funext fun text => ih text (hrest text) ?_)
      exact fun next hmem => h next (List.mem_cons_of_mem _ hmem)

theorem Follows.answered {answer : Request → Option String} {evaluation : Evaluation α}
    {plan : List Request} (hplan : evaluation.Follows plan) {value : α}
    (h : evaluation.settle answer = some value) :
    ∀ request ∈ plan, ∃ text, answer request = some text := by
  induction evaluation generalizing plan with
  | done result =>
      obtain rfl : plan = [] := hplan
      exact fun request hmem => absurd hmem List.not_mem_nil
  | failed error => cases h
  | ask first resume ih =>
      obtain ⟨rest, rfl, hrest⟩ := hplan
      obtain ⟨text, htext, h⟩ := Option.bind_eq_some_iff.mp h
      intro request hmem
      rcases List.mem_cons.mp hmem with rfl | hmem
      · exact ⟨text, htext⟩
      · exact ih text (hrest text) h request hmem

end Evaluation

theorem askLocator_follows (arguments : List Expr) :
    (askLocator arguments).Follows (locatorRequests arguments) := by
  unfold askLocator
  split
  · exact ⟨[], rfl, fun _ => rfl⟩
  · trivial
  · trivial

mutual

theorem evaluate_follows : ∀ expr : Expr, (evaluate expr).Follows expr.requests
  | .literal _ => by
      rw [evaluate, Expr.requests]
      rfl
  | .invalid => by
      rw [evaluate]
      trivial
  | .identifier name => by
      rw [evaluate, Expr.requests]
      exact ⟨[], rfl, fun _ => rfl⟩
  | .unary op operand => by
      rw [evaluate, Expr.requests]
      exact (evaluate_follows operand).bind_last fun _ => Evaluation.ofExcept_follows _
  | .binary op left right => by
      rw [evaluate, Expr.requests]
      exact (evaluate_follows left).bind fun _ =>
        (evaluate_follows right).bind_last fun _ => Evaluation.ofExcept_follows _
  | .paren inner => by
      rw [evaluate, Expr.requests]
      exact evaluate_follows inner
  | .call name arguments => by
      rw [evaluate, Expr.requests]
      split
      · exact askLocator_follows arguments
      · split
        · trivial
        · exact (evaluateAll_follows arguments).bind_last fun _ =>
            Evaluation.ofExcept_follows _

theorem evaluateAll_follows :
    ∀ arguments : List Expr, (evaluateAll arguments).Follows (Expr.allRequests arguments)
  | [] => by
      rw [evaluateAll, Expr.allRequests]
      rfl
  | first :: rest => by
      rw [evaluateAll, Expr.allRequests]
      exact (evaluate_follows first).bind fun _ =>
        (evaluateAll_follows rest).bind_last fun _ => rfl

end

end LiveSheet.Formula
