import LiveSheet.Formula.Error

namespace LiveSheet.Formula

/-! An evaluation asks for the results it needs one after the other, and goes on
with each answer.  Who answers is left open. -/

inductive Request where
  | cell (name : String)
  | external (locator : String)
  deriving DecidableEq

inductive Evaluation (α : Type) where
  | done (value : α)
  | failed (error : EvalError)
  | ask (request : Request) (resume : String → Evaluation α)

namespace Evaluation

def bind (evaluation : Evaluation α) (next : α → Evaluation β) : Evaluation β :=
  match evaluation with
  | .done value => next value
  | .failed error => .failed error
  | .ask request resume => .ask request fun answer => (resume answer).bind next

instance : Monad Evaluation where
  pure := .done
  bind := bind

@[simp] theorem ask_bind (request : Request) (resume : String → Evaluation α)
    (next : α → Evaluation β) :
    (Evaluation.ask request resume >>= next) =
      .ask request fun answer => resume answer >>= next := rfl

def ofExcept : Except EvalError α → Evaluation α
  | .ok value => .done value
  | .error error => .failed error

/-- Carries an evaluation out.  A request that is refused ends it. -/
def run [Monad m] (answer : Request → m (Except ε String)) (fail : EvalError → ε) :
    Evaluation α → m (Except ε α)
  | .done value => pure (.ok value)
  | .failed error => pure (.error (fail error))
  | .ask request resume => do
      match ← answer request with
      | .ok text => run answer fail (resume text)
      | .error error => pure (.error error)

end Evaluation

end LiveSheet.Formula
