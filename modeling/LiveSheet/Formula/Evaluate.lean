import LiveSheet.Formula.Aggregate
import LiveSheet.Formula.Evaluation

namespace LiveSheet.Formula

open LiveSheet.Text

def askLocator : List Expr → Evaluation Literal
  | [.identifier locator] =>
      .ask (.external locator) fun text => .done (Literal.ofText text)
  | [_] => .failed (.invalidCall .notALocator)
  | arguments => .failed (.invalidCall (.locatorCount arguments.length))

def applyAggregate (name : String) (aggregate : Aggregate) :
    List Literal → Except EvalError Literal
  | [] => .error (.invalidCall (.noArguments name))
  | first :: rest => aggregate.applyTo first rest

mutual

/-- Operands and arguments are evaluated from left to right, and the first
failure anywhere is the failure of the whole. -/
def evaluate : Expr → Evaluation Literal
  | .literal literal => .done literal
  | .identifier name =>
      .ask (.cell name) fun text => .done (Literal.ofText text)
  | .unary op operand => do
      .ofExcept (applySign op (← evaluate operand))
  | .binary op left right => do
      let left ← evaluate left
      let right ← evaluate right
      .ofExcept (apply op left right)
  | .paren inner => evaluate inner
  | .call name arguments =>
      if uppercase name = externalFunction then askLocator arguments
      else
        match Aggregate.ofName? (uppercase name) with
        | none => .failed (.unknownFunction name)
        | some aggregate => do
            .ofExcept (applyAggregate (uppercase name) aggregate
              (← evaluateAll arguments))
  | .invalid => .failed .invalidNode

def evaluateAll : List Expr → Evaluation (List Literal)
  | [] => .done []
  | first :: rest => do
      let value ← evaluate first
      let values ← evaluateAll rest
      .done (value :: values)

end

end LiveSheet.Formula
