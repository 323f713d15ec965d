import LiveSheet.Formula.Arithmetic

namespace LiveSheet.Formula

open LiveSheet.Number

inductive Aggregate where
  | sum
  | avg
  | min
  | max
  deriving DecidableEq

namespace Aggregate

def ofName? (name : String) : Option Aggregate :=
  if name = "SUM" then some .sum
  else if name = "AVG" then some .avg
  else if name = "MIN" then some .min
  else if name = "MAX" then some .max
  else none

def total (first : Literal) (rest : List Literal) : Except EvalError Literal :=
  rest.foldlM (apply .add) first

def mean (first : Literal) (rest : List Literal) : Except EvalError Literal := do
  apply .div (← total first rest) (Literal.ofInteger (rest.length + 1 : Nat))

/-- Keeps the best literal so far; an equal one does not replace it. -/
def better (wins : Ordering) (best candidate : Literal) :
    Except EvalError Literal := do
  return if (← compareLiterals candidate best) = wins then candidate else best

/-- A lone argument has to be a number too. -/
def extremum (wins : Ordering) (first : Literal) (rest : List Literal) :
    Except EvalError Literal := do
  let _ ← first.decimal
  rest.foldlM (better wins) first

def applyTo : Aggregate → Literal → List Literal → Except EvalError Literal
  | .sum => total
  | .avg => mean
  | .min => extremum .lt
  | .max => extremum .gt

end Aggregate

end LiveSheet.Formula
