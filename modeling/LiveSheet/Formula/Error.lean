import LiveSheet.Formula.Parser

namespace LiveSheet.Formula

open LiveSheet.Number
open LiveSheet.Text

inductive CallFault where
  | noArguments (function : String)
  | notALocator
  | locatorCount (count : Nat)
  deriving DecidableEq

def CallFault.reason : CallFault → String
  | .noArguments function => function ++ " expects at least one argument"
  | .notALocator => externalFunction ++ " expects a bare locator"
  | .locatorCount count =>
      externalFunction ++ " expects a single argument, got " ++
        String.ofList (digitsOf count)

inductive EvalError where
  | typeMismatch (op : Operator) (operand : String)
  | divisionByZero
  | overflow
  | invalidNumber (text : String)
  | unknownFunction (name : String)
  | invalidCall (fault : CallFault)
  | unknownCell (name : String)
  | external (reason : String)
  | invalidNode
  | depthExceeded (limit : Nat)
  deriving DecidableEq

def EvalError.message : EvalError → String
  | .typeMismatch op operand =>
      "operator '" ++ String.singleton op.symbol ++
        "' is not defined for text value " ++ quoted operand
  | .divisionByZero => "division by zero"
  | .overflow => "numeric overflow"
  | .invalidNumber text => "invalid number: " ++ quoted text
  | .unknownFunction name => "unknown function " ++ quoted name
  | .invalidCall fault => "invalid call: " ++ fault.reason
  | .unknownCell name => "reference to unknown cell '" ++ name ++ "'"
  | .external reason => "external reference failed: " ++ reason
  | .invalidNode => "expression could not be evaluated"
  | .depthExceeded limit =>
      "references nested deeper than " ++ String.ofList (digitsOf limit) ++ " levels"

inductive FormulaError where
  | parse (error : ParseError)
  | eval (error : EvalError)
  | cycle (cell : String)
  | brokenDependent (cell : String) (source : FormulaError)
  deriving DecidableEq

namespace FormulaError

def message : FormulaError → String
  | .parse error => error.message
  | .eval error => error.message
  | .cycle cell => "cycle dependency detected at cell '" ++ cell ++ "'"
  | .brokenDependent cell source =>
      "dependent cell '" ++ cell ++ "' would fail: " ++ source.message

def isCycle : FormulaError → Bool
  | .cycle _ => true
  | .brokenDependent _ source => source.isCycle
  | .parse _ | .eval _ => false

end FormulaError

end LiveSheet.Formula
