import LiveSheet.Formula.Tokenize

namespace LiveSheet.Formula

/-! Values keep the text they were written with. -/

inductive LiteralKind where
  | int
  | float
  | string
  deriving DecidableEq

structure Literal where
  kind : LiteralKind
  text : String
  deriving DecidableEq

namespace Literal

def isNumeric (literal : Literal) : Bool :=
  literal.kind != .string

def ofNumber? (sign : String) : Token → Option Literal
  | .int text => some { kind := .int, text := sign ++ text }
  | .float text => some { kind := .float, text := sign ++ text }
  | _ => none

def ofTokens? : List Token → Option Literal
  | [number] => ofNumber? "" number
  | [.operator .add, number] => ofNumber? "" number
  | [.operator .sub, number] => ofNumber? "-" number
  | _ => none

/-- The value of a text that is no formula: a number with an optional sign, or
else the text itself. -/
def ofText (text : String) : Literal :=
  match tokenize text with
  | .ok tokens => (ofTokens? tokens).getD { kind := .string, text }
  | .error _ => { kind := .string, text }

end Literal

end LiveSheet.Formula
