import LiveSheet.Formula.Error
import LiveSheet.Number.Decimal
import LiveSheet.Number.Positional

namespace LiveSheet.Formula

open LiveSheet.Number

/-! Operators on literals.  Integers of any size are exact; a float operand, or
a division, moves the computation to binary64. -/

namespace Literal

def integer (literal : Literal) : Except EvalError Int :=
  match readInteger? literal.text.toList with
  | some value => .ok value
  | none => .error (.invalidNumber literal.text)

def binary64 (literal : Literal) : Except EvalError Binary64 :=
  match Binary64.read? literal.text.toList with
  | some value => .ok value
  | none => .error (.invalidNumber literal.text)

def decimal (literal : Literal) : Except EvalError Decimal :=
  if literal.kind = .string then .error (.invalidNumber literal.text)
  else
    match Decimal.read? literal.text.toList with
    | some value => .ok value
    | none => .error (.invalidNumber literal.text)

def ofInteger (value : Int) : Literal :=
  { kind := .int, text := String.ofList (integerText value) }

def ofBinary64 (value : Binary64) : Except EvalError Literal :=
  match value.text? with
  | some text => .ok { kind := .float, text := String.ofList text }
  | none => .error .overflow

end Literal

def Operator.exact? : Operator → Option (Int → Int → Int)
  | .add => some (· + ·)
  | .sub => some (· - ·)
  | .mul => some (· * ·)
  | .div => none

def Operator.rounded : Operator → Binary64 → Binary64 → Binary64
  | .add => Binary64.add
  | .sub => Binary64.sub
  | .mul => Binary64.mul
  | .div => Binary64.div

def applyRounded (op : Operator) (left right : Literal) :
    Except EvalError Literal := do
  let dividend ← left.binary64
  let divisor ← right.binary64
  if op = .div && divisor.isZero then .error .divisionByZero
  else Literal.ofBinary64 (op.rounded dividend divisor)

def applyExact (combine : Int → Int → Int) (left right : Literal) :
    Except EvalError Literal := do
  return Literal.ofInteger (combine (← left.integer) (← right.integer))

def applyNumeric (op : Operator) (left right : Literal) :
    Except EvalError Literal :=
  match op.exact? with
  | some combine =>
      if left.kind = .float || right.kind = .float then applyRounded op left right
      else applyExact combine left right
  | none => applyRounded op left right

/-- The first operand that is text is the one to blame. -/
def apply (op : Operator) (left right : Literal) : Except EvalError Literal :=
  if left.kind = .string then .error (.typeMismatch op left.text)
  else if right.kind = .string then .error (.typeMismatch op right.text)
  else applyNumeric op left right

/-- A sign is an operation on a zero of the operand's own kind. -/
def applySign (op : Operator) (operand : Literal) : Except EvalError Literal :=
  apply op { kind := operand.kind, text := "0" } operand

def compareLiterals (left right : Literal) : Except EvalError Ordering := do
  return (← left.decimal).compare (← right.decimal)

end LiveSheet.Formula
