import LiveSheet.Number.Integer
import LiveSheet.Number.Power
import LiveSheet.Number.Scientific

namespace LiveSheet.Number

/-! Exact decimal numbers: `coefficient` times ten to the power `exponent`. -/

structure Decimal where
  coefficient : Int
  exponent : Int

namespace Decimal

/-- A point at either end of the mantissa gets the zero it leaves out. -/
def spelledOut (mantissa : List Char) : List Char :=
  let opened := if mantissa.head? = some '.' then '0' :: mantissa else mantissa
  if mantissa.getLast? = some '.' then opened ++ ['0'] else opened

/-- The number of decimal places less the written power of ten has to fit in a
signed 64-bit word. -/
def fitsScale (scale : Int) : Bool :=
  decide (-(twoTo 63 : Int) ≤ scale) && decide (scale < (twoTo 63 : Int))

def ofParts? (base : List Char) (power : Int) : Option Decimal :=
  let whole := base.takeWhile (· != '.')
  let fraction := (base.dropWhile (· != '.')).drop 1
  let places := (fraction.filter (· != '_')).length
  if fitsScale (places - power) then
    (readInteger? (whole ++ fraction)).map fun coefficient =>
      { coefficient, exponent := power - places }
  else none

def readUnsigned? (sign unsigned : List Char) : Option Decimal :=
  let mantissa := unsigned.takeWhile (fun char => !isExponentMark char)
  let base := sign ++ spelledOut mantissa
  match unsigned.dropWhile (fun char => !isExponentMark char) with
  | [] => ofParts? base 0
  | _ :: power => (readPower? power).bind (ofParts? base)

def read? : List Char → Option Decimal
  | '-' :: unsigned => readUnsigned? ['-'] unsigned
  | unsigned => readUnsigned? [] unsigned

/-- How many places the leading digit stands left of the point.  A number with
a larger order is larger in size, whatever its digits. -/
def order (number : Decimal) : Int :=
  (digitsOf number.coefficient.natAbs).length + number.exponent

def sizeIn (number : Decimal) (unit : Int) : Nat :=
  number.coefficient.natAbs * tenTo (number.exponent - unit)

/-- Sizes of one order differ in exponent by no more than their digits are
long, so bringing them to one unit stays small. -/
def compareSize (left right : Decimal) : Ordering :=
  if left.order < right.order then .lt
  else if right.order < left.order then .gt
  else
    let unit := min left.exponent right.exponent
    Ord.compare (left.sizeIn unit) (right.sizeIn unit)

def compare (left right : Decimal) : Ordering :=
  if left.coefficient.sign < right.coefficient.sign then .lt
  else if right.coefficient.sign < left.coefficient.sign then .gt
  else if left.coefficient = 0 then .eq
  else if 0 < left.coefficient then compareSize left right
  else compareSize right left

end Decimal

end LiveSheet.Number
