import LiveSheet.Number.Power
import LiveSheet.Number.Scientific

namespace LiveSheet.Number

/-! The binary64 numbers, without the sign of zero.  Every operation is the
exact result rounded once, to nearest with ties to the even significand. -/

inductive Binary64 where
  | finite (significand exponent : Int)
  | infinite (negative : Bool)
  | nan
  deriving DecidableEq

namespace Binary64

def zero : Binary64 := .finite 0 (-1074)

def divideToEven (numerator denominator : Nat) : Nat :=
  let quotient := numerator / denominator
  let excess := 2 * (numerator % denominator)
  if excess < denominator then quotient
  else if denominator < excess then quotient + 1
  else if quotient % 2 = 0 then quotient
  else quotient + 1

def floorLog2 (numerator denominator : Nat) : Int :=
  let guess : Int := (numerator.log2 : Int) - denominator.log2
  if numerator * twoTo (-guess) < denominator * twoTo guess then guess - 1
  else guess

/-- A significand and its exponent after rounding; the carry into a new binary
place is renormalised, and a place above the format is an infinity. -/
def pack (negative : Bool) (significand : Nat) (exponent : Int) : Binary64 :=
  let (significand, exponent) :=
    if significand = twoTo 53 then (twoTo 52, exponent + 1) else (significand, exponent)
  if 971 < exponent then .infinite negative
  else .finite (if negative then -(significand : Int) else significand) exponent

def ofRatio (numerator : Int) (denominator : Nat) (power : Int) : Binary64 :=
  if numerator = 0 then zero
  else
    let exponent :=
      max (floorLog2 numerator.natAbs denominator + power - 52) (-1074)
    let shift := power - exponent
    pack (decide (numerator < 0))
      (divideToEven (numerator.natAbs * twoTo shift) (denominator * twoTo (-shift)))
      exponent

/-- Ten to the power 310 is above every finite number, and ten to the power
-330 below half the least one. -/
def ofScientific (negative : Bool) (number : Scientific) : Binary64 :=
  if number.coefficient = 0 then zero
  else
    let order : Int := (digitsOf number.coefficient).length + number.power
    if 310 < order then .infinite negative
    else if order < -330 then zero
    else
      let size := number.coefficient * tenTo number.power
      ofRatio (if negative then -(size : Int) else size)
        (tenTo (-number.power)) 0

def ofBits (bits : Nat) : Binary64 :=
  let negative := bits / twoTo 63 % 2 == 1
  let field : Nat := bits / twoTo 52 % twoTo 11
  let fraction : Nat := bits % twoTo 52
  if field = twoTo 11 - 1 then
    if fraction = 0 then .infinite negative else .nan
  else
    let significand := if field = 0 then fraction else twoTo 52 + fraction
    .finite (if negative then -(significand : Int) else significand)
      (if field = 0 then -1074 else (field : Int) - 1075)

def neg : Binary64 → Binary64
  | .finite significand exponent => .finite (-significand) exponent
  | .infinite negative => .infinite !negative
  | .nan => .nan

def isZero : Binary64 → Bool
  | .finite significand _ => significand == 0
  | _ => false

def add : Binary64 → Binary64 → Binary64
  | .nan, _ => .nan
  | _, .nan => .nan
  | .infinite left, .infinite right => if left = right then .infinite left else .nan
  | .infinite left, .finite _ _ => .infinite left
  | .finite _ _, .infinite right => .infinite right
  | .finite left leftExponent, .finite right rightExponent =>
      let unit := min leftExponent rightExponent
      ofRatio
        (left * twoTo (leftExponent - unit) + right * twoTo (rightExponent - unit))
        1 unit

def sub (left right : Binary64) : Binary64 :=
  left.add right.neg

def mul : Binary64 → Binary64 → Binary64
  | .nan, _ => .nan
  | _, .nan => .nan
  | .infinite left, .infinite right => .infinite (left != right)
  | .infinite left, .finite right _ =>
      if right = 0 then .nan else .infinite (left != decide (right < 0))
  | .finite left _, .infinite right =>
      if left = 0 then .nan else .infinite (decide (left < 0) != right)
  | .finite left leftExponent, .finite right rightExponent =>
      ofRatio (left * right) 1 (leftExponent + rightExponent)

def div : Binary64 → Binary64 → Binary64
  | .nan, _ => .nan
  | _, .nan => .nan
  | .infinite _, .infinite _ => .nan
  | .infinite left, .finite right _ => .infinite (left != decide (right < 0))
  | .finite _ _, .infinite _ => zero
  | .finite left leftExponent, .finite right rightExponent =>
      if right = 0 then
        if left = 0 then .nan else .infinite (decide (left < 0))
      else
        ofRatio (left * right.sign) right.natAbs (leftExponent - rightExponent)

def named? (chars : List Char) (negative : Bool) : Option Binary64 :=
  let name := String.ofList (chars.map Char.toLower)
  if name = "inf" || name = "infinity" then some (.infinite negative)
  else if name = "nan" then some .nan
  else none

def readUnsigned? (negative : Bool) (chars : List Char) : Option Binary64 :=
  match named? chars negative with
  | some number => some number
  | none => (Scientific.read? chars).map (ofScientific negative)

def read? : List Char → Option Binary64
  | '-' :: rest => readUnsigned? true rest
  | '+' :: rest => readUnsigned? false rest
  | rest => readUnsigned? false rest

end Binary64

end LiveSheet.Number
