import LiveSheet.Number.Binary64

namespace LiveSheet.Number

/-! The fewest decimal digits that read back as the same binary64 number, and
of those the nearest to it. -/

/-- A positive number and the interval of numbers that round to it, all over
one denominator. -/
structure Interval where
  low : Nat
  value : Nat
  high : Nat
  denominator : Nat
  closed : Bool

/-- Below a power of two the neighbour stands only half as far away.  The ends
belong to the interval when the significand is even. -/
def Interval.around (significand : Nat) (exponent : Int) : Interval :=
  let scale := twoTo (exponent - 2)
  let gap := if significand = twoTo 52 ∧ -1074 < exponent then 1 else 2
  { low := (4 * significand - gap) * scale
    value := 4 * significand * scale
    high := (4 * significand + 2) * scale
    denominator := twoTo (2 - exponent)
    closed := significand % 2 == 0 }

def Interval.holds (interval : Interval) (digits : Nat) (place : Int) : Bool :=
  let point := digits * tenTo place * interval.denominator
  let unit := tenTo (-place)
  if interval.closed then
    decide (interval.low * unit ≤ point) && decide (point ≤ interval.high * unit)
  else
    decide (interval.low * unit < point) && decide (point < interval.high * unit)

def Interval.floor (interval : Interval) (place : Int) : Nat :=
  interval.value * tenTo (-place) / (interval.denominator * tenTo place)

def Interval.nearFloor (interval : Interval) (digits : Nat) (place : Int) : Bool :=
  decide (2 * (interval.value * tenTo (-place)) <
    (2 * digits + 1) * (interval.denominator * tenTo place))

/-- The power of ten of the leading digit.  No binary64 number is below ten to
the power -400. -/
def Interval.leading (interval : Interval) : Int :=
  let scaled := interval.value * tenTo 400 / interval.denominator
  ((digitsOf scaled).length : Int) - 401

def Interval.pick? (interval : Interval) (place : Int) : Option Nat :=
  let digits := interval.floor place
  match interval.holds digits place, interval.holds (digits + 1) place with
  | true, true => some (if interval.nearFloor digits place then digits else digits + 1)
  | true, false => some digits
  | false, true => some (digits + 1)
  | false, false => none

/-- Grids from coarse to fine; seventeen digits always suffice. -/
def Interval.shortestFrom (interval : Interval) : Nat → Int → Nat × Int
  | 0, place => (interval.floor place, place)
  | finer + 1, place =>
      match interval.pick? place with
      | some digits => (digits, place)
      | none => interval.shortestFrom finer (place - 1)

def shortestDigits (significand : Nat) (exponent : Int) : Nat × Int :=
  let interval := Interval.around significand exponent
  interval.shortestFrom 17 interval.leading

end LiveSheet.Number
