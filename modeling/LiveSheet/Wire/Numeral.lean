import LiveSheet.Number.Binary64

namespace LiveSheet.Wire

open LiveSheet.Number

/-! Numbers of JSON.  A number that is wanted is read with its leading digits
only, scaled once by a power of ten. -/

structure Numeral where
  whole : List Char
  fraction : List Char
  power : Int

namespace Numeral

def capacity : Nat := twoTo 64

/-- Digits appended to a number as long as it stays below the capacity, and the
digits from the first on that does not fit. -/
def appendDigits (value : Nat) : List Char → Nat × List Char
  | [] => (value, [])
  | digit :: digits =>
      let longer := value * 10 + valueOf [digit]
      if longer < capacity then appendDigits longer digits else (value, digit :: digits)

/-- The leading digits, and the power of ten that they are scaled by.  Digits of
the fraction are still appended where digits before the point were left out. -/
def scaled (numeral : Numeral) : Nat × Int :=
  let (leading, omitted) := appendDigits 0 numeral.whole
  let (leading, unread) := appendDigits leading numeral.fraction
  (leading,
    (omitted.length : Int) - (numeral.fraction.length - unread.length : Nat) +
      numeral.power)

def isFinite (numeral : Numeral) : Bool :=
  let (leading, power) := numeral.scaled
  if leading = 0 ∨ power < 0 then true
  else if 308 < power then false
  else
    match (Binary64.ofRatio leading 1 0).mul (Binary64.ofRatio (tenTo power) 1 0) with
    | .finite _ _ => true
    | _ => false

end Numeral

end LiveSheet.Wire
