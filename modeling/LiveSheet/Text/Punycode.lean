namespace LiveSheet.Text

/-! Text written in the letters, digits and hyphens of ASCII.  The characters of
ASCII come first, up to the last hyphen; numbers behind it say which others go
where. -/

namespace Punycode

def digit? (char : Char) : Option Nat :=
  let code := char.toNat
  if char.isUpper then some (code - 0x41)
  else if char.isLower then some (code - 0x61)
  else if char.isDigit then some (code - 0x30 + 26)
  else none

def threshold (place bias : Nat) : Nat :=
  max 1 (min 26 (place - bias))

def capacity : Nat := Nat.pow 2 32

def readNumber? (bias : Nat) :
    (place weight index : Nat) → List Char → Option (Nat × List Char)
  | _, _, _, [] => none
  | place, weight, index, char :: rest => do
      let digit ← digit? char
      let index := index + digit * weight
      let heavier := weight * (36 - threshold place bias)
      if capacity ≤ index then none
      else if digit < threshold place bias then some (index, rest)
      else if capacity ≤ heavier then none
      else readNumber? bias (place + 36) heavier index rest

def settle (delta steps : Nat) : Nat × Nat :=
  if 455 < delta then settle (delta / 35) (steps + 1) else (delta, steps)
termination_by delta
decreasing_by omega

def adapt (delta length : Nat) (isFirst : Bool) : Nat :=
  let delta := if isFirst then delta / 700 else delta / 2
  let (delta, steps) := settle (delta + delta / length) 0
  36 * steps + 36 * delta / (delta + 38)

def character? (code : Nat) : Option Char :=
  if code.isValidChar then some (Char.ofNat code) else none

/-- A number takes characters of the source, so their count bounds that of the
numbers.  Each counts on from the place and the code point before it. -/
def insertWithin : Nat → (code index bias : Nat) → Bool → List Char → List Char →
    Option (List Char)
  | _, _, _, _, _, text, [] => some text
  | 0, _, _, _, _, _, _ => none
  | bound + 1, code, index, bias, isFirst, text, rest => do
      let (total, rest) ← readNumber? bias 36 1 index rest
      let length := text.length + 1
      let code := code + total / length
      let place := total % length
      let text := text.take place ++ (← character? code) :: text.drop place
      insertWithin bound code (place + 1) (adapt (total - index) length isFirst) false
        text rest

def split (source : List Char) : List Char × List Char :=
  let numbers := (source.reverse.takeWhile (· != '-')).reverse
  let plain := source.take (source.length - numbers.length - 1)
  if plain.isEmpty then ([], source) else (plain, numbers)

def decode? (source : List Char) : Option (List Char) :=
  let (plain, numbers) := split source
  insertWithin numbers.length 0x80 0 72 true plain numbers

end Punycode

end LiveSheet.Text
