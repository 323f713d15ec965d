import LiveSheet.Number.Shortest

namespace LiveSheet.Number

/-! Positional notation: no exponent, no point without a fraction behind it, no
zero at the end of a fraction, and zero has no sign. -/

def dropTrailingZeros (digits : List Char) : List Char :=
  (digits.reverse.dropWhile (· == '0')).reverse

def pointed (whole fraction : List Char) : List Char :=
  match dropTrailingZeros fraction with
  | [] => whole
  | kept => whole ++ '.' :: kept

def positional (digits : Nat) (place : Int) : List Char :=
  let chars := digitsOf digits
  if 0 ≤ place then chars ++ List.replicate place.toNat '0'
  else
    let places := (-place).toNat
    let padded := List.replicate (places + 1 - chars.length) '0' ++ chars
    let cut := padded.length - places
    pointed (padded.take cut) (padded.drop cut)

def Binary64.finiteText (significand exponent : Int) : List Char :=
  if significand = 0 then ['0']
  else
    let (digits, place) := shortestDigits significand.natAbs exponent
    let text := positional digits place
    if significand < 0 then '-' :: text else text

/-- Numbers that are not finite have no text. -/
def Binary64.text? : Binary64 → Option (List Char)
  | .finite significand exponent => some (finiteText significand exponent)
  | _ => none

end LiveSheet.Number
