import LiveSheet.Wire.Numeral
import LiveSheet.Wire.Text

namespace LiveSheet.Wire

open LiveSheet.Number

def isSpace (char : Char) : Bool :=
  char == ' ' || char == '\n' || char == '\t' || char == '\r'

def skipSpace (chars : List Char) : List Char :=
  chars.dropWhile isSpace

def digits? (chars : List Char) : Option (List Char × List Char) :=
  let digits := chars.takeWhile Char.isDigit
  if digits.isEmpty then none else some (digits, chars.dropWhile Char.isDigit)

def whole? (chars : List Char) : Option (List Char × List Char) := do
  let (digits, rest) ← digits? chars
  if digits.head? = some '0' && 1 < digits.length then none else some (digits, rest)

def fraction? : List Char → Option (List Char × List Char)
  | '.' :: rest => digits? rest
  | rest => some ([], rest)

def power? (chars : List Char) : Option (Nat × List Char) :=
  (digits? chars).map fun (digits, rest) => (valueOf digits, rest)

def exponent? : List Char → Option (Int × List Char)
  | [] => some (0, [])
  | mark :: rest =>
      if isExponentMark mark then
        match rest with
        | '-' :: rest => (power? rest).map fun (power, rest) => (-(power : Int), rest)
        | '+' :: rest | rest =>
            (power? rest).map fun (power, rest) => ((power : Int), rest)
      else some (0, mark :: rest)

def unsignedNumber? (chars : List Char) : Option (Numeral × List Char) := do
  let (whole, rest) ← whole? chars
  let (fraction, rest) ← fraction? rest
  let (power, rest) ← exponent? rest
  some ({ whole, fraction, power }, rest)

def number? : List Char → Option (Numeral × List Char)
  | '-' :: rest => unsignedNumber? rest
  | rest => unsignedNumber? rest

def startsNumber (char : Char) : Bool :=
  char == '-' || char.isDigit

def after? (word : String) (chars : List Char) : Option (List Char) :=
  if word.toList.isPrefixOf chars then some (chars.drop word.length) else none

def ignoredScalar? (chars : List Char) : Option (List Char) :=
  match chars with
  | [] => none
  | first :: rest =>
      if first = '"' then ignoredString? rest
      else if startsNumber first then (number? chars).map Prod.snd
      else (after? "null" chars).or ((after? "true" chars).or (after? "false" chars))

def ignoredKey? (chars : List Char) : Option (List Char) :=
  match skipSpace chars with
  | '"' :: rest => do
      match skipSpace (← ignoredString? rest) with
      | ':' :: rest => some rest
      | _ => none
  | _ => none

mutual

def ignoredValue? : Nat → List Char → Option (List Char)
  | 0, _ => none
  | bound + 1, chars =>
      match skipSpace chars with
      | '[' :: rest =>
          match skipSpace rest with
          | ']' :: rest => some rest
          | rest => ignoredItems? bound rest
      | '\x7b' :: rest =>
          match skipSpace rest with
          | '\x7d' :: rest => some rest
          | rest => ignoredMembers? bound rest
      | rest => ignoredScalar? rest

def ignoredItems? : Nat → List Char → Option (List Char)
  | 0, _ => none
  | bound + 1, chars => do
      match skipSpace (← ignoredValue? bound chars) with
      | ',' :: rest => ignoredItems? bound rest
      | ']' :: rest => some rest
      | _ => none

def ignoredMembers? : Nat → List Char → Option (List Char)
  | 0, _ => none
  | bound + 1, chars => do
      match skipSpace (← ignoredValue? bound (← ignoredKey? chars)) with
      | ',' :: rest => ignoredMembers? bound rest
      | '\x7d' :: rest => some rest
      | _ => none

end

/-- A value takes at least one character of the source and no item is nested in
another without a bracket between them. -/
def skipValue? (chars : List Char) : Option (List Char) :=
  ignoredValue? (2 * chars.length + 2) chars

end LiveSheet.Wire
