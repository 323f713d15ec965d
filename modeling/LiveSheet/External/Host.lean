import LiveSheet.External.Domain
import LiveSheet.Number.Digits
import LiveSheet.Text.Hex

namespace LiveSheet

open LiveSheet.Number
open LiveSheet.Text

/-! What may name the host of a locator: an address in brackets, an address of
four numbers, or a domain name. -/

namespace Host

/-- A number is octal behind a zero and hexadecimal behind `0x`. -/
def radix : List Char → Nat × List Char
  | '0' :: 'x' :: digits | '0' :: 'X' :: digits => (16, digits)
  | '0' :: first :: digits => (8, first :: digits)
  | digits => (10, digits)

def valueIn (radix : Nat) : List Char → Option Nat :=
  List.foldlM (fun value char => do
    let digit ← hexDigit? char
    if digit < radix then some (value * radix + digit) else none) 0

def number? (label : List Char) : Option Nat :=
  if label.isEmpty then none
  else
    let (radix, digits) := radix label
    valueIn radix digits

def labels (name : List Char) : List (List Char) :=
  let labels := name.splitOn '.'
  if labels.getLast? == some [] then labels.dropLast else labels

/-- A name whose last part is a number must be an address. -/
def endsInNumber (name : List Char) : Bool :=
  match (labels name).getLast? with
  | none => false
  | some last => (readDigits? last).isSome || (number? last).isSome

/-- All numbers but the last are bytes; the last fills the bytes that are
left. -/
def isAddress (name : List Char) : Bool :=
  match (labels name).mapM number? with
  | none => false
  | some numbers =>
      let leading := numbers.dropLast
      decide (numbers.length ≤ 4) && leading.all (· < 256) &&
        (numbers.getLast?.map fun last =>
          decide (last < Nat.pow 256 (4 - leading.length))).getD false

def isByte (chars : List Char) : Bool :=
  match readDigits? chars with
  | none => false
  | some value => decide (value < 256) && (chars.length == 1 || chars.head? != some '0')

def isHexPiece (chars : List Char) : Bool :=
  !chars.isEmpty && decide (chars.length ≤ 4) && chars.all fun char =>
    (hexDigit? char).isSome

def isFourBytes (chars : List Char) : Bool :=
  let bytes := chars.splitOn '.'
  bytes.length == 4 && bytes.all isByte

/-- The parts between colons from a place on, where `count` pieces stand before
it.  A gap is an empty part and stands for at least one of the eight pieces;
there is one at most, and only behind it may the address end with a colon. -/
def arePieces (count : Nat) (hasGap afterGap : Bool) : List (List Char) → Bool
  | [] => false
  | [last] =>
      if last.isEmpty then afterGap
      else if 8 ≤ count then false
      else if isHexPiece last then hasGap || count == 7
      else isFourBytes last && decide (count ≤ 6) && (hasGap || count == 6)
  | part :: parts =>
      if 8 ≤ count then false
      else if part.isEmpty then !hasGap && arePieces (count + 1) true true parts
      else isHexPiece part && arePieces (count + 1) hasGap false parts

def isBracketed (chars : List Char) : Bool :=
  match chars.splitOn ':' with
  | [] :: [] :: parts => arePieces 1 true true parts
  | [] :: _ => false
  | parts => arePieces 0 false false parts

def isName (text : List Char) : Bool :=
  match Domain.prepare? text with
  | none => false
  | some name => Domain.isValid name && (!endsInNumber name || isAddress name)

end Host

end LiveSheet
