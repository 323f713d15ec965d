import LiveSheet.Number.Digits

namespace LiveSheet.Number

/-! Integers of any size.  Writing never pads; reading also takes a plus sign,
leading zeros and underscores between or after digits. -/

def integerText (value : Int) : List Char :=
  if value < 0 then '-' :: digitsOf value.natAbs else digitsOf value.natAbs

def readGrouped? : List Char → Option Nat
  | [] => none
  | first :: rest =>
      if first.isDigit && rest.all (fun char => char.isDigit || char == '_') then
        some (valueOf (first :: rest.filter Char.isDigit))
      else none

def readInteger? : List Char → Option Int
  | '-' :: rest => (readGrouped? rest).map fun (size : Nat) => -(size : Int)
  | '+' :: rest => (readGrouped? rest).map fun (size : Nat) => (size : Int)
  | rest => (readGrouped? rest).map fun (size : Nat) => (size : Int)

end LiveSheet.Number
