import LiveSheet.Number.Digits

namespace LiveSheet.Number

structure Scientific where
  coefficient : Nat
  power : Int

def readPower? : List Char → Option Int
  | '-' :: rest => (readDigits? rest).map fun (size : Nat) => -(size : Int)
  | '+' :: rest => (readDigits? rest).map fun (size : Nat) => (size : Int)
  | rest => (readDigits? rest).map fun (size : Nat) => (size : Int)

def isExponentMark (char : Char) : Bool :=
  char == 'e' || char == 'E'

def readExponent? : List Char → Option Int
  | [] => some 0
  | mark :: rest => if isExponentMark mark then readPower? rest else none

def Scientific.read? (chars : List Char) : Option Scientific :=
  let whole := chars.takeWhile Char.isDigit
  let afterWhole := chars.dropWhile Char.isDigit
  let (fraction, tail) :=
    match afterWhole with
    | '.' :: rest => (rest.takeWhile Char.isDigit, rest.dropWhile Char.isDigit)
    | _ => ([], afterWhole)
  if whole.isEmpty && fraction.isEmpty then none
  else
    (readExponent? tail).map fun power =>
      { coefficient := valueOf (whole ++ fraction)
        power := power - fraction.length }

end LiveSheet.Number
