namespace LiveSheet.Number

def digitsOf (value : Nat) : List Char :=
  Nat.toDigits 10 value

def valueOf (digits : List Char) : Nat :=
  Nat.ofDigitChars 10 digits 0

@[simp] theorem valueOf_digitsOf (value : Nat) :
    valueOf (digitsOf value) = value :=
  Nat.ofDigitChars_ten_toDigits

theorem digitsOf_ne_nil (value : Nat) : digitsOf value ≠ [] :=
  Nat.toDigits_ne_nil

theorem isDigit_of_mem_digitsOf {value : Nat} {char : Char}
    (h : char ∈ digitsOf value) : char.isDigit = true :=
  Nat.isDigit_of_mem_toDigits (by decide) (by decide) h

def readDigits? (chars : List Char) : Option Nat :=
  if chars.isEmpty || !chars.all Char.isDigit then none
  else some (valueOf chars)

end LiveSheet.Number
