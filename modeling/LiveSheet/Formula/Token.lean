import LiveSheet.Number.Scientific
import LiveSheet.Text.Alphabetic
import LiveSheet.Text.Blank
import LiveSheet.Text.Control
import LiveSheet.Text.Quoted

namespace LiveSheet.Formula

open LiveSheet.Text
open LiveSheet.Number

inductive Operator where
  | add
  | sub
  | mul
  | div
  deriving DecidableEq

namespace Operator

def ofChar? : Char → Option Operator
  | '+' => some .add
  | '-' => some .sub
  | '*' => some .mul
  | '/' => some .div
  | _ => none

def symbol : Operator → Char
  | .add => '+'
  | .sub => '-'
  | .mul => '*'
  | .div => '/'

@[simp] theorem ofChar?_symbol (op : Operator) : ofChar? op.symbol = some op := by
  cases op <;> rfl

theorem symbol_of_ofChar? {char : Char} {op : Operator}
    (h : ofChar? char = some op) : op.symbol = char := by
  unfold ofChar? at h
  split at h <;> simp_all [symbol] <;> subst h <;> rfl

def isAdditive : Operator → Bool
  | .add | .sub => true
  | .mul | .div => false

def isMultiplicative (op : Operator) : Bool :=
  !op.isAdditive

end Operator

inductive Token where
  | identifier (name : String)
  | int (text : String)
  | float (text : String)
  | operator (op : Operator)
  | openParen
  | closeParen
  | comma
  deriving DecidableEq

namespace Token

def text : Token → String
  | .identifier name => name
  | .int text | .float text => text
  | .operator op => String.singleton op.symbol
  | .openParen => "("
  | .closeParen => ")"
  | .comma => ","

def description : Token → String
  | .identifier name => "identifier " ++ quoted name
  | .int text | .float text => "number " ++ text
  | token => "'" ++ token.text ++ "'"

end Token

def isReserved (char : Char) : Bool :=
  ['+', '-', '*', '/', '(', ')', ','].contains char

def startsIdentifier (char : Char) : Bool :=
  isAlphabetic char

def continuesIdentifier (char : Char) : Bool :=
  !isReserved char && !isBlank char && !isControl char && !isInvisible char

def splitSign : List Char → List Char × List Char
  | '+' :: rest => (['+'], rest)
  | '-' :: rest => (['-'], rest)
  | rest => ([], rest)

def splitFraction : List Char → List Char × List Char
  | '.' :: rest => ('.' :: rest.takeWhile Char.isDigit, rest.dropWhile Char.isDigit)
  | rest => ([], rest)

/-- A mark without digits behind it is no exponent and stays where it is. -/
def splitExponent : List Char → List Char × List Char
  | [] => ([], [])
  | mark :: rest =>
      if isExponentMark mark then
        let (sign, digits) := splitSign rest
        if (digits.takeWhile Char.isDigit).isEmpty then ([], mark :: rest)
        else
          (mark :: sign ++ digits.takeWhile Char.isDigit,
            digits.dropWhile Char.isDigit)
      else ([], mark :: rest)

inductive Reading where
  | finished
  | token (token : Token) (lexeme rest : List Char)
  | unexpected (char : Char) (rest : List Char)

def readNumber (chars : List Char) : Reading :=
  let whole := chars.takeWhile Char.isDigit
  let (fraction, afterFraction) := splitFraction (chars.dropWhile Char.isDigit)
  let (exponent, rest) := splitExponent afterFraction
  let lexeme := whole ++ fraction ++ exponent
  let text := String.ofList lexeme
  .token (if fraction.isEmpty && exponent.isEmpty then .int text else .float text)
    lexeme rest

def readIdentifier (first : Char) (rest : List Char) : Reading :=
  let lexeme := first :: rest.takeWhile continuesIdentifier
  .token (.identifier (String.ofList lexeme)) lexeme
    (rest.dropWhile continuesIdentifier)

def startsNumber (first : Char) (rest : List Char) : Bool :=
  first.isDigit || (first == '.' && (rest.head?.map Char.isDigit).getD false)

def readToken : List Char → Reading
  | [] => .finished
  | first :: rest =>
      match Operator.ofChar? first with
      | some op => .token (.operator op) [first] rest
      | none =>
          if first = '(' then .token .openParen [first] rest
          else if first = ')' then .token .closeParen [first] rest
          else if first = ',' then .token .comma [first] rest
          else if startsNumber first rest then readNumber (first :: rest)
          else if startsIdentifier first then readIdentifier first rest
          else .unexpected first rest

end LiveSheet.Formula
