import LiveSheet.Formula.Expr
import LiveSheet.Formula.Lexeme

namespace LiveSheet.Formula

open LiveSheet.Number
open LiveSheet.Text

/-- The tallest tree that is built, and the deepest descent on the way. -/
def maxNesting : Nat := 256

/-- Why a source is no expression.  `none` as what was found is the end of the
input. -/
inductive ParseFault where
  | unexpectedCharacter (char : Char)
  | unexpected (found : Option Token)
  | trailing (found : Token)
  | unclosed (found : Option Token)
  | tooDeep
  deriving DecidableEq

structure ParseError where
  fault : ParseFault
  position : Nat
  deriving DecidableEq

def describeFound : Option Token → String
  | some token => token.description
  | none => "end of input"

def ParseFault.reason : ParseFault → String
  | .unexpectedCharacter char =>
      "Unexpected character: '" ++ String.singleton char ++ "'"
  | .unexpected found => "Unexpected " ++ describeFound found
  | .trailing found => "Unexpected " ++ found.description ++ " after expression"
  | .unclosed found =>
      "Expected " ++ Token.closeParen.description ++ ", found " ++ describeFound found
  | .tooDeep =>
      "Expression nested deeper than " ++ String.ofList (digitsOf maxNesting) ++
        " levels"

def ParseError.message (error : ParseError) : String :=
  "Parse error at position " ++ String.ofList (digitsOf error.position) ++ ": " ++
    error.fault.reason

structure Node where
  expr : Expr
  height : Nat

abbrev Parser (α : Type) := List Lexeme → Except ParseError (α × List Lexeme)

section

variable (ending : Ending)

def found? (lexemes : List Lexeme) : Option Token :=
  lexemes.head?.map Lexeme.head

def failAt (lexemes : List Lexeme) (fault : ParseFault) : Except ParseError α :=
  .error { fault, position := (lexemes.head?.map Lexeme.position).getD ending.position }

/-- A character that starts no token is an error as soon as it comes to the
front. -/
def advance (rest : List Lexeme) : Except ParseError (List Lexeme) :=
  match rest, ending with
  | [], .unexpected error =>
      .error { fault := .unexpectedCharacter error.char, position := error.position }
  | rest, _ => .ok rest

def build (lexemes : List Lexeme) (expr : Expr) (height : Nat) :
    Except ParseError Node :=
  if maxNesting < height then failAt ending lexemes .tooDeep
  else .ok { expr, height }

def closeParen (lexemes : List Lexeme) : Except ParseError (List Lexeme) :=
  match lexemes with
  | .token _ .closeParen :: rest => advance ending rest
  | _ => failAt ending lexemes (.unclosed (found? lexemes))

/-- Folds operators to the left.  Each takes a lexeme, which bounds their
number. -/
def operatorTail (operand : Parser Node) (accepts : Operator → Bool) :
    Nat → Node → Parser Node
  | bound + 1, left, .token position (.operator op) :: rest =>
      if accepts op then do
        let (right, lexemes) ← operand (← advance ending rest)
        let folded ← build ending lexemes (.binary op left.expr right.expr)
          (max left.height right.height + 1)
        operatorTail operand accepts bound folded lexemes
      else .ok (left, .token position (.operator op) :: rest)
  | _, left, lexemes => .ok (left, lexemes)

def operatorChain (operand : Parser Node) (accepts : Operator → Bool) :
    Parser Node := fun lexemes => do
  let (first, rest) ← operand lexemes
  operatorTail ending operand accepts rest.length first rest

def sum (unary : Parser Node) : Parser Node :=
  operatorChain ending (operatorChain ending unary Operator.isMultiplicative)
    Operator.isAdditive

def argumentTail (argument : Parser Node) : Nat → Parser (List Node)
  | bound + 1, .token _ .comma :: rest => do
      let (first, lexemes) ← argument (← advance ending rest)
      let (others, lexemes) ← argumentTail argument bound lexemes
      .ok (first :: others, lexemes)
  | _, lexemes => .ok ([], lexemes)

def arguments (argument : Parser Node) : Parser (List Node) := fun lexemes =>
  match lexemes with
  | .token _ .closeParen :: _ => .ok ([], lexemes)
  | _ => do
      let (first, rest) ← argument lexemes
      let (others, rest) ← argumentTail ending argument rest.length rest
      .ok (first :: others, rest)

def tallest (nodes : List Node) : Nat :=
  nodes.foldr (fun node height => max node.height height) 0

def call (argument : Parser Node) (name : String) : Parser Node := fun lexemes => do
  let (nodes, rest) ← arguments ending argument lexemes
  let rest ← closeParen ending rest
  let node ← build ending rest (.call name (nodes.map Node.expr)) (tallest nodes + 1)
  .ok (node, rest)

/-- An external call counts as two levels, whatever stands between its
parentheses. -/
def externalNode (name locator : String) : Node :=
  { expr := .call name (if locator.isEmpty then [] else [.identifier locator])
    height := 2 }

def primary (expression : Parser Node) : Parser Node := fun lexemes =>
  match lexemes with
  | .external _ name locator :: rest => do
      let rest ← closeParen ending (← advance ending rest)
      .ok (externalNode name locator, rest)
  | .token _ (.identifier name) :: .token _ .openParen :: rest => do
      call ending expression name (← advance ending rest)
  | .token _ (.identifier name) :: rest => do
      .ok ({ expr := .identifier name, height := 1 }, ← advance ending rest)
  | .token _ (.int text) :: rest => do
      .ok ({ expr := .literal { kind := .int, text }, height := 1 }, ← advance ending rest)
  | .token _ (.float text) :: rest => do
      .ok ({ expr := .literal { kind := .float, text }, height := 1 }, ← advance ending rest)
  | .token _ .openParen :: rest => do
      let (inner, rest) ← expression (← advance ending rest)
      let rest ← closeParen ending rest
      let node ← build ending rest (.paren inner.expr) (inner.height + 1)
      .ok (node, rest)
  | _ => failAt ending lexemes (.unexpected (found? lexemes))

/-- The descent ends with the levels it may still go down. -/
def unary : Nat → Parser Node
  | 0, lexemes => failAt ending lexemes .tooDeep
  | depth + 1, lexemes =>
      match lexemes with
      | .token position (.operator op) :: rest =>
          if op.isAdditive then do
            let (operand, rest) ← unary depth (← advance ending rest)
            let node ← build ending rest (.unary op operand.expr) (operand.height + 1)
            .ok (node, rest)
          else
            primary ending (sum ending (unary depth))
              (.token position (.operator op) :: rest)
      | lexemes => primary ending (sum ending (unary depth)) lexemes

def parseLexemes (lexemes : List Lexeme) : Except ParseError Expr := do
  let (node, rest) ← sum ending (unary ending maxNesting) (← advance ending lexemes)
  match rest with
  | [] => .ok node.expr
  | lexeme :: _ =>
      .error { fault := .trailing lexeme.head, position := lexeme.position }

end

def parse (source : String) : Except ParseError Expr :=
  let (lexemes, ending) := lexemes source
  parseLexemes ending lexemes

end LiveSheet.Formula
