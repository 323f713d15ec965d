import LiveSheet.Formula.Parser

namespace LiveSheet.Formula

open LiveSheet.Text

inductive Word where
  | token (token : Token)
  | external (name locator : String)
  deriving DecidableEq

def Lexeme.word : Lexeme → Word
  | .token _ read => .token read
  | .external _ name locator => .external name locator

def Word.texts : Word → List String
  | .token read => [read.text]
  | .external name locator =>
      [name, Token.openParen.text] ++ if locator.isEmpty then [] else [locator]

def Scanner.Reads : Scanner → List Word → Prop
  | scanner, [] => scanner.next.1 = .ok none
  | scanner, .token token :: words =>
      scanner.next.1 = .ok (some token) ∧ scanner.next.2.Reads words
  | scanner, .external name locator :: words =>
      scanner.next.1 = .ok (some (.identifier name)) ∧
        scanner.next.2.next.1 = .ok (some .openParen) ∧
        scanner.next.2.next.2.nextRaw.1 = locator ∧
        scanner.next.2.next.2.nextRaw.2.Reads words

def Token.StandsAlone (token : Token) : Prop :=
  tokenize token.text = .ok [token]

/-- How deep a character leaves a reader who stood at a depth.  None is left
open to be closed at depth zero. -/
def nest (depth : Nat) (char : Char) : Option Nat :=
  if char = '(' then some (depth + 1)
  else if char = ')' then
    match depth with
    | 0 => none
    | outer + 1 => some outer
  else some depth

def Balanced (chars : List Char) : Prop :=
  chars.foldlM nest 0 = some 0

instance (chars : List Char) : Decidable (Balanced chars) :=
  inferInstanceAs (Decidable (_ = _))

structure IsLocator (text : String) : Prop where
  ne_empty : text ≠ ""
  trimmed : trim text.toList = text.toList
  balanced : Balanced text.toList

def Operator.precedence : Operator → Nat
  | .add | .sub => 1
  | .mul | .div => 2

def operandPrecedence : Nat := 3

theorem Operator.precedence_pos (op : Operator) : 0 < op.precedence := by
  cases op <;> decide

theorem Operator.precedence_lt (op : Operator) : op.precedence < operandPrecedence := by
  cases op <;> decide

def Literal.token? : Literal → Option Token
  | { kind := .int, text } => some (.int text)
  | { kind := .float, text } => some (.float text)
  | { kind := .string, .. } => none

namespace Expr

def precedence : Expr → Nat
  | .binary op _ _ => op.precedence
  | _ => operandPrecedence

/-- The trees that a text can stand for. -/
inductive WellFormed : Expr → Prop where
  | number {literal : Literal} {token : Token}
      (hnumber : literal.token? = some token) (halone : token.StandsAlone) :
      WellFormed (.literal literal)
  | identifier {name : String} (halone : (Token.identifier name).StandsAlone) :
      WellFormed (.identifier name)
  | unary {op : Operator} {operand : Expr} (hsign : op.isAdditive = true)
      (hoperand : operand.WellFormed) (hbinds : operand.precedence = operandPrecedence) :
      WellFormed (.unary op operand)
  | binary {op : Operator} {left right : Expr} (hleft : left.WellFormed)
      (hright : right.WellFormed) (hbindsLeft : op.precedence ≤ left.precedence)
      (hbindsRight : op.precedence < right.precedence) :
      WellFormed (.binary op left right)
  | paren {inner : Expr} (hinner : inner.WellFormed) : WellFormed (.paren inner)
  | call {name : String} {arguments : List Expr}
      (halone : (Token.identifier name).StandsAlone) (hname : namesExternal name = false)
      (harguments : ∀ argument ∈ arguments, argument.WellFormed) :
      WellFormed (.call name arguments)
  | bareExternal {name : String} (halone : (Token.identifier name).StandsAlone)
      (hname : namesExternal name = true) : WellFormed (.call name [])
  | external {name locator : String} (halone : (Token.identifier name).StandsAlone)
      (hname : namesExternal name = true) (hlocator : IsLocator locator) :
      WellFormed (.call name [.identifier locator])

def locator : List Expr → String
  | [.identifier text] => text
  | _ => ""

mutual

def words : Expr → List Word
  | .literal number => number.token?.toList.map .token
  | .identifier name => [.token (.identifier name)]
  | .unary op operand => .token (.operator op) :: operand.words
  | .binary op left right => left.words ++ .token (.operator op) :: right.words
  | .paren inner => .token .openParen :: (inner.words ++ [.token .closeParen])
  | .call name arguments =>
      if namesExternal name then
        [.external name (locator arguments), .token .closeParen]
      else
        .token (.identifier name) :: .token .openParen ::
          (argumentWords arguments ++ [.token .closeParen])
  | .invalid => []

def argumentWords : List Expr → List Word
  | [] => []
  | first :: rest => first.words ++ furtherWords rest

def furtherWords : List Expr → List Word
  | [] => []
  | first :: rest => .token .comma :: (first.words ++ furtherWords rest)

end

def text (expr : Expr) : String :=
  " ".intercalate (expr.words.flatMap Word.texts)

mutual

/-- The height of a tree, where an external call always counts as two levels. -/
def nesting : Expr → Nat
  | .literal _ | .identifier _ | .invalid => 1
  | .unary _ operand => operand.nesting + 1
  | .binary _ left right => max left.nesting right.nesting + 1
  | .paren inner => inner.nesting + 1
  | .call name arguments =>
      if namesExternal name then 2 else maxArgumentNesting arguments + 1

def maxArgumentNesting : List Expr → Nat
  | [] => 0
  | first :: rest => max first.nesting (maxArgumentNesting rest)

end

theorem nesting_unary (op : Operator) (operand : Expr) :
    (Expr.unary op operand).nesting = operand.nesting + 1 := by
  rw [nesting]

theorem nesting_binary (op : Operator) (left right : Expr) :
    (Expr.binary op left right).nesting = max left.nesting right.nesting + 1 := by
  rw [nesting]

theorem nesting_paren (inner : Expr) : (Expr.paren inner).nesting = inner.nesting + 1 := by
  rw [nesting]

section

variable {name : String} {arguments : List Expr}

theorem words_call (h : namesExternal name = false) :
    (Expr.call name arguments).words =
      .token (.identifier name) :: .token .openParen ::
        (argumentWords arguments ++ [.token .closeParen]) := by
  rw [words, h]
  rfl

theorem words_external (h : namesExternal name = true) :
    (Expr.call name arguments).words =
      [.external name (locator arguments), .token .closeParen] := by
  rw [words, if_pos h]

theorem nesting_call (h : namesExternal name = false) :
    (Expr.call name arguments).nesting = maxArgumentNesting arguments + 1 := by
  rw [nesting, h]
  rfl

theorem nesting_external (h : namesExternal name = true) :
    (Expr.call name arguments).nesting = 2 := by
  rw [nesting, if_pos h]

end

theorem precedence_pos (expr : Expr) : 0 < expr.precedence := by
  cases expr with
  | binary op _ _ => exact op.precedence_pos
  | _ => exact Nat.succ_pos _

theorem precedence_le (expr : Expr) : expr.precedence ≤ operandPrecedence := by
  cases expr with
  | binary op _ _ => exact Nat.le_of_lt op.precedence_lt
  | _ => exact Nat.le_refl _

theorem nesting_pos (expr : Expr) : 0 < expr.nesting := by
  cases expr with
  | call name arguments =>
      rw [nesting]
      split <;> omega
  | literal _ | identifier _ | invalid => rw [nesting]; omega
  | unary _ _ | binary _ _ _ | paren _ => rw [nesting]; omega

theorem nesting_le_maxArgumentNesting {arguments : List Expr} {argument : Expr}
    (h : argument ∈ arguments) : argument.nesting ≤ maxArgumentNesting arguments := by
  induction arguments with
  | nil => cases h
  | cons first rest ih =>
      rw [maxArgumentNesting]
      rcases List.mem_cons.mp h with rfl | hrest
      · exact Nat.le_max_left _ _
      · exact Nat.le_trans (ih hrest) (Nat.le_max_right _ _)

end Expr

end LiveSheet.Formula
