import LiveSheet.Formula.Tokenize
import LiveSheet.Text.Casing

namespace LiveSheet.Formula

open LiveSheet.Text

/-! What the parser reads: tokens with their positions, where the argument of
an external call is left as it was written.  A position is the end of the token
before. -/

/-- The function whose argument is a locator and not an expression. -/
def externalFunction : String := "EXTERNAL_REF"

def namesExternal (name : String) : Bool :=
  sameAsciiCase name externalFunction

inductive Lexeme where
  | token (position : Nat) (token : Token)
  | external (position : Nat) (name locator : String)
  deriving DecidableEq

namespace Lexeme

def position : Lexeme → Nat
  | .token position _ | .external position _ _ => position

def head : Lexeme → Token
  | .token _ read => read
  | .external _ name _ => .identifier name

end Lexeme

inductive Ending where
  | finished (position : Nat)
  | unexpected (error : ScanError)
  deriving DecidableEq

def Ending.position : Ending → Nat
  | .finished position => position
  | .unexpected error => error.position

def afterOpening? (chars : List Char) : Option (List Char) :=
  match chars.dropWhile isBlank with
  | '(' :: rest => some rest
  | _ => none

theorem afterOpening?_eq_some {chars inner : List Char}
    (h : afterOpening? chars = some inner) : chars.dropWhile isBlank = '(' :: inner := by
  unfold afterOpening? at h
  split at h
  · cases h
    assumption
  · cases h

/-- A name, together with the rest of the call it opens when it names the
external function: the lexeme, the characters taken behind the name and those
left. -/
def readName (offset : Nat) (name : String) (rest : List Char) :
    Lexeme × List Char × List Char :=
  if namesExternal name then
    match afterOpening? rest with
    | some inner =>
        let (raw, tail) := splitRaw 0 inner
        (.external offset name (String.ofList (trim raw)),
          rest.takeWhile isBlank ++ '(' :: raw, tail)
    | none => (.token offset (.identifier name), [], rest)
  else (.token offset (.identifier name), [], rest)

def readLexeme (offset : Nat) (token : Token) (rest : List Char) :
    Lexeme × List Char × List Char :=
  match token with
  | .identifier name => readName offset name rest
  | token => (.token offset token, [], rest)

def lexemesWithin : Nat → Nat → List Char → List Lexeme × Ending
  | 0, offset, _ => ([], .finished offset)
  | bound + 1, offset, chars =>
      let start := offset + byteLength (chars.takeWhile isBlank)
      match readToken (chars.dropWhile isBlank) with
      | .finished => ([], .finished offset)
      | .unexpected char _ => ([], .unexpected { char, position := start })
      | .token token lexeme rest =>
          let (first, taken, tail) := readLexeme offset token rest
          let (others, ending) :=
            lexemesWithin bound (start + byteLength lexeme + byteLength taken) tail
          (first :: others, ending)

/-- One step for each character and one for the end suffice. -/
def lexemes (source : String) : List Lexeme × Ending :=
  lexemesWithin (source.toList.length + 1) 0 source.toList

end LiveSheet.Formula
