import LiveSheet.Formula.Scanner

namespace LiveSheet.Formula

open LiveSheet.Text

inductive Piece where
  | token (token : Token)
  | unexpected (error : ScanError)
  deriving DecidableEq

/-- Every piece takes at least one character, so a bound of one step for each
character never cuts a source short. -/
def piecesWithin : Nat → Nat → List Char → List Piece
  | 0, _, _ => []
  | bound + 1, offset, chars =>
      let start := offset + byteLength (chars.takeWhile isBlank)
      match readToken (chars.dropWhile isBlank) with
      | .finished => []
      | .token token lexeme rest =>
          .token token :: piecesWithin bound (start + byteLength lexeme) rest
      | .unexpected char rest =>
          .unexpected { char, position := start } ::
            piecesWithin bound (start + char.utf8Size) rest

def pieces (source : String) : List Piece :=
  piecesWithin source.toList.length 0 source.toList

def Piece.token? : Piece → Except ScanError Token
  | .token read => .ok read
  | .unexpected error => .error error

def Piece.identifier? : Piece → Option String
  | .token (.identifier name) => some name
  | _ => none

def tokenize (source : String) : Except ScanError (List Token) :=
  (pieces source).mapM Piece.token?

/-- Every name in a source, in order and with its repetitions, function names
among them. -/
def identifiers (source : String) : List String :=
  (pieces source).filterMap Piece.identifier?

/-- A cell id is a text that reads as one name. -/
def isCellIdentifier (text : String) : Bool :=
  match tokenize text with
  | .ok [.identifier _] => true
  | _ => false

end LiveSheet.Formula
