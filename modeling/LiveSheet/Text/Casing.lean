import LiveSheet.Text.Casing.Classes
import LiveSheet.Text.Casing.Runs
import LiveSheet.Text.Casing.Expansions

namespace LiveSheet.Text

/-! Full case mapping.  Only the capital sigma looks at its neighbours. -/

def lowerChar (char : Char) : List Char :=
  if char = 'İ' then ['i', Char.ofNat 0x307]
  else [Char.ofNat (moveBy lowerRuns char.toNat)]

def upperChar (char : Char) : List Char :=
  match upperExpansions.lookup char.toNat with
  | some codes => codes.map Char.ofNat
  | none => [Char.ofNat (moveBy upperRuns char.toNat)]

def leadsCased (chars : List Char) : Bool :=
  match chars.dropWhile isCaseIgnorable with
  | [] => false
  | char :: _ => isCased char

/-- A sigma ends its word when a cased character stands before it and none
after it.  The text before is given nearest first. -/
def endsWord (before after : List Char) : Bool :=
  leadsCased before && !leadsCased after

def lowercaseAfter (before : List Char) : List Char → List Char
  | [] => []
  | char :: rest =>
      (if char = 'Σ' then [if endsWord before rest then 'ς' else 'σ']
        else lowerChar char) ++ lowercaseAfter (char :: before) rest

def lowercase (text : String) : String :=
  String.ofList (lowercaseAfter [] text.toList)

def uppercase (text : String) : String :=
  String.ofList (text.toList.flatMap upperChar)

/-- Equality that ignores the case of ASCII letters alone. -/
def sameAsciiCase (left right : String) : Bool :=
  left.toList.map Char.toLower == right.toList.map Char.toLower

end LiveSheet.Text
