import LiveSheet.Text.Composition.Classes
import LiveSheet.Text.Composition.Composites

namespace LiveSheet.Text

/-! Composed text, in which no character and no order of marks could be written
in another way.  Characters that stand for a single other one are left as they
are. -/

namespace Syllable

def first : Nat := 0xAC00

def leading : Nat := 0x1100

def vowel : Nat := 0x1161

def trailing : Nat := 0x11A7

def ofCodes? (base mark : Nat) : Option Nat :=
  if leading ≤ base ∧ base < leading + 19 ∧ vowel ≤ mark ∧ mark < vowel + 21 then
    some (first + ((base - leading) * 21 + (mark - vowel)) * 28)
  else if first ≤ base ∧ base < first + 11172 ∧ (base - first) % 28 = 0 ∧
      trailing < mark ∧ mark < trailing + 28 then
    some (base + (mark - trailing))
  else none

def codes? (syllable : Nat) : Option (Nat × Nat) :=
  if first ≤ syllable ∧ syllable < first + 11172 then
    let index := syllable - first
    if index % 28 = 0 then
      some (leading + index / 588, vowel + index % 588 / 28)
    else some (syllable - index % 28, trailing + index % 28)
  else none

end Syllable

def composite? (base mark : Char) : Option Char :=
  let listed := do (← composites.lookup mark.toNat).lookup base.toNat
  (listed.or (Syllable.ofCodes? base.toNat mark.toNat)).map Char.ofNat

def parts? (char : Char) : Option (Char × Char) :=
  let listed := composites.findSome? fun (mark, pairs) =>
    (pairs.find? fun pair => pair.2 == char.toNat).map fun pair => (pair.1, mark)
  (listed.or (Syllable.codes? char.toNat)).map fun (base, mark) =>
    (Char.ofNat base, Char.ofNat mark)

def decomposeWithin : Nat → Char → List Char
  | 0, char => [char]
  | depth + 1, char =>
      match parts? char with
      | none => [char]
      | some (base, mark) => decomposeWithin depth base ++ [mark]

def decompose (char : Char) : List Char :=
  decomposeWithin 3 char

def insertMark (mark : Char) : List Char → List Char
  | [] => [mark]
  | char :: rest =>
      if 0 < combiningClass char ∧ combiningClass char < combiningClass mark then
        char :: insertMark mark rest
      else mark :: char :: rest

def sortMarks : List Char → List Char :=
  List.foldr insertMark []

/-- A character takes up those behind it that it combines with, unless one of at
least their class stands between.  What it has passed is given nearest first. -/
def absorb (base : Char) (passed : List Char) : List Char → List Char
  | [] => base :: passed.reverse
  | char :: rest =>
      let isNear := match passed with
        | [] => true
        | last :: _ => decide (combiningClass last < combiningClass char)
      match if isNear then composite? base char else none with
      | some composite => absorb composite passed rest
      | none =>
          if combiningClass char = 0 then base :: passed.reverse ++ absorb char [] rest
          else absorb base (char :: passed) rest

def joinMarks : List Char → List Char
  | [] => []
  | char :: rest =>
      if combiningClass char = 0 then absorb char [] rest else char :: joinMarks rest

def composed (text : List Char) : List Char :=
  joinMarks (sortMarks (text.flatMap decompose))

end LiveSheet.Text
