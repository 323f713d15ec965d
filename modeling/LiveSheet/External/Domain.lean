import LiveSheet.External.Domain.Direction
import LiveSheet.External.Domain.Images
import LiveSheet.External.Domain.Joining
import LiveSheet.Text.Casing
import LiveSheet.Text.Composition
import LiveSheet.Text.Printable
import LiveSheet.Text.Punycode

namespace LiveSheet.Domain

open LiveSheet.Text

/-! Domain names in any script.  A name is brought into one form first, in which
its parts stand between full stops. -/

def ignored : CodeRanges := [
  (0xAD, 0xAD), (0x34F, 0x34F), (0x115F, 0x1160), (0x17B4, 0x17B5),
  (0x180B, 0x180F), (0x200B, 0x200B), (0x2060, 0x2064), (0x206A, 0x206F),
  (0x3164, 0x3164), (0xFE00, 0xFE0F), (0xFEFF, 0xFEFF), (0xFFA0, 0xFFA0),
  (0x1BCA0, 0x1BCA3), (0x1D173, 0x1D17A), (0xE0100, 0xE01EF)]

/-- Visible characters that could be taken for parts of a name. -/
def refused : CodeRanges := [
  (0x2024, 0x2026), (0x2488, 0x249B), (0x2FF0, 0x2FFF), (0x31EF, 0x31EF),
  (0x33C2, 0x33C2), (0x33C7, 0x33C7), (0x33D8, 0x33D8), (0xFE12, 0xFE12),
  (0xFE19, 0xFE19), (0xFE30, 0xFE30), (0xFE52, 0xFE52), (0xFFFC, 0xFFFD),
  (0x1F100, 0x1F100)]

def image? (char : Char) : Option (List Char) :=
  let code := char.toNat
  if code < 0x80 then some [char.toLower]
  else if ignored.contains char then some []
  else if 0xFF01 ≤ code ∧ code ≤ 0xFF5E then some [(Char.ofNat (code - 0xFEE0)).toLower]
  else
    match listedImage? code with
    | some image => some image
    | none =>
        if char == nonJoiner || char == joiner then some [char]
        else if isPrintable char && !refused.contains char then some (lowerChar char)
        else none

/-- The one form of a name. -/
def prepare? (name : List Char) : Option (List Char) := do
  some (composed (← name.mapM image?).flatten)

def isPrepared (text : List Char) : Bool :=
  (text.all fun char => image? char == some [char]) && composed text == text

def isAscii (char : Char) : Bool :=
  decide (char.toNat < 0x80)

/-- What marks a part that is written in ASCII for one in another script. -/
def escapeMark : List Char :=
  "xn--".toList

def maxEscaped : Nat := 2000

def maxForeign : Nat := 1000

/-- What is written behind the mark has to be the escape of a text that needs
one. -/
def unescape? (source : List Char) : Option (List Char) := do
  if maxEscaped < source.length ∨ !source.all isAscii then none
  else
    let text ← Punycode.decode? source
    if isPrepared text && !text.all isAscii && !escapeMark.isPrefixOf text then some text
    else none

def partText? (part : List Char) : Option (List Char) :=
  if escapeMark.isPrefixOf part then unescape? (part.drop escapeMark.length)
  else some part

/-- A text does not start with a mark, which would belong to the part before. -/
def isPartText (text : List Char) : Bool :=
  !(text.head?.map isMark).getD false && joinersFit [] text &&
    (text.all isAscii || decide (text.length ≤ maxForeign))

def separators : List Char :=
  "%#/:<>?@[\\]^|".toList

def isAllowed (char : Char) : Bool :=
  !isAscii char ||
    (decide (0x20 < char.toNat) && char.toNat != 0x7F && !separators.contains char)

/-- If one part runs from right to left, all have to keep their order. -/
def areOrdered (texts : List (List Char)) : Bool :=
  !texts.any runsLeftward || texts.all keepsOrder

def isValid (name : List Char) : Bool :=
  !name.isEmpty && name.all isAllowed &&
    match (name.splitOn '.').mapM partText? with
    | none => false
    | some texts => texts.all isPartText && areOrdered texts

end LiveSheet.Domain
