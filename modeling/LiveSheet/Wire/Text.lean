import LiveSheet.Text.Hex

namespace LiveSheet.Wire

open LiveSheet.Text

/-! JSON strings.  Quotes, backslashes and control characters are escaped and
nothing else is. -/

def hexPair (code : Nat) : List Char :=
  [Nat.digitChar (code / 16), Nat.digitChar (code % 16)]

def escapedChar (char : Char) : List Char :=
  if char = '"' then ['\\', '"']
  else if char = '\\' then ['\\', '\\']
  else if char = '\x08' then ['\\', 'b']
  else if char = '\t' then ['\\', 't']
  else if char = '\n' then ['\\', 'n']
  else if char = '\x0c' then ['\\', 'f']
  else if char = '\r' then ['\\', 'r']
  else if char.toNat < 0x20 then ['\\', 'u', '0', '0'] ++ hexPair char.toNat
  else [char]

def encodeString (text : String) : List Char :=
  '"' :: text.toList.flatMap escapedChar ++ ['"']

def unit? : List Char → Option (Nat × List Char)
  | first :: second :: third :: fourth :: rest => do
      let first ← hexDigit? first
      let second ← hexDigit? second
      let third ← hexDigit? third
      let fourth ← hexDigit? fourth
      some (first * 4096 + second * 256 + third * 16 + fourth, rest)
  | _ => none

def isHighSurrogate (unit : Nat) : Bool :=
  decide (0xD800 ≤ unit) && decide (unit ≤ 0xDBFF)

def isLowSurrogate (unit : Nat) : Bool :=
  decide (0xDC00 ≤ unit) && decide (unit ≤ 0xDFFF)

def simpleEscape? (mark : Char) : Option Char :=
  if mark = '"' ∨ mark = '\\' ∨ mark = '/' then some mark
  else if mark = 'b' then some '\x08'
  else if mark = 't' then some '\t'
  else if mark = 'n' then some '\n'
  else if mark = 'f' then some '\x0c'
  else if mark = 'r' then some '\r'
  else none

def codeEscape? (chars : List Char) : Option (Char × List Char) := do
  let (unit, rest) ← unit? chars
  if isLowSurrogate unit then none
  else if isHighSurrogate unit then
    match rest with
    | '\\' :: 'u' :: rest => do
        let (low, rest) ← unit? rest
        if isLowSurrogate low then
          some (Char.ofNat (0x10000 + (unit - 0xD800) * 0x400 + (low - 0xDC00)), rest)
        else none
    | _ => none
  else some (Char.ofNat unit, rest)

def character? : List Char → Option (Char × List Char)
  | [] => none
  | first :: rest =>
      if first = '\\' then
        match rest with
        | [] => none
        | mark :: rest =>
            if mark = 'u' then codeEscape? rest
            else (simpleEscape? mark).map fun char => (char, rest)
      else if first.toNat < 0x20 then none
      else some (first, rest)

/-- The part of a string behind its opening quote.  Every character takes at
least one of the source. -/
def stringWithin : Nat → List Char → Option (List Char × List Char)
  | 0, _ => none
  | bound + 1, chars =>
      match chars with
      | '"' :: rest => some ([], rest)
      | chars => do
          let (char, rest) ← character? chars
          let (text, rest) ← stringWithin bound rest
          some (char :: text, rest)

def string? (chars : List Char) : Option (String × List Char) := do
  let (text, rest) ← stringWithin chars.length chars
  some (String.ofList text, rest)

/-- A string whose value is not wanted may hold surrogates without a
partner. -/
def ignoredCharacter? : List Char → Option (List Char)
  | [] => none
  | first :: rest =>
      if first = '\\' then
        match rest with
        | [] => none
        | mark :: rest =>
            if mark = 'u' then (unit? rest).map Prod.snd
            else (simpleEscape? mark).map fun _ => rest
      else if first.toNat < 0x20 then none
      else some rest

def ignoredStringWithin : Nat → List Char → Option (List Char)
  | 0, _ => none
  | bound + 1, chars =>
      match chars with
      | '"' :: rest => some rest
      | chars => (ignoredCharacter? chars).bind (ignoredStringWithin bound)

def ignoredString? (chars : List Char) : Option (List Char) :=
  ignoredStringWithin chars.length chars

end LiveSheet.Wire
