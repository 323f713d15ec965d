import LiveSheet.External.Host
import LiveSheet.Text.Percent

namespace LiveSheet

open LiveSheet.Number
open LiveSheet.Text

namespace Locator

/-- The text that counts: without controls and spaces at its ends, and without
tabs and line ends anywhere. -/
def content (locator : String) : List Char :=
  let isOuter := fun (char : Char) => decide (char.toNat ≤ 0x20)
  let inner := ((locator.toList.dropWhile isOuter).reverse.dropWhile isOuter).reverse
  inner.filter fun char => char != '\t' && char != '\n' && char != '\r'

def afterScheme? (chars : List Char) : Option (List Char) :=
  let (scheme, rest) := chars.span (· != ':')
  let scheme := String.ofList (scheme.map Char.toLower)
  match rest with
  | ':' :: rest => if scheme = "http" ∨ scheme = "https" then some rest else none
  | _ => none

def isSlash (char : Char) : Bool :=
  char == '/' || char == '\\'

/-- Host and port, with what comes before the last at sign taken away.  Any
number of slashes may lead to it. -/
def authority (chars : List Char) : List Char :=
  let authority := (chars.dropWhile isSlash).takeWhile fun char =>
    !isSlash char && char != '?' && char != '#'
  (authority.reverse.takeWhile (· != '@')).reverse

/-- The host, and what follows it from the first colon on that stands outside
brackets. -/
def splitHost (isInside : Bool) : List Char → List Char × List Char
  | [] => ([], [])
  | char :: rest =>
      if char == ':' && !isInside then ([], char :: rest)
      else
        let (host, port) :=
          splitHost (char == '[' || (isInside && char != ']')) rest
        (char :: host, port)

def isPort : List Char → Bool
  | [] | [':'] => true
  | ':' :: digits =>
      ((readDigits? digits).map fun port => decide (port < 65536)).getD false
  | _ => false

def isHost (host : List Char) : Bool :=
  match host with
  | '[' :: rest => rest.getLast? == some ']' && Host.isBracketed rest.dropLast
  | host =>
      ((Percent.decode? (String.ofList host)).map fun name =>
        Host.isName name.toList).getD false

/-- Whether the locator can be fetched.  Path, query and fragment may be
anything. -/
def isValid (locator : String) : Bool :=
  match afterScheme? (content locator) with
  | none => false
  | some rest =>
      let (host, port) := splitHost false (authority rest)
      isHost host && isPort port

end Locator

end LiveSheet
