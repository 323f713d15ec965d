import LiveSheet.Formula.Token
import LiveSheet.Text.Bytes

namespace LiveSheet.Formula

open LiveSheet.Text
open LiveSheet.Number

structure ScanError where
  char : Char
  position : Nat
  deriving DecidableEq

namespace ScanError

def reason (error : ScanError) : String :=
  "Unexpected character: '" ++ String.singleton error.char ++ "'"

def message (error : ScanError) : String :=
  "Tokenize error at position " ++ String.ofList (digitsOf error.position) ++
    ": " ++ error.reason

end ScanError

/-! A scanner hands out one token at a time.  Its first failure stays: every
later token is that failure again. -/

structure Scanner where
  rest : List Char
  offset : Nat
  failure : Option ScanError

/-- Source text up to the parenthesis that closes the current call, with the
parentheses in between paired. -/
def splitRaw : Nat → List Char → List Char × List Char
  | _, [] => ([], [])
  | depth, char :: rest =>
      if char = '(' then
        let (raw, tail) := splitRaw (depth + 1) rest
        (char :: raw, tail)
      else if char = ')' then
        match depth with
        | 0 => ([], char :: rest)
        | outer + 1 =>
            let (raw, tail) := splitRaw outer rest
            (char :: raw, tail)
      else
        let (raw, tail) := splitRaw depth rest
        (char :: raw, tail)

theorem splitRaw_append (depth : Nat) (chars : List Char) :
    (splitRaw depth chars).1 ++ (splitRaw depth chars).2 = chars := by
  induction chars generalizing depth with
  | nil => rfl
  | cons char rest ih =>
      unfold splitRaw
      split
      · simp [ih]
      · split
        · split
          · rfl
          · simp [ih]
        · simp [ih]

namespace Scanner

def start (source : String) : Scanner :=
  { rest := source.toList, offset := 0, failure := none }

def next (scanner : Scanner) : Except ScanError (Option Token) × Scanner :=
  match scanner.failure with
  | some error => (.error error, scanner)
  | none =>
      let offset := scanner.offset + byteLength (scanner.rest.takeWhile isBlank)
      match readToken (scanner.rest.dropWhile isBlank) with
      | .finished => (.ok none, { rest := [], offset, failure := none })
      | .token token lexeme rest =>
          (.ok (some token),
            { rest, offset := offset + byteLength lexeme, failure := none })
      | .unexpected char rest =>
          let error : ScanError := { char, position := offset }
          (.error error,
            { rest, offset := offset + char.utf8Size, failure := some error })

/-- The raw argument at the front, which is read even after a failure. -/
def nextRaw (scanner : Scanner) : String × Scanner :=
  let (raw, rest) := splitRaw 0 scanner.rest
  (String.ofList (trim raw),
    { scanner with rest, offset := scanner.offset + byteLength raw })

end Scanner

end LiveSheet.Formula
