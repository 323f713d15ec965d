import LiveSheet.Text.Casing

namespace LiveSheet.Http

open LiveSheet.Text

/-- A subtype ends at its last plus sign, behind which stands the suffix. -/
structure MediaType where
  kind : String
  subtype : String
  suffix : Option String
  deriving DecidableEq

namespace MediaType

def isTokenChar (char : Char) : Bool :=
  char.isAlphanum || "!#$%&'*+-.^_|~\x60".toList.contains char

def isQuotedChar (char : Char) : Bool :=
  decide (0x20 ≤ char.toNat) && char.toNat != 0x7F && char.toNat != '"'.toNat

inductive Place where
  | name (isEmpty : Bool)
  | value (isEmpty : Bool)
  | quoted (isEmpty : Bool)
  | closed
  deriving DecidableEq

/-- The place after one more character.  Quotes that enclose nothing do not
end. -/
def Place.next? : Place → Char → Option Place
  | .name isEmpty, char =>
      if isEmpty && char == ' ' then some (.name true)
      else if isTokenChar char then some (.name false)
      else if !isEmpty && char == '=' then some (.value true)
      else none
  | .value isEmpty, char =>
      if isEmpty && char == '"' then some (.quoted true)
      else if isTokenChar char then some (.value false)
      else if !isEmpty && char == ';' then some (.name true)
      else none
  | .quoted isEmpty, char =>
      if char == '"' && !isEmpty then some .closed
      else if char == '"' || isQuotedChar char then some (.quoted false)
      else none
  | .closed, char =>
      if char == ';' then some (.name true)
      else if char == ' ' then some .closed
      else none

def Place.isFinal : Place → Bool
  | .name isEmpty => isEmpty
  | .value _ | .closed => true
  | .quoted _ => false

def areParameters (chars : List Char) : Bool :=
  match chars.foldlM Place.next? (.name true) with
  | some place => place.isFinal
  | none => false

/-- The characters before the last plus sign, which the subtype does not start
with, and those behind it. -/
def splitSuffix (chars : List Char) : List Char × Option (List Char) :=
  let (suffix, front) := chars.reverse.span (· != '+')
  match front with
  | '+' :: subtype =>
      if subtype.isEmpty then (chars, none)
      else (subtype.reverse, some suffix.reverse)
  | _ => (chars, none)

def parse? (header : String) : Option MediaType :=
  let (kind, rest) := header.toList.span isTokenChar
  match rest with
  | '/' :: rest =>
      let (name, rest) := rest.span isTokenChar
      let areWellFormed := match rest with
        | [] => true
        | ';' :: parameters => !name.isEmpty && areParameters parameters
        | _ => false
      if kind.isEmpty || !areWellFormed then none
      else
        let (subtype, suffix) := splitSuffix name
        some
          { kind := String.ofList kind
            subtype := String.ofList subtype
            suffix := suffix.map String.ofList }
  | _ => none

def isJson (type : MediaType) : Bool :=
  sameAsciiCase type.kind "application" &&
    (sameAsciiCase type.subtype "json" ||
      (type.suffix.map fun suffix => sameAsciiCase suffix "json").getD false)

end MediaType

end LiveSheet.Http
