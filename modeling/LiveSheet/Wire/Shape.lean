import LiveSheet.Wire.Skip

namespace LiveSheet.Wire

inductive Presence where
  | required
  | defaulted
  | optional
  deriving DecidableEq

structure Field where
  name : String
  presence : Presence
  deriving DecidableEq

/-- A closed shape refuses fields it does not name. -/
structure Shape where
  fields : List Field
  closed : Bool

/-- Text that is no JSON is malformed; JSON of another shape is a mismatch.
Whichever comes first in the text is reported. -/
inductive WireError where
  | malformed
  | mismatch
  deriving DecidableEq

def WireError.message : WireError → String
  | .malformed => "not JSON"
  | .mismatch => "wrong shape"

abbrev Reader (α : Type) := List Char → Except WireError (α × List Char)

def orMalformed (result : Option α) : Except WireError α :=
  match result with
  | some value => .ok value
  | none => .error .malformed

/-- The error at a value of another kind than the one wanted.  Scalars are read
first; lists and objects are refused at their bracket. -/
def refusal (chars : List Char) : WireError :=
  let scalar := fun (read : Bool) => if read then WireError.mismatch else .malformed
  match chars with
  | [] => .malformed
  | first :: rest =>
      if first = '[' || first = '\x7b' then .mismatch
      else if first = '"' then scalar (string? rest).isSome
      else if startsNumber first then
        scalar (((number? chars).map fun number => number.1.isFinite).getD false)
      else
        scalar ((after? "null" chars).isSome || (after? "true" chars).isSome ||
          (after? "false" chars).isSome)

def readText : Reader String := fun chars =>
  match skipSpace chars with
  | '"' :: rest => orMalformed (string? rest)
  | rest => .error (refusal rest)

def readOptional : Reader (Option String) := fun chars =>
  match skipSpace chars with
  | 'n' :: rest => do
      let rest ← orMalformed (after? "ull" rest)
      .ok (none, rest)
  | rest => do
      let (text, rest) ← readText rest
      .ok (some text, rest)

def Presence.read : Presence → Reader (Option String)
  | .optional => readOptional
  | .required | .defaulted => fun chars => do
      let (text, rest) ← readText chars
      .ok (some text, rest)

def Presence.missing : Presence → Except WireError (Option String)
  | .required => .error .mismatch
  | .defaulted => .ok (some "")
  | .optional => .ok none

def closeList : Reader Unit := fun chars =>
  match skipSpace chars with
  | ']' :: rest => .ok ((), rest)
  | _ => .error .malformed

def nextItem (isFirst : Bool) : Reader Bool := fun chars =>
  match skipSpace chars with
  | [] => .error .malformed
  | ']' :: rest => .ok (false, ']' :: rest)
  | first :: rest =>
      if isFirst then .ok (true, first :: rest)
      else if first = ',' then
        match skipSpace rest with
        | [] | ']' :: _ => .error .malformed
        | rest => .ok (true, rest)
      else .error .malformed

def readItems : Bool → List Field → Reader (List (Option String))
  | _, [], chars => .ok ([], chars)
  | isFirst, field :: fields, chars => do
      let (present, rest) ← nextItem isFirst chars
      let (slot, rest) ←
        if present then field.presence.read rest
        else (field.presence.missing).map fun slot => (slot, rest)
      let (slots, rest) ← readItems (isFirst && !present) fields rest
      .ok (slot :: slots, rest)

def nextMember (isFirst : Bool) : Reader Bool := fun chars =>
  match skipSpace chars with
  | '\x7d' :: rest => .ok (false, rest)
  | '"' :: rest => if isFirst then .ok (true, rest) else .error .malformed
  | ',' :: rest =>
      if isFirst then .error .malformed
      else
        match skipSpace rest with
        | '"' :: rest => .ok (true, rest)
        | _ => .error .malformed
  | _ => .error .malformed

def readColon : Reader Unit := fun chars =>
  match skipSpace chars with
  | ':' :: rest => .ok ((), rest)
  | _ => .error .malformed

namespace Shape

def field? (shape : Shape) (name : String) : Option Field :=
  shape.fields.find? fun field => field.name == name

def skipMember : Reader Unit := fun chars => do
  let ((), rest) ← readColon chars
  let rest ← orMalformed (skipValue? rest)
  .ok ((), rest)

def readMember (shape : Shape) (held : List (String × Option String)) :
    Reader (List (String × Option String)) := fun chars => do
  let (name, rest) ← orMalformed (string? chars)
  match shape.field? name with
  | some field =>
      if (held.lookup name).isSome then .error .mismatch
      else
        let ((), rest) ← readColon rest
        let (slot, rest) ← field.presence.read rest
        .ok (held ++ [(name, slot)], rest)
  | none =>
      if shape.closed then .error .mismatch
      else
        let ((), rest) ← skipMember rest
        .ok (held, rest)

/-- A member takes characters of the source, so their number bounds that of the
members. -/
def readMembers (shape : Shape) :
    Nat → Bool → List (String × Option String) →
      Reader (List (String × Option String))
  | 0, _, _, _ => .error .malformed
  | bound + 1, isFirst, held, chars => do
      let (present, rest) ← nextMember isFirst chars
      if present then
        let (held, rest) ← shape.readMember held rest
        shape.readMembers bound false held rest
      else .ok (held, rest)

def slot (held : List (String × Option String)) (field : Field) :
    Except WireError (Option String) :=
  match held.lookup field.name with
  | some slot => .ok slot
  | none => field.presence.missing

def read (shape : Shape) : Reader (List (Option String)) := fun chars =>
  match skipSpace chars with
  | '[' :: rest => do
      let (slots, rest) ← readItems true shape.fields rest
      let ((), rest) ← closeList rest
      .ok (slots, rest)
  | '\x7b' :: rest => do
      let (held, rest) ← shape.readMembers (rest.length + 1) true [] rest
      let slots ← shape.fields.mapM (slot held)
      .ok (slots, rest)
  | rest => .error (refusal rest)

def decode (shape : Shape) (text : String) : Except WireError (List (Option String)) := do
  let (slots, rest) ← shape.read text.toList
  if (skipSpace rest).isEmpty then .ok slots else .error .malformed

def decodeFront (shape : Shape) (text : String) :
    Except WireError (List (Option String)) := do
  let (slots, _) ← shape.read text.toList
  .ok slots

def encodeMember (name : String) (content : List Char) : List Char :=
  encodeString name ++ ':' :: content

def members (shape : Shape) (slots : List (Option String)) : List (List Char) :=
  (shape.fields.zip slots).filterMap fun (field, slot) =>
    slot.map fun text => encodeMember field.name (encodeString text)

end Shape

def encodeObject (members : List (List Char)) : List Char :=
  '\x7b' :: List.intercalate [','] members ++ ['\x7d']

def encodeTexts (members : List (String × String)) : String :=
  String.ofList (encodeObject (members.map fun (name, text) =>
    Shape.encodeMember name (encodeString text)))

def Shape.encode (shape : Shape) (slots : List (Option String)) : String :=
  String.ofList (encodeObject (shape.members slots))

end LiveSheet.Wire
