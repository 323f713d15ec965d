import LiveSheet.Text.Casing

namespace LiveSheet.Http

open LiveSheet.Text

inductive Method where
  | get
  | head
  | post
  | options
  | other (name : String)
  deriving DecidableEq

namespace Method

def name : Method → String
  | .get => "GET"
  | .head => "HEAD"
  | .post => "POST"
  | .options => "OPTIONS"
  | .other name => name

def ofName (name : String) : Method :=
  if name = "GET" then .get
  else if name = "HEAD" then .head
  else if name = "POST" then .post
  else if name = "OPTIONS" then .options
  else .other name

end Method

structure Request where
  method : Method
  /-- The path as it was sent, with what follows it. -/
  target : String
  headers : List (String × String)
  body : String
  deriving DecidableEq

namespace Request

def isVisible (char : Char) : Bool :=
  char == '\t' || (decide (0x20 ≤ char.toNat) && decide (char.toNat < 0x7F))

def header? (request : Request) (name : String) : Option String := do
  let (_, value) ← request.headers.find? fun header => sameAsciiCase header.1 name
  if value.toList.all isVisible then some value else none

end Request

inductive Body where
  | text (text : String)
  /-- Lines that come as they arise, on the feed of that number. -/
  | feed (index : Nat)
  deriving DecidableEq

structure Response where
  status : Nat
  contentType : Option String
  allowed : List Method
  isPreflight : Bool
  body : Body
  deriving DecidableEq

namespace Response

def empty (status : Nat) (allowed : List Method) : Response :=
  { status, contentType := none, allowed, isPreflight := false, body := .text "" }

def text (status : Nat) (contentType body : String) : Response :=
  { status
    contentType := some contentType
    allowed := []
    isPreflight := false
    body := .text body }

def json (status : Nat) (body : String) : Response :=
  text status "application/json" body

def feed (index : Nat) : Response :=
  { status := 200
    contentType := some "application/x-ndjson"
    allowed := []
    isPreflight := false
    body := .feed index }

def preflight (allowed : List Method) : Response :=
  { empty 200 allowed with isPreflight := true }

def preflightHeaders : List (String × String) :=
  [("access-control-allow-headers", "*"),
    ("access-control-allow-methods", "*"),
    ("access-control-max-age", "86400")]

def allowHeaders (allowed : List Method) : List (String × String) :=
  if allowed.isEmpty then []
  else [("allow", String.intercalate "," (allowed.map Method.name))]

def headers (response : Response) : List (String × String) :=
  (response.contentType.toList.map fun type => ("content-type", type)) ++
    allowHeaders response.allowed ++
    [("access-control-allow-origin", "*")] ++
    (if response.isPreflight then preflightHeaders else [])

end Response

end LiveSheet.Http
