import LiveSheet.Formula.Value
import LiveSheet.Wire.Shape

namespace LiveSheet

open LiveSheet.Wire

/-- A resolved cell.  The error is there only when the result is the one of a
formula that cannot be computed. -/
structure CellResponse where
  value : String
  result : String
  error : Option String
  deriving DecidableEq

namespace CellResponse

def shape : Shape :=
  { fields :=
      [{ name := "value", presence := .defaulted },
        { name := "result", presence := .required },
        { name := "error", presence := .optional }]
    closed := false }

def slots (cell : CellResponse) : List (Option String) :=
  [some cell.value, some cell.result, cell.error]

def ofSlots : List (Option String) → Except WireError CellResponse
  | [some value, some result, error] => .ok { value, result, error }
  | _ => .error .mismatch

def encode (cell : CellResponse) : String :=
  shape.encode cell.slots

def decode (text : String) : Except WireError CellResponse := do
  ofSlots (← shape.decode text)

end CellResponse

structure UpsertRequest where
  value : String
  deriving DecidableEq

namespace UpsertRequest

def shape : Shape :=
  { fields := [{ name := "value", presence := .required }], closed := true }

def slots (request : UpsertRequest) : List (Option String) :=
  [some request.value]

def ofSlots : List (Option String) → Except WireError UpsertRequest
  | [some value] => .ok { value }
  | _ => .error .mismatch

def encode (request : UpsertRequest) : String :=
  shape.encode request.slots

def decode (text : String) : Except WireError UpsertRequest := do
  ofSlots (← shape.decode text)

/-- A request body ends with its record; what stands behind is not read. -/
def decodeBody (text : String) : Except WireError UpsertRequest := do
  ofSlots (← shape.decodeFront text)

end UpsertRequest

structure SubscribeResponse where
  webhookUrl : String
  deriving DecidableEq

namespace SubscribeResponse

def shape : Shape :=
  { fields := [{ name := "webhook_url", presence := .required }], closed := false }

def slots (response : SubscribeResponse) : List (Option String) :=
  [some response.webhookUrl]

def ofSlots : List (Option String) → Except WireError SubscribeResponse
  | [some webhookUrl] => .ok { webhookUrl }
  | _ => .error .mismatch

def encode (response : SubscribeResponse) : String :=
  shape.encode response.slots

def decode (text : String) : Except WireError SubscribeResponse := do
  ofSlots (← shape.decode text)

end SubscribeResponse

structure SubscriptionRecord where
  sheet : String
  cell : String
  deriving DecidableEq

namespace SubscriptionRecord

def ofIds (sheet cell : String) : SubscriptionRecord :=
  { sheet := canonical sheet, cell := canonical cell }

def shape : Shape :=
  { fields :=
      [{ name := "sheet_id", presence := .required },
        { name := "cell_id", presence := .required }]
    closed := false }

def slots (record : SubscriptionRecord) : List (Option String) :=
  [some record.sheet, some record.cell]

def ofSlots : List (Option String) → Except WireError SubscriptionRecord
  | [some sheet, some cell] => .ok { sheet, cell }
  | _ => .error .mismatch

def encode (record : SubscriptionRecord) : String :=
  shape.encode record.slots

def decode (text : String) : Except WireError SubscriptionRecord := do
  ofSlots (← shape.decode text)

end SubscriptionRecord

abbrev SheetResponse := Table CellResponse

def SheetResponse.encode (sheet : SheetResponse) : String :=
  String.ofList (encodeObject (sheet.entries.map fun (id, cell) =>
    Shape.encodeMember id cell.encode.toList))

end LiveSheet
