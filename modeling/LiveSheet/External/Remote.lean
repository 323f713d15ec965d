import LiveSheet.External.Fetch
import LiveSheet.External.Locator
import LiveSheet.Wire.Record

namespace LiveSheet

structure Reply where
  status : Nat
  body : String
  deriving DecidableEq

namespace Reply

def isSuccess (reply : Reply) : Bool :=
  decide (200 ≤ reply.status) && decide (reply.status < 300)

/-- The result that the reply carries.  Its value and its type of content do
not matter. -/
def result (reply : Reply) (locator : String) : Except ExternalError String :=
  if reply.isSuccess then
    match CellResponse.decode reply.body with
    | .ok cell => .ok cell.result
    | .error error => .error (.body locator error.message)
  else .error (.status locator reply.status)

end Reply

abbrev Transport := (locator : String) → Except String Reply

/-- Nothing is sent for a request that is cancelled, nor to what is no
locator. -/
def Fetch.remote (transport : Transport) : Fetch := fun cancelled locator =>
  if cancelled then .error .cancelled
  else if Locator.isValid locator then
    match transport locator with
    | .ok reply => reply.result locator
    | .error reason => .error (.request locator reason)
  else .error (.invalidLocator locator)

end LiveSheet
