import LiveSheet.Http.Message
import LiveSheet.Store.Error
import LiveSheet.Text.Quoted
import LiveSheet.Wire.Shape

namespace LiveSheet.Http

open LiveSheet.Text
open LiveSheet.Wire

inductive BodyError where
  | mediaType
  | tooLong
  | wire (error : WireError)
  deriving DecidableEq

def BodyError.message : BodyError → String
  | .mediaType => "Expected request with `Content-Type: application/json`"
  | .tooLong => "Failed to buffer the request body: length limit exceeded"
  | .wire .malformed => "Failed to parse the request body as JSON"
  | .wire .mismatch => "Failed to deserialize the JSON body into the target type"

inductive Failure where
  /-- A parameter of that name whose bytes are not UTF-8. -/
  | parameter (name : String)
  | invalidCellId (id : String)
  | body (error : BodyError)
  | store (error : StoreError)
  deriving DecidableEq

namespace Failure

def message : Failure → String
  | .parameter name => "Invalid URL: Invalid UTF-8 in `" ++ name ++ "`"
  | .invalidCellId id => "invalid cell id " ++ quoted id
  | .body error => "invalid request body: " ++ error.message
  | .store error => error.message

def status : Failure → Nat
  | .parameter _ | .invalidCellId _ | .body _ => 400
  | .store (.notFound _) | .store (.unknownSubscription _) => 404
  | .store .cancelled => 503
  | .store (.backend _) => 500

def response (failure : Failure) : Response :=
  match failure with
  | .parameter _ =>
      Response.text failure.status "text/plain; charset=utf-8" failure.message
  | _ => Response.json failure.status (encodeTexts [("error", failure.message)])

end Failure

end LiveSheet.Http
