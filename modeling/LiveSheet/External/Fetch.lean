import LiveSheet.Number.Digits
import LiveSheet.Table
import LiveSheet.Text.Quoted

namespace LiveSheet

open LiveSheet.Number
open LiveSheet.Text

inductive ExternalError where
  | invalidLocator (locator : String)
  | request (url reason : String)
  | status (url : String) (code : Nat)
  | body (url reason : String)
  | disabled
  | cancelled
  deriving DecidableEq

def ExternalError.message : ExternalError → String
  | .invalidLocator locator => "invalid locator " ++ quoted locator
  | .request url reason => "request to " ++ url ++ " failed: " ++ reason
  | .status url code =>
      url ++ " answered with status " ++ String.ofList (digitsOf code)
  | .body url reason => "malformed response from " ++ url ++ ": " ++ reason
  | .disabled => "external references are disabled"
  | .cancelled => "fetch cancelled"

/-- Fetches the result behind a locator, told whether the request is
cancelled. -/
abbrev Fetch := (cancelled : Bool) → (locator : String) → Except ExternalError String

namespace Fetch

def disabled : Fetch := fun _ _ => .error .disabled

/-- Answers that are known beforehand.  What is not listed does not exist. -/
def ofTable (answers : Table (Except ExternalError String)) : Fetch :=
  fun cancelled locator =>
    if cancelled then .error .cancelled
    else (answers.get? locator).getD (.error (.status locator 404))

end Fetch

end LiveSheet
