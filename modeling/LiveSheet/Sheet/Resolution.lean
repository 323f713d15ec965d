import LiveSheet.Formula.Error
import LiveSheet.Formula.Value
import LiveSheet.Wire.Record

namespace LiveSheet

open LiveSheet.Formula

structure Resolution where
  value : String
  outcome : Except FormulaError String

namespace Resolution

def computed (value result : String) : Resolution :=
  { value, outcome := .ok result }

def failed (value : String) (error : FormulaError) : Resolution :=
  { value, outcome := .error error }

def isOk (resolution : Resolution) : Bool :=
  match resolution.outcome with
  | .ok _ => true
  | .error _ => false

def response (resolution : Resolution) : CellResponse :=
  match resolution.outcome with
  | .ok result => { value := resolution.value, result, error := none }
  | .error error =>
      { value := resolution.value, result := errorResult, error := some error.message }

end Resolution

end LiveSheet
