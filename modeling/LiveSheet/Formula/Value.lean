import LiveSheet.Formula.Tokenize
import LiveSheet.Table
import LiveSheet.Text.Casing

namespace LiveSheet

open LiveSheet.Text

/-- Sheets and cells are named without regard to case. -/
def canonical (id : String) : String :=
  lowercase id

namespace Formula

def body? (value : String) : Option String :=
  match value.toList with
  | '=' :: body => some (String.ofList body)
  | _ => none

def isFormula (value : String) : Bool :=
  (body? value).isSome

def errorResult : String := "ERROR"

/-- The cells that a value may read: every name in a formula apart from the
cell's own.  Function names are among them. -/
def references (cell value : String) : IdSet :=
  match body? value with
  | none => Table.empty
  | some body =>
      IdSet.ofList
        (((identifiers body).map canonical).filter fun name =>
          name != canonical cell)

end Formula

end LiveSheet
