import LiveSheet.Sheet.Commit

namespace LiveSheet

open LiveSheet.Formula

inductive WriteOutcome where
  | committed (response : CellResponse)
  | rejected (response : CellResponse)
  deriving DecidableEq

namespace WriteOutcome

def isCommitted : WriteOutcome → Bool
  | .committed _ => true
  | .rejected _ => false

def response : WriteOutcome → CellResponse
  | .committed response | .rejected response => response

end WriteOutcome

namespace Solve

variable [Interference σ]

def store (edges : Edges) (cell value : String) : Access σ Unit := do
  edges.commit cell value
  tryCatch (do let _ ← edges.notify cell; pure ()) fun _ => pure ()

/-- Writes a cell if neither it nor anything that depends on it fails to
compute with the new value. -/
def upsert (edges : Edges) (cell value : String) : Solve σ WriteOutcome := do
  let cell := canonical cell
  onSolver (·.setCell cell value)
  let resolution ← resolve cell
  match resolution.outcome with
  | .error _ => pure (.rejected resolution.response)
  | .ok _ =>
      match ← validateDependents edges cell with
      | some error =>
          pure (.rejected
            { value, result := errorResult, error := some error.message })
      | none =>
          onWorld (store edges cell value)
          pure (.committed resolution.response)

end Solve

end LiveSheet
