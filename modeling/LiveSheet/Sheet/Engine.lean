import LiveSheet.Sheet.Upsert

namespace LiveSheet

structure Engine where
  fetch : Fetch
  token : CancelToken

namespace Engine

def solver (engine : Engine) (sheet : String) : Solver :=
  Solver.fresh engine.fetch engine.token sheet

variable [Interference σ]

def getCell (engine : Engine) (sheet cell : String) : Access σ CellResponse :=
  Solve.within (do return (← Solve.resolve cell).response) (engine.solver sheet)

def resolveAll : List String → SheetResponse → Solve σ SheetResponse
  | [], sheet => pure sheet
  | cell :: cells, sheet => do
      let resolution ← Solve.resolve cell
      resolveAll cells (sheet.insert cell resolution.response)

def getSheet (engine : Engine) (sheet : String) : Access σ SheetResponse := do
  let sheet := canonical sheet
  if ← Access.request engine.token (.sheetExists sheet) then
    Solve.within (do resolveAll (← Solve.preload) Table.empty) (engine.solver sheet)
  else throw (.notFound sheet)

def upsert (engine : Engine) (sheet cell value : String) : Access σ WriteOutcome :=
  Solve.within (Solve.upsert (Edges.ofSheet engine.token sheet) cell value)
    (engine.solver sheet)

end Engine

end LiveSheet
