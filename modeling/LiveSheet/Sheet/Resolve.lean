import LiveSheet.Sheet.Solver

namespace LiveSheet

open LiveSheet.Formula

namespace Solve

variable [Interference σ]

def request (call : Call) : Solve σ call.Answer := fun session =>
  onWorld (Access.request session.solver.token call) session

/-- The text of a cell, read from the store at most once. -/
def rawValue (cell : String) : Solve σ String := do
  let solver := (← get).solver
  match solver.values.get? cell with
  | some value => pure value
  | none =>
      let value ← request (.getCell solver.sheet cell)
      onSolver (·.remember cell value)
      pure value

/-- What a cell comes to for a formula that reads it.  Only a cell that does not
exist is the formula's own failure. -/
def referenceResult (resolve : String → Solve σ Resolution) (name : String) :
    Solve σ (Except FormulaError String) :=
  tryCatch (do return (← resolve name).outcome) fun error =>
    if error.isNotFound then
      pure (.error (.eval (.unknownCell (canonical name))))
    else throw error

def externalResult (locator : String) : Solve σ (Except FormulaError String) := do
  let session ← get
  let cancelled := session.world.isFired session.solver.token
  match session.solver.fetch cancelled locator with
  | .ok text => pure (.ok text)
  | .error .cancelled => throw .cancelled
  | .error error => pure (.error (.eval (.external error.message)))

def answerTo (resolve : String → Solve σ Resolution) :
    Request → Solve σ (Except FormulaError String)
  | .cell name => referenceResult resolve name
  | .external locator => externalResult locator

def evaluateCell (answer : Request → Solve σ (Except FormulaError String))
    (cell value : String) (expr : Expr) : Solve σ Resolution := do
  match ← evaluating cell (expr.height + 1)
      ((evaluate expr).run answer FormulaError.eval) with
  | .ok literal =>
      onSolver (·.keepResult cell literal.text)
      pure (Resolution.computed value literal.text)
  | .error error => pure (Resolution.failed value error)

def resolveFormula (answer : Request → Solve σ (Except FormulaError String))
    (cell value body : String) : Solve σ Resolution := do
  let solver := (← get).solver
  match solver.cache.get? cell with
  | some result => pure (Resolution.computed value result)
  | none =>
      if solver.inProgress.contains cell then
        pure (Resolution.failed value (.cycle cell))
      else
        match parse body with
        | .error error => pure (Resolution.failed value (.parse error))
        | .ok expr =>
            if maxResolutionDepth < solver.nesting + (expr.height + 1) then
              pure (Resolution.failed value (.eval (.depthExceeded maxResolutionDepth)))
            else evaluateCell answer cell value expr

def resolveWith (answer : Request → Solve σ (Except FormulaError String))
    (cell : String) : Solve σ Resolution := do
  let cell := canonical cell
  let value ← rawValue cell
  match body? value with
  | none => pure (Resolution.computed value value)
  | some body => resolveFormula answer cell value body

/-- Resolves a cell through at most `levels` formulas that wait for one
another. -/
def resolveWithin : Nat → String → Solve σ Resolution
  | 0 => resolveWith fun _ =>
      pure (.error (.eval (.depthExceeded maxResolutionDepth)))
  | levels + 1 => resolveWith (answerTo (resolveWithin levels))

/-- Every formula that waits costs at least two, so the limit on nesting is
reached before that on levels. -/
def resolve (cell : String) : Solve σ Resolution :=
  resolveWithin maxResolutionDepth cell

def insertId (id : String) : List String → List String
  | [] => [id]
  | first :: rest => if id ≤ first then id :: first :: rest else first :: insertId id rest

def sortIds (ids : List String) : List String :=
  ids.foldr insertId []

def preload : Solve σ (List String) := do
  let cells ← request (.getAllCells (← get).solver.sheet)
  onSolver (·.seed cells.entries)
  pure (sortIds (cells.keys.map canonical))

end Solve

end LiveSheet
