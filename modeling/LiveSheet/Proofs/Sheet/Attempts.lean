import LiveSheet.Proofs.Store.Quiet
import LiveSheet.Sheet.Resolve

namespace LiveSheet

open LiveSheet.Formula

/-! What a session asks of its surroundings while it resolves a cell, and how it
ends when one of them fails it. -/

inductive Attempt where
  /-- A call that was not made, because the token had fired. -/
  | refused (call : Call)
  | made (call : Call) (failure : Option StoreError)
  | fetched (cancelled : Bool) (locator : String) (failure : Option ExternalError)
  deriving DecidableEq

namespace Attempt

def call? : Attempt → Option Call
  | .made call _ => some call
  | .refused _ | .fetched .. => none

/-- The failure that no formula can make its own. -/
def fatal? : Attempt → Option StoreError
  | .refused _ => some .cancelled
  | .made _ (some error) => if error.isNotFound then none else some error
  | .fetched true _ (some .cancelled) => some .cancelled
  | .made _ none | .fetched .. => none

theorem isNotFound_of_fatal? {attempt : Attempt} {error : StoreError}
    (h : attempt.fatal? = some error) : error.isNotFound = false := by
  unfold fatal? at h
  split at h
  · cases h
    rfl
  · split at h
    · cases h
    · rename_i hfound
      cases h
      exact Bool.eq_false_iff.mpr hfound
  · cases h
    rfl
  · cases h
  · cases h

end Attempt

/-- A program of a session together with what it attempts. -/
structure Traced (σ α : Type) where
  run : Solve σ α
  attempts : Session σ → List Attempt

namespace Traced

def silent (solve : Solve σ α) : Traced σ α :=
  { run := solve, attempts := fun _ => [] }

instance : Monad (Traced σ) where
  pure answer := silent (pure answer)
  bind program next :=
    { run := program.run >>= fun answer => (next answer).run
      attempts := fun session =>
        program.attempts session ++
          match program.run session with
          | .ok answer after => (next answer).attempts after
          | .error _ _ => [] }

def catching (program : Traced σ α) (handle : StoreError → Traced σ α) : Traced σ α :=
  { run := tryCatch program.run fun error => (handle error).run
    attempts := fun session =>
      program.attempts session ++
        match program.run session with
        | .ok _ _ => []
        | .error error after => (handle error).attempts after }

def evaluating (cell : String) (cost : Nat) (body : Traced σ α) : Traced σ α :=
  { run := Solve.evaluating cell cost body.run
    attempts := fun session =>
      body.attempts { session with solver := session.solver.enter cell cost } }

def external (locator : String) : Traced σ (Except FormulaError String) :=
  { run := Solve.externalResult locator
    attempts := fun session =>
      let cancelled := session.world.isFired session.solver.token
      [.fetched cancelled locator
        (match session.solver.fetch cancelled locator with
        | .ok _ => none
        | .error error => some error)] }

@[simp] theorem pure_run (answer : α) :
    (pure answer : Traced σ α).run = pure answer := rfl

@[simp] theorem silent_run (solve : Solve σ α) : (silent solve).run = solve := rfl

@[simp] theorem bind_run (program : Traced σ α) (next : α → Traced σ β) :
    (program >>= next).run = program.run >>= fun answer => (next answer).run := rfl

@[simp] theorem catching_run (program : Traced σ α) (handle : StoreError → Traced σ α) :
    (catching program handle).run =
      tryCatch program.run fun error => (handle error).run := rfl

def referenceResult (resolve : String → Traced σ Resolution) (name : String) :
    Traced σ (Except FormulaError String) :=
  catching (do return (← resolve name).outcome) fun error =>
    if error.isNotFound then
      pure (.error (.eval (.unknownCell (canonical name))))
    else silent (throw error)

def answerTo (resolve : String → Traced σ Resolution) :
    Request → Traced σ (Except FormulaError String)
  | .cell name => referenceResult resolve name
  | .external locator => external locator

def evaluateCell (answer : Request → Traced σ (Except FormulaError String))
    (cell value : String) (expr : Expr) : Traced σ Resolution := do
  match ← evaluating cell (expr.height + 1)
      ((evaluate expr).run answer FormulaError.eval) with
  | .ok literal =>
      silent (Solve.onSolver (·.keepResult cell literal.text))
      pure (Resolution.computed value literal.text)
  | .error error => pure (Resolution.failed value error)

def resolveFormula (answer : Request → Traced σ (Except FormulaError String))
    (cell value body : String) : Traced σ Resolution := do
  let solver := (← silent get).solver
  match solver.cache.get? cell with
  | some result => pure (Resolution.computed value result)
  | none =>
      if solver.inProgress.contains cell then
        pure (Resolution.failed value (.cycle cell))
      else
        match parse body with
        | .error error => pure (Resolution.failed value (.parse error))
        | .ok expr =>
            if maxResolutionDepth < solver.nesting + (expr.height + 1) then
              pure (Resolution.failed value (.eval (.depthExceeded maxResolutionDepth)))
            else evaluateCell answer cell value expr

theorem answerTo_run (resolve : String → Traced σ Resolution) (request : Request) :
    (answerTo resolve request).run =
      Solve.answerTo (fun name => (resolve name).run) request := by
  cases request with
  | external locator => rfl
  | cell name =>
      unfold answerTo referenceResult Solve.answerTo Solve.referenceResult
      rw [catching_run]
      congr 1
      funext error
      split <;> rfl

theorem run_run (answer : Request → Traced σ (Except FormulaError String))
    (evaluation : Evaluation α) :
    (evaluation.run answer FormulaError.eval).run =
      evaluation.run (fun request => (answer request).run) FormulaError.eval := by
  induction evaluation with
  | done value => rfl
  | failed error => rfl
  | ask request resume ih =>
      rw [Evaluation.run, Evaluation.run, bind_run]
      refine bind_congr fun result => ?_
      cases result with
      | ok text => exact ih text
      | error error => rfl

theorem evaluateCell_run (answer : Request → Traced σ (Except FormulaError String))
    (cell value : String) (expr : Expr) :
    (evaluateCell answer cell value expr).run =
      Solve.evaluateCell (fun request => (answer request).run) cell value expr := by
  unfold evaluateCell Solve.evaluateCell evaluating
  rw [bind_run, run_run]
  refine bind_congr fun result => ?_
  cases result <;> rfl

theorem resolveFormula_run (answer : Request → Traced σ (Except FormulaError String))
    (cell value body : String) :
    (resolveFormula answer cell value body).run =
      Solve.resolveFormula (fun request => (answer request).run) cell value body := by
  unfold resolveFormula Solve.resolveFormula
  rw [bind_run]
  refine bind_congr fun session => ?_
  dsimp only
  cases session.solver.cache.get? cell with
  | some result => rfl
  | none =>
      dsimp only
      cases session.solver.inProgress.contains cell with
      | true => rfl
      | false =>
          cases parse body with
          | error error => rfl
          | ok expr =>
              simp only [Bool.false_eq_true, if_false]
              by_cases hdeep : maxResolutionDepth < session.solver.nesting + (expr.height + 1)
              · rw [if_pos hdeep, if_pos hdeep, pure_run]
              · rw [if_neg hdeep, if_neg hdeep, evaluateCell_run]

section

variable [Interference σ]

def request (call : Call) : Traced σ call.Answer :=
  { run := Solve.request call
    attempts := fun session =>
      if session.world.isFired session.solver.token then [.refused call]
      else
        [.made call
          (match Solve.request call session with
          | .ok _ _ => none
          | .error error _ => some error)] }

def rawValue (cell : String) : Traced σ String := do
  let solver := (← silent get).solver
  match solver.values.get? cell with
  | some value => pure value
  | none =>
      let value ← request (.getCell solver.sheet cell)
      silent (Solve.onSolver (·.remember cell value))
      pure value

theorem rawValue_run (cell : String) :
    (rawValue cell : Traced σ String).run = Solve.rawValue cell := by
  unfold rawValue Solve.rawValue
  rw [bind_run]
  refine bind_congr fun session => ?_
  dsimp only
  cases session.solver.values.get? cell <;> rfl

def resolveWith (answer : Request → Traced σ (Except FormulaError String))
    (cell : String) : Traced σ Resolution := do
  let cell := canonical cell
  let value ← rawValue cell
  match body? value with
  | none => pure (Resolution.computed value value)
  | some body => resolveFormula answer cell value body

def resolveWithin : Nat → String → Traced σ Resolution
  | 0 => resolveWith fun _ =>
      pure (.error (.eval (.depthExceeded maxResolutionDepth)))
  | levels + 1 => resolveWith (answerTo (resolveWithin levels))

def resolve (cell : String) : Traced σ Resolution :=
  resolveWithin maxResolutionDepth cell

theorem resolveWith_run (answer : Request → Traced σ (Except FormulaError String))
    (cell : String) :
    (resolveWith answer cell).run =
      Solve.resolveWith (fun request => (answer request).run) cell := by
  simp only [resolveWith, Solve.resolveWith, bind_run, rawValue_run]
  refine bind_congr fun value => ?_
  cases body? value with
  | none => rfl
  | some body => exact resolveFormula_run answer (canonical cell) value body

theorem resolveWithin_run (levels : Nat) (cell : String) :
    (resolveWithin levels cell : Traced σ Resolution).run = Solve.resolveWithin levels cell := by
  induction levels generalizing cell with
  | zero => exact resolveWith_run _ cell
  | succ levels ih =>
      rw [resolveWithin, Solve.resolveWithin, resolveWith_run]
      simp only [answerTo_run, ih]

theorem resolve_run (cell : String) :
    (resolve cell : Traced σ Resolution).run = Solve.resolve cell :=
  resolveWithin_run maxResolutionDepth cell

end

theorem attempts_bind_of_ok {program : Traced σ α} {next : α → Traced σ β} {answer : α}
    {session after : Session σ} (h : program.run session = .ok answer after) :
    (program >>= next).attempts session =
      program.attempts session ++ (next answer).attempts after := by
  simp only [Bind.bind, h]

theorem attempts_bind_of_error {program : Traced σ α} {next : α → Traced σ β}
    {error : StoreError} {session after : Session σ}
    (h : program.run session = .error error after) :
    (program >>= next).attempts session = program.attempts session := by
  simp only [Bind.bind, h, List.append_nil]

theorem attempts_catching_of_ok {program : Traced σ α} {handle : StoreError → Traced σ α}
    {answer : α} {session after : Session σ} (h : program.run session = .ok answer after) :
    (catching program handle).attempts session = program.attempts session := by
  simp only [catching, h, List.append_nil]

theorem attempts_catching_of_error {program : Traced σ α} {handle : StoreError → Traced σ α}
    {error : StoreError} {session after : Session σ}
    (h : program.run session = .error error after) :
    (catching program handle).attempts session =
      program.attempts session ++ (handle error).attempts after := by
  simp only [catching, h]

end Traced

end LiveSheet
