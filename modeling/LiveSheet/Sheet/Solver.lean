import LiveSheet.External.Fetch
import LiveSheet.Formula.Evaluate
import LiveSheet.Sheet.Resolution
import LiveSheet.Store.World

namespace LiveSheet

open LiveSheet.Formula

/-! A solver resolves cells of one sheet within one session.  It reads each cell
once, remembers the results of formulas, and bounds how deep they nest. -/

/-- A formula that is being evaluated costs its height and one more; the sum
over all of them stays within this limit. -/
def maxResolutionDepth : Nat := 512

structure Solver where
  sheet : String
  token : CancelToken
  fetch : Fetch
  /-- Texts of cells: those set for this session and those read before. -/
  values : Table String
  cache : Table String
  inProgress : List String
  nesting : Nat
  started : List String

namespace Solver

def fresh (fetch : Fetch) (token : CancelToken) (sheet : String) : Solver :=
  { sheet := canonical sheet
    token
    fetch
    values := Table.empty
    cache := Table.empty
    inProgress := []
    nesting := 0
    started := [] }

def setCell (solver : Solver) (cell value : String) : Solver :=
  let cell := canonical cell
  { solver with
    cache := solver.cache.erase cell
    values := solver.values.insert cell value }

def remember (solver : Solver) (cell value : String) : Solver :=
  { solver with values := solver.values.insert cell value }

def keepResult (solver : Solver) (cell result : String) : Solver :=
  { solver with cache := solver.cache.insert cell result }

def enter (solver : Solver) (cell : String) (cost : Nat) : Solver :=
  { solver with
    inProgress := cell :: solver.inProgress
    nesting := solver.nesting + cost
    started := cell :: solver.started }

def leave (solver : Solver) (cell : String) (cost : Nat) : Solver :=
  { solver with
    inProgress := solver.inProgress.erase cell
    nesting := solver.nesting - cost }

def seed (solver : Solver) (cells : List (String × String)) : Solver :=
  { solver with
    values := cells.foldl
      (fun values entry => values.insertNew (canonical entry.1) entry.2)
      solver.values }

end Solver

structure Session (σ : Type) where
  solver : Solver
  world : World σ

abbrev Solve (σ : Type) := EStateM StoreError (Session σ)

namespace Solve

def onWorld (access : Access σ α) : Solve σ α := fun session =>
  match access session.world with
  | .ok answer world => .ok answer { session with world }
  | .error error world => .error error { session with world }

def onSolver (change : Solver → Solver) : Solve σ Unit := fun session =>
  .ok () { session with solver := change session.solver }

def within (solve : Solve σ α) (solver : Solver) : Access σ α := fun world =>
  match solve { solver, world } with
  | .ok answer session => .ok answer session.world
  | .error error session => .error error session.world

/-- Runs `body` as the evaluation of a cell, which ends with it however it
ends. -/
def evaluating (cell : String) (cost : Nat) (body : Solve σ α) : Solve σ α :=
  fun session =>
    match body { session with solver := session.solver.enter cell cost } with
    | .ok answer session =>
        .ok answer { session with solver := session.solver.leave cell cost }
    | .error error session =>
        .error error { session with solver := session.solver.leave cell cost }

end Solve

end LiveSheet
