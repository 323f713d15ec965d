import LiveSheet.Proofs.Formula.Names
import LiveSheet.Sheet.Feed
import Mathlib.Logic.Function.Iterate

namespace LiveSheet

/-! Ids are told apart by their canonical forms and by nothing else.  A request folds them
on its way more than once, and what it comes to is the same as if that were done before. -/

variable {sheet otherSheet cell other : String}

theorem canonical_iterate (folds : Nat) (id : String) :
    canonical (canonical^[folds] id) = canonical id := by
  induction folds generalizing id with
  | zero => rfl
  | succ folds ih => rw [Function.iterate_succ_apply, ih, canonical_canonical]

theorem Edges.ofSheet_congr (hsheet : canonical sheet = canonical otherSheet)
    (token : CancelToken) : Edges.ofSheet token sheet = Edges.ofSheet token otherSheet := by
  rw [ofSheet, ofSheet, hsheet]

theorem Engine.solver_congr (hsheet : canonical sheet = canonical otherSheet)
    (engine : Engine) : engine.solver sheet = engine.solver otherSheet := by
  rw [solver, solver, Solver.fresh, Solver.fresh, hsheet]

namespace Solve

variable [Interference σ] (hcell : canonical cell = canonical other)

include hcell

theorem resolve_congr : (resolve cell : Solve σ Resolution) = resolve other := by
  rw [resolve, resolve, maxResolutionDepth, resolveWithin, resolveWithin, resolveWith,
    resolveWith, hcell]

theorem upsert_congr (edges : Edges) (value : String) :
    (upsert edges cell value : Solve σ WriteOutcome) = upsert edges other value := by
  rw [upsert, upsert, hcell]

end Solve

/-- Two names of a cell that every request takes for the same, whatever store it is made
on. -/
structure Engine.Identifies (engine : Engine) (sheet cell otherSheet other : String) :
    Prop where
  getCell : ∀ {σ : Type} [Interference σ],
    (engine.getCell sheet cell : Access σ CellResponse) = engine.getCell otherSheet other
  getSheet : ∀ {σ : Type} [Interference σ],
    (engine.getSheet sheet : Access σ SheetResponse) = engine.getSheet otherSheet
  upsert : ∀ {σ : Type} [Interference σ] (value : String),
    (engine.upsert sheet cell value : Access σ WriteOutcome) =
      engine.upsert otherSheet other value
  createSubscription : ∀ {σ : Type} [Interference σ],
    (engine.createSubscription sheet cell : Access σ String) =
      engine.createSubscription otherSheet other

theorem Engine.identifies (engine : Engine) (hsheet : canonical sheet = canonical otherSheet)
    (hcell : canonical cell = canonical other) :
    engine.Identifies sheet cell otherSheet other where
  getCell := by
    intro σ _
    rw [Engine.getCell, Engine.getCell, Solve.resolve_congr hcell,
      engine.solver_congr hsheet]
  getSheet := by
    intro σ _
    rw [Engine.getSheet, Engine.getSheet, hsheet]
  upsert := by
    intro σ _ value
    rw [Engine.upsert, Engine.upsert, Solve.upsert_congr hcell,
      engine.solver_congr hsheet, Edges.ofSheet_congr hsheet]
  createSubscription := by
    intro σ _
    rw [Engine.createSubscription, Engine.createSubscription, SubscriptionRecord.ofIds,
      SubscriptionRecord.ofIds, hsheet, hcell]

theorem Engine.identifies_iterate (engine : Engine) (sheetFolds cellFolds : Nat)
    (sheet cell : String) :
    engine.Identifies (canonical^[sheetFolds] sheet) (canonical^[cellFolds] cell) sheet cell :=
  engine.identifies (canonical_iterate sheetFolds sheet) (canonical_iterate cellFolds cell)

end LiveSheet
