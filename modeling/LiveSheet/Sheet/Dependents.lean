import LiveSheet.Sheet.Resolve

namespace LiveSheet

open LiveSheet.Formula

/-! The dependents of a cell, all the way along the stored edges.  The edges of
a cell lead to the cells whose formulas mention it. -/

structure Edges where
  sheet : String
  token : CancelToken

namespace Edges

def ofSheet (token : CancelToken) (sheet : String) : Edges :=
  { sheet := canonical sheet, token }

variable [Interference σ]

def dependents (edges : Edges) (cell : String) : Access σ IdSet :=
  Access.request edges.token (.getDependents edges.sheet cell)

end Edges

namespace Solve

variable [Interference σ]

/-- The cell as it resolves, unless the edge to it is stale. -/
def resolveExisting (cell : String) : Solve σ (Option Resolution) :=
  tryCatch (some <$> resolve cell) fun error =>
    if error.isNotFound then pure none else throw error

/-- Resolves the cells on a stack and what depends on them, topmost first and
each at most once, up to the first failure.  Every step takes a cell off the
stack and every edge puts one on it at most once. -/
def validateStack (edges : Edges) :
    Nat → IdSet → List String → Solve σ (Option FormulaError)
  | bound + 1, visited, cell :: stack =>
      if visited.contains cell then validateStack edges bound visited stack
      else do
        match ← resolveExisting cell with
        | none => validateStack edges bound (visited.insert cell) stack
        | some resolution =>
            match resolution.outcome with
            | .error source => pure (some (.brokenDependent cell source))
            | .ok _ =>
                let next ← onWorld (edges.dependents cell)
                validateStack edges bound (visited.insert cell) (next.toList ++ stack)
  | _, _, _ => pure none

/-- The first dependent of `cell`, depth first and in the order of ids, that
does not compute. -/
def validateDependents (edges : Edges) (cell : String) :
    Solve σ (Option FormulaError) := do
  let bound := (← get).world.store.edgeCount
  let direct ← onWorld (edges.dependents cell)
  validateStack edges bound (IdSet.insert Table.empty cell) direct.toList

end Solve

end LiveSheet
