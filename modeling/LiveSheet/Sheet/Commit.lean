import LiveSheet.Sheet.Dependents

namespace LiveSheet

open LiveSheet.Formula

namespace Edges

variable [Interference σ]

def forEach (token : CancelToken) (call : String → Call) : List String → Access σ Unit
  | [] => pure ()
  | id :: ids => do
      let _ ← Access.request token (call id)
      forEach token call ids

/-- Stores a value and brings the edges in line with what it mentions.  Edges
that only the value before had are taken away first. -/
def commit (edges : Edges) (cell value : String) : Access σ Unit := do
  let { sheet, token } := edges
  let previous ← Access.orAbsent (Access.request token (.getCell sheet cell))
  let _ ← Access.request token (.setCell sheet cell value)
  let mentioned := references cell value
  let mentionedBefore :=
    match previous with
    | some value => references cell value
    | none => Table.empty
  forEach token (.removeDependents sheet · [cell]) (mentionedBefore.without mentioned)
  forEach token (.addDependents sheet · [cell]) mentioned.toList

/-- Publishes the cells on a stack and what depends on them, topmost first and
each once, and collects them. -/
def notifyStack (edges : Edges) : Nat → IdSet → List String → Access σ IdSet
  | bound + 1, visited, cell :: stack =>
      if visited.contains cell then notifyStack edges bound visited stack
      else do
        let topic := Store.topic edges.sheet cell
        let _ ← Access.request edges.token (.publish topic cell)
        let next ← edges.dependents cell
        notifyStack edges bound (visited.insert cell) (next.toList ++ stack)
  | _, visited, _ => pure visited

def notify (edges : Edges) (cell : String) : Access σ Nat := do
  let bound := (← get).store.edgeCount + 1
  let notified ← notifyStack edges bound Table.empty [cell]
  pure notified.toList.length

end Edges

end LiveSheet
