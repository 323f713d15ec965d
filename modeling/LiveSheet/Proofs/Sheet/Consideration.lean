import LiveSheet.Proofs.Sheet.Notification
import LiveSheet.Proofs.Sheet.Sessions
import LiveSheet.Sheet.Upsert

namespace LiveSheet

open LiveSheet.Formula
open Relation

/-! What a write considers before it stores anything.  It reads its own cell, and then the
cells that can be reached from there, on the page that holds its value. -/

namespace Solve

theorem onWorld_bind {α β : Type} (access : Access σ α) (next : α → Access σ β) :
    onWorld (access >>= next) = onWorld access >>= fun answer => onWorld (next answer) := by
  funext session
  cases hrun : access session.world with
  | ok answer world =>
      have hfirst : onWorld access session = .ok answer { session with world } := by
        rw [onWorld, hrun]
      rw [bind_of_ok hfirst, onWorld, onWorld, bind_of_ok hrun]
  | error error world =>
      have hfirst : onWorld access session = .error error { session with world } := by
        rw [onWorld, hrun]
      rw [bind_of_error hfirst, onWorld, bind_of_error hrun]

theorem within_bind_onWorld {α β : Type} (solve : Solve σ α) (next : α → Access σ β)
    (solver : Solver) :
    within (solve >>= fun answer => onWorld (next answer)) solver =
      within solve solver >>= next := by
  funext world
  cases hrun : solve { solver, world } with
  | ok answer session =>
      have hfirst : within solve solver world = .ok answer session.world := by
        rw [within, hrun]
      rw [bind_of_ok hfirst, within, bind_of_ok hrun, onWorld]
      cases next answer session.world <;> rfl
  | error error session =>
      have hfirst : within solve solver world = .error error session.world := by
        rw [within, hrun]
      rw [bind_of_error hfirst, within, bind_of_error hrun]

section

variable [Interference σ]

/-- All that a write does before it stores anything, with the response of one that
is accepted, or else that of its refusal. -/
def consider (edges : Edges) (cell value : String) :
    Solve σ (Except CellResponse CellResponse) := do
  onSolver (·.setCell cell value)
  let resolution ← resolve cell
  match resolution.outcome with
  | .error _ => pure (.error resolution.response)
  | .ok _ =>
      match ← validateDependents edges cell with
      | some error =>
          pure (.error { value, result := errorResult, error := some error.message })
      | none => pure (.ok resolution.response)

theorem upsert_eq (edges : Edges) (cell value : String) :
    (upsert edges cell value : Solve σ WriteOutcome) = (do
      match ← consider edges (canonical cell) value with
      | .error response => pure (.rejected response)
      | .ok response =>
          onWorld (store edges (canonical cell) value)
          pure (.committed response)) := by
  -- Both sides make the same steps up to the verdict, which only one of them names.
  simp only [upsert, consider, bind_assoc]
  refine bind_congr fun _ => bind_congr fun resolution => ?_
  cases resolution.outcome with
  | error error => simp only [pure_bind]
  | ok text =>
      simp only [bind_assoc]
      refine bind_congr fun fault => ?_
      cases fault <;> simp only [pure_bind]

end

end Solve

variable {page : Page} {store : Store} {nesting : Nesting} {results : Table String}
  {solver : Solver} {world : World Unit} {cell value : String}

theorem Tracks.text_of_setCell
    (h : Tracks page store nesting results { solver := solver.setCell cell value, world }) :
    page.text? (canonical cell) = some value := by
  have htext := h.text (canonical cell)
  change ((solver.values.insert (canonical cell) value).get? (canonical cell)).or _ = _ at htext
  rw [Table.get?_insert, if_pos rfl, Option.some_or] at htext
  exact htext.symm

namespace Solve

inductive Decides (page : Page) (cell : String) (results : Table String) :
    Except StoreError (Option FormulaError) →
      Except StoreError (Except CellResponse CellResponse) → Prop
  | accepted {response : CellResponse}
      (answers : page.responseTo cell (page.read cell results).1 = .ok response)
      (computes : response.error = none) :
      Decides page cell results (.ok none) (.ok (.ok response))
  | refused {fault : FormulaError} {response : CellResponse} :
      Decides page cell results (.ok (some fault)) (.ok (.error response))
  | failed {error : StoreError} : Decides page cell results (.error error) (.error error)

theorem consider_decides (edges : Edges) {order : List String}
    (h : Tracks page store Nesting.none results { solver := solver.setCell cell value, world })
    (horder : DepthFirst (page.dependentIds store edges.sheet) {cell}
      (store.dependentIds edges.sheet cell) order) :
    ∃ result after, consider edges cell value { solver, world } = endsWith after result ∧
      Tracks page store Nesting.none (page.judge Nesting.none (cell :: order) results).2 after ∧
      Decides page cell results (page.judge Nesting.none (cell :: order) results).1 result := by
  have hset : (onSolver (·.setCell cell value) : Solve Unit Unit) { solver, world } =
      .ok () { solver := solver.setCell cell value, world } := rfl
  have hexists : page.text? (canonical cell) ≠ none := by simp [h.text_of_setCell]
  have hmatches := resolve_matches cell results _ h
  rcases hread : page.read cell results with ⟨reading, middle⟩
  rw [hread] at hmatches
  rw [consider, bind_of_ok hset]
  -- The cell itself is judged first, as the head of the list.
  cases hrun : resolve cell { solver := solver.setCell cell value, world } with
  | error error after =>
      rw [hrun] at hmatches
      obtain ⟨hafter, rfl⟩ := hmatches
      rw [Page.judge_stopped hexists hread]
      exact ⟨.error error, after, bind_of_error hrun, hafter, .failed⟩
  | ok resolution after =>
      rw [hrun] at hmatches
      obtain ⟨hafter, hseen⟩ := hmatches
      have hanswers := Page.responseTo_of_seen hseen
      obtain ⟨-, rfl⟩ := hseen
      rw [bind_of_ok hrun]
      cases houtcome : resolution.outcome with
      | error source =>
          rw [houtcome] at hread
          rw [Page.judge_failed hexists hread]
          exact ⟨.ok (.error resolution.response), after, rfl, hafter, .refused⟩
      | ok text =>
          have hcomputes : resolution.response.error = none := by
            simp [Resolution.response, houtcome]
          rw [← hread] at hanswers
          rw [houtcome] at hread
          rw [Page.judge_computed hexists hread]
          obtain ⟨last, hvalidate, hlast⟩ := validateDependents_judges edges hafter horder
          dsimp only
          rcases hjudge : page.judge Nesting.none order middle with
            ⟨error | _ | fault, computed⟩ <;> rw [hjudge] at hvalidate hlast
          · exact ⟨.error error, last, bind_of_error hvalidate, hlast, .failed⟩
          · rw [bind_of_ok hvalidate]
            exact ⟨.ok (.ok resolution.response), last, rfl, hlast,
              .accepted hanswers hcomputes⟩
          · rw [bind_of_ok hvalidate]
            exact ⟨.ok (.error _), last, rfl, hlast, .refused⟩

/-- From sound results, a write is decided by what can be reached from its cell. -/
theorem consider_judged (edges : Edges)
    (h : Tracks page store Nesting.none results { solver := solver.setCell cell value, world })
    (hsound : page.Sound Nesting.none results) :
    ∃ result verdict after computed,
      consider edges cell value { solver, world } = endsWith after result ∧
      Quiet store after.world ∧ page.Sound Nesting.none computed ∧
      page.Judged (ReflTransGen (page.Follows store edges.sheet) cell) computed verdict ∧
      Decides page cell results verdict result := by
  obtain ⟨order, horder⟩ := exists_validation_order page store edges.sheet cell
  obtain ⟨result, after, hrun, hafter, hdecides⟩ := consider_decides edges h horder
  obtain ⟨hcomputed, -, hjudged⟩ := Page.judge_judged hsound (cell :: order)
  have hexists : page.text? (canonical cell) ≠ none := by simp [h.text_of_setCell]
  have hreached := funext fun id => propext (Page.mem_cons_order_iff horder hexists id)
  rw [hreached] at hjudged
  exact ⟨result, _, after, _, hrun, hafter.quiet, hcomputed, hjudged, hdecides⟩

end Solve

namespace Engine

section

variable [Interference σ]

def consider (engine : Engine) (sheet cell value : String) :
    Access σ (Except CellResponse CellResponse) :=
  Solve.within
    (Solve.consider (Edges.ofSheet engine.token sheet) (canonical cell) value)
    (engine.solver sheet)

theorem upsert_eq (engine : Engine) (sheet cell value : String) :
    (engine.upsert sheet cell value : Access σ WriteOutcome) = (do
      match ← engine.consider sheet cell value with
      | .error response => pure (.rejected response)
      | .ok response =>
          Solve.store (Edges.ofSheet engine.token sheet) (canonical cell) value
          pure (.committed response)) := by
  have hupsert (edges : Edges) :
      (Solve.upsert edges cell value : Solve σ WriteOutcome) = (do
        let verdict ← Solve.consider edges (canonical cell) value
        Solve.onWorld (match verdict with
          | .error response => pure (.rejected response)
          | .ok response => do
              Solve.store edges (canonical cell) value
              pure (.committed response))) := by
    rw [Solve.upsert_eq]
    refine bind_congr fun verdict => ?_
    cases verdict with
    | error response => rfl
    | ok response =>
        rw [Solve.onWorld_bind]
        rfl
  rw [upsert, hupsert]
  exact Solve.within_bind_onWorld _ _ _

end

theorem page_setCell (engine : Engine) (store : Store) (sheet cell value : String) :
    (engine.page store sheet).setCell cell value =
      engine.page (store.setCell sheet (canonical cell) value) sheet := by
  unfold page Page.setCell
  simp only [Page.mk.injEq, true_and, and_true]
  funext other
  simp only [Store.cell?_setCell, true_and]

def proposal (engine : Engine) (store : Store) (sheet cell value : String) : Page :=
  engine.page (store.setCell sheet cell value) sheet

theorem proposal_tracks (engine : Engine) (sheet cell value : String) (h : Quiet store world) :
    Tracks (engine.proposal store (canonical sheet) (canonical cell) value) store Nesting.none
      Table.empty { solver := (engine.solver sheet).setCell (canonical cell) value, world } := by
  have hopened := (engine.solver_tracks sheet h).setCell (canonical cell) value
  rw [page_setCell, canonical_canonical] at hopened
  exact hopened

theorem proposal_eq_commit (engine : Engine) (store : Store) (sheet cell value : String) :
    engine.proposal store sheet cell value =
      engine.page (store.commit sheet cell value) sheet :=
  engine.page_congr fun other => by rw [Store.cell?_setCell, Store.cell?_commit]

end Engine

/-- How a write ends on a store that nothing interferes with, and the store that it leaves.
When it is committed, the existing cells that can be reached from its own are known; otherwise
it is an existing cell that stops it. -/
inductive WriteEnds (engine : Engine) (store : Store) (sheet cell value : String) :
    Except StoreError WriteOutcome → Store → Prop
  | committed {response : CellResponse} {computed : Table String} {told : List String}
      (answers : (engine.proposal store sheet cell value).response cell = .ok response)
      (computes : response.error = none)
      (derived : (engine.proposal store sheet cell value).Derived computed)
      (known : ∀ id,
        ReflTransGen ((engine.proposal store sheet cell value).Follows store sheet) cell id →
        (engine.proposal store sheet cell value).text? (canonical id) ≠ none →
        (engine.proposal store sheet cell value).Knows computed id)
      (reached : ∀ id, id ∈ told ↔
        ReflTransGen ((store.commit sheet cell value).Informs sheet) cell id) :
      WriteEnds engine store sheet cell value (.ok (.committed response))
        ((store.commit sheet cell value).announce sheet told)
  | rejected {response : CellResponse} {id : String} {source : FormulaError}
      {results : Table String}
      (held : (engine.proposal store sheet cell value).text? (canonical id) ≠ none)
      (sound : (engine.proposal store sheet cell value).Sound Nesting.none results)
      (reads : ((engine.proposal store sheet cell value).read id results).1 =
        .error (.formula source)) :
      WriteEnds engine store sheet cell value (.ok (.rejected response)) store
  | failed {id : String} {error : StoreError} {results : Table String}
      (held : (engine.proposal store sheet cell value).text? (canonical id) ≠ none)
      (sound : (engine.proposal store sheet cell value).Sound Nesting.none results)
      (reads : ((engine.proposal store sheet cell value).read id results).1 =
        .error (.request error)) :
      WriteEnds engine store sheet cell value (.error error) store

/-- Every write comes to an end. -/
theorem Engine.exists_writeEnds (engine : Engine) (sheet cell value : String)
    (h : Quiet store world) :
    ∃ result final after, engine.upsert sheet cell value world = endsWith final result ∧
      Quiet after final ∧
      WriteEnds engine store (canonical sheet) (canonical cell) value result after := by
  obtain ⟨result, verdict, session, computed, hrun, hquiet, hcomputed, hjudged, hdecides⟩ :=
    Solve.consider_judged (Edges.ofSheet engine.token sheet)
      (engine.proposal_tracks sheet cell value h) (Page.sound_empty _ _)
  have hconsider : engine.consider sheet cell value world = endsWith session.world result :=
    Solve.within_ends hrun
  rw [upsert_eq]
  cases hdecides with
  | accepted answers computes =>
      cases hjudged with
      | passed known =>
          obtain ⟨told, htold, hyields⟩ := Solve.store_announces
            (Edges.ofSheet engine.token sheet) (canonical cell) value store
          obtain ⟨final, hfinal, hstore⟩ := hyields session.world hquiet
          rw [bind_of_ok hconsider]
          exact ⟨.ok (.committed _), final, _, bind_of_ok hstore, hfinal,
            .committed answers computes hcomputed.derived known htold⟩
  | refused =>
      cases hjudged with
      | broken _ held sound reads =>
          exact ⟨.ok (.rejected _), session.world, store, bind_of_ok hconsider, hquiet,
            .rejected held sound reads⟩
  | failed =>
      cases hjudged with
      | failed _ held sound reads =>
          exact ⟨.error _, session.world, store, bind_of_error hconsider, hquiet,
            .failed held sound reads⟩

end LiveSheet
