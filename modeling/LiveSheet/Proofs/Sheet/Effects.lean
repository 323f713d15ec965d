import LiveSheet.Console.Fault
import LiveSheet.Proofs.Sheet.Consideration
import LiveSheet.Proofs.Sheet.Recursion
import LiveSheet.Proofs.Store.Effects

namespace LiveSheet

open LiveSheet.Formula

/-! What a write does to a store, in any surroundings.  Before it is accepted it
only looks; once it is committed, all that it was to do has been done. -/

namespace Solve

variable {kind : Call → Prop}

theorem onWorld_makes {access : Access σ α} (h : Makes id kind access) :
    Makes Session.world kind (onWorld access) := by
  intro session
  rw [onWorld]
  cases hrun : access session.world with
  | ok answer world => exact h.becomes_of_ok hrun
  | error error world => exact h.becomes_of_error hrun

theorem onSolver_makes (change : Solver → Solver) :
    Makes Session.world kind (onSolver change : Solve σ Unit) :=
  fun _ => .refl

theorem within_makes {solve : Solve σ α} (h : Makes Session.world kind solve)
    (solver : Solver) : Makes id kind (within solve solver) := by
  intro world
  rw [within]
  cases hrun : solve { solver, world } with
  | ok answer session => exact h.becomes_of_ok hrun
  | error error session => exact h.becomes_of_error hrun

theorem evaluating_makes {body : Solve σ α} (h : Makes Session.world kind body)
    (cell : String) (cost : Nat) :
    Makes Session.world kind (evaluating cell cost body) := by
  intro session
  rw [evaluating]
  -- Entering and leaving the cell change the solver alone.
  have hbody := h { session with solver := session.solver.enter cell cost }
  cases hrun : body { session with solver := session.solver.enter cell cost } with
  | ok answer after =>
      rw [hrun] at hbody
      exact hbody
  | error error after =>
      rw [hrun] at hbody
      exact hbody

def Looks (solve : Solve σ α) : Prop :=
  Makes Session.world (·.isRead = true) solve

variable [Interference σ]

theorem request_makes {call : Call} (h : kind call) :
    Makes Session.world kind (request call : Solve σ call.Answer) :=
  fun session => onWorld_makes (Access.request_makes session.solver.token h) session

theorem rawValue_looks (cell : String) : (rawValue cell : Solve σ String).Looks := by
  refine makes_get.bind fun session => ?_
  dsimp only
  split
  · exact makes_pure _
  · have hget : Looks (request (.getCell session.solver.sheet cell) : Solve σ String) :=
      request_makes rfl
    exact hget.bind fun value => (onSolver_makes _).bind fun _ => makes_pure value

theorem looks_carries : Carries (σ := σ)
    fun before after => World.Becomes (·.isRead = true) before.world after.world where
  refl := fun _ => .refl
  trans := .trans
  read := fun cell => makes_iff_moves.mp (rawValue_looks cell)
  evaluate := fun hbody session _ _ =>
    makes_iff_moves.mp (evaluating_makes (makes_iff_moves.mpr hbody) _ _) session
  keep := fun _ _ _ => .refl

theorem resolve_looks (cell : String) : (resolve cell : Solve σ Resolution).Looks :=
  makes_iff_moves.mpr (looks_carries.resolve cell)

theorem resolveExisting_looks (cell : String) :
    (resolveExisting cell : Solve σ (Option Resolution)).Looks := by
  refine ((resolve_looks cell).map some).tryCatch fun error => ?_
  split
  · exact makes_pure none
  · exact makes_throw error

theorem validateStack_looks (edges : Edges) (bound : Nat) (visited : IdSet)
    (stack : List String) :
    (validateStack edges bound visited stack : Solve σ (Option FormulaError)).Looks := by
  induction bound generalizing visited stack with
  | zero => cases stack <;> exact makes_pure none
  | succ bound ih =>
      cases stack with
      | nil => exact makes_pure none
      | cons cell stack =>
          rw [validateStack]
          split
          · exact ih visited stack
          refine (resolveExisting_looks cell).bind fun found => ?_
          cases found with
          | none => exact ih _ _
          | some resolution =>
              dsimp only
              split
              · exact makes_pure _
              · exact (onWorld_makes (edges.dependents_makes cell)).bind fun next => ih _ _

theorem validateDependents_looks (edges : Edges) (cell : String) :
    (validateDependents edges cell : Solve σ (Option FormulaError)).Looks :=
  makes_get.bind fun _ => (onWorld_makes (edges.dependents_makes cell)).bind fun direct =>
    validateStack_looks edges _ _ direct.toList

theorem consider_looks (edges : Edges) (cell value : String) :
    (consider edges cell value : Solve σ (Except CellResponse CellResponse)).Looks := by
  refine (onSolver_makes _).bind fun _ => (resolve_looks cell).bind fun resolution => ?_
  split
  · exact makes_pure _
  refine (validateDependents_looks edges cell).bind fun fault => ?_
  cases fault with
  | some error => exact makes_pure _
  | none => exact makes_pure _

end Solve

namespace Edges

open Access

def Tells (sheet : String) (call : Call) : Prop :=
  call.isRead = true ∨ ∃ id, call = .publish (Store.topic sheet id) id

theorem announced_of_becomes {sheet : String} {before after : World σ}
    (h : World.Becomes (Tells sheet) before after) :
    ∃ told, after.store = before.store.announce sheet told := by
  refine h.preserves (fun store => ∃ told, store = before.store.announce sheet told)
    (fun call htells store => ?_) ⟨[], rfl⟩
  rintro ⟨told, rfl⟩
  rcases htells with hread | ⟨id, rfl⟩
  · exact ⟨told, Call.perform_of_isRead hread _⟩
  · refine ⟨told ++ [id], ?_⟩
    rw [Store.announce, Store.announce, List.foldl_append]
    rfl

variable [Interference σ]

theorem notifyStack_makes (edges : Edges) (bound : Nat) (visited : IdSet)
    (stack : List String) :
    Makes id (Tells edges.sheet)
      (edges.notifyStack bound visited stack : Access σ IdSet) := by
  induction bound generalizing visited stack with
  | zero => cases stack <;> exact makes_pure visited
  | succ bound ih =>
      cases stack with
      | nil => exact makes_pure visited
      | cons cell stack =>
          rw [notifyStack]
          split
          · exact ih visited stack
          · refine (request_makes edges.token (Or.inr ⟨cell, rfl⟩)).bind fun _ => ?_
            exact (request_makes edges.token (Or.inl rfl)).bind fun next => ih _ _

theorem notify_makes (edges : Edges) (cell : String) :
    Makes id (Tells edges.sheet) (edges.notify cell : Access σ Nat) :=
  makes_get.bind fun _ => (notifyStack_makes edges _ _ _).bind fun _ => makes_pure _

end Edges

namespace Solve

variable [Interference σ] {edges : Edges} {cell value : String} {world after : World σ}

theorem store_ok (hrun : store edges cell value world = .ok () after) :
    ∃ stored, edges.commit cell value world = .ok () stored ∧
      World.Becomes (Edges.Tells edges.sheet) stored after := by
  obtain ⟨_, stored, hcommit, htell⟩ := exists_of_bind_ok hrun
  have hnotify : Makes id (Edges.Tells edges.sheet)
      (do let _ ← edges.notify cell; pure () : Access σ Unit) :=
    (edges.notify_makes cell).bind fun _ => makes_pure ()
  exact ⟨stored, hcommit, (hnotify.tryCatch fun _ => makes_pure ()).becomes_of_ok htell⟩

/-- Only the commit can fail, as a failure to tell is passed over. -/
theorem store_error {error : StoreError}
    (hrun : store edges cell value world = .error error after) :
    edges.commit cell value world = .error error after := by
  rcases bind_error_cases hrun with hcommit | ⟨_, stored, -, htell⟩
  · exact hcommit
  · cases hnotify : (do let _ ← edges.notify cell; pure () : Access σ Unit) stored with
    | ok _ told => cases htell.symm.trans (tryCatch_of_ok hnotify)
    | error failure told => cases htell.symm.trans (tryCatch_of_error hnotify)

end Solve

/-- All that a write was to do has been done. -/
structure World.CarriedOut (sheet cell value : String) (before after : World σ) : Prop where
  calls : ∃ looked told,
    after.calls =
      told ++ (before.store.commitCalls sheet cell value).reverse ++ looked ++ before.calls ∧
    (∀ call ∈ looked, call.isRead = true) ∧ ∀ call ∈ told, Edges.Tells sheet call
  store : ∃ told, after.store = (before.store.commit sheet cell value).announce sheet told
  held : after.store.cell? sheet cell = some value
  removed : ∀ id ∈ (before.store.mentioned sheet cell).toList,
    id ∉ (references cell value).toList → cell ∉ (after.store.dependentsOf sheet id).toList
  added : ∀ id ∈ (references cell value).toList,
    cell ∈ (after.store.dependentsOf sheet id).toList

theorem World.Untouched.carriedOut [Interference σ] {edges : Edges} {cell value : String}
    {before accepted stored after : World σ} (h : before.Untouched accepted)
    (hcommit : edges.commit cell value accepted = .ok () stored)
    (htell : Becomes (Edges.Tells edges.sheet) stored after) :
    before.CarriedOut edges.sheet cell value after := by
  obtain ⟨looked, hlooked, hreads⟩ := h.calls
  obtain ⟨hstored, hmade⟩ := Edges.commit_ok hcommit
  obtain ⟨news, hnews, htells⟩ := htell.calls
  obtain ⟨told, htold⟩ := Edges.announced_of_becomes htell
  rw [h.store] at hstored hmade
  rw [hstored] at htold
  -- What is told later touches neither cells nor edges, so both are those of the commit.
  refine ⟨⟨looked, news, ?_, hreads, htells⟩, ⟨told, htold⟩, ?_, ?_, ?_⟩
  · rw [hnews, hmade, hlooked, List.append_assoc, List.append_assoc]
  · rw [htold, Store.cell?_announce, Store.cell?_commit, if_pos ⟨rfl, rfl⟩]
  · intro id hmentioned hgone
    obtain ⟨text, -, hid⟩ := Store.mem_mentioned.mp hmentioned
    rw [htold, Store.dependentsOf_announce,
      Store.mem_dependentsOf_commit (slash_not_mem_of_mem_references hid)]
    rintro (⟨-, -, hmentions⟩ | ⟨-, hkept⟩)
    · exact hgone hmentions
    · exact hkept ⟨rfl, rfl, hmentioned⟩
  · intro id hmentions
    rw [htold, Store.dependentsOf_announce,
      Store.mem_dependentsOf_commit (slash_not_mem_of_mem_references hmentions)]
    exact Or.inl ⟨rfl, rfl, hmentions⟩

namespace Engine

variable [Interference σ]

/-- A write that is refused, or fails before its value has reached the store, leaves
nothing behind; one that is committed has been carried out. -/
theorem upsert_ends (engine : Engine) (world : World σ) (sheet cell value : String) :
    (∀ response final,
      engine.upsert sheet cell value world = .ok (.rejected response) final →
      world.Untouched final) ∧
    (∀ error final, engine.upsert sheet cell value world = .error error final →
      (engine.consider sheet cell value world = .error error final ∧
        world.Untouched final) ∨
      ∃ response accepted,
        engine.consider sheet cell value world = .ok (.ok response) accepted ∧
        world.Untouched accepted ∧
        (world.Untouched final ∨ ∃ made, final.calls =
          made ++ .setCell (canonical sheet) (canonical cell) value ::
            .getCell (canonical sheet) (canonical cell) :: accepted.calls)) ∧
    ∀ response final,
      engine.upsert sheet cell value world = .ok (.committed response) final →
      world.CarriedOut (canonical sheet) (canonical cell) value final := by
  have hlooks : Makes id (·.isRead = true) (engine.consider sheet cell value : Access σ _) :=
    Solve.within_makes (Solve.consider_looks _ _ _) _
  rw [upsert_eq]
  cases hconsider : engine.consider sheet cell value world with
  | error error final =>
      rw [bind_of_error hconsider]
      refine ⟨nofun, fun _ _ h => ?_, nofun⟩
      cases h
      exact Or.inl ⟨rfl, (hlooks.becomes_of_error hconsider).untouched⟩
  | ok verdict accepted =>
      have haccepted := (hlooks.becomes_of_ok hconsider).untouched
      rw [bind_of_ok hconsider]
      cases verdict with
      | error response =>
          refine ⟨fun _ _ h => ?_, nofun, nofun⟩
          cases h
          exact haccepted
      | ok response =>
          dsimp only
          cases hstore : Solve.store (Edges.ofSheet engine.token sheet) (canonical cell) value
              accepted with
          | ok _ final =>
              rw [bind_of_ok hstore]
              refine ⟨nofun, nofun, fun _ _ h => ?_⟩
              cases h
              obtain ⟨stored, hcommit, htell⟩ := Solve.store_ok hstore
              exact haccepted.carriedOut hcommit htell
          | error error final =>
              rw [bind_of_error hstore]
              refine ⟨nofun, fun _ _ h => ?_, nofun⟩
              cases h
              exact Or.inr ⟨response, accepted, rfl, haccepted,
                (Edges.commit_error (Solve.store_error hstore)).imp_left haccepted.trans⟩

def faultyWorld : World Faults :=
  { store :=
      ((Store.empty.setCell "s" "a" "1").setCell "s" "b" "=A+1").addDependents "s" "a" ["b"]
    calls := []
    fired := []
    conditions :=
      { current := 0
        faults :=
          [{ call := "get_dependents", key := "s/a", skip := 0, reason := some "down" },
            { call := "publish", key := "", skip := 0, reason := some "down" }] } }

theorem upsert_ends_sample :
    ((Engine.upsert { fetch := Fetch.disabled, token := 0 } "S" "A" "5").answer faultyWorld =
        .error (.backend "down") ∧
      faultyWorld.Untouched
        ((Engine.upsert { fetch := Fetch.disabled, token := 0 } "S" "A" "5").leaves
          faultyWorld)) ∧
    ((Engine.upsert { fetch := Fetch.disabled, token := 0 } "S" "A" "=b").answer faultyWorld =
        .ok (.rejected
          { value := "=b"
            result := errorResult
            error := some (FormulaError.cycle "a").message }) ∧
      faultyWorld.Untouched
        ((Engine.upsert { fetch := Fetch.disabled, token := 0 } "S" "A" "=b").leaves
          faultyWorld)) ∧
    (Engine.upsert { fetch := Fetch.disabled, token := 0 } "S" "B" "7").answer faultyWorld =
        .ok (.committed { value := "7", result := "7", error := none }) ∧
      faultyWorld.CarriedOut (canonical "S") (canonical "B") "7"
        ((Engine.upsert { fetch := Fetch.disabled, token := 0 } "S" "B" "7").leaves
          faultyWorld) := by
  have hfailed : (Engine.upsert { fetch := Fetch.disabled, token := 0 } "S" "A" "5").answer
      faultyWorld = .error (.backend "down") := by
    decide +kernel
  have hstopped : (Engine.consider { fetch := Fetch.disabled, token := 0 } "S" "A" "5").answer
      faultyWorld = .error (.backend "down") := by
    decide +kernel
  have hrejected : (Engine.upsert { fetch := Fetch.disabled, token := 0 } "S" "A" "=b").answer
      faultyWorld = .ok (.rejected
        { value := "=b"
          result := errorResult
          error := some (FormulaError.cycle "a").message }) := by
    decide +kernel
  have hcommitted : (Engine.upsert { fetch := Fetch.disabled, token := 0 } "S" "B" "7").answer
      faultyWorld = .ok (.committed { value := "7", result := "7", error := none }) := by
    decide +kernel
  refine ⟨⟨hfailed, ?_⟩, ⟨hrejected, ?_⟩, hcommitted, ?_⟩
  · rcases (upsert_ends _ faultyWorld "S" "A" "5").2.1 _ _ (Access.eq_endsWith hfailed) with
      ⟨-, huntouched⟩ | ⟨response, accepted, haccepted, -⟩
    · exact huntouched
    · rw [Access.answer, haccepted] at hstopped
      cases hstopped
  · exact (upsert_ends _ faultyWorld "S" "A" "=b").1 _ _ (Access.eq_endsWith hrejected)
  · exact (upsert_ends _ faultyWorld "S" "B" "7").2.2 _ _ (Access.eq_endsWith hcommitted)

end Engine

end LiveSheet
