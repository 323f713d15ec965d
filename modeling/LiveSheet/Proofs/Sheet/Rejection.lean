import LiveSheet.Proofs.Sheet.Consideration

namespace LiveSheet

open LiveSheet.Formula

/-! Refused writes.  A write is refused on the word of a session that has kept
results from before; here is shown that the refusal would also come from a fresh
reading of what the write leaves. -/

namespace Store

def Leads (store : Store) (sheet cell dependent : String) : Prop :=
  dependent ∈ (store.dependentsOf sheet cell).toList ∧ store.cell? sheet dependent ≠ none

/-- What a walk along the edges from a cell comes by.  A stale edge leads it to
an id without a cell, from where it does not go on. -/
structure Meets (store : Store) (sheet cell id : String) : Prop where
  canonical : canonical id = id
  reached : store.cell? sheet id ≠ none →
    Relation.ReflTransGen (store.Leads sheet) cell id

theorem canonical_of_mem_dependentsOf {store : Store} {sheet : String}
    (h : ∀ entry ∈ store.dependents.entries, ∀ id ∈ entry.2.toList,
      LiveSheet.canonical id = id) (id : String) :
    ∀ dependent ∈ (store.dependentsOf sheet id).toList,
      LiveSheet.canonical dependent = dependent := by
  intro dependent hdependent
  rw [dependentsOf] at hdependent
  cases hheld : store.dependents.get? (cellKey sheet id) with
  | none =>
      rw [hheld] at hdependent
      exact absurd hdependent (IdSet.not_mem_toList_empty _)
  | some held =>
      rw [hheld] at hdependent
      exact h (_, held) ((Table.get?_eq_some_iff _ _ _).mp hheld) dependent hdependent

theorem meets_self (store : Store) (sheet cell : String) :
    store.Meets sheet (canonical cell) (canonical cell) where
  canonical := canonical_canonical cell
  reached := fun _ => .refl

theorem Meets.dependent {store : Store} {sheet cell id dependent : String}
    (h : store.Meets sheet cell id) (hexists : store.cell? sheet id ≠ none)
    (hdependent : dependent ∈ (store.dependentsOf sheet id).toList)
    (hcanonical : LiveSheet.canonical dependent = dependent) :
    store.Meets sheet cell dependent where
  canonical := hcanonical
  reached := fun hstored => (h.reached hexists).tail ⟨hdependent, hstored⟩

end Store

namespace Page

variable {page : Page} {cell : String}

def Fails (page : Page) (cell : String) : Prop :=
  ∃ error, (page.read cell Table.empty).1 = .error (.formula error)

theorem fails_of_read {results : Table String} (hsound : page.Sound Nesting.none results)
    {error : FormulaError} (h : (page.read cell results).1 = .error (.formula error)) :
    page.Fails cell := by
  have hshared := read_shared hsound cell
  unfold Fails
  generalize page.read cell Table.empty = alone at hshared ⊢
  generalize page.read cell results = among at hshared h
  cases hshared with
  | tooDeep => exact ⟨_, rfl⟩
  | ok => cases h
  | error => exact ⟨error, h⟩

theorem Fails.response (h : page.Fails cell) :
    ∃ response, page.response cell = .ok response ∧ response.error ≠ none := by
  obtain ⟨error, herror⟩ := h
  rw [Page.response, herror]
  exact ⟨_, rfl, Option.some_ne_none _⟩

end Page

variable {page : Page} {store : Store} {session : Session Unit}

theorem Solve.session_of_within {solve : Solve Unit α} {solver : Solver} {world : World Unit} {answer : α}
    (h : (Solve.within solve solver).answer world = .ok answer) :
    ∃ session, solve { solver, world } = .ok answer session := by
  rw [Access.answer, Solve.within] at h
  cases hrun : solve { solver, world } with
  | error error session =>
      rw [hrun] at h
      cases h
  | ok found session =>
      rw [hrun] at h
      cases h
      exact ⟨session, rfl⟩

/-- A write is refused for its own cell, or for one that the validation comes by. -/
theorem Solve.upsert_rejected (edges : Edges) (holds : String → Prop)
    (hstep : ∀ id, holds id → page.text? (canonical id) ≠ none →
      ∀ dependent ∈ (store.dependentsOf edges.sheet id).toList, holds dependent)
    {cell value : String} (hcell : holds (canonical cell))
    (h : Rests page store
      { session with solver := session.solver.setCell (canonical cell) value })
    {response : CellResponse} {final : Session Unit}
    (hrun : Solve.upsert edges cell value session = .ok (.rejected response) final) :
    ∃ id, holds id ∧ page.text? (canonical id) ≠ none ∧ page.Fails id := by
  obtain ⟨results, htracks, hsound⟩ := h
  obtain ⟨result, verdict, after, computed, hconsider, -, -, hjudged, hdecides⟩ :=
    consider_judged edges htracks hsound
  rw [upsert_eq] at hrun
  obtain ⟨answer, middle, hanswer, hanswered⟩ := exists_of_bind_ok hrun
  rw [hconsider] at hanswer
  cases hdecides with
  | accepted =>
      cases hanswer
      obtain ⟨_, _, -, hcommitted⟩ := exists_of_bind_ok hanswered
      cases hcommitted
  | failed => cases hanswer
  | refused =>
      cases hjudged with
      | broken found held sound reads =>
          refine ⟨_, ?_, held, Page.fails_of_read sound reads⟩
          clear held reads
          induction found with
          | refl => exact hcell
          | tail _ hlast ih => exact hstep _ ih hlast.1 _ hlast.2

/-- When a write is refused, its cell or an existing one that depends on it is in
error in the store that differs by the value of the cell alone. -/
theorem Engine.rejected_fails (engine : Engine) {world : World Unit}
    (hfired : world.fired = []) {sheet : String}
    (hids : ∀ id, ∀ dependent ∈ (world.store.dependentsOf (canonical sheet) id).toList,
      canonical dependent = dependent)
    {cell value : String} {response : CellResponse}
    (h : (engine.upsert sheet cell value).answer world = .ok (.rejected response)) :
    ∃ other answer,
      Relation.ReflTransGen
        ((world.store.setCell (canonical sheet) (canonical cell) value).Leads
          (canonical sheet)) (canonical cell) other ∧
      (engine.getCell sheet other).answer
        { world with
          store := world.store.setCell (canonical sheet) (canonical cell) value } =
        .ok answer ∧
      answer.error ≠ none := by
  have hquiet : Quiet world.store world := ⟨rfl, hfired⟩
  have hopened := (engine.solver_tracks sheet hquiet).setCell (canonical cell) value
  rw [page_setCell, canonical_canonical] at hopened
  have hedges (id : String) :
      (world.store.setCell (canonical sheet) (canonical cell) value).dependentsOf
        (canonical sheet) id = world.store.dependentsOf (canonical sheet) id := rfl
  generalize world.store.setCell (canonical sheet) (canonical cell) value = changed
    at hopened hedges ⊢
  have hstep : ∀ id, changed.Meets (canonical sheet) (canonical cell) id →
      changed.cell? (canonical sheet) (canonical id) ≠ none →
      ∀ dependent ∈ (world.store.dependentsOf (canonical sheet) id).toList,
        changed.Meets (canonical sheet) (canonical cell) dependent := by
    intro id hid hexists dependent hdependent
    rw [hid.canonical] at hexists
    exact hid.dependent hexists ((hedges id).symm ▸ hdependent) (hids id dependent hdependent)
  obtain ⟨session, hrun⟩ := Solve.session_of_within h
  obtain ⟨other, hmeets, hexists, hfails⟩ :=
    Solve.upsert_rejected (Edges.ofSheet engine.token sheet) _ hstep
      (changed.meets_self (canonical sheet) cell)
      ⟨Table.empty, hopened, Page.sound_empty _ _⟩ hrun
  obtain ⟨answer, hanswer, herror⟩ := hfails.response
  rw [hmeets.canonical] at hexists
  refine ⟨other, answer, hmeets.reached hexists, ?_, herror⟩
  rw [← hanswer]
  exact (engine.getCell_yields changed sheet other).answer ⟨rfl, hfired⟩

def Engine.linkedWorld : World Unit :=
  { sampleWorld with
    store :=
      (sampleWorld.store.addDependents "s" "a" ["a1", "b"]).addDependents "s" "b" ["c"] }

theorem Engine.rejected_fails_sample :
    linkedWorld.fired = [] ∧
      (Engine.upsert { fetch := Fetch.disabled, token := 0 } "S" "A" "5").answer
        linkedWorld =
        .ok (.rejected
          { value := "5"
            result := errorResult
            error := some (FormulaError.brokenDependent "c" (.cycle "c")).message }) ∧
      ∃ other answer,
        Relation.ReflTransGen
          ((linkedWorld.store.setCell (canonical "S") (canonical "A") "5").Leads
            (canonical "S")) (canonical "A") other ∧
        (Engine.getCell { fetch := Fetch.disabled, token := 0 } "S" other).answer
          { linkedWorld with
            store := linkedWorld.store.setCell (canonical "S") (canonical "A") "5" } =
          .ok answer ∧
        answer.error ≠ none := by
  have hids : ∀ id,
      ∀ dependent ∈ (linkedWorld.store.dependentsOf (canonical "S") id).toList,
        canonical dependent = dependent := by
    apply Store.canonical_of_mem_dependentsOf
    decide +kernel
  have hrejected : (Engine.upsert { fetch := Fetch.disabled, token := 0 } "S" "A" "5").answer
      linkedWorld =
      .ok (.rejected
        { value := "5"
          result := errorResult
          error := some (FormulaError.brokenDependent "c" (.cycle "c")).message }) := by
    decide +kernel
  exact ⟨rfl, hrejected, rejected_fails _ rfl hids hrejected⟩

end LiveSheet
