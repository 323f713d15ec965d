import LiveSheet.Proofs.Sheet.Failures
import LiveSheet.Proofs.Store.DepthFirst

namespace LiveSheet

open LiveSheet.Formula
open Relation

/-! The verdict of a validation.  It passes when each existing cell that it comes by computes
when its turn comes, and is broken by the first that does not. -/

namespace Page

variable (page : Page)

def readAfter (nesting : Nesting) (cells : List String) (results : Table String) :
    Table String :=
  cells.foldl (fun results cell => (page.readUnder nesting cell results).2) results

/-- Every existing cell of a list comes to a text when its turn comes. -/
def ComputesInTurn (nesting : Nesting) (cells : List String) (results : Table String) : Prop :=
  ∀ earlier cell later, cells = earlier ++ cell :: later →
    page.text? (canonical cell) ≠ none →
    ∃ text, (page.readUnder nesting cell (page.readAfter nesting earlier results)).1 = .ok text

def BreaksInTurn (nesting : Nesting) (cells : List String) (results : Table String)
    (fault : FormulaError) : Prop :=
  ∃ earlier cell later source, cells = earlier ++ cell :: later ∧
    page.ComputesInTurn nesting earlier results ∧
    (page.readUnder nesting cell (page.readAfter nesting earlier results)).1 =
      .error (.formula source) ∧
    fault = .brokenDependent cell source

variable {page} {nesting : Nesting} {cell : String} {cells : List String}
  {results : Table String} {fault : FormulaError}

theorem computesInTurn_nil : page.ComputesInTurn nesting [] results :=
  fun _ _ _ hsplit => absurd hsplit.symm (by simp)

theorem computesInTurn_cons_iff :
    page.ComputesInTurn nesting (cell :: cells) results ↔
      (page.text? (canonical cell) ≠ none →
        ∃ text, (page.readUnder nesting cell results).1 = .ok text) ∧
      page.ComputesInTurn nesting cells (page.readUnder nesting cell results).2 := by
  constructor
  · intro h
    refine ⟨h [] cell cells rfl, fun earlier other later hsplit hexists => ?_⟩
    exact h (cell :: earlier) other later (congrArg (cell :: ·) hsplit) hexists
  · rintro ⟨hcell, hcells⟩ earlier other later hsplit hexists
    rcases List.cons_eq_append_iff.mp hsplit with ⟨rfl, hhead⟩ | ⟨rest, rfl, rfl⟩
    · obtain ⟨rfl, -⟩ := List.cons.inj hhead
      exact hcell hexists
    · exact hcells rest other later rfl hexists

theorem not_breaksInTurn_nil : ¬ page.BreaksInTurn nesting [] results fault := by
  rintro ⟨earlier, cell, later, source, hsplit, -⟩
  exact absurd hsplit.symm (by simp)

theorem breaksInTurn_cons_iff :
    page.BreaksInTurn nesting (cell :: cells) results fault ↔
      (∃ source, (page.readUnder nesting cell results).1 = .error (.formula source) ∧
        fault = .brokenDependent cell source) ∨
      (page.text? (canonical cell) ≠ none →
        ∃ text, (page.readUnder nesting cell results).1 = .ok text) ∧
      page.BreaksInTurn nesting cells (page.readUnder nesting cell results).2 fault := by
  constructor
  · rintro ⟨earlier, other, later, source, hsplit, hcomputes, hread, rfl⟩
    rcases List.cons_eq_append_iff.mp hsplit with ⟨rfl, hhead⟩ | ⟨rest, rfl, rfl⟩
    · obtain ⟨rfl, -⟩ := List.cons.inj hhead
      exact Or.inl ⟨source, hread, rfl⟩
    · obtain ⟨hcell, hrest⟩ := computesInTurn_cons_iff.mp hcomputes
      exact Or.inr ⟨hcell, rest, other, later, source, rfl, hrest, hread, rfl⟩
  · rintro (⟨source, hread, rfl⟩ |
      ⟨hcell, rest, other, later, source, rfl, hrest, hread, rfl⟩)
    · exact ⟨[], cell, cells, source, rfl, computesInTurn_nil, hread, rfl⟩
    · exact ⟨cell :: rest, other, later, source, rfl,
        computesInTurn_cons_iff.mpr ⟨hcell, hrest⟩, hread, rfl⟩

theorem judge_eq_none_iff :
    (page.judge nesting cells results).1 = .ok none ↔
      page.ComputesInTurn nesting cells results := by
  induction cells generalizing results with
  | nil => exact iff_of_true rfl computesInTurn_nil
  | cons cell cells ih =>
      rw [computesInTurn_cons_iff]
      by_cases hexists : page.text? (canonical cell) = none
      · rw [judge_missing hexists, ih, readUnder_missing hexists]
        simp [hexists]
      rcases hread : page.readUnder nesting cell results with ⟨(source | error) | text, after⟩
      · rw [judge_failed hexists hread]
        simp [hexists]
      · rw [judge_stopped hexists hread]
        simp [hexists]
      · rw [judge_computed hexists hread, ih]
        simp

theorem exists_judge_eq_ok (hfetch : ∀ locator, page.fetch locator ≠ .error .cancelled) :
    ∃ verdict, (page.judge nesting cells results).1 = .ok verdict := by
  induction cells generalizing results with
  | nil => exact ⟨none, rfl⟩
  | cons cell cells ih =>
      by_cases hexists : page.text? (canonical cell) = none
      · rw [judge_missing hexists]
        exact ih
      rcases hread : page.readUnder nesting cell results with ⟨(source | error) | text, after⟩
      · rw [judge_failed hexists hread]
        exact ⟨_, rfl⟩
      · exact absurd (congrArg Prod.fst hread)
          (readUnder_ne_request hfetch hexists nesting results error)
      · rw [judge_computed hexists hread]
        exact ih

theorem judge_eq_some_iff :
    (page.judge nesting cells results).1 = .ok (some fault) ↔
      page.BreaksInTurn nesting cells results fault := by
  induction cells generalizing results with
  | nil => exact iff_of_false nofun not_breaksInTurn_nil
  | cons cell cells ih =>
      rw [breaksInTurn_cons_iff]
      by_cases hexists : page.text? (canonical cell) = none
      · rw [judge_missing hexists, ih, readUnder_missing hexists]
        simp [hexists]
      rcases hread : page.readUnder nesting cell results with ⟨(source | error) | text, after⟩
      · rw [judge_failed hexists hread]
        simp [hexists, eq_comm]
      · rw [judge_stopped hexists hread]
        simp [hexists]
      · rw [judge_computed hexists hread, ih]
        simp

end Page

namespace Session

variable [Interference σ]

def resolving (session : Session σ) (cells : List String) : Session σ :=
  Step.run (cells.map .resolve) session

def Yields (session : Session σ) (earlier : List String) (cell : String)
    (outcome : Except FormulaError String) : Prop :=
  ∃ resolution, (Solve.resolve cell).answer (session.resolving earlier) = .ok resolution ∧
    resolution.outcome = outcome

def Computes (session : Session σ) (cells : List String) : Prop :=
  ∀ earlier cell later, cells = earlier ++ cell :: later →
    session.text? (canonical cell) ≠ none → ∃ text, session.Yields earlier cell (.ok text)

def Leads (session : Session σ) (sheet cell dependent : String) : Prop :=
  session.world.store.Informs sheet cell dependent ∧ session.text? (canonical dependent) ≠ none

end Session

variable {page : Page} {store : Store} {nesting : Nesting} {results : Table String}
  {session : Session Unit}

theorem Tracks.resolving (h : Tracks page store nesting results session) (cells : List String) :
    Tracks page store nesting (page.readAfter nesting cells results)
      (session.resolving cells) := by
  induction cells generalizing results session with
  | nil => exact h
  | cons cell cells ih => exact ih (h.resolve cell)

theorem Tracks.yields_iff (h : Tracks page store nesting results session)
    (earlier : List String) (cell : String) (outcome : Except FormulaError String) :
    session.Yields earlier cell outcome ↔
      (page.readUnder nesting cell (page.readAfter nesting earlier results)).1 =
        Stop.ofOutcome outcome :=
  (h.resolving earlier).answer_eq_ok_iff outcome

theorem Session.computes_iff (hfired : session.world.fired = []) (cells : List String) :
    session.Computes cells ↔
      session.page.ComputesInTurn session.nesting cells session.solver.cache := by
  unfold Computes Page.ComputesInTurn
  simp only [(tracks hfired).yields_iff]
  rfl

/-- The walk around a cell comes by the existing cells that paths of existing cells lead to. -/
theorem Session.mem_walk_iff {sheet cell : String} {order : List String}
    (h : DepthFirst (session.page.dependentIds session.world.store sheet) {cell}
      (session.world.store.dependentIds sheet cell) order)
    {id : String} (hexists : session.text? (canonical id) ≠ none) :
    id ∈ order ↔ id ≠ cell ∧ ReflTransGen (session.Leads sheet) cell id := by
  have hnext {other dependent : String} :
      dependent ∈ session.page.dependentIds session.world.store sheet other ↔
        session.page.Follows session.world.store sheet other dependent :=
    Page.mem_dependentIds_iff
  have haround := h.mem_iff_around (fun id hid => (hnext.mp hid).2) id
  refine haround.trans (and_congr_right fun hother => ⟨?_, fun hreach => ?_⟩)
  · rintro ⟨first, hfirst, hreach⟩
    clear hother haround
    induction hreach with
    | refl => exact .single ⟨hfirst, hexists⟩
    | tail _ hlast ih =>
        obtain ⟨hbefore, hinforms⟩ := hnext.mp hlast
        exact (ih hbefore).tail ⟨hinforms, hexists⟩
  · have hcovers : id = cell ∨ session.text? (canonical id) ≠ none ∧
        ∃ first ∈ session.world.store.dependentIds sheet cell,
          ReflTransGen (fun id dependent =>
            dependent ∈ session.page.dependentIds session.world.store sheet id) first id := by
      clear hother haround hexists
      induction hreach with
      | refl => exact Or.inl rfl
      | tail _ hlast ih =>
          obtain ⟨hinforms, hexists⟩ := hlast
          rcases ih with rfl | ⟨hbefore, first, hfirst, hreach⟩
          · exact Or.inr ⟨hexists, _, hinforms, .refl⟩
          · exact Or.inr ⟨hexists, first, hfirst, hreach.tail (hnext.mpr ⟨hbefore, hinforms⟩)⟩
    exact (hcovers.resolve_left hother).2

namespace Solve

/-- A validation of what depends on a cell, where `order` lists the cells that it comes by. -/
structure Validates (edges : Edges) (cell : String) (session : Session Unit)
    (order : List String) : Prop where
  depthFirst : DepthFirst (session.page.dependentIds session.world.store edges.sheet) {cell}
    (session.world.store.dependentIds edges.sheet cell) order
  once : order.Nodup
  reached : ∀ id, session.text? (canonical id) ≠ none →
    (id ∈ order ↔ id ≠ cell ∧ ReflTransGen (session.Leads edges.sheet) cell id)
  inTurn : validateDependents edges cell session =
    (do let _ ← onWorld (edges.dependents cell); resolveInTurn edges order) session
  passes_iff : (validateDependents edges cell).answer session = .ok none ↔
    session.Computes order
  breaks_iff : ∀ fault, (validateDependents edges cell).answer session = .ok (some fault) ↔
    ∃ earlier id later source, order = earlier ++ id :: later ∧ session.Computes earlier ∧
      session.Yields earlier id (.error source) ∧ fault = .brokenDependent id source
  ends : session.solver.fetch.Heeds →
    ∃ verdict, (validateDependents edges cell).answer session = .ok verdict

theorem answer_of_ends {solve : Solve σ α} {session final : Session σ}
    {result : Except StoreError α} (h : solve session = endsWith final result) :
    solve.answer session = result := by
  rw [answer, h]
  cases result <;> rfl

/-- Whatever the edges and whatever the solver holds, a validation resolves once each existing
cell that the edges lead to, depth first, and is broken by the first that fails. -/
theorem validateDependents_validates (edges : Edges) (cell : String) {session : Session Unit}
    (hfired : session.world.fired = []) : ∃ order, Validates edges cell session order := by
  have htracks := Session.tracks hfired
  obtain ⟨order, horder⟩ :=
    exists_validation_order session.page session.world.store edges.sheet cell
  obtain ⟨after, hrun, -⟩ := validateDependents_judges edges htracks horder
  have hanswer := answer_of_ends hrun
  refine ⟨order, horder, horder.nodup, fun id => Session.mem_walk_iff horder,
    validateDependents_eq_resolveInTurn edges htracks horder, ?_, ?_, ?_⟩
  · rw [hanswer, Page.judge_eq_none_iff, Session.computes_iff hfired]
  · intro fault
    rw [hanswer, Page.judge_eq_some_iff]
    simp only [Session.computes_iff hfired, htracks.yields_iff]
    rfl
  · intro hheeds
    rw [hanswer]
    exact Page.exists_judge_eq_ok hheeds

theorem validateDependents_validates_sample :
    (Engine.session { fetch := Fetch.disabled, token := 0 } "S" [("A", "5")]
        Engine.linkedWorld).world.fired = [] ∧
      ∃ order,
        Validates { sheet := "s", token := 0 } "a"
          (Engine.session { fetch := Fetch.disabled, token := 0 } "S" [("A", "5")]
            Engine.linkedWorld) order ∧
        ∃ earlier later, order = earlier ++ "c" :: later ∧
          (Engine.session { fetch := Fetch.disabled, token := 0 } "S" [("A", "5")]
            Engine.linkedWorld).Yields earlier "c" (.error (.cycle "c")) := by
  refine ⟨rfl, ?_⟩
  obtain ⟨order, hvalidates⟩ := validateDependents_validates { sheet := "s", token := 0 } "a"
    (rfl : (Engine.session { fetch := Fetch.disabled, token := 0 } "S" [("A", "5")]
      Engine.linkedWorld).world.fired = [])
  have hanswer : (validateDependents { sheet := "s", token := 0 } "a").answer
      (Engine.session { fetch := Fetch.disabled, token := 0 } "S" [("A", "5")]
        Engine.linkedWorld) = .ok (some (.brokenDependent "c" (.cycle "c"))) := by
    decide +kernel
  obtain ⟨earlier, id, later, source, hsplit, -, hyields, hfault⟩ :=
    (hvalidates.breaks_iff _).mp hanswer
  cases hfault
  exact ⟨order, hvalidates, earlier, later, hsplit, hyields⟩

end Solve

end LiveSheet
