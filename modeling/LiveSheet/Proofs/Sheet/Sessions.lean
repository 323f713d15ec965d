import LiveSheet.Proofs.Sheet.Denotation
import LiveSheet.Proofs.Sheet.WholeSheet

namespace LiveSheet

open LiveSheet.Formula

/-! Sessions of many steps.  A session begins with the texts that it sets, and
then reads cells in any order, one by one or all at once. -/

def Solve.answer (solve : Solve σ α) (session : Session σ) : Except StoreError α :=
  match solve session with
  | .ok answer _ => .ok answer
  | .error error _ => .error error

def Solve.leaves (solve : Solve σ α) (session : Session σ) : Session σ :=
  match solve session with
  | .ok _ final | .error _ final => final

inductive Step where
  | preload
  | resolve (cell : String)

namespace Step

variable [Interference σ]

def apply (session : Session σ) : Step → Session σ
  | .preload => Solve.preload.leaves session
  | .resolve cell => (Solve.resolve cell).leaves session

def run (steps : List Step) (session : Session σ) : Session σ :=
  steps.foldl apply session

theorem run_cons (step : Step) (steps : List Step) (session : Session σ) :
    run (step :: steps) session = run steps (apply session step) := rfl

end Step

def Solver.setCells (solver : Solver) (cells : List (String × String)) : Solver :=
  cells.foldl (fun solver entry => solver.setCell entry.1 entry.2) solver

def Engine.session (engine : Engine) (sheet : String) (cells : List (String × String))
    (world : World σ) : Session σ :=
  { solver := (engine.solver sheet).setCells cells, world }

namespace Page

def setCell (page : Page) (cell value : String) : Page :=
  { page with
    text? := fun other => if other = canonical cell then some value else page.text? other }

def setCells (page : Page) (cells : List (String × String)) : Page :=
  cells.foldl (fun page entry => page.setCell entry.1 entry.2) page

theorem sheet_setCells (page : Page) (cells : List (String × String)) :
    (page.setCells cells).sheet = page.sheet := by
  induction cells generalizing page with
  | nil => rfl
  | cons entry cells ih => exact ih (page.setCell entry.1 entry.2)

end Page

variable {page : Page} {store : Store} {nesting : Nesting} {results : Table String}
  {session : Session Unit}

theorem Tracks.setCell {solver : Solver} {world : World Unit}
    (h : Tracks page store nesting results { solver, world }) (cell value : String) :
    Tracks (page.setCell cell value) store nesting (results.erase (canonical cell))
      { solver := solver.setCell cell value, world } where
  quiet := h.quiet
  sheet := h.sheet
  fetch := h.fetch
  text := by
    intro other
    change ((solver.values.insert (canonical cell) value).get? other).or
      (store.cell? page.sheet other) = if other = canonical cell then some value else _
    rw [Table.get?_insert]
    split
    · rfl
    · exact h.text other
  cache := by
    have hcache : solver.cache = results := h.cache
    rw [Solver.setCell, hcache]
  waiting := h.waiting
  spent := h.spent

theorem Tracks.setCells {solver : Solver} {world : World Unit}
    (h : Tracks page store nesting Table.empty { solver, world })
    (cells : List (String × String)) :
    Tracks (page.setCells cells) store nesting Table.empty
      { solver := solver.setCells cells, world } := by
  induction cells generalizing page solver with
  | nil => exact h
  | cons entry cells ih => exact ih (h.setCell entry.1 entry.2)

namespace Tracks

theorem resolve (h : Tracks page store nesting results session) (name : String) :
    Tracks page store nesting (page.readUnder nesting name results).2
      ((Solve.resolve name).leaves session) := by
  have hmatches := Solve.resolve_matches_under nesting name results session h
  rw [Solve.leaves]
  cases hrun : Solve.resolve name session with
  | ok resolution after =>
      rw [hrun] at hmatches
      exact hmatches.1
  | error error after =>
      rw [hrun] at hmatches
      exact hmatches.1

theorem answer_eq_ok_iff_seen (h : Tracks page store nesting results session) {name : String}
    {resolution : Resolution} :
    (Solve.resolve name).answer session = .ok resolution ↔
      Solve.Seen page name resolution (page.readUnder nesting name results).1 := by
  have hmatches := Solve.resolve_matches_under nesting name results session h
  rw [Solve.answer]
  cases hrun : Solve.resolve name session with
  | ok other after =>
      rw [hrun] at hmatches
      obtain ⟨-, hvalue, hreading⟩ := hmatches
      rw [hreading]
      constructor
      · rintro heq
        cases heq
        exact ⟨hvalue, rfl⟩
      · rintro ⟨hsame, houtcome⟩
        obtain ⟨value, outcome⟩ := other
        obtain ⟨otherValue, otherOutcome⟩ := resolution
        cases hvalue.symm.trans hsame
        cases outcome <;> cases otherOutcome <;> cases houtcome <;> rfl
  | error error after =>
      rw [hrun] at hmatches
      rw [hmatches.2]
      constructor
      · rintro heq
        cases heq
      · rintro ⟨-, houtcome⟩
        cases hother : resolution.outcome <;> rw [hother] at houtcome <;> cases houtcome

theorem answer_eq_ok_iff (h : Tracks page store nesting results session) {name : String}
    (outcome : Except FormulaError String) :
    (∃ resolution, (Solve.resolve name).answer session = .ok resolution ∧
      resolution.outcome = outcome) ↔
      (page.readUnder nesting name results).1 = Stop.ofOutcome outcome := by
  simp only [h.answer_eq_ok_iff_seen]
  constructor
  · rintro ⟨resolution, hseen, rfl⟩
    exact hseen.2
  · intro hreading
    have hexists : page.text? (canonical name) ≠ none := by
      intro hmissing
      rw [Page.readUnder_missing hmissing] at hreading
      cases outcome <;> cases hreading
    obtain ⟨value, hvalue⟩ := Option.ne_none_iff_exists'.mp hexists
    exact ⟨{ value, outcome }, ⟨hvalue, hreading⟩, rfl⟩

end Tracks

/-- A session between two steps. -/
def Rests (page : Page) (store : Store) (session : Session Unit) : Prop :=
  ∃ results, Tracks page store Nesting.none results session ∧
    page.Sound Nesting.none results

namespace Rests

theorem resolve (h : Rests page store session) (name : String) :
    Rests page store ((Solve.resolve name).leaves session) := by
  obtain ⟨results, htracks, hsound⟩ := h
  obtain ⟨hafter, -, -⟩ := Page.readWithin_grows _ _ name _ _ _ hsound rfl
  exact ⟨_, htracks.resolve name, hafter⟩

theorem preload (h : Rests page store session)
    (hids : ∀ {cell value}, store.cell? page.sheet cell = some value →
      canonical cell = cell) :
    Rests page store (Solve.preload.leaves session) := by
  obtain ⟨results, htracks, hsound⟩ := h
  obtain ⟨after, hrun, hafter⟩ := Solve.preload_tracks htracks hids
  rw [Solve.leaves, hrun]
  exact ⟨results, hafter, hsound⟩

theorem run (h : Rests page store session)
    (hids : ∀ {cell value}, store.cell? page.sheet cell = some value →
      canonical cell = cell) (steps : List Step) :
    Rests page store (Step.run steps session) := by
  induction steps generalizing session with
  | nil => exact h
  | cons step steps ih =>
      rw [Step.run_cons]
      cases step with
      | preload => exact ih (h.preload hids)
      | resolve cell => exact ih (h.resolve cell)

/-- In a session at rest, a cell resolves to what it denotes; no other cell
resolves to a text, and only the limit on nesting stands in the way of one that
denotes a text. -/
theorem denotes (h : Rests page store session) (name : String) :
    (∀ resolution text, (Solve.resolve name).answer session = .ok resolution →
      resolution.outcome = .ok text → page.Denotes name text) ∧
    (∀ text, page.Denotes name text → ∃ resolution,
      (Solve.resolve name).answer session = .ok resolution ∧
        (resolution.outcome = .ok text ∨
          resolution.outcome = .error (.eval (.depthExceeded maxResolutionDepth)))) := by
  obtain ⟨results, htracks, hsound⟩ := h
  constructor
  · intro resolution text hanswer houtcome
    exact Page.denotes_of_read hsound
      ((htracks.answer_eq_ok_iff (.ok text)).mp ⟨resolution, hanswer, houtcome⟩)
  · intro text hdenotes
    rcases hdenotes.read hsound with hread | hread
    · obtain ⟨resolution, hanswer, houtcome⟩ := (htracks.answer_eq_ok_iff (.ok text)).mpr hread
      exact ⟨resolution, hanswer, Or.inl houtcome⟩
    · obtain ⟨resolution, hanswer, houtcome⟩ := (htracks.answer_eq_ok_iff
        (.error (.eval (.depthExceeded maxResolutionDepth)))).mpr hread
      exact ⟨resolution, hanswer, Or.inr houtcome⟩

end Rests

theorem Engine.session_rests (engine : Engine) (sheet : String)
    (cells : List (String × String)) {world : World Unit} (h : Quiet store world) :
    Rests ((engine.page store (canonical sheet)).setCells cells) store
      (engine.session sheet cells world) :=
  ⟨Table.empty, (engine.solver_tracks sheet h).setCells cells, Page.sound_empty _ _⟩

theorem map_eq_ok {f : α → β} {result : Except ε α} {image : β}
    (h : result.map f = .ok image) : ∃ value, result = .ok value ∧ f value = image := by
  cases result with
  | error error => cases h
  | ok value => exact ⟨value, rfl, Except.ok.inj h⟩

/-- However a session has gone on, a cell resolves to what it denotes on the page
that the session has set, and fails for any other reason than the limit on
nesting only when it denotes nothing. -/
theorem Engine.resolve_denotes (engine : Engine) {world : World Unit}
    (hfired : world.fired = []) {sheet : String}
    (hids : ∀ {cell value}, world.store.cell? (canonical sheet) cell = some value →
      canonical cell = cell)
    (cells : List (String × String)) (steps : List Step) (cell : String) :
    (∀ resolution text,
      (Solve.resolve cell).answer (Step.run steps (engine.session sheet cells world)) =
        .ok resolution →
      resolution.outcome = .ok text →
      ((engine.page world.store (canonical sheet)).setCells cells).Denotes cell text) ∧
    (∀ resolution error,
      (Solve.resolve cell).answer (Step.run steps (engine.session sheet cells world)) =
        .ok resolution →
      resolution.outcome = .error error →
      error ≠ .eval (.depthExceeded maxResolutionDepth) →
      ∀ text,
        ¬ ((engine.page world.store (canonical sheet)).setCells cells).Denotes cell text) ∧
    ∀ text,
      ((engine.page world.store (canonical sheet)).setCells cells).Denotes cell text →
      ∃ resolution,
        (Solve.resolve cell).answer (Step.run steps (engine.session sheet cells world)) =
          .ok resolution ∧
        (resolution.outcome = .ok text ∨
          resolution.outcome = .error (.eval (.depthExceeded maxResolutionDepth))) := by
  have hquiet : Quiet world.store world := ⟨rfl, hfired⟩
  have hrests := engine.session_rests sheet cells hquiet
  have hsheet : ((engine.page world.store (canonical sheet)).setCells cells).sheet =
      canonical sheet := Page.sheet_setCells _ cells
  have hrun := hrests.run (fun {cell value} hvalue => hids (hsheet ▸ hvalue)) steps
  obtain ⟨hsound, hcomplete⟩ := hrun.denotes cell
  refine ⟨hsound, fun resolution error hanswer houtcome hshallow text hdenotes => ?_,
    hcomplete⟩
  obtain ⟨same, hsame, htext | hdeep⟩ := hcomplete text hdenotes
  · cases hanswer.symm.trans hsame
    cases houtcome.symm.trans htext
  · cases hanswer.symm.trans hsame
    cases houtcome.symm.trans hdeep
    exact hshallow rfl

theorem Engine.resolve_denotes_sample :
    sampleWorld.fired = [] ∧
      ((Engine.page { fetch := Fetch.disabled, token := 0 } sampleWorld.store
        (canonical "S")).setCells [("A", "41")]).Denotes "B" "42" ∧
      ∀ text, ¬ ((Engine.page { fetch := Fetch.disabled, token := 0 } sampleWorld.store
        (canonical "S")).setCells [("A", "41")]).Denotes "c" text := by
  have hsum : ((Solve.resolve "B").answer (Step.run [.preload, .resolve "c"]
      (Engine.session { fetch := Fetch.disabled, token := 0 } "S" [("A", "41")]
        sampleWorld))).map Resolution.outcome = .ok (.ok "42") := by
    decide +kernel
  have hcycle : ((Solve.resolve "c").answer (Step.run [.preload, .resolve "c"]
      (Engine.session { fetch := Fetch.disabled, token := 0 } "S" [("A", "41")]
        sampleWorld))).map Resolution.outcome = .ok (.error (.cycle "c")) := by
    decide +kernel
  obtain ⟨sum, hanswer, htext⟩ := map_eq_ok hsum
  obtain ⟨cycle, hfails, herror⟩ := map_eq_ok hcycle
  refine ⟨rfl, ?_, ?_⟩
  · exact (resolve_denotes { fetch := Fetch.disabled, token := 0 } rfl
      canonical_of_sampleWorld [("A", "41")] [.preload, .resolve "c"] "B").1 sum "42"
      hanswer htext
  · exact (resolve_denotes { fetch := Fetch.disabled, token := 0 } rfl
      canonical_of_sampleWorld [("A", "41")] [.preload, .resolve "c"] "c").2.1 cycle
      (.cycle "c") hfails herror nofun

end LiveSheet
