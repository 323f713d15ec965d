import LiveSheet.Proofs.Sheet.Agreement
import LiveSheet.Proofs.Sheet.Depth
import LiveSheet.Proofs.Sheet.Tracking
import LiveSheet.Sheet.Engine

namespace LiveSheet

open LiveSheet.Formula

namespace Engine

def page (engine : Engine) (store : Store) (sheet : String) : Page :=
  { sheet
    text? := store.cell? sheet
    fetch := engine.fetch false }

theorem page_congr (engine : Engine) {store other : Store} {sheet : String}
    (h : ∀ cell, store.cell? sheet cell = other.cell? sheet cell) :
    engine.page store sheet = engine.page other sheet := by
  unfold page
  rw [show store.cell? sheet = other.cell? sheet from funext h]

theorem solver_tracks (engine : Engine) (sheet : String) {store : Store}
    {world : World Unit} (h : Quiet store world) :
    Tracks (engine.page store (canonical sheet)) store Nesting.none Table.empty
      { solver := engine.solver sheet, world } where
  quiet := h
  sheet := rfl
  fetch := rfl
  text := fun _ => rfl
  cache := rfl
  waiting := rfl
  spent := rfl

end Engine

namespace Page

variable (page : Page)

def responseTo (cell : String) : Except Stop String → Except StoreError CellResponse
  | .ok result =>
      .ok { value := (page.text? (canonical cell)).getD "", result, error := none }
  | .error (.formula error) =>
      .ok
        { value := (page.text? (canonical cell)).getD ""
          result := errorResult
          error := some error.message }
  | .error (.request error) => .error error

def response (cell : String) : Except StoreError CellResponse :=
  page.responseTo cell (page.read cell Table.empty).1

variable {page}

theorem read_canonical (page : Page) (name : String) :
    page.read (canonical name) = page.read name := by
  unfold read
  rw [readWithin_eq]
  unfold readWith
  rw [canonical_canonical]

theorem response_canonical (page : Page) (cell : String) :
    page.response (canonical cell) = page.response cell := by
  have hshown (reading : Except Stop String) :
      page.responseTo (canonical cell) reading = page.responseTo cell reading := by
    unfold responseTo
    rw [canonical_canonical]
  rw [response, response, read_canonical, hshown]

theorem AgreeOn.response {among : String → Prop} {other : Page}
    (h : AgreeOn among page other) {cell : String} (hcell : among (canonical cell)) :
    page.response cell = other.response cell := by
  unfold Page.response responseTo
  rw [h.read hcell, h.text hcell]

theorem responseTo_of_seen {cell : String} {resolution : Resolution}
    {reading : Except Stop String} (h : Solve.Seen page cell resolution reading) :
    page.responseTo cell reading = .ok resolution.response := by
  obtain ⟨hvalue, rfl⟩ := h
  unfold Resolution.response
  cases resolution.outcome <;>
    simp only [Stop.ofOutcome, responseTo, hvalue, Option.getD_some]

theorem response_of_known {results : Table String} (hderived : page.Derived results)
    {cell value text : String} (hvalue : page.text? (canonical cell) = some value)
    (hknown : page.known? results cell = some text) :
    ∃ response, page.response cell = .ok response ∧ response.value = value ∧
      (response.error = none ∧ page.fits cell = true ∨
        response.error =
            some (FormulaError.eval (.depthExceeded maxResolutionDepth)).message ∧
          page.fits cell = false) := by
  have hsound : page.Sound Nesting.none results := ⟨hderived, nofun⟩
  have hmarks : Marks [] Table.empty := fun cell => by simp
  have hkeeps := readWithin_keeps maxResolutionDepth hsound hknown (sound_empty _ _) hmarks
  have hheld : (page.text? (canonical cell)).getD "" = value := by
    rw [hvalue, Option.getD_some]
  unfold response read fits
  change Keeps results Table.empty text _ (page.visitWithin maxResolutionDepth 0 cell [])
    at hkeeps
  generalize page.readWithin maxResolutionDepth Nesting.none cell Table.empty = reading
    at hkeeps ⊢
  generalize page.visitWithin maxResolutionDepth 0 cell [] = visited at hkeeps ⊢
  cases hkeeps with
  | within => exact ⟨_, rfl, hheld, Or.inl ⟨rfl, rfl⟩⟩
  | tooDeep => exact ⟨_, rfl, hheld, Or.inr ⟨rfl, rfl⟩⟩

end Page

theorem Engine.getCell_yields (engine : Engine) (store : Store) (sheet cell : String) :
    (engine.getCell sheet cell : Access Unit CellResponse).Yields store
      ((engine.page store (canonical sheet)).response cell) store := by
  intro world hworld
  have hresolve := Solve.resolve_matches cell _ _ (engine.solver_tracks sheet hworld)
  simp only [getCell, Solve.within, Page.response, Bind.bind, EStateM.bind]
  cases hrun : Solve.resolve cell { solver := engine.solver sheet, world } with
  | ok resolution after =>
      rw [hrun] at hresolve
      obtain ⟨hafter, hseen⟩ := hresolve
      rw [Page.responseTo_of_seen hseen]
      exact ⟨after.world, hafter.quiet, rfl⟩
  | error error after =>
      rw [hrun] at hresolve
      obtain ⟨hafter, hreading⟩ := hresolve
      rw [hreading]
      exact ⟨after.world, hafter.quiet, rfl⟩

def Access.answer (access : Access σ α) (world : World σ) : Except StoreError α :=
  match access world with
  | .ok answer _ => .ok answer
  | .error error _ => .error error

def Access.leaves (access : Access σ α) (world : World σ) : World σ :=
  match access world with
  | .ok _ final | .error _ final => final

theorem Access.eq_endsWith {access : Access σ α} {world : World σ}
    {result : Except StoreError α} (h : access.answer world = result) :
    access world = endsWith (access.leaves world) result := by
  rw [leaves, ← h, answer]
  cases access world <;> rfl

section

variable {access : Access σ α} {world final : World σ} {result : Except StoreError α}

theorem Access.answer_of_ends (h : access world = endsWith final result) :
    access.answer world = result := by
  rw [answer, h]
  cases result <;> rfl

theorem Access.leaves_of_ends (h : access world = endsWith final result) :
    access.leaves world = final := by
  rw [leaves, h]
  cases result <;> rfl

end

theorem Access.Yields.leaves {access : Access Unit α} {store after : Store}
    {result : Except StoreError α} (h : access.Yields store result after)
    {world : World Unit} (hworld : Quiet store world) : Quiet after (access.leaves world) := by
  obtain ⟨final, hfinal, hrun⟩ := h world hworld
  rw [leaves_of_ends hrun]
  exact hfinal

theorem Access.Yields.answer {access : Access Unit α} {store after : Store}
    {result : Except StoreError α} (h : access.Yields store result after)
    {world : World Unit} (hworld : Quiet store world) : access.answer world = result := by
  obtain ⟨final, -, hrun⟩ := h world hworld
  exact answer_of_ends hrun

theorem Solve.within_ends {solve : Solve σ α} {solver : Solver} {world : World σ}
    {session : Session σ} {result : Except StoreError α}
    (h : solve { solver, world } = endsWith session result) :
    Solve.within solve solver world = endsWith session.world result := by
  rw [Solve.within, h]
  cases result <;> rfl

end LiveSheet
