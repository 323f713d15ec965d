import LiveSheet.Proofs.Formula.Coverage
import LiveSheet.Proofs.Sheet.Agreement
import LiveSheet.Proofs.Sheet.Depth
import LiveSheet.Proofs.Sheet.Runs

namespace LiveSheet

open LiveSheet.Formula

/-! What lies outside a set of cells that is closed under dependents is read
alike before and after a change inside it. -/

namespace Store.Coherent

variable {store : Store}

theorem not_inside_of_requests (hstore : store.Coherent) {sheet : String}
    {inside : String → Prop}
    (hclosed : ∀ {id}, inside id → ∀ dependent ∈ (store.dependentsOf sheet id).toList,
      inside dependent)
    (engine : Engine) {cell name : String} {expr : Expr} (hcell : ¬ inside cell)
    (hexpr : (engine.page store sheet).expr? cell = some expr)
    (hname : .cell name ∈ expr.requests) : ¬ inside (canonical name) := by
  obtain ⟨value, body, hvalue, hbody, hparse⟩ := Page.expr?_eq_some.mp hexpr
  have hcanonical := (hstore.cell hvalue).1
  by_cases hself : canonical name = canonical cell
  · rwa [hself, hcanonical]
  · intro hinside
    have hmentioned := mem_references_of_mem_requests hbody hparse hname hself
    have hplain := slash_not_mem_of_mem_references hmentioned
    refine hcell (hclosed hinside cell ((hstore.edges hplain sheet cell).mpr ?_))
    exact Store.mem_mentioned.mpr ⟨value, hvalue, hmentioned⟩

theorem agreeOn_outside (hstore : store.Coherent) {other : Store} {sheet : String}
    {inside : String → Prop}
    (hclosed : ∀ {id}, inside id → ∀ dependent ∈ (store.dependentsOf sheet id).toList,
      inside dependent)
    (hsame : ∀ {cell}, ¬ inside cell → store.cell? sheet cell = other.cell? sheet cell)
    (engine : Engine) :
    Page.AgreeOn (fun cell => ¬ inside cell) (engine.page store sheet)
      (engine.page other sheet) where
  sheet := rfl
  fetch := rfl
  text := hsame
  closed := fun hcell hexpr hname =>
    hstore.not_inside_of_requests hclosed engine hcell hexpr hname

end Store.Coherent

def Computed (engine : Engine) (store : Store) : Prop :=
  ∀ {sheet cell value}, store.cell? sheet cell = some value →
    ∃ results, (engine.page store sheet).Derived results ∧
      (engine.page store sheet).Knows results cell

theorem empty_computed (engine : Engine) : Computed engine Store.empty :=
  nofun

/-- A write leaves what it has not validated as it was computed before. -/
theorem computed_commit {engine : Engine} {store : Store} (hstore : store.Coherent)
    (hcomputed : Computed engine store) {sheet cell value : String} {visited : IdSet}
    (hclosed : store.Closed sheet visited) (hcell : cell ∈ visited.toList)
    {other text : String} (hother : other ∉ visited.toList)
    (htext : store.cell? sheet other = some text) :
    ∃ results, (engine.page (store.commit sheet cell value) sheet).Derived results ∧
      (engine.page (store.commit sheet cell value) sheet).Knows results other := by
  -- The write changes a cell of the closed set, which nothing outside asks for.
  have hsame {id : String} (hid : id ∉ visited.toList) :
      store.cell? sheet id = (store.commit sheet cell value).cell? sheet id := by
    rw [Store.cell?_commit, if_neg]
    rintro ⟨-, rfl⟩
    exact hid hcell
  have hagree := hstore.agreeOn_outside (fun {id} => hclosed id) hsame engine
  obtain ⟨results, hderived, known, hknown⟩ := hcomputed htext
  obtain ⟨restricted, hrestricted, hresults, -⟩ := hagree.derived hderived
  refine ⟨restricted, hrestricted, known, ?_⟩
  have hcanonical : ¬ canonical other ∈ visited.toList := by
    rwa [(hstore.cell htext).1]
  rw [← hknown, hagree.known? hresults hcanonical]

theorem Write.Accepted.computed {engine : Engine} {write : Write} {store after : Store}
    (h : write.Accepted store after) (hfetch : write.engine.fetch = engine.fetch)
    (hstore : store.Coherent) (hcomputed : Computed engine store) :
    Computed engine after := by
  obtain ⟨⟨told, hstored⟩, results, visited, hderived, hclosed, hmem, hknows⟩ := h
  have hpage (store : Store) (sheet : String) :
      write.engine.page store sheet = engine.page store sheet := by
    unfold Engine.page
    rw [hfetch]
  rw [hpage] at hderived hknows
  rw [hstored.store_eq]
  intro sheet cell value hvalue
  rw [engine.page_congr fun cell => Store.cell?_announce _ _ _ sheet cell]
  rw [Store.cell?_announce] at hvalue
  by_cases hsheet : sheet = canonical write.sheet
  · subst hsheet
    by_cases hvisited : cell ∈ visited.toList
    · exact ⟨results, hderived, hknows cell hvisited⟩
    · rw [Store.cell?_commit, if_neg] at hvalue
      · exact computed_commit hstore hcomputed hclosed hmem hvisited hvalue
      · rintro ⟨-, rfl⟩
        exact hvisited hmem
  · have helsewhere (cell : String) :
        (store.commit (canonical write.sheet) (canonical write.cell) write.value).cell? sheet
          cell = store.cell? sheet cell := by
      rw [Store.cell?_commit, if_neg]
      exact fun h => hsheet h.1
    rw [engine.page_congr helsewhere]
    rw [helsewhere] at hvalue
    exact hcomputed hvalue

theorem Write.run_computed {engine : Engine} {writes : List Write}
    (hcells : ∀ write ∈ writes, isCellIdentifier write.cell = true)
    (hfetch : ∀ write ∈ writes, write.engine.fetch = engine.fetch) :
    ∃ store, Quiet store (run writes (World.start ())) ∧ store.Coherent ∧
      Computed engine store :=
  run_preserves (Computed engine) hcells
    (fun write hmem _ _ hstore _ haccepted =>
      haccepted.computed (hfetch write hmem) hstore)
    Store.empty_coherent (empty_computed engine) quiet_start

theorem Computed.response {engine : Engine} {store : Store} (h : Computed engine store)
    {sheet cell value : String} (hvalue : store.cell? sheet cell = some value)
    (hcanonical : canonical cell = cell) :
    ∃ response, (engine.page store sheet).response cell = .ok response ∧
      response.value = value ∧
      (response.error = none ∧ (engine.page store sheet).fits cell = true ∨
        response.error =
            some (FormulaError.eval (.depthExceeded maxResolutionDepth)).message ∧
          (engine.page store sheet).fits cell = false) := by
  obtain ⟨results, hderived, text, hknown⟩ := h hvalue
  refine Page.response_of_known hderived ?_ hknown
  rw [hcanonical]
  exact hvalue

/-- After any run of writes, a stored cell is read without an error exactly when
it fits, and otherwise the limit on nesting is its only error. -/
theorem Write.response_of_stored {engine : Engine} {writes : List Write}
    (hcells : ∀ write ∈ writes, isCellIdentifier write.cell = true)
    (hfetch : ∀ write ∈ writes, write.engine.fetch = engine.fetch)
    {sheet cell value : String}
    (hvalue : (run writes (World.start ())).store.cell? sheet cell = some value) :
    ∃ response,
      (engine.getCell sheet cell).answer (run writes (World.start ())) = .ok response ∧
      response.value = value ∧
      (response.error = none ↔
        (engine.page (run writes (World.start ())).store sheet).fits cell = true) ∧
      (response.error ≠ none → response.error =
        some (FormulaError.eval (.depthExceeded maxResolutionDepth)).message) := by
  obtain ⟨store, hquiet, hcoherent, hcomputed⟩ := run_computed hcells hfetch
  rw [hquiet.store] at hvalue ⊢
  obtain ⟨response, hresponse, htext, herror⟩ :=
    hcomputed.response hvalue (hcoherent.cell hvalue).1
  have hanswer := (engine.getCell_yields store sheet cell).answer hquiet
  rw [hcoherent.sheet hvalue, hresponse] at hanswer
  refine ⟨response, hanswer, htext, ?_⟩
  rcases herror with ⟨herror, hfits⟩ | ⟨herror, hfits⟩
  · simp [herror, hfits]
  · simp [herror, hfits]

theorem Write.response_of_stored_sample :
    (∀ write ∈ sample, isCellIdentifier write.cell = true) ∧
      (run sample (World.start ())).store.cell? "s" "b" = some "=a+1" ∧
      ∃ response,
        (Engine.getCell { fetch := Fetch.disabled, token := 1 } "s" "b").answer
          (run sample (World.start ())) = .ok response ∧
        response.value = "=a+1" ∧ response.error = none := by
  have hvalue : (run sample (World.start ())).store.cell? "s" "b" = some "=a+1" := by
    decide +kernel
  have hfetch : ∀ write ∈ sample, write.engine.fetch =
      ({ fetch := Fetch.disabled, token := 1 } : Engine).fetch := by
    simp [sample]
  obtain ⟨response, hanswer, htext, herror, -⟩ :=
    response_of_stored isCellIdentifier_of_mem_sample hfetch hvalue
  refine ⟨isCellIdentifier_of_mem_sample, hvalue, response, hanswer, htext, herror.mpr ?_⟩
  decide +kernel

end LiveSheet
