import LiveSheet.Proofs.Sheet.Committed
import Mathlib.Logic.Relation

namespace LiveSheet

open LiveSheet.Formula

namespace Page

/-! Which cells a formula reads.  The names of functions and the locators of
external calls are not among them. -/

def Reads (page : Page) (cell other : String) : Prop :=
  ∃ expr name, page.expr? cell = some expr ∧ .cell name ∈ expr.requests ∧
    canonical name = other

variable {page : Page} {results : Table String} {cell other : String}

theorem Reads.canonical (h : page.Reads cell other) : canonical other = other := by
  obtain ⟨expr, name, -, -, rfl⟩ := h
  exact canonical_canonical name

theorem Reads.formula (h : page.Reads cell other) :
    ∃ value body, page.text? cell = some value ∧ body? value = some body := by
  obtain ⟨expr, -, hexpr, -, -⟩ := h
  obtain ⟨value, body, hvalue, hbody, -⟩ := expr?_eq_some.mp hexpr
  exact ⟨value, body, hvalue, hbody⟩

theorem known?_canonical (results : Table String) (name : String) :
    page.known? results (LiveSheet.canonical name) = page.known? results name := by
  rw [known?, known?, canonical_canonical]

theorem Computes.expr {text : String} (h : page.Computes results cell text) :
    ∃ expr, page.expr? cell = some expr := by
  obtain ⟨expr, -, hexpr, -, -⟩ := h
  exact ⟨expr, hexpr⟩

theorem Computes.knows {text : String} (h : page.Computes results cell text)
    (hreads : page.Reads cell other) : page.Knows results other := by
  obtain ⟨expr, literal, hexpr, hsettle, -⟩ := h
  obtain ⟨same, name, hsame, hname, rfl⟩ := hreads
  cases hexpr.symm.trans hsame
  obtain ⟨known, hknown⟩ := (evaluate_follows expr).answered hsettle (.cell name) hname
  exact ⟨known, (known?_canonical results name).trans hknown⟩

theorem Knows.computed (h : page.Knows results cell)
    (hcell : LiveSheet.canonical cell = cell) (hreads : page.Reads cell other) :
    ∃ text, results.get? cell = some text := by
  obtain ⟨text, htext⟩ := h
  obtain ⟨value, body, hvalue, hbody⟩ := hreads.formula
  rw [← hcell] at hvalue
  rw [known?_of_formula results hvalue hbody, hcell] at htext
  exact ⟨text, htext⟩

theorem Derived.knows_reads (hderived : page.Derived results) (h : page.Knows results cell)
    (hcell : LiveSheet.canonical cell = cell) (hreads : page.Reads cell other) :
    page.Knows results other := by
  obtain ⟨text, htext⟩ := h.computed hcell hreads
  exact (hderived.computes htext).knows hreads

theorem Derived.knows_reachable (hderived : page.Derived results)
    (h : page.Knows results cell) (hcell : LiveSheet.canonical cell = cell)
    (hreach : Relation.ReflTransGen page.Reads cell other) : page.Knows results other := by
  induction hreach using Relation.ReflTransGen.head_induction_on with
  | refl => exact h
  | head hreads _ ih => exact ih (hderived.knows_reads h hcell hreads) hreads.canonical

/-- A computed cell does not come to read itself: all that it reads was computed
when it was not. -/
theorem Derived.not_reads_self (hderived : page.Derived results)
    (h : page.Knows results cell) : ¬ Relation.TransGen page.Reads cell cell := by
  intro hcycle
  obtain ⟨last, -, hlast⟩ := Relation.TransGen.tail'_iff.mp hcycle
  obtain ⟨next, hreads, hback⟩ := Relation.TransGen.head'_iff.mp hcycle
  obtain ⟨text, htext⟩ := h.computed hlast.canonical hreads
  obtain ⟨before, hbefore, -, hnew, hcomputes⟩ := hderived.earlier_of_get? htext
  have hnext := hcomputes.knows hreads
  have hknown := hbefore.knows_reachable hnext hreads.canonical hback
  obtain ⟨again, hagain⟩ := hknown.computed hlast.canonical hreads
  rw [hnew] at hagain
  cases hagain

end Page

namespace Computed

variable {engine : Engine} {store : Store} {sheet cell value body : String}

theorem parses (h : Computed engine store) (hvalue : store.cell? sheet cell = some value)
    (hcell : canonical cell = cell) (hbody : body? value = some body) :
    ∃ expr, parse body = .ok expr ∧
      ∀ name, .cell name ∈ expr.requests → store.cell? sheet (canonical name) ≠ none := by
  obtain ⟨results, hderived, text, htext⟩ := h hvalue
  have hheld : (engine.page store sheet).text? (canonical cell) = some value := by
    rw [hcell]
    exact hvalue
  rw [Page.known?_of_formula results hheld hbody] at htext
  have hcomputes := hderived.computes htext
  obtain ⟨expr, hexpr⟩ := hcomputes.expr
  obtain ⟨same, source, hsame, hsource, hparse⟩ := Page.expr?_eq_some.mp hexpr
  cases hheld.symm.trans hsame
  cases hbody.symm.trans hsource
  refine ⟨expr, hparse, fun name hname => ?_⟩
  have hknows := hcomputes.knows ⟨expr, name, hexpr, hname, rfl⟩
  have htext := hknows.text
  rwa [canonical_canonical] at htext

theorem acyclic (h : Computed engine store) (sheet cell : String) :
    ¬ Relation.TransGen (engine.page store sheet).Reads cell cell := by
  intro hcycle
  obtain ⟨next, hreads, -⟩ := Relation.TransGen.head'_iff.mp hcycle
  obtain ⟨value, body, hvalue, -⟩ := hreads.formula
  obtain ⟨results, hderived, hknows⟩ := h hvalue
  exact hderived.not_reads_self hknows hcycle

end Computed

/-- After any run of writes, the formulas of a sheet parse, read stored cells
only, and do not read one another in a circle. -/
theorem Write.formulas_of_stored {engine : Engine} {writes : List Write}
    (hcells : ∀ write ∈ writes, isCellIdentifier write.cell = true)
    (hfetch : ∀ write ∈ writes, write.engine.fetch = engine.fetch) (sheet : String) :
    (∀ {cell value body},
      (run writes (World.start ())).store.cell? sheet cell = some value →
      body? value = some body →
      ∃ expr, parse body = .ok expr ∧
        ∀ name, .cell name ∈ expr.requests →
          (run writes (World.start ())).store.cell? sheet (canonical name) ≠ none) ∧
    ∀ cell, ¬ Relation.TransGen
      (engine.page (run writes (World.start ())).store sheet).Reads cell cell := by
  obtain ⟨store, hquiet, hcoherent, hcomputed⟩ := run_computed hcells hfetch
  rw [hquiet.store]
  refine ⟨fun {cell value body} hvalue hbody => ?_, hcomputed.acyclic sheet⟩
  exact hcomputed.parses hvalue (hcoherent.cell hvalue).1 hbody

theorem Write.formulas_of_stored_sample :
    (∀ write ∈ sample, isCellIdentifier write.cell = true) ∧
      (∀ write ∈ sample, write.engine.fetch = Fetch.disabled) ∧
      (run sample (World.start ())).store.cell? "s" "b" = some "=a+1" ∧
      (∃ expr, parse "a+1" = .ok expr ∧
        ∀ name, .cell name ∈ expr.requests →
          (run sample (World.start ())).store.cell? "s" (canonical name) ≠ none) ∧
      ¬ Relation.TransGen
        (Engine.page { fetch := Fetch.disabled, token := 0 }
          (run sample (World.start ())).store "s").Reads "b" "b" := by
  have hfetch : ∀ write ∈ sample, write.engine.fetch =
      ({ fetch := Fetch.disabled, token := 0 } : Engine).fetch := by
    simp [sample]
  have hvalue : (run sample (World.start ())).store.cell? "s" "b" = some "=a+1" := by
    decide +kernel
  obtain ⟨hparses, hacyclic⟩ :=
    formulas_of_stored isCellIdentifier_of_mem_sample hfetch "s"
  exact ⟨isCellIdentifier_of_mem_sample, hfetch, hvalue,
    hparses hvalue (by decide +kernel), hacyclic "b"⟩

end LiveSheet
