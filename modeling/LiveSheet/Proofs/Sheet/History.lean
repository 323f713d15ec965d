import LiveSheet.Proofs.Sheet.Acyclic
import LiveSheet.Proofs.Sheet.Sessions

namespace LiveSheet

open LiveSheet.Formula
open Relation (ReflTransGen)

/-! What a session has done before does not stand in the way of what it does
next.  Whatever it keeps, it keeps together with all that this was computed
from. -/

namespace Page

def HoldsFormula (page : Page) (cell : String) : Prop :=
  ∃ value body, page.text? cell = some value ∧ body? value = some body

/-- Results that hold, with each cell, every formula that the cell comes to read. -/
def Closed (page : Page) (results : Table String) : Prop :=
  ∀ cell ∈ results.keys, ∀ other, ReflTransGen page.Reads cell other →
    page.HoldsFormula other → other ∈ results.keys

variable {page : Page} {results : Table String}

theorem Knows.mem_keys {cell : String} (h : page.Knows results cell)
    (hcell : canonical cell = cell) (hformula : page.HoldsFormula cell) :
    cell ∈ results.keys := by
  obtain ⟨text, htext⟩ := h
  obtain ⟨value, body, hvalue, hbody⟩ := hformula
  rw [← hcell] at hvalue
  rw [known?_of_formula results hvalue hbody, hcell] at htext
  exact Table.mem_keys_of_get? htext

theorem Derived.closed (h : page.Derived results) : page.Closed results := by
  intro cell hcell other hreach hformula
  obtain ⟨text, htext⟩ := (Table.mem_keys_iff _ _).mp hcell
  rcases ReflTransGen.cases_head hreach with rfl | ⟨next, hreads, hrest⟩
  · exact hcell
  · have hnext := (h.computes htext).knows hreads
    have hknows := h.knows_reachable hnext hreads.canonical hrest
    have hcanonical : canonical other = other := by
      rcases ReflTransGen.cases_tail hrest with rfl | ⟨last, -, hlast⟩
      · exact hreads.canonical
      · exact hlast.canonical
    exact hknows.mem_keys hcanonical hformula

end Page

namespace Engine

/-- What a cell resolves to at the start of a session it resolves to after any steps of
it, whatever these came to; and with each result that a session keeps it keeps those of
all formulas that were read for it. -/
theorem resolve_despite_history (engine : Engine) {world : World Unit}
    (hfired : world.fired = []) {sheet : String}
    (hids : ∀ {cell value}, world.store.cell? (canonical sheet) cell = some value →
      canonical cell = cell)
    (cells : List (String × String)) (steps : List Step) :
    (∀ cell resolution text,
      (Solve.resolve cell).answer (engine.session sheet cells world) = .ok resolution →
      resolution.outcome = .ok text →
      (Solve.resolve cell).answer (Step.run steps (engine.session sheet cells world)) =
        .ok resolution) ∧
    ((engine.page world.store (canonical sheet)).setCells cells).Closed
      (Step.run steps (engine.session sheet cells world)).solver.cache := by
  have hquiet : Quiet world.store world := ⟨rfl, hfired⟩
  have hfresh := (engine.solver_tracks sheet hquiet).setCells cells
  have hsheet : ((engine.page world.store (canonical sheet)).setCells cells).sheet =
      canonical sheet := Page.sheet_setCells _ cells
  obtain ⟨results, htracks, hsound⟩ := (engine.session_rests sheet cells hquiet).run
    (fun {cell value} hvalue => hids (hsheet ▸ hvalue)) steps
  refine ⟨fun cell resolution text hanswer houtcome => ?_, ?_⟩
  · obtain ⟨hvalue, hreading⟩ := hfresh.answer_eq_ok_iff_seen.mp hanswer
    refine htracks.answer_eq_ok_iff_seen.mpr ⟨hvalue, ?_⟩
    -- With the results at hand, fewer formulas nest than at the start.
    have hshared := Page.read_shared hsound cell
    change (Page.read _ cell Table.empty).1 = _ at hreading
    change (Page.read _ cell results).1 = _
    rw [houtcome] at hreading ⊢
    generalize Page.read _ cell Table.empty = alone at hshared hreading
    generalize Page.read _ cell results = among at hshared ⊢
    cases hshared with
    | tooDeep => cases hreading
    | error => cases hreading
    | ok _ => exact hreading
  · rw [htracks.cache]
    exact hsound.derived.closed

def brokenChain : World Unit :=
  { World.start () with
    store :=
      (((Store.empty.setCell "s" "a" "1").setCell "s" "b" "=A+1").setCell "s" "c" "=b*2").setCell
        "s" "d" "=c+gone" }

theorem resolve_despite_history_brokenChain :
    brokenChain.fired = [] ∧
      (∃ resolution,
        (Solve.resolve "C").answer (Step.run [.resolve "d", .preload, .resolve "e"]
          (Engine.session { fetch := Fetch.disabled, token := 0 } "S" [("A", "20")]
            brokenChain)) = .ok resolution ∧
        resolution.outcome = .ok "42") ∧
      "c" ∈ (Step.run [.resolve "d", .preload, .resolve "e"]
        (Engine.session { fetch := Fetch.disabled, token := 0 } "S" [("A", "20")]
          brokenChain)).solver.cache.keys ∧
      "b" ∈ (Step.run [.resolve "d", .preload, .resolve "e"]
        (Engine.session { fetch := Fetch.disabled, token := 0 } "S" [("A", "20")]
          brokenChain)).solver.cache.keys := by
  have hfirst : ((Solve.resolve "C").answer (Engine.session
      { fetch := Fetch.disabled, token := 0 } "S" [("A", "20")] brokenChain)).map
        Resolution.outcome = .ok (.ok "42") := by
    decide +kernel
  have hkept : "c" ∈ (Step.run [.resolve "d", .preload, .resolve "e"]
      (Engine.session { fetch := Fetch.disabled, token := 0 } "S" [("A", "20")]
        brokenChain)).solver.cache.keys := by
    decide +kernel
  obtain ⟨resolution, hanswer, houtcome⟩ := map_eq_ok hfirst
  have hids {cell value : String}
      (h : brokenChain.store.cell? (canonical "S") cell = some value) : canonical cell = cell :=
    canonical_of_cells (by decide +kernel) h
  obtain ⟨hagain, hclosed⟩ := resolve_despite_history { fetch := Fetch.disabled, token := 0 }
    rfl hids [("A", "20")] [.resolve "d", .preload, .resolve "e"]
  refine ⟨rfl, ⟨resolution, hagain "C" resolution "42" hanswer houtcome, houtcome⟩, hkept, ?_⟩
  have hreads : ((Engine.page { fetch := Fetch.disabled, token := 0 } brokenChain.store
      (canonical "S")).setCells [("A", "20")]).Reads "c" "b" :=
    ⟨.binary .mul (.identifier "b") (.literal { kind := .int, text := "2" }), "b",
      Page.expr?_eq_some.mpr ⟨"=b*2", "b*2", by decide +kernel, by decide +kernel, rfl⟩,
      by decide, by decide +kernel⟩
  exact hclosed "c" hkept "b" (.single hreads)
    ⟨"=A+1", "A+1", by decide +kernel, by decide +kernel⟩

end Engine

end LiveSheet
