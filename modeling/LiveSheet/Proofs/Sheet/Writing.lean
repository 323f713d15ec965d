import LiveSheet.Proofs.Sheet.Consideration

namespace LiveSheet

open LiveSheet.Formula
open Relation

/-! Writing a cell.  A write that is accepted leaves the value stored and has
computed everything that depends on it; any other leaves the store as it was. -/

structure Accepted (engine : Engine) (store : Store) (sheet cell value : String)
    (after : Store) : Prop where
  stored : ∃ told, Stored store sheet cell value told after
  computed : ∃ results final,
    (engine.page (store.commit sheet cell value) sheet).Derived results ∧
      store.Closed sheet final ∧ cell ∈ final.toList ∧
      ∀ id ∈ final.toList,
        (engine.page (store.commit sheet cell value) sheet).Knows results id

/-- The end of a write, with the store that it leaves. -/
def Upserted (engine : Engine) (store : Store) (sheet cell value : String) :
    Except StoreError WriteOutcome → Store → Prop
  | .ok (.committed _), after => Accepted engine store sheet cell value after
  | _, after => after = store

structure Page.Holds (page : Page) (cell : String) : Prop where
  canonical : canonical cell = cell
  plain : '/' ∉ cell.toList
  text : page.text? cell ≠ none

theorem Page.exists_closed {page : Page} {store : Store}
    (hedges : ∀ id, '/' ∉ id.toList →
      ∀ dependent ∈ (store.dependentsOf page.sheet id).toList, page.Holds dependent)
    {cell : String} (hcell : '/' ∉ cell.toList) (hexists : page.text? (canonical cell) ≠ none)
    {results : Table String}
    (hknown : ∀ id, ReflTransGen (page.Follows store page.sheet) cell id →
      page.text? (canonical id) ≠ none → page.Knows results id) :
    ∃ reached : IdSet, store.Closed page.sheet reached ∧ cell ∈ reached.toList ∧
      ∀ id ∈ reached.toList, page.Knows results id := by
  obtain ⟨reached, hreached⟩ := Solve.exists_reached page store page.sheet hexists
  have hheld : ∀ id, ReflTransGen (page.Follows store page.sheet) cell id →
      '/' ∉ id.toList ∧ page.text? (canonical id) ≠ none := by
    intro id hreach
    induction hreach with
    | refl => exact ⟨hcell, hexists⟩
    | tail _ hlast ih =>
        have hdependent := hedges _ ih.1 _ hlast.2
        exact ⟨hdependent.plain, by rw [hdependent.canonical]; exact hdependent.text⟩
  refine ⟨reached, fun id hid dependent hdependent => ?_, (hreached cell).mpr .refl,
    fun id hid => ?_⟩
  · have hreach := (hreached id).mp hid
    exact (hreached dependent).mpr (hreach.tail ⟨(hheld id hreach).2, hdependent⟩)
  · have hreach := (hreached id).mp hid
    exact hknown id hreach (hheld id hreach).2

namespace Engine

variable {store : Store}

theorem holds_dependent (hstore : store.Coherent) (engine : Engine) {sheet cell : String}
    (value : String) {id dependent : String} (hid : '/' ∉ id.toList)
    (h : dependent ∈ (store.dependentsOf sheet id).toList) :
    (engine.page (store.commit sheet cell value) sheet).Holds dependent := by
  obtain ⟨held, hheld, -⟩ := Store.mem_mentioned.mp ((hstore.edges hid sheet dependent).mp h)
  refine ⟨(hstore.cell hheld).1, (hstore.cell hheld).2, ?_⟩
  change (store.commit sheet cell value).cell? sheet dependent ≠ none
  rw [Store.cell?_commit]
  split
  · exact Option.some_ne_none _
  · rw [hheld]
    exact Option.some_ne_none _

/-- Every write comes to an end, and leaves the store as its outcome tells. -/
theorem upsert_upserted (hstore : store.Coherent) (engine : Engine) {sheet cell : String}
    (hcell : '/' ∉ (canonical cell).toList) (value : String) {world : World Unit}
    (h : Quiet store world) :
    ∃ result final after, engine.upsert sheet cell value world = endsWith final result ∧
      Quiet after final ∧
      Upserted engine store (canonical sheet) (canonical cell) value result after := by
  obtain ⟨result, final, after, hrun, hquiet, hends⟩ :=
    engine.exists_writeEnds sheet cell value h
  refine ⟨result, final, after, hrun, hquiet, ?_⟩
  cases hends with
  | rejected => rfl
  | failed => rfl
  | committed _ _ derived known reached =>
      have hcommit := hstore.commit (canonical_canonical sheet) (canonical_canonical cell) hcell
        value
      rw [proposal_eq_commit] at derived known
      have hexists : (engine.page (store.commit (canonical sheet) (canonical cell) value)
          (canonical sheet)).text? (canonical (canonical cell)) ≠ none := by
        simp [page, Store.cell?_commit, canonical_canonical]
      obtain ⟨visited, hclosed, hvisited, hknows⟩ := Page.exists_closed
        (fun id hid dependent => holds_dependent hstore engine value hid) hcell hexists known
      exact ⟨⟨_, stored_of_reached hcell hcommit reached⟩, _, visited, derived, hclosed,
        hvisited, hknows⟩

end Engine

end LiveSheet
