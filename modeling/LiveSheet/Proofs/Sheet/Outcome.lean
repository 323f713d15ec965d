import LiveSheet.Proofs.Sheet.Rejection

namespace LiveSheet

open LiveSheet.Formula

/-! How a write ends on a store of which nothing is known but that nothing
interferes with it.  Its edges may be stale or missing, so the validation may
see too few cells or too many; it follows those that there are, and stops only at
a cell that cannot be read. -/

namespace Page

def Stumbles (page : Page) (stop : Stop) : Prop :=
  ∃ name results, page.Sound Nesting.none results ∧ page.text? (canonical name) ≠ none ∧
    (page.read name results).1 = .error stop

def Passes (page : Page) (store : Store) (visited : IdSet) (stack : List String) : Prop :=
  ∀ id ∈ visited.toList, page.text? (canonical id) ≠ none →
    (∃ text, page.Denotes id text) ∧
    ∀ dependent ∈ (store.dependentsOf page.sheet id).toList,
      dependent ∈ visited.toList ∨ dependent ∈ stack

variable {page : Page} {store : Store} {cell : String}

theorem exists_passes {results : Table String} (hderived : page.Derived results)
    (hexists : page.text? (canonical cell) ≠ none)
    (hknown : ∀ id, Relation.ReflTransGen (page.Follows store page.sheet) cell id →
      page.text? (canonical id) ≠ none → page.Knows results id) :
    ∃ visited : IdSet, page.Passes store visited [] ∧ cell ∈ visited.toList := by
  obtain ⟨reached, hreached⟩ := Solve.exists_reached page store page.sheet hexists
  refine ⟨reached, fun id hid hheld => ⟨?_, fun dependent hdependent => Or.inl ?_⟩,
    (hreached cell).mpr .refl⟩
  · obtain ⟨text, htext⟩ := hknown id ((hreached id).mp hid) hheld
    exact ⟨text, hderived.denotes htext⟩
  · exact (hreached dependent).mpr (((hreached id).mp hid).tail ⟨hheld, hdependent⟩)

end Page

variable {store : Store}

/-- What a notification of a change of a cell tells of: the cell, and whatever the
edges lead to from there. -/
structure Store.Spreads (store : Store) (sheet cell : String) (told : List String) : Prop where
  origin : cell ∈ told
  along : ∀ id ∈ told, ∀ dependent ∈ (store.dependentsOf sheet id).toList, dependent ∈ told

/-- The end of a write, with the store that it leaves.  The response of a committed
one is what its cell comes to with the new text, and nothing else. -/
inductive Concludes (engine : Engine) (store : Store) (sheet cell value : String) :
    Except StoreError WriteOutcome → Store → Prop
  | committed {response : CellResponse} {visited : IdSet} {told : List String}
      (answers : (engine.page (store.setCell sheet cell value) sheet).response cell =
        .ok response)
      (computes : response.error = none)
      (passes : (engine.page (store.setCell sheet cell value) sheet).Passes store visited [])
      (visits : cell ∈ visited.toList)
      (spreads : (store.commit sheet cell value).Spreads sheet cell told) :
      Concludes engine store sheet cell value (.ok (.committed response))
        ((store.commit sheet cell value).announce sheet told)
  | rejected {response : CellResponse} {source : FormulaError}
      (stumbles : (engine.page (store.setCell sheet cell value) sheet).Stumbles
        (.formula source)) :
      Concludes engine store sheet cell value (.ok (.rejected response)) store
  | failed {error : StoreError}
      (stumbles : (engine.page (store.setCell sheet cell value) sheet).Stumbles
        (.request error)) :
      Concludes engine store sheet cell value (.error error) store

namespace Engine

theorem upsert_concludes (engine : Engine) (sheet cell value : String)
    {world : World Unit} (h : Quiet store world) :
    ∃ result after, (engine.upsert sheet cell value).answer world = result ∧
      Quiet after ((engine.upsert sheet cell value).leaves world) ∧
      Concludes engine store (canonical sheet) (canonical cell) value result after := by
  obtain ⟨result, final, after, hrun, hquiet, hends⟩ :=
    engine.exists_writeEnds sheet cell value h
  refine ⟨result, after, Access.answer_of_ends hrun, Access.leaves_of_ends hrun ▸ hquiet, ?_⟩
  cases hends with
  | failed held sound reads => exact .failed ⟨_, _, sound, held, reads⟩
  | rejected held sound reads => exact .rejected ⟨_, _, sound, held, reads⟩
  | committed answers computes derived known reached =>
      have hexists : (engine.proposal store (canonical sheet) (canonical cell) value).text?
          (canonical (canonical cell)) ≠ none := by
        simp [proposal, page, Store.cell?_setCell, canonical_canonical]
      obtain ⟨visited, hpasses, hvisits⟩ := Page.exists_passes derived hexists known
      refine .committed answers computes hpasses hvisits ⟨(reached _).mpr .refl, ?_⟩
      intro id hid dependent hdependent
      exact (reached dependent).mpr (((reached id).mp hid).tail hdependent)

end Engine

end LiveSheet
