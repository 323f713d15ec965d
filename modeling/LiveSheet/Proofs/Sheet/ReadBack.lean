import LiveSheet.Proofs.Sheet.Outcome

namespace LiveSheet

open LiveSheet.Formula

/-! Reads after a write.  What a read answers is a function of the store alone,
for one cell as for a whole sheet, so a write shows through the store that it
leaves and through nothing else. -/

namespace Engine

/-- A committed write is read back under every spelling of its cell, with the
response that it was answered with; a rejected one leaves every answer as it
was. -/
theorem read_written (engine : Engine) {world : World Unit} (hfired : world.fired = [])
    (hids : ∀ {sheet cell value}, world.store.cell? sheet cell = some value →
      canonical cell = cell)
    (sheet cell value : String) :
    (∀ {response},
      (engine.upsert sheet cell value).answer world = .ok (.committed response) →
      ∀ (token : CancelToken) {otherSheet other},
        canonical otherSheet = canonical sheet → canonical other = canonical cell →
        (Engine.getCell { engine with token } otherSheet other).answer
          ((engine.upsert sheet cell value).leaves world) = .ok response) ∧
    ∀ {response},
      (engine.upsert sheet cell value).answer world = .ok (.rejected response) →
      ∀ (reader : Engine) otherSheet,
        (∀ other, (reader.getCell otherSheet other).answer
            ((engine.upsert sheet cell value).leaves world) =
          (reader.getCell otherSheet other).answer world) ∧
        (reader.getSheet otherSheet).answer
            ((engine.upsert sheet cell value).leaves world) =
          (reader.getSheet otherSheet).answer world := by
  have hquiet : Quiet world.store world := ⟨rfl, hfired⟩
  obtain ⟨result, after, hresult, hafter, hends⟩ :=
    engine.upsert_concludes sheet cell value hquiet
  constructor
  · intro response hcommitted token otherSheet other hsheet hcell
    cases hresult.symm.trans hcommitted
    cases hends with
    | committed hanswers =>
        rw [(getCell_yields { engine with token } _ otherSheet other).answer hafter, hsheet,
          ← hanswers, ← Page.response_canonical, hcell]
        apply congrArg (Page.response · (canonical cell))
        -- The page of a reader does not depend on its token.
        change engine.page _ (canonical sheet) = _
        apply engine.page_congr
        intro id
        rw [Store.cell?_announce, Store.cell?_commit, Store.cell?_setCell]
  · intro response hrejected reader otherSheet
    cases hresult.symm.trans hrejected
    cases hends with
    | rejected =>
        refine ⟨fun other => ?_, ?_⟩
        · have hyields := reader.getCell_yields world.store otherSheet other
          rw [hyields.answer hafter, hyields.answer hquiet]
        · have hyields := reader.getSheet_yields world.store otherSheet hids
          rw [hyields.answer hafter, hyields.answer hquiet]

theorem canonical_of_linkedWorld {sheet cell value : String}
    (h : linkedWorld.store.cell? sheet cell = some value) : canonical cell = cell := by
  have hids : ∀ held ∈ linkedWorld.store.sheets.entries, ∀ entry ∈ held.2.entries,
      canonical entry.1 = entry.1 := by
    decide +kernel
  unfold Store.cell? Store.cells at h
  cases hheld : linkedWorld.store.sheets.get? sheet with
  | none =>
      rw [hheld] at h
      cases h
  | some cells =>
      rw [hheld] at h
      exact hids (sheet, cells) ((Table.get?_eq_some_iff _ _ _).mp hheld) (cell, value)
        ((Table.get?_eq_some_iff _ _ _).mp h)

theorem read_written_sample :
    linkedWorld.fired = [] ∧
      (∃ response,
        (upsert { fetch := Fetch.disabled, token := 0 } "S" "D" "=A+1").answer linkedWorld =
          .ok (.committed response) ∧
        (getCell { fetch := Fetch.disabled, token := 1 } "s" "d").answer
          ((upsert { fetch := Fetch.disabled, token := 0 } "S" "D" "=A+1").leaves
            linkedWorld) = .ok response ∧
        response.result = "2") ∧
      ∃ response,
        (upsert { fetch := Fetch.disabled, token := 0 } "S" "A" "5").answer linkedWorld =
          .ok (.rejected response) ∧
        (getSheet { fetch := Fetch.disabled, token := 1 } "s").answer
          ((upsert { fetch := Fetch.disabled, token := 0 } "S" "A" "5").leaves
            linkedWorld) =
          (getSheet { fetch := Fetch.disabled, token := 1 } "s").answer linkedWorld := by
  have hcommitted :
      (upsert { fetch := Fetch.disabled, token := 0 } "S" "D" "=A+1").answer linkedWorld =
        .ok (.committed { value := "=A+1", result := "2", error := none }) := by
    decide +kernel
  have hrejected :
      (upsert { fetch := Fetch.disabled, token := 0 } "S" "A" "5").answer linkedWorld =
        .ok (.rejected
          { value := "5"
            result := errorResult
            error := some (FormulaError.brokenDependent "c" (.cycle "c")).message }) := by
    decide +kernel
  refine ⟨rfl, ⟨_, hcommitted, ?_, rfl⟩, _, hrejected, ?_⟩
  · exact (read_written { fetch := Fetch.disabled, token := 0 } rfl
      canonical_of_linkedWorld "S" "D" "=A+1").1 hcommitted 1 (by decide +kernel)
      (by decide +kernel)
  · exact ((read_written { fetch := Fetch.disabled, token := 0 } rfl
      canonical_of_linkedWorld "S" "A" "5").2 hrejected
      { fetch := Fetch.disabled, token := 1 } "s").2

end Engine

end LiveSheet
