import LiveSheet.Proofs.Formula.Identifier
import LiveSheet.Proofs.Sheet.Outcome

namespace LiveSheet

open LiveSheet.Formula
open LiveSheet.Text

def CellResponse.plain (literal : String) : CellResponse :=
  { value := literal, result := literal, error := none }

namespace Concludes

variable {engine : Engine} {store after : Store} {sheet cell value : String}
  {result : Except StoreError WriteOutcome}

theorem commits (h : Concludes engine store sheet cell value result after)
    (hreads : ∀ name results,
      (engine.page (store.setCell sheet cell value) sheet).text? (canonical name) ≠ none →
        ∃ text, ((engine.page (store.setCell sheet cell value) sheet).read name results).1 =
          .ok text) :
    ∃ response told, result = .ok (.committed response) ∧
      (engine.page (store.setCell sheet cell value) sheet).response cell = .ok response ∧
      after = (store.commit sheet cell value).announce sheet told := by
  have hpasses {stop : Stop} :
      ¬ (engine.page (store.setCell sheet cell value) sheet).Stumbles stop := by
    rintro ⟨name, results, -, hexists, hread⟩
    obtain ⟨text, htext⟩ := hreads name results hexists
    cases hread.symm.trans htext
  cases h with
  | committed answers => exact ⟨_, _, rfl, answers, rfl⟩
  | rejected stumbles => exact absurd stumbles hpasses
  | failed stumbles => exact absurd stumbles hpasses

theorem rejects (h : Concludes engine store sheet cell value result after)
    {error : FormulaError}
    (hfails : ((engine.page (store.setCell sheet cell value) sheet).read cell
      Table.empty).1 = .error (.formula error))
    (hreads : ∀ name results failure,
      (engine.page (store.setCell sheet cell value) sheet).text? (canonical name) ≠ none →
        ((engine.page (store.setCell sheet cell value) sheet).read name results).1 ≠
          .error (.request failure)) :
    ∃ response, result = .ok (.rejected response) := by
  cases h with
  | committed answers computes =>
      rw [Page.response, hfails] at answers
      cases answers
      cases computes
  | rejected => exact ⟨_, rfl⟩
  | failed stumbles =>
      obtain ⟨name, results, -, hexists, hread⟩ := stumbles
      exact absurd hread (hreads name results _ hexists)

end Concludes

namespace Page

variable {page : Page} {id cell literal : String}

theorem response_plain (h : page.text? (canonical cell) = some literal)
    (hplain : body? literal = none) :
    page.response cell = .ok (CellResponse.plain literal) := by
  rw [response, read, readWithin_plain h hplain, responseTo, h]
  rfl

theorem read_mention (hid : isCellIdentifier id = true)
    (hcell : page.text? (canonical cell) = some ("=" ++ id)) {results : Table String}
    (hnew : results.get? (canonical cell) = none) :
    (page.read cell results).1 =
      match page.readWithin 511 (Nesting.none.enter (canonical cell) 2) (bareName id) results with
      | (.ok text, _) => .ok (Literal.ofText text).text
      | (.error stop, _) => .error (stop.forReader (bareName id)) := by
  have hanswer : page.answerWithin maxResolutionDepth = fun nesting =>
      page.answer (page.readWithin 511 nesting) := rfl
  rw [read, readWithin_formula hcell (body?_marked id), hanswer,
    readFormula_open hnew List.not_mem_nil (parse_cellIdentifier hid)
      (by simp [Nesting.none, Expr.height, maxResolutionDepth])]
  change (readExpr (page.answer (page.readWithin 511 (Nesting.none.enter (canonical cell) 2)))
    (canonical cell) (.identifier (bareName id)) results).1 = _
  generalize page.readWithin 511 (Nesting.none.enter (canonical cell) 2) = inner
  rcases hread : inner (bareName id) results with ⟨reading, after⟩
  cases reading with
  | ok text =>
      have hask : page.answer inner (.cell (bareName id)) results = (.ok text, after) := by
        simp only [answer, hread]
      rw [readExpr_ok]
      rw [evaluate, readAll_ask_ok hask, readAll_done]
  | error stop =>
      have hask : page.answer inner (.cell (bareName id)) results =
          (.error (stop.forReader (bareName id)), after) := by
        simp only [answer, hread]
      rw [readExpr_error]
      rw [evaluate, readAll_ask_error hask]

/-- A sheet of one plain cell and of one formula that is its id. -/
structure Pairs (page : Page) (id literal cell : String) : Prop where
  isId : isCellIdentifier id = true
  plain : body? literal = none
  origin : page.text? (canonical id) = some literal
  mention : page.text? (canonical cell) = some ("=" ++ id)
  only : ∀ {other}, page.text? other ≠ none → other = canonical id ∨ other = canonical cell

theorem Pairs.read_origin (h : page.Pairs id literal cell) {name : String}
    (hname : canonical name = canonical id) (levels : Nat) (nesting : Nesting)
    (results : Table String) :
    page.readWithin levels nesting name results = (.ok literal, results) := by
  apply readWithin_plain _ h.plain
  rw [hname, h.origin]

theorem Pairs.read_cell (h : page.Pairs id literal cell) {name : String}
    (hname : canonical name = canonical cell) {results : Table String}
    (hnew : results.get? (canonical cell) = none) :
    (page.read name results).1 = (page.read cell results).1 ∧
      ((page.read cell results).1 = .ok (Literal.ofText literal).text ∧
          id.toList.any isBlank = false ∨
        (∃ error, (page.read cell results).1 = .error (.formula error)) ∧
          id.toList.any isBlank = true) := by
  constructor
  · rw [← page.read_canonical name, hname, page.read_canonical]
  rw [read_mention h.isId h.mention hnew]
  cases hblank : id.toList.any isBlank with
  | false =>
      have hcanonical := (canonical_bareName_eq_iff h.isId).mpr hblank
      rw [h.read_origin hcanonical]
      exact Or.inl ⟨rfl, rfl⟩
  | true =>
      refine Or.inr ⟨?_, rfl⟩
      have hother : canonical (bareName id) ≠ canonical id := by
        rw [ne_eq, canonical_bareName_eq_iff h.isId, hblank]
        decide
      -- The name alone is no cell, or it is the cell that mentions it.
      cases hheld : page.text? (canonical (bareName id)) with
      | none =>
          rw [readWithin_missing hheld]
          exact ⟨_, rfl⟩
      | some value =>
          have hself : canonical (bareName id) = canonical cell :=
            (h.only (by simp [hheld])).resolve_left hother
          have hmention : page.text? (canonical (bareName id)) = some ("=" ++ id) := by
            rw [hself, h.mention]
          rw [readWithin_formula hmention (body?_marked id), hself,
            readFormula_cycle hnew List.mem_cons_self]
          exact ⟨_, rfl⟩

theorem Pairs.response_cell (h : page.Pairs id literal cell)
    (hblank : id.toList.any isBlank = false) :
    page.response cell =
      .ok { value := "=" ++ id, result := (Literal.ofText literal).text, error := none } := by
  rcases (h.read_cell rfl (Table.get?_empty _)).2 with ⟨hread, -⟩ | ⟨-, hspaced⟩
  · rw [response, hread, responseTo, h.mention]
    rfl
  · cases hblank.symm.trans hspaced

theorem Pairs.fails (h : page.Pairs id literal cell)
    (hblank : ¬ id.toList.any isBlank = false) :
    ∃ error, (page.read cell Table.empty).1 = .error (.formula error) := by
  rcases (h.read_cell rfl (Table.get?_empty _)).2 with ⟨-, hfree⟩ | ⟨hfails, -⟩
  · exact absurd hfree hblank
  · exact hfails

theorem Pairs.read_cases (h : page.Pairs id literal cell) {name : String}
    (hexists : page.text? (canonical name) ≠ none) (results : Table String) :
    (∃ text, (page.read name results).1 = .ok text) ∨
      id.toList.any isBlank = true ∧
        ∃ error, (page.read name results).1 = .error (.formula error) := by
  rcases h.only hexists with horigin | hcell
  · rw [read, h.read_origin horigin]
    exact Or.inl ⟨literal, rfl⟩
  cases hknown : results.get? (canonical cell) with
  | some text =>
      have hmention : page.text? (canonical name) = some ("=" ++ id) := by
        rw [hcell, h.mention]
      rw [read, readWithin_formula hmention (body?_marked id), hcell, readFormula_known hknown]
      exact Or.inl ⟨text, rfl⟩
  | none =>
      obtain ⟨hsame, ⟨hread, -⟩ | ⟨⟨error, hread⟩, hblank⟩⟩ := h.read_cell hcell hknown
      · exact Or.inl ⟨_, hsame.trans hread⟩
      · exact Or.inr ⟨hblank, error, hsame.trans hread⟩

theorem Pairs.reads (h : page.Pairs id literal cell) (hblank : id.toList.any isBlank = false)
    (name : String) (results : Table String) (hexists : page.text? (canonical name) ≠ none) :
    ∃ text, (page.read name results).1 = .ok text := by
  rcases h.read_cases hexists results with hreads | ⟨hspaced, -⟩
  · exact hreads
  · cases hblank.symm.trans hspaced

theorem Pairs.not_request (h : page.Pairs id literal cell) (name : String)
    (results : Table String) (failure : StoreError)
    (hexists : page.text? (canonical name) ≠ none) :
    (page.read name results).1 ≠ .error (.request failure) := by
  intro hstops
  rcases h.read_cases hexists results with ⟨text, hread⟩ | ⟨-, error, hread⟩
  · cases hread.symm.trans hstops
  · cases hread.symm.trans hstops

end Page

namespace Engine

theorem upsert_literal (engine : Engine) {store : Store} {world : World Unit}
    (h : Quiet store world) {sheet literal : String}
    (hempty : ∀ other, store.cell? (canonical sheet) other = none)
    (hplain : body? literal = none) (cell : String) :
    (engine.upsert sheet cell literal).answer world =
        .ok (.committed (CellResponse.plain literal)) ∧
      ∃ told, Quiet
        ((store.commit (canonical sheet) (canonical cell) literal).announce
          (canonical sheet) told)
        ((engine.upsert sheet cell literal).leaves world) := by
  obtain ⟨result, after, hresult, hquiet, hends⟩ := engine.upsert_concludes sheet cell literal h
  have htext (id : String) :
      (engine.page (store.setCell (canonical sheet) (canonical cell) literal)
        (canonical sheet)).text? id = if id = canonical cell then some literal else none := by
    simp [page, Store.cell?_setCell, hempty]
  obtain ⟨response, told, rfl, hresponse, rfl⟩ := hends.commits fun name results hexists => by
    rw [htext] at hexists
    have hname : canonical name = canonical cell := by simpa using hexists
    rw [Page.read, Page.readWithin_plain (by rw [htext, if_pos hname]) hplain]
    exact ⟨literal, rfl⟩
  rw [Page.response_plain (by rw [htext, if_pos (canonical_canonical cell)]) hplain] at hresponse
  cases hresponse
  exact ⟨hresult, told, hquiet⟩

theorem upsert_mention (engine : Engine) {store : Store} {world : World Unit}
    (h : Quiet store world) {id : String} (hid : isCellIdentifier id = true)
    {sheet literal cell : String} (hplain : body? literal = none)
    (honly : ∀ other, store.cell? (canonical sheet) other =
      if other = canonical id then some literal else none)
    (hcell : canonical cell ≠ canonical id) :
    if id.toList.any isBlank = false then
      (engine.upsert sheet cell ("=" ++ id)).answer world =
        .ok (.committed
          { value := "=" ++ id, result := (Literal.ofText literal).text, error := none })
    else
      ∃ response,
        (engine.upsert sheet cell ("=" ++ id)).answer world = .ok (.rejected response) := by
  obtain ⟨result, after, hresult, -, hends⟩ :=
    engine.upsert_concludes sheet cell ("=" ++ id) h
  rw [hresult]
  have htext (other : String) :
      (engine.page (store.setCell (canonical sheet) (canonical cell) ("=" ++ id))
        (canonical sheet)).text? other =
        if other = canonical cell then some ("=" ++ id)
        else if other = canonical id then some literal else none := by
    simp [page, Store.cell?_setCell, honly]
  have hpairs : (engine.page (store.setCell (canonical sheet) (canonical cell) ("=" ++ id))
      (canonical sheet)).Pairs id literal (canonical cell) := by
    refine ⟨hid, hplain, ?_, ?_, fun {other} hexists => ?_⟩
    · rw [htext, if_neg hcell.symm, if_pos rfl]
    · rw [htext, if_pos (canonical_canonical cell)]
    · rw [htext] at hexists
      rw [canonical_canonical]
      grind
  split
  · rename_i hblank
    obtain ⟨response, -, rfl, hresponse, -⟩ := hends.commits (hpairs.reads hblank)
    rw [hpairs.response_cell hblank] at hresponse
    cases hresponse
    rfl
  · rename_i hblank
    obtain ⟨error, hfails⟩ := hpairs.fails hblank
    obtain ⟨response, rfl⟩ := hends.rejects hfails hpairs.not_request
    exact ⟨response, rfl⟩

/-- The white space that an accepted id may carry is what decides whether a
formula can name its cell. -/
theorem mention_iff {id : String} (hid : isCellIdentifier id = true) :
    parse id = .ok (.identifier (bareName id)) ∧
      (bareName id = id ↔ id.toList.any isBlank = false) ∧
      (∀ {cell}, canonical cell ≠ canonical id →
        ((references cell ("=" ++ id)).toList = [canonical id] ↔
          id.toList.any isBlank = false)) ∧
      ∀ (writer reader : Engine) {world : World Unit} {sheet literal cell},
        world.fired = [] → (∀ other, world.store.cell? (canonical sheet) other = none) →
        body? literal = none → canonical cell ≠ canonical id →
        (writer.upsert sheet id literal).answer world =
            .ok (.committed (CellResponse.plain literal)) ∧
          if id.toList.any isBlank = false then
            (reader.upsert sheet cell ("=" ++ id)).answer
                ((writer.upsert sheet id literal).leaves world) =
              .ok (.committed
                { value := "=" ++ id
                  result := (Literal.ofText literal).text
                  error := none })
          else
            ∃ response,
              (reader.upsert sheet cell ("=" ++ id)).answer
                  ((writer.upsert sheet id literal).leaves world) =
                .ok (.rejected response) := by
  refine ⟨parse_cellIdentifier hid, bareName_eq_iff hid, references_eq_iff hid, ?_⟩
  intro writer reader world sheet literal cell hfired hempty hplain hcell
  obtain ⟨hcommitted, told, hquiet⟩ :=
    writer.upsert_literal ⟨rfl, hfired⟩ hempty hplain id
  refine ⟨hcommitted, reader.upsert_mention hquiet hid hplain (fun other => ?_) hcell⟩
  simp [Store.cell?_commit, hempty]

theorem mention_iff_sample :
    (∃ response,
        (upsert { fetch := Fetch.disabled, token := 1 } "s" "b" "= a").answer
          ((upsert { fetch := Fetch.disabled, token := 0 } "s" " a" "1").leaves
            (World.start ())) = .ok (.rejected response)) ∧
      (upsert { fetch := Fetch.disabled, token := 1 } "s" "b" "=A2").answer
          ((upsert { fetch := Fetch.disabled, token := 0 } "s" "A2" "1").leaves
            (World.start ())) =
        .ok (.committed { value := "=A2", result := "1", error := none }) := by
  have hempty (other : String) :
      (World.start ()).store.cell? (canonical "s") other = none := rfl
  have hplain : body? "1" = none := by decide
  have hspaced : isCellIdentifier " a" = true := by decide +kernel
  have hbare : isCellIdentifier "A2" = true := by decide +kernel
  obtain ⟨-, -, -, hrejected⟩ := mention_iff hspaced
  obtain ⟨-, -, -, hcommitted⟩ := mention_iff hbare
  constructor
  · have hsecond := (hrejected { fetch := Fetch.disabled, token := 0 }
      { fetch := Fetch.disabled, token := 1 } rfl hempty hplain
      (show canonical "b" ≠ canonical " a" by decide +kernel)).2
    rwa [if_neg (by decide)] at hsecond
  · have hsecond := (hcommitted { fetch := Fetch.disabled, token := 0 }
      { fetch := Fetch.disabled, token := 1 } rfl hempty hplain
      (show canonical "b" ≠ canonical "A2" by decide +kernel)).2
    rwa [if_pos (by decide)] at hsecond

end Engine

end LiveSheet
