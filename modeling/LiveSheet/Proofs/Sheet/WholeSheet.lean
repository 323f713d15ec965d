import LiveSheet.Proofs.Sheet.Sharing
import LiveSheet.Proofs.Sheet.Validation

namespace LiveSheet

open LiveSheet.Formula

/-! Reading a whole sheet.  All its cells are read in one session, which has
their texts from the start and keeps the results of formulas. -/

namespace Page

variable {page : Page} {cell : String}

theorem responseTo_eq_ok {reading : Except Stop String} {entry : CellResponse}
    (h : page.responseTo cell reading = .ok entry) :
    entry.value = (page.text? (canonical cell)).getD "" ∧
      (entry.error = none ∧ reading = .ok entry.result ∨
        ∃ error, reading = .error (.formula error) ∧ entry.result = errorResult ∧
          entry.error = some error.message) := by
  cases reading with
  | ok result =>
      cases h
      exact ⟨rfl, Or.inl ⟨rfl, rfl⟩⟩
  | error stop =>
      cases stop with
      | formula error =>
          cases h
          exact ⟨rfl, Or.inr ⟨error, rfl, rfl, rfl⟩⟩
      | request error => cases h

theorem exists_responseTo_eq_ok {reading : Except Stop String}
    (h : ∀ error, reading ≠ .error (.request error)) :
    ∃ entry, page.responseTo cell reading = .ok entry := by
  rcases reading with (failure | error) | text
  · exact ⟨_, rfl⟩
  · exact absurd rfl (h error)
  · exact ⟨_, rfl⟩

/-- The entry of a cell in a list, with what was computed before it at hand. -/
def Lists (page : Page) (cell : String) (entry : CellResponse) : Prop :=
  ∃ results, page.Sound Nesting.none results ∧
    page.responseTo cell (page.read cell results).1 = .ok entry

/-- An entry is the response to a request for the cell alone, unless the cell
alone nests too deep. -/
theorem Lists.response {entry : CellResponse} (h : page.Lists cell entry) :
    ∃ response, page.response cell = .ok response ∧ response.value = entry.value ∧
      (response ≠ entry ↔
        response.error =
          some (FormulaError.eval (.depthExceeded maxResolutionDepth)).message ∧
        entry.error ≠
          some (FormulaError.eval (.depthExceeded maxResolutionDepth)).message) := by
  obtain ⟨results, hsound, hentry⟩ := h
  have hshared := read_shared hsound cell
  unfold Page.response
  generalize page.read cell Table.empty = alone at hshared ⊢
  generalize page.read cell results = among at hshared hentry
  -- Unless the limit cuts the reading alone short, the two are the same.
  cases hshared with
  | ok | error => exact ⟨entry, hentry, rfl, by grind⟩
  | tooDeep =>
      obtain ⟨hvalue, houtcome⟩ := responseTo_eq_ok hentry
      refine ⟨_, rfl, hvalue.symm, fun hne => ⟨rfl, fun herror => hne ?_⟩,
        fun ⟨herror, hother⟩ heq => hother (heq ▸ herror)⟩
      rcases houtcome with ⟨hnone, -⟩ | ⟨error, -, hresult, -⟩
      · rw [hnone] at herror
        cases herror
      · obtain ⟨value, result, message⟩ := entry
        obtain rfl : value = _ := hvalue
        obtain rfl : result = _ := hresult
        obtain rfl : message = _ := herror
        rfl

theorem Lists.fits {entry response : CellResponse} (h : page.Lists cell entry)
    (hentry : entry.error = none) (hresponse : page.response cell = .ok response)
    {value : String} (hvalue : page.text? (canonical cell) = some value) :
    response.error = none ↔ page.fits cell = true := by
  obtain ⟨results, hsound, hlisted⟩ := h
  rcases (responseTo_eq_ok hlisted).2 with ⟨-, hreading⟩ | ⟨error, -, -, herror⟩
  · rcases hread : page.read cell results with ⟨reading, after⟩
    rw [hread] at hreading
    obtain ⟨hafter, -, hknown⟩ := readWithin_grows _ _ cell _ _ _ hsound hread
    obtain ⟨other, hother, -, hfits⟩ :=
      response_of_known hafter.derived hvalue (hknown _ hreading)
    cases hresponse.symm.trans hother
    rcases hfits with ⟨herror, hfits⟩ | ⟨herror, hfits⟩ <;> simp [herror, hfits]
  · rw [hentry] at herror
    cases herror

/-- The entries of a list of cells, each read with the results of those before
it at hand. -/
def list (page : Page) : List String → SheetResponse → Table String →
    Except StoreError SheetResponse
  | [], entries, _ => .ok entries
  | cell :: cells, entries, results =>
      match page.responseTo cell (page.read cell results).1 with
      | .ok entry =>
          page.list cells (entries.insert cell entry) (page.read cell results).2
      | .error error => .error error

theorem list_lists (hfetch : ∀ locator, page.fetch locator ≠ .error .cancelled)
    {cells : List String} (hexist : ∀ cell ∈ cells, page.text? (canonical cell) ≠ none)
    {results : Table String} (hsound : page.Sound Nesting.none results)
    (entries : SheetResponse) :
    ∃ listed, page.list cells entries results = .ok listed ∧
      (∀ cell, cell ∉ cells → listed.get? cell = entries.get? cell) ∧
      ∀ cell ∈ cells, ∃ entry, listed.get? cell = some entry ∧ page.Lists cell entry := by
  induction cells generalizing entries results with
  | nil => exact ⟨entries, rfl, fun _ _ => rfl, nofun⟩
  | cons cell cells ih =>
      obtain ⟨hcell, hrest⟩ := List.forall_mem_cons.mp hexist
      have hafter : page.Sound Nesting.none (page.read cell results).2 :=
        (readWithin_grows _ _ cell _ _ _ hsound rfl).1
      obtain ⟨entry, hentry⟩ : ∃ entry,
          page.responseTo cell (page.read cell results).1 = .ok entry :=
        exists_responseTo_eq_ok (readUnder_ne_request hfetch hcell Nesting.none results)
      obtain ⟨listed, hlisted, hothers, hcells⟩ := ih hrest hafter (entries.insert cell entry)
      refine ⟨listed, ?_, fun other hother => ?_, fun other hother => ?_⟩
      · unfold list
        rw [hentry]
        exact hlisted
      · rw [List.mem_cons, not_or] at hother
        rw [hothers other hother.2, Table.get?_insert_of_ne _ _ hother.1]
      · by_cases hmem : other ∈ cells
        · exact hcells other hmem
        · obtain rfl := (List.mem_cons.mp hother).resolve_right hmem
          exact ⟨entry, (hothers other hmem).trans (Table.get?_insert_self _ _ _),
            results, hsound, hentry⟩

end Page

namespace Solve

theorem mem_insertId (id other : String) (ids : List String) :
    other ∈ insertId id ids ↔ other = id ∨ other ∈ ids := by
  induction ids with
  | nil => simp [insertId]
  | cons first rest ih =>
      unfold insertId
      split
      · exact List.mem_cons
      · rw [List.mem_cons, ih, List.mem_cons]
        exact or_left_comm

theorem mem_sortIds (ids : List String) (id : String) : id ∈ sortIds ids ↔ id ∈ ids := by
  induction ids with
  | nil => exact Iff.rfl
  | cons first rest ih =>
      change id ∈ insertId first (sortIds rest) ↔ id ∈ first :: rest
      rw [mem_insertId, ih, List.mem_cons]

theorem or_seeded {texts : String → Option String} {cells : List (String × String)}
    (h : ∀ entry ∈ cells, texts (canonical entry.1) = some entry.2) (values : Table String)
    (cell : String) :
    ((cells.foldl (fun values entry => values.insertNew (canonical entry.1) entry.2)
      values).get? cell).or (texts cell) = (values.get? cell).or (texts cell) := by
  induction cells generalizing values with
  | nil => rfl
  | cons entry cells ih =>
      rw [List.foldl_cons, ih fun other hmem => h other (List.mem_cons_of_mem _ hmem),
        Table.get?_insertNew]
      split
      · rename_i heq
        rw [heq, h entry List.mem_cons_self]
        cases values.get? (canonical entry.1) <;> rfl
      · rfl

variable {page : Page} {store : Store} {nesting : Nesting} {results : Table String}
  {session : Session Unit}

def preloaded (store : Store) (sheet : String) : List String :=
  sortIds ((store.cells sheet).keys.map canonical)

theorem preload_tracks (h : Tracks page store nesting results session)
    (hids : ∀ {cell value}, store.cell? page.sheet cell = some value →
      canonical cell = cell) :
    ∃ after, preload session = .ok (preloaded store page.sheet) after ∧
      Tracks page store nesting results after := by
  have hentry {entry : String × String} (hmem : entry ∈ (store.cells page.sheet).entries) :
      store.cell? page.sheet entry.1 = some entry.2 :=
    (Table.get?_eq_some_iff _ _ _).mpr hmem
  obtain ⟨world, hworld, hrequest⟩ := request_yields
    (Access.request_yields session.solver.token (.getAllCells session.solver.sheet) store)
    h.quiet
  refine ⟨{ solver := session.solver.seed (store.cells page.sheet).entries, world }, ?_,
    { h with quiet := hworld, text := fun cell => ?_ }⟩
  · rw [preload, bind_get, bind_of_ok hrequest, h.sheet]
    rfl
  · rw [← h.text cell]
    refine or_seeded (fun entry hmem => ?_) session.solver.values cell
    rw [hids (hentry hmem)]
    exact hentry hmem

theorem mem_preloaded {sheet : String}
    (hids : ∀ {cell value}, store.cell? sheet cell = some value → canonical cell = cell)
    (id : String) : id ∈ preloaded store sheet ↔ store.cell? sheet id ≠ none := by
  rw [preloaded, mem_sortIds, List.mem_map]
  constructor
  · rintro ⟨key, hkey, rfl⟩
    obtain ⟨value, hvalue⟩ := (Table.mem_keys_iff _ key).mp hkey
    rw [hids hvalue]
    exact Option.ne_none_iff_exists'.mpr ⟨value, hvalue⟩
  · intro hid
    obtain ⟨value, hvalue⟩ := Option.ne_none_iff_exists'.mp hid
    exact ⟨id, Table.mem_keys_of_get? hvalue, hids hvalue⟩

end Solve

namespace Engine

variable {page : Page} {store : Store}

theorem resolveAll_yields (cells : List String) (entries : SheetResponse)
    {results : Table String} {session : Session Unit}
    (h : Tracks page store Nesting.none results session) :
    ∃ after, Quiet store after.world ∧
      resolveAll cells entries session = endsWith after (page.list cells entries results) := by
  induction cells generalizing entries results session with
  | nil => exact ⟨session, h.quiet, rfl⟩
  | cons cell cells ih =>
      have hresolve := Solve.resolve_matches cell results session h
      unfold resolveAll Page.list
      cases hrun : Solve.resolve cell session with
      | error error after =>
          rw [hrun] at hresolve
          obtain ⟨hafter, hreading⟩ := hresolve
          rw [bind_of_error hrun, hreading]
          exact ⟨after, hafter.quiet, rfl⟩
      | ok resolution after =>
          rw [hrun] at hresolve
          obtain ⟨hafter, hseen⟩ := hresolve
          rw [bind_of_ok hrun, Page.responseTo_of_seen hseen]
          exact ih (entries.insert cell resolution.response) hafter

def listing (engine : Engine) (store : Store) (sheet : String) :
    Except StoreError SheetResponse :=
  if store.sheetExists sheet then
    (engine.page store sheet).list (Solve.preloaded store sheet) Table.empty Table.empty
  else .error (.notFound sheet)

theorem getSheet_yields (engine : Engine) (store : Store) (sheet : String)
    (hids : ∀ {cell value}, store.cell? (canonical sheet) cell = some value →
      canonical cell = cell) :
    (engine.getSheet sheet : Access Unit SheetResponse).Yields store
      (engine.listing store (canonical sheet)) store := by
  refine (Access.request_yields engine.token (.sheetExists (canonical sheet)) store).bind ?_
  unfold listing
  cases store.sheetExists (canonical sheet) with
  | false => exact fun world hworld => ⟨world, hworld, rfl⟩
  | true =>
      intro world hworld
      have htracks := engine.solver_tracks (canonical sheet) hworld
      rw [canonical_canonical] at htracks
      obtain ⟨session, hpreload, hsession⟩ := Solve.preload_tracks htracks hids
      obtain ⟨after, hquiet, hlist⟩ :=
        resolveAll_yields (Solve.preloaded store (canonical sheet)) Table.empty hsession
      exact ⟨after.world, hquiet, Solve.within_ends ((bind_of_ok hpreload).trans hlist)⟩

theorem getSheet_lists (engine : Engine)
    (hfetch : ∀ locator, engine.fetch false locator ≠ .error .cancelled) {sheet : String}
    (hids : ∀ {cell value}, store.cell? (canonical sheet) cell = some value →
      canonical cell = cell)
    (hexists : store.sheetExists (canonical sheet) = true) {world : World Unit}
    (h : Quiet store world) :
    ∃ entries, (engine.getSheet sheet).answer world = .ok entries ∧
      (∀ cell, store.cell? (canonical sheet) cell = none → entries.get? cell = none) ∧
      ∀ cell, store.cell? (canonical sheet) cell ≠ none → ∃ entry,
        entries.get? cell = some entry ∧
          (engine.page store (canonical sheet)).Lists cell entry := by
  have hmem := Solve.mem_preloaded hids
  have hexist : ∀ cell ∈ Solve.preloaded store (canonical sheet),
      (engine.page store (canonical sheet)).text? (canonical cell) ≠ none := by
    intro cell hcell
    have hstored := (hmem cell).mp hcell
    obtain ⟨value, hvalue⟩ := Option.ne_none_iff_exists'.mp hstored
    rw [hids hvalue]
    exact hstored
  obtain ⟨entries, hlist, hothers, hcells⟩ :=
    Page.list_lists hfetch hexist (Page.sound_empty _ _) Table.empty
  have hanswer := (engine.getSheet_yields store sheet hids).answer h
  rw [listing, if_pos hexists, hlist] at hanswer
  exact ⟨entries, hanswer,
    fun cell hcell => hothers cell fun hlisted => (hmem cell).mp hlisted hcell,
    fun cell hcell => hcells cell ((hmem cell).mpr hcell)⟩

theorem getSheet_missing (engine : Engine) {sheet : String}
    (hexists : store.sheetExists (canonical sheet) = false) {world : World Unit}
    (h : Quiet store world) :
    (engine.getSheet sheet).answer world = .error (.notFound (canonical sheet)) := by
  obtain ⟨asked, hasked, hrequest⟩ :=
    Access.request_yields engine.token (.sheetExists (canonical sheet)) store world h
  simp only [Access.answer, getSheet, Bind.bind, EStateM.bind, hrequest, Call.perform,
    hexists, endsWith]
  rfl

/-- A whole sheet is read as its cells are alone, but for those that alone nest
too deep. -/
theorem getSheet_agrees (engine : Engine)
    (hfetch : ∀ locator, engine.fetch false locator ≠ .error .cancelled)
    {world : World Unit} (hfired : world.fired = []) {sheet : String}
    (hids : ∀ {cell value}, world.store.cell? (canonical sheet) cell = some value →
      canonical cell = cell) :
    (world.store.sheetExists (canonical sheet) = false →
      (engine.getSheet sheet).answer world = .error (.notFound (canonical sheet))) ∧
    (world.store.sheetExists (canonical sheet) = true →
      ∃ entries, (engine.getSheet sheet).answer world = .ok entries ∧
        (∀ cell, cell ∈ entries.keys ↔
          world.store.cell? (canonical sheet) cell ≠ none) ∧
        ∀ {cell entry}, entries.get? cell = some entry →
          ∃ response, (engine.getCell sheet cell).answer world = .ok response ∧
            response.value = entry.value ∧
            (response ≠ entry ↔
              response.error =
                some (FormulaError.eval (.depthExceeded maxResolutionDepth)).message ∧
              entry.error ≠
                some (FormulaError.eval (.depthExceeded maxResolutionDepth)).message) ∧
            (entry.error = none → (response = entry ↔
              (engine.page world.store (canonical sheet)).fits cell = true))) := by
  have hquiet : Quiet world.store world := ⟨rfl, hfired⟩
  refine ⟨fun hexists => engine.getSheet_missing hexists hquiet, fun hexists => ?_⟩
  obtain ⟨entries, hanswer, hothers, hcells⟩ :=
    engine.getSheet_lists hfetch hids hexists hquiet
  refine ⟨entries, hanswer, fun cell => ?_, fun {cell entry} hentry => ?_⟩
  · constructor
    · intro hkey hnone
      exact (Table.not_mem_keys_iff _ _).mpr (hothers cell hnone) hkey
    · intro hstored
      obtain ⟨entry, hentry, -⟩ := hcells cell hstored
      exact Table.mem_keys_of_get? hentry
  · have hstored : world.store.cell? (canonical sheet) cell ≠ none := by
      intro hnone
      rw [hothers cell hnone] at hentry
      cases hentry
    obtain ⟨value, hvalue⟩ := Option.ne_none_iff_exists'.mp hstored
    obtain ⟨listed, hlisted, hlists⟩ := hcells cell hstored
    cases hentry.symm.trans hlisted
    obtain ⟨response, hresponse, hsame, hiff⟩ := hlists.response
    refine ⟨response, ((engine.getCell_yields _ sheet cell).answer hquiet).trans hresponse,
      hsame, hiff, fun hfree => ?_⟩
    have htext : (engine.page world.store (canonical sheet)).text? (canonical cell) =
        some value := by
      rw [hids hvalue]
      exact hvalue
    rw [← hlists.fits hfree hresponse htext]
    grind

def sampleWorld : World Unit :=
  { World.start () with
    store :=
      ((Store.empty.setCell "s" "a" "1").setCell "s" "b" "=A+1").setCell "s" "c" "=b+c" }

theorem canonical_of_cells {store : Store} {sheet cell value : String}
    (hids : ∀ entry ∈ (store.cells sheet).entries, canonical entry.1 = entry.1)
    (h : store.cell? sheet cell = some value) : canonical cell = cell :=
  hids (cell, value) ((Table.get?_eq_some_iff _ _ _).mp h)

theorem canonical_of_sampleWorld {cell value : String}
    (h : sampleWorld.store.cell? (canonical "S") cell = some value) :
    canonical cell = cell :=
  canonical_of_cells (by decide +kernel) h

theorem getSheet_agrees_sample :
    (∀ locator, Fetch.disabled false locator ≠ .error .cancelled) ∧
      sampleWorld.fired = [] ∧ sampleWorld.store.sheetExists (canonical "S") = true ∧
      ∃ entries entry,
        (({ fetch := Fetch.disabled, token := 0 } : Engine).getSheet "S").answer sampleWorld =
          .ok entries ∧
        entries.get? "c" = some entry ∧
        (({ fetch := Fetch.disabled, token := 0 } : Engine).getCell "S" "c").answer
          sampleWorld = .ok entry := by
  have hfetch : ∀ locator, Fetch.disabled false locator ≠ .error .cancelled := by
    intro locator
    simp [Fetch.disabled]
  have hexists : sampleWorld.store.sheetExists (canonical "S") = true := by decide +kernel
  have halone : (({ fetch := Fetch.disabled, token := 0 } : Engine).getCell "S" "c").answer
      sampleWorld = .ok
        { value := "=b+c", result := errorResult, error := some (FormulaError.cycle "c").message } := by
    decide +kernel
  obtain ⟨entries, hanswer, hkeys, hentries⟩ :=
    (getSheet_agrees { fetch := Fetch.disabled, token := 0 } hfetch
      (rfl : sampleWorld.fired = []) canonical_of_sampleWorld).2 hexists
  obtain ⟨entry, hentry⟩ := (Table.mem_keys_iff entries "c").mp
    ((hkeys "c").mpr (by decide +kernel))
  obtain ⟨response, hresponse, -, hdiffer, -⟩ := hentries hentry
  cases halone.symm.trans hresponse
  refine ⟨hfetch, rfl, hexists, entries, entry, hanswer, hentry, ?_⟩
  have hshallow : (FormulaError.cycle "c").message ≠
      (FormulaError.eval (.depthExceeded maxResolutionDepth)).message := by
    decide +kernel
  rw [halone, not_not.mp fun hne => hshallow (Option.some.inj (hdiffer.mp hne).1)]

end Engine

end LiveSheet
