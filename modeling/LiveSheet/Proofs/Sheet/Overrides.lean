import LiveSheet.Proofs.Sheet.Acyclic
import LiveSheet.Proofs.Sheet.Sessions

namespace LiveSheet

open LiveSheet.Formula
open Relation

namespace Page

/-! Results that are kept while texts change.  They need not follow from one another any
more, since one that others were computed from may have been dropped. -/

/-- Results of formulas, each what its cell denotes. -/
structure Current (page : Page) (results : Table String) : Prop where
  cell : ∀ {cell text}, results.get? cell = some text → canonical cell = cell
  formula : ∀ {cell text}, results.get? cell = some text →
    ∃ value body, page.text? cell = some value ∧ body? value = some body
  denotes : ∀ {cell text}, results.get? cell = some text → page.Denotes cell text

theorem current_empty (page : Page) : page.Current Table.empty :=
  ⟨nofun, nofun, nofun⟩

open Classical in
noncomputable def meaning (page : Page) : Request → Option String
  | .cell name => if h : ∃ text, page.Denotes name text then some h.choose else none
  | .external locator => (page.external locator).toOption

variable {page : Page} {name text : String}

theorem meaning_cell : page.meaning (.cell name) = some text ↔ page.Denotes name text := by
  by_cases h : ∃ text, page.Denotes name text
  · rw [meaning, dif_pos h, Option.some_inj]
    constructor
    · rintro rfl
      exact h.choose_spec
    · exact h.choose_spec.unique
  · rw [meaning, dif_neg h]
    exact ⟨nofun, fun hdenotes => absurd ⟨text, hdenotes⟩ h⟩

theorem denotes_of_settle {value body : String} {expr : Expr} {literal : Literal}
    (hvalue : page.text? (canonical name) = some value) (hbody : body? value = some body)
    (hparse : parse body = .ok expr)
    (hsettle : (evaluate expr).settle page.meaning = some literal) :
    page.Denotes name literal.text :=
  .formula page.meaning hvalue hbody hparse (fun _ _ => meaning_cell.mp)
    (fun _ _ => external_toOption) hsettle

theorem Denotes.of_canonical {other : String} (h : page.Denotes name text)
    (hsame : canonical name = canonical other) : page.Denotes other text := by
  cases h with
  | plain holds noFormula => exact .plain (hsame ▸ holds) noFormula
  | formula answer holds isFormula parses cells externals settles =>
      exact .formula answer (hsame ▸ holds) isFormula parses cells externals settles

def Tells (page : Page) (reading : Reading α) (means : α → Prop) : Prop :=
  ∀ results answer after, page.Current results → reading results = (answer, after) →
    page.Current after ∧ ∀ value, answer = .ok value → means value

theorem tells_error (stop : Stop) (means : α → Prop) :
    page.Tells (fun results => (.error stop, results)) means := by
  intro results answer after hcurrent hread
  cases hread
  exact ⟨hcurrent, nofun⟩

theorem readAll_tells {inner : Request → Reading String}
    (h : ∀ request, page.Tells (inner request) fun text => page.meaning request = some text)
    (evaluation : Evaluation α) :
    page.Tells (readAll inner evaluation)
      fun value => evaluation.settle page.meaning = some value := by
  induction evaluation with
  | done value =>
      intro results answer after hcurrent hread
      cases hread
      exact ⟨hcurrent, fun other hother => by cases hother; rfl⟩
  | failed error => exact tells_error _ _
  | ask request resume ih =>
      intro results answer after hcurrent hread
      rcases hrequest : inner request results with ⟨stop | text, middle⟩
      · rw [readAll_ask_error hrequest] at hread
        cases hread
        obtain ⟨hmiddle, -⟩ := h request _ _ _ hcurrent hrequest
        exact ⟨hmiddle, nofun⟩
      · rw [readAll_ask_ok hrequest] at hread
        obtain ⟨hmiddle, hmeaning⟩ := h request _ _ _ hcurrent hrequest
        obtain ⟨hafter, hvalue⟩ := ih text _ _ _ hmiddle hread
        exact ⟨hafter, fun value hanswer => Option.bind_eq_some_iff.mpr
          ⟨text, hmeaning text rfl, hvalue value hanswer⟩⟩

theorem Current.insert {results : Table String} (h : page.Current results)
    {value body : String} (hvalue : page.text? (canonical name) = some value)
    (hbody : body? value = some body) (hdenotes : page.Denotes name text) :
    page.Current (results.insert (canonical name) text) where
  cell := by
    intro cell held hheld
    rw [Table.get?_insert] at hheld
    split at hheld
    · rename_i hsame
      rw [hsame, canonical_canonical]
    · exact h.cell hheld
  formula := by
    intro cell held hheld
    rw [Table.get?_insert] at hheld
    split at hheld
    · rename_i hsame
      exact ⟨value, body, hsame ▸ hvalue, hbody⟩
    · exact h.formula hheld
  denotes := by
    intro cell held hheld
    rw [Table.get?_insert] at hheld
    split at hheld
    · rename_i hsame
      cases hheld
      exact hsame ▸ hdenotes.of_canonical (canonical_canonical name).symm
    · exact h.denotes hheld

theorem readWith_tells {inner : Nesting → Request → Reading String}
    (h : ∀ nesting request, page.Tells (inner nesting request)
      fun text => page.meaning request = some text)
    (nesting : Nesting) (name : String) :
    page.Tells (page.readWith inner nesting name) (page.Denotes name) := by
  intro results answer after hcurrent hread
  have hcases := page.readWith_cases inner nesting name results
  rw [hread] at hcases
  cases hcases with
  | missing _ => exact ⟨hcurrent, nofun⟩
  | plain holds noFormula =>
      refine ⟨hcurrent, fun text htext => ?_⟩
      cases htext
      exact .plain holds noFormula
  | formula holds isFormula reads =>
      cases reads with
      | known held =>
          refine ⟨hcurrent, fun text htext => ?_⟩
          cases htext
          exact (hcurrent.denotes held).of_canonical (canonical_canonical name)
      | cycle _ => exact ⟨hcurrent, nofun⟩
      | unparsed _ => exact ⟨hcurrent, nofun⟩
      | deep => exact ⟨hcurrent, nofun⟩
      | @failed expr _ _ _ _ evaluates =>
          obtain ⟨hafter, -⟩ := readAll_tells (h _) (evaluate expr) _ _ _ hcurrent evaluates
          exact ⟨hafter, nofun⟩
      | @computed expr literal _ _ _ parses evaluates =>
          obtain ⟨hmiddle, hsettle⟩ :=
            readAll_tells (h _) (evaluate expr) _ _ _ hcurrent evaluates
          have hdenotes := denotes_of_settle holds isFormula parses (hsettle literal rfl)
          refine ⟨hmiddle.insert holds isFormula hdenotes, fun text htext => ?_⟩
          cases htext
          exact hdenotes

theorem answer_tells {read : String → Reading String}
    (h : ∀ name, page.Tells (read name) (page.Denotes name)) (request : Request) :
    page.Tells (page.answer read request) fun text => page.meaning request = some text := by
  intro results answer after hcurrent hread
  cases request with
  | external locator =>
      cases hread
      refine ⟨hcurrent, fun text htext => ?_⟩
      rw [meaning, htext]
      rfl
  | cell name =>
      rcases hname : read name results with ⟨stop | text, middle⟩
      · simp only [Page.answer, hname] at hread
        cases hread
        obtain ⟨hmiddle, -⟩ := h name _ _ _ hcurrent hname
        refine ⟨hmiddle, fun text htext => ?_⟩
        cases htext
      · simp only [Page.answer, hname] at hread
        cases hread
        obtain ⟨hmiddle, hdenotes⟩ := h name _ _ _ hcurrent hname
        exact ⟨hmiddle, fun text htext => meaning_cell.mpr (hdenotes text htext)⟩

theorem readWithin_tells (levels : Nat) (nesting : Nesting) (name : String) :
    page.Tells (page.readWithin levels nesting name) (page.Denotes name) := by
  induction levels generalizing nesting name with
  | zero => exact readWith_tells (fun _ _ => tells_error Stop.tooDeep _) nesting name
  | succ levels ih =>
      exact readWith_tells (fun inner request => answer_tells (ih inner) request) nesting name

theorem Denotes.setCell (h : page.Denotes name text) {cell : String} (value : String)
    (hfree : ¬ ReflTransGen page.Reads (canonical name) (canonical cell)) :
    (page.setCell cell value).Denotes name text := by
  have hagree : AgreeOn (ReflTransGen page.Reads (canonical name)) page
      (page.setCell cell value) := by
    refine ⟨rfl, rfl, fun {other} hreach => ?_, fun {other expr request} hreach hexpr hname => ?_⟩
    · refine (if_neg ?_).symm
      rintro rfl
      exact hfree hreach
    · exact hreach.tail ⟨expr, request, hexpr, hname, rfl⟩
  obtain ⟨results, hderived, hknown⟩ := h.derived
  obtain ⟨restricted, hrestricted, hsame, -⟩ := hagree.derived hderived
  rw [hagree.known? hsame .refl] at hknown
  exact hrestricted.denotes hknown

end Page

inductive Turn where
  | set (cell value : String)
  | take (step : Step)

namespace Turn

def apply (session : Session Unit) : Turn → Session Unit
  | .set cell value => { session with solver := session.solver.setCell cell value }
  | .take step => step.apply session

def run (turns : List Turn) (session : Session Unit) : Session Unit :=
  turns.foldl apply session

def onPage (page : Page) : Turn → Page
  | .set cell value => page.setCell cell value
  | .take _ => page

def page (turns : List Turn) (page : Page) : Page :=
  turns.foldl onPage page

theorem run_concat (turns : List Turn) (last : Turn) (session : Session Unit) :
    run (turns ++ [last]) session = last.apply (run turns session) := by
  rw [run, List.foldl_concat]
  rfl

theorem page_concat (turns : List Turn) (last : Turn) (start : Page) :
    page (turns ++ [last]) start = last.onPage (page turns start) := by
  rw [page, List.foldl_concat]
  rfl

theorem sheet_page (turns : List Turn) (start : Page) :
    (page turns start).sheet = start.sheet := by
  induction turns using List.reverseRecOn with
  | nil => rfl
  | append_singleton turns last ih =>
      rw [page_concat, ← ih]
      cases last <;> rfl

end Turn

def Truthful (page : Page) (session : Session Unit) : Prop :=
  ∀ cell resolution text, (Solve.resolve cell).answer session = .ok resolution →
    resolution.outcome = .ok text → page.Denotes cell text

/-- Whether a new text for a cell leaves the results that are kept for other cells what
these denote. -/
def Spares (page : Page) (session : Session Unit) (cell value : String) : Prop :=
  ∀ kept text, session.solver.cache.get? kept = some text → kept ≠ canonical cell →
    (page.setCell cell value).Denotes kept text

def UpToDate (page : Page) (store : Store) (session : Session Unit) : Prop :=
  ∃ results, Tracks page store Nesting.none results session ∧ page.Current results

namespace UpToDate

variable {page : Page} {store : Store} {session : Session Unit}

theorem truthful (h : UpToDate page store session) : Truthful page session := by
  obtain ⟨results, htracks, hcurrent⟩ := h
  intro cell resolution text hanswer houtcome
  have hread := (htracks.answer_eq_ok_iff (.ok text)).mp ⟨resolution, hanswer, houtcome⟩
  exact (Page.readWithin_tells maxResolutionDepth Nesting.none cell results _ _ hcurrent rfl).2
    text hread

theorem take (h : UpToDate page store session)
    (hids : ∀ {cell value}, store.cell? page.sheet cell = some value → canonical cell = cell)
    (step : Step) : UpToDate page store (step.apply session) := by
  obtain ⟨results, htracks, hcurrent⟩ := h
  cases step with
  | preload =>
      obtain ⟨after, hrun, hafter⟩ := Solve.preload_tracks htracks hids
      rw [Step.apply, Solve.leaves, hrun]
      exact ⟨results, hafter, hcurrent⟩
  | resolve cell =>
      obtain ⟨hafter, -⟩ := Page.readWithin_tells maxResolutionDepth Nesting.none cell
        results _ _ hcurrent rfl
      exact ⟨_, htracks.resolve cell, hafter⟩

theorem set (h : UpToDate page store session) {cell value : String}
    (hspares : Spares page session cell value) :
    UpToDate (page.setCell cell value) store (Turn.apply session (.set cell value)) := by
  obtain ⟨results, htracks, hcurrent⟩ := h
  refine ⟨_, htracks.setCell cell value, ?_, ?_, ?_⟩
  all_goals
    intro kept text hkept
    rw [Table.get?_erase] at hkept
    split at hkept
    · cases hkept
    rename_i hother
  · exact hcurrent.cell hkept
  · obtain ⟨held, body, hheld, hbody⟩ := hcurrent.formula hkept
    exact ⟨held, body, (if_neg hother).trans hheld, hbody⟩
  · exact hspares kept text (htracks.cache ▸ hkept) hother

theorem spares (h : UpToDate page store session) {cell value : String}
    (htruthful : Truthful (page.setCell cell value) (Turn.apply session (.set cell value))) :
    Spares page session cell value := by
  obtain ⟨results, htracks, hcurrent⟩ := h
  intro kept text hcache hother
  have hkept : (results.erase (canonical cell)).get? kept = some text := by
    rw [Table.get?_erase, if_neg hother, ← htracks.cache]
    exact hcache
  rw [htracks.cache] at hcache
  obtain ⟨held, body, hheld, hbody⟩ := hcurrent.formula hcache
  have hcanonical := hcurrent.cell hcache
  have hvalue : (page.setCell cell value).text? (canonical kept) = some held := by
    rw [hcanonical]
    exact (if_neg hother).trans hheld
  have hread : ((page.setCell cell value).read kept (results.erase (canonical cell))).1 =
      .ok text := by
    rw [Page.read, Page.readWithin_formula hvalue hbody, hcanonical,
      Page.readFormula_known hkept]
  obtain ⟨resolution, hanswer, houtcome⟩ :=
    ((htracks.setCell cell value).answer_eq_ok_iff (.ok text)).mpr hread
  exact htruthful kept resolution text hanswer houtcome

theorem spares_of_unread (h : UpToDate page store session) {cell value : String}
    (hunread : ∀ kept text, session.solver.cache.get? kept = some text →
      kept ≠ canonical cell → ¬ ReflTransGen page.Reads kept (canonical cell)) :
    Spares page session cell value := by
  obtain ⟨results, htracks, hcurrent⟩ := h
  intro kept text hcache hother
  have hfree := hunread kept text hcache hother
  rw [htracks.cache] at hcache
  have hcanonical := hcurrent.cell hcache
  rw [← hcanonical] at hfree
  exact (hcurrent.denotes hcache).setCell value hfree

/-- A session stays up to date when each text that is set spares what is kept. -/
theorem run (h : UpToDate page store session)
    (hids : ∀ {cell value}, store.cell? page.sheet cell = some value → canonical cell = cell)
    (turns : List Turn)
    (hspares : ∀ before cell value, before ++ [.set cell value] <+: turns →
      UpToDate (Turn.page before page) store (Turn.run before session) →
      Spares (Turn.page before page) (Turn.run before session) cell value) :
    UpToDate (Turn.page turns page) store (Turn.run turns session) := by
  induction turns using List.reverseRecOn with
  | nil => exact h
  | append_singleton turns last ih =>
      -- Whether the last text spares what is kept is asked where the others have been set.
      have hbefore := ih fun before cell value hcut =>
        hspares before cell value (hcut.trans (List.prefix_append turns [last]))
      rw [Turn.page_concat, Turn.run_concat]
      cases last with
      | set cell value => exact hbefore.set (hspares turns cell value List.prefix_rfl hbefore)
      | take step =>
          exact hbefore.take
            (fun {cell value} hvalue => hids (Turn.sheet_page turns page ▸ hvalue)) step

end UpToDate

namespace Engine

/-- A fresh session after some turns. -/
def turned (engine : Engine) (sheet : String) (world : World Unit) (turns : List Turn) :
    Session Unit :=
  Turn.run turns { solver := engine.solver sheet, world }

def turnedPage (engine : Engine) (sheet : String) (world : World Unit) (turns : List Turn) :
    Page :=
  Turn.page turns (engine.page world.store (canonical sheet))

variable {engine : Engine} {world : World Unit} {sheet : String}

theorem turned_upToDate (hfired : world.fired = [])
    (hids : ∀ {cell value}, world.store.cell? (canonical sheet) cell = some value →
      canonical cell = cell) (turns : List Turn)
    (hspares : ∀ before cell value, before ++ [.set cell value] <+: turns →
      UpToDate (engine.turnedPage sheet world before) world.store
        (engine.turned sheet world before) →
      Spares (engine.turnedPage sheet world before) (engine.turned sheet world before)
        cell value) :
    UpToDate (engine.turnedPage sheet world turns) world.store
      (engine.turned sheet world turns) := by
  have hfresh : UpToDate (engine.page world.store (canonical sheet)) world.store
      { solver := engine.solver sheet, world } :=
    ⟨Table.empty, engine.solver_tracks sheet ⟨rfl, hfired⟩, Page.current_empty _⟩
  exact hfresh.run hids turns hspares

/-- Every text that a session resolves a cell to, at any of its turns, is what the cell
denotes with the texts that are set by then, exactly when every text that is set leaves
the results that are kept for other cells what these denote.  It does so where none of
them comes to read the cell. -/
theorem overrides_take_effect_iff (engine : Engine) {world : World Unit}
    (hfired : world.fired = []) {sheet : String}
    (hids : ∀ {cell value}, world.store.cell? (canonical sheet) cell = some value →
      canonical cell = cell) (turns : List Turn) :
    ((∀ before, before <+: turns →
        Truthful (engine.turnedPage sheet world before) (engine.turned sheet world before)) ↔
      ∀ before cell value, before ++ [.set cell value] <+: turns →
        Spares (engine.turnedPage sheet world before) (engine.turned sheet world before)
          cell value) ∧
    ((∀ before cell value, before ++ [.set cell value] <+: turns →
        ∀ kept text, (engine.turned sheet world before).solver.cache.get? kept = some text →
          kept ≠ canonical cell →
          ¬ ReflTransGen (engine.turnedPage sheet world before).Reads kept (canonical cell)) →
      ∀ before, before <+: turns →
        Truthful (engine.turnedPage sheet world before) (engine.turned sheet world before)) := by
  refine ⟨⟨fun htruthful before cell value hcut => ?_, fun hspares before hbefore => ?_⟩,
    fun hunread before hbefore => ?_⟩
  · -- What is kept at a cut is answered with behind it, and so it is right there.
    have hbehind {cut : List Turn} {cell value : String}
        (hwritten : cut ++ [.set cell value] <+: turns)
        (hcurrent : UpToDate (engine.turnedPage sheet world cut) world.store
          (engine.turned sheet world cut)) :
        Spares (engine.turnedPage sheet world cut) (engine.turned sheet world cut)
          cell value := by
      apply hcurrent.spares
      have hright := htruthful _ hwritten
      rwa [turnedPage, turned, Turn.page_concat, Turn.run_concat] at hright
    refine hbehind hcut (turned_upToDate hfired hids before fun other id text hother => ?_)
    exact hbehind (hother.trans ((List.prefix_append before _).trans hcut))
  · exact (turned_upToDate hfired hids before fun cut cell value hcut _ =>
      hspares cut cell value (hcut.trans hbefore)).truthful
  · exact (turned_upToDate hfired hids before fun cut cell value hcut hcurrent =>
      hcurrent.spares_of_unread (hunread cut cell value (hcut.trans hbefore))).truthful

def revised : List Turn :=
  [.take (.resolve "B"), .set "B" "=A+2"]

theorem overrides_take_effect_iff_revised :
    sampleWorld.fired = [] ∧
      (turned { fetch := Fetch.disabled, token := 0 } "S" sampleWorld
        [.take (.resolve "B")]).solver.cache.entries = [("b", "2")] ∧
      (turnedPage { fetch := Fetch.disabled, token := 0 } "S" sampleWorld revised).Denotes
        "B" "3" := by
  have hcache : (turned { fetch := Fetch.disabled, token := 0 } "S" sampleWorld
      [.take (.resolve "B")]).solver.cache.entries = [("b", "2")] := by
    decide +kernel
  have hsum : ((Solve.resolve "B").answer (turned { fetch := Fetch.disabled, token := 0 } "S"
      sampleWorld revised)).map Resolution.outcome = .ok (.ok "3") := by
    decide +kernel
  obtain ⟨resolution, hanswer, houtcome⟩ := map_eq_ok hsum
  refine ⟨rfl, hcache, (overrides_take_effect_iff { fetch := Fetch.disabled, token := 0 } rfl
    canonical_of_sampleWorld revised).1.mpr ?_ revised List.prefix_rfl "B" resolution "3"
      hanswer houtcome⟩
  intro before cell value hcut kept text hkept hother
  rcases before with _ | ⟨first, _ | ⟨second, before⟩⟩
  · simp [revised] at hcut
  · obtain ⟨rfl, rfl, rfl⟩ : first = .take (.resolve "B") ∧ cell = "B" ∧ value = "=A+2" := by
      simpa [revised] using hcut
    have hcanonical : canonical "B" = "b" := by decide +kernel
    rw [Table.get?_eq_some_iff, hcache, List.mem_singleton] at hkept
    cases hkept
    exact absurd hcanonical.symm hother
  · simp [revised] at hcut

/-- A sum keeps its result when the number in it is changed. -/
theorem override_leaves_stale :
    ¬ Truthful
      (turnedPage { fetch := Fetch.disabled, token := 0 } "S" sampleWorld
        [.take (.resolve "B"), .set "A" "41"])
      (turned { fetch := Fetch.disabled, token := 0 } "S" sampleWorld
        [.take (.resolve "B"), .set "A" "41"]) := by
  intro htruthful
  have hstale : ((Solve.resolve "B").answer (turned { fetch := Fetch.disabled, token := 0 } "S"
      sampleWorld [.take (.resolve "B"), .set "A" "41"])).map Resolution.outcome =
        .ok (.ok "2") := by
    decide +kernel
  have hfresh : ((Solve.resolve "B").answer (Engine.session
      { fetch := Fetch.disabled, token := 0 } "S" [("A", "41")] sampleWorld)).map
        Resolution.outcome = .ok (.ok "42") := by
    decide +kernel
  obtain ⟨stale, hanswer, houtcome⟩ := map_eq_ok hstale
  obtain ⟨fresh, hfreshly, hright⟩ := map_eq_ok hfresh
  have hrests := session_rests { fetch := Fetch.disabled, token := 0 } "S" [("A", "41")]
    (⟨rfl, rfl⟩ : Quiet sampleWorld.store sampleWorld)
  have hdenotes := (hrests.denotes "B").1 fresh "42" hfreshly hright
  exact absurd ((htruthful "B" stale "2" hanswer houtcome).unique hdenotes) (by decide)

end Engine

end LiveSheet
