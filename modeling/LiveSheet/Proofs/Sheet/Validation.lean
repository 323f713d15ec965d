import LiveSheet.Proofs.Sheet.Answers
import LiveSheet.Proofs.Store.DepthFirst
import LiveSheet.Sheet.Dependents

namespace LiveSheet

open LiveSheet.Formula
open Relation

namespace Page

/-- A reading whose requests only fail in ways that hold. -/
def StopsWith (reading : Reading α) (holds : StoreError → Prop) : Prop :=
  ∀ results after error, reading results = (.error (.request error), after) → holds error

theorem isNotFound_of_forReader {name : String} {stop : Stop} {error : StoreError}
    (h : stop.forReader name = .request error) :
    stop = .request error ∧ error.isNotFound = false := by
  cases stop with
  | formula failure => cases h
  | request failure =>
      unfold Stop.forReader at h
      dsimp only at h
      split at h
      · cases h
      · rename_i hfound
        cases h
        exact ⟨rfl, Bool.eq_false_iff.mpr hfound⟩

variable {page : Page} {holds : StoreError → Prop}

theorem answer_stopsWith {read : String → Reading String}
    (hread : ∀ name, StopsWith (read name) fun error =>
      error.isNotFound = false → holds error)
    (hexternal : ∀ locator error, page.external locator = .error (.request error) →
      holds error)
    (request : Request) : StopsWith (page.answer read request) holds := by
  intro results after error h
  cases request with
  | cell name =>
      rcases hname : read name results with ⟨stop | text, middle⟩
      · simp only [Page.answer, hname] at h
        obtain ⟨rfl, hfound⟩ :=
          isNotFound_of_forReader (Except.error.inj (Prod.mk.inj h).1)
        exact hread name results middle error hname hfound
      · simp only [Page.answer, hname] at h
        cases h
  | external locator => exact hexternal locator error (Prod.mk.inj h).1

theorem external_cancelled {locator : String} {error : StoreError}
    (h : page.external locator = .error (.request error)) :
    page.fetch locator = .error .cancelled ∧ error = .cancelled := by
  unfold external at h
  split at h
  · cases h
  · rename_i hfetch
    cases h
    exact ⟨hfetch, rfl⟩
  · cases h

theorem readAll_stopsWith {inner : Request → Reading String}
    (h : ∀ request, StopsWith (inner request) holds) (evaluation : Evaluation α) :
    StopsWith (readAll inner evaluation) holds := by
  induction evaluation with
  | done value =>
      intro results after error hread
      cases hread
  | failed failure =>
      intro results after error hread
      cases hread
  | ask request resume ih =>
      intro results after error hread
      rcases hrequest : inner request results with ⟨stop | text, middle⟩
      · rw [readAll_ask_error hrequest] at hread
        cases hread
        exact h request results after error hrequest
      · rw [readAll_ask_ok hrequest] at hread
        exact ih text middle after error hread

theorem readWith_stopsWith {inner : Nesting → Request → Reading String}
    (h : ∀ nesting request, StopsWith (inner nesting request) holds) (nesting : Nesting)
    (name : String)
    (hmissing : page.text? (canonical name) = none →
      holds (.notFound (Store.cellKey page.sheet (canonical name)))) :
    StopsWith (page.readWith inner nesting name) holds := by
  intro results after error hread
  have hcases := page.readWith_cases inner nesting name results
  rw [hread] at hcases
  cases hcases with
  | missing absent => exact hmissing absent
  | formula _ _ reads =>
      cases reads with
      | @failed expr _ _ _ _ evaluates =>
          exact readAll_stopsWith (h _) (evaluate expr) results after error evaluates

theorem answerWithin_stopsWith (levels : Nat) (nesting : Nesting) (request : Request) :
    StopsWith (page.answerWithin levels nesting request)
      fun error => error.isNotFound = false := by
  cases levels with
  | zero =>
      intro results after error h
      cases h
  | succ levels =>
      refine answer_stopsWith (fun _ _ _ _ _ => id) (fun locator error h => ?_) request
      rw [(external_cancelled h).2]
      rfl

theorem isNotFound_of_readUnder {name : String}
    (hexists : page.text? (canonical name) ≠ none) (nesting : Nesting) :
    StopsWith (page.readUnder nesting name) fun error => error.isNotFound = false := by
  unfold readUnder
  rw [readWithin_eq]
  exact readWith_stopsWith (answerWithin_stopsWith _) nesting name
    fun hmissing => absurd hmissing hexists

theorem readWithin_stopsWith
    (hfetch : ∀ locator, page.fetch locator ≠ .error .cancelled) (levels : Nat)
    (nesting : Nesting) (name : String) :
    StopsWith (page.readWithin levels nesting name)
      fun error => error.isNotFound = true := by
  induction levels generalizing nesting name with
  | zero =>
      refine readWith_stopsWith (fun _ _ results after error h => ?_) nesting name
        fun _ => rfl
      cases h
  | succ levels ih =>
      refine readWith_stopsWith (fun inner request => ?_) nesting name fun _ => rfl
      refine answer_stopsWith (fun name results after error h hfound => ?_)
        (fun locator error h => absurd (external_cancelled h).1 (hfetch locator)) request
      rw [ih inner name results after error h] at hfound
      cases hfound

theorem readUnder_ne_request (hfetch : ∀ locator, page.fetch locator ≠ .error .cancelled)
    {name : String} (hexists : page.text? (canonical name) ≠ none) (nesting : Nesting)
    (results : Table String) (error : StoreError) :
    (page.readUnder nesting name results).1 ≠ .error (.request error) := by
  intro hread
  have hmissing : error.isNotFound = true :=
    readWithin_stopsWith hfetch _ nesting name results _ error (Prod.ext hread rfl)
  have hfound : error.isNotFound = false :=
    isNotFound_of_readUnder hexists nesting results _ error (Prod.ext hread rfl)
  cases hmissing.symm.trans hfound

def Knows (page : Page) (results : Table String) (cell : String) : Prop :=
  ∃ text, page.known? results cell = some text

theorem Knows.mono {results after : Table String} {cell : String}
    (h : page.Knows results cell) (hwithin : results.Within after) : page.Knows after cell := by
  obtain ⟨text, htext⟩ := h
  exact ⟨text, known?_mono hwithin htext⟩

theorem Knows.text {results : Table String} {cell : String} (h : page.Knows results cell) :
    page.text? (canonical cell) ≠ none := by
  obtain ⟨text, htext⟩ := h
  obtain ⟨value, hvalue, -⟩ := Option.bind_eq_some_iff.mp htext
  exact Option.ne_none_iff_exists'.mpr ⟨value, hvalue⟩

end Page

/-! Validation in order.  A stack leads a validation through the dependents of a cell; it
ends as if they had been listed before, depth first, and resolved one after another. -/

namespace Page

variable (page : Page)

/-- An edge along which a walk goes on, as it does from a cell that exists. -/
def Follows (store : Store) (sheet cell dependent : String) : Prop :=
  page.text? (canonical cell) ≠ none ∧ store.Informs sheet cell dependent

def dependentIds (store : Store) (sheet cell : String) : List String :=
  if page.text? (canonical cell) = none then [] else store.dependentIds sheet cell

def judge (nesting : Nesting) :
    List String → Table String → Except StoreError (Option FormulaError) × Table String
  | [], results => (.ok none, results)
  | cell :: cells, results =>
      if page.text? (canonical cell) = none then judge nesting cells results
      else
        match page.readUnder nesting cell results with
        | (.ok _, after) => judge nesting cells after
        | (.error (.formula source), after) =>
            (.ok (some (.brokenDependent cell source)), after)
        | (.error (.request error), after) => (.error error, after)

variable {page} {store : Store} {nesting : Nesting} {sheet cell dependent : String}
  {cells order : List String} {results : Table String}

theorem mem_dependentIds_iff :
    dependent ∈ page.dependentIds store sheet cell ↔
      page.Follows store sheet cell dependent := by
  unfold dependentIds Follows
  split
  · rename_i habsent
    exact iff_of_false List.not_mem_nil fun hboth => hboth.1 habsent
  · rename_i hexists
    exact (and_iff_right hexists).symm

theorem mem_cons_order_iff
    (h : DepthFirst (page.dependentIds store sheet) {cell} (store.dependentIds sheet cell) order)
    (hexists : page.text? (canonical cell) ≠ none) (id : String) :
    id ∈ cell :: order ↔ ReflTransGen (page.Follows store sheet) cell id := by
  have hroot : DepthFirst (page.dependentIds store sheet) ∅ [cell] (cell :: order) := by
    refine .push (Set.notMem_empty cell) ?_
    rw [insert_empty_eq, List.append_nil, dependentIds, if_neg hexists]
    exact h
  rw [hroot.mem_iff_of_root]
  simp only [mem_dependentIds_iff]

theorem readUnder_missing (h : page.text? (canonical cell) = none) (nesting : Nesting)
    (results : Table String) :
    page.readUnder nesting cell results =
      (.error (.request (.notFound (Store.cellKey page.sheet (canonical cell)))), results) :=
  readWithin_missing h maxResolutionDepth nesting results

theorem judge_missing (h : page.text? (canonical cell) = none) (nesting : Nesting)
    (cells : List String) (results : Table String) :
    page.judge nesting (cell :: cells) results = page.judge nesting cells results := by
  rw [judge, if_pos h]

section

variable {after : Table String} (h : page.text? (canonical cell) ≠ none)
include h

theorem judge_computed {text : String}
    (hread : page.readUnder nesting cell results = (.ok text, after)) :
    page.judge nesting (cell :: cells) results = page.judge nesting cells after := by
  rw [judge, if_neg h, hread]

theorem judge_failed {source : FormulaError}
    (hread : page.readUnder nesting cell results = (.error (.formula source), after)) :
    page.judge nesting (cell :: cells) results =
      (.ok (some (.brokenDependent cell source)), after) := by
  rw [judge, if_neg h, hread]

theorem judge_stopped {error : StoreError}
    (hread : page.readUnder nesting cell results = (.error (.request error), after)) :
    page.judge nesting (cell :: cells) results = (.error error, after) := by
  rw [judge, if_neg h, hread]

end

/-- What a judgement tells of the cells that it is about, with the results that it ends with. -/
inductive Judged (page : Page) (among : String → Prop) (computed : Table String) :
    Except StoreError (Option FormulaError) → Prop
  | passed
      (known : ∀ id, among id → page.text? (canonical id) ≠ none → page.Knows computed id) :
      Judged page among computed (.ok none)
  | broken {id : String} {source : FormulaError} {results : Table String} (found : among id)
      (held : page.text? (canonical id) ≠ none) (sound : page.Sound Nesting.none results)
      (reads : (page.read id results).1 = .error (.formula source)) :
      Judged page among computed (.ok (some (.brokenDependent id source)))
  | failed {id : String} {error : StoreError} {results : Table String} (found : among id)
      (held : page.text? (canonical id) ≠ none) (sound : page.Sound Nesting.none results)
      (reads : (page.read id results).1 = .error (.request error)) :
      Judged page among computed (.error error)

theorem Judged.cons {computed : Table String} {verdict : Except StoreError (Option FormulaError)}
    (h : page.Judged (· ∈ cells) computed verdict)
    (hcell : page.text? (canonical cell) ≠ none → page.Knows computed cell) :
    page.Judged (· ∈ cell :: cells) computed verdict := by
  cases h with
  | passed known => exact .passed (List.forall_mem_cons.mpr ⟨hcell, known⟩)
  | broken found held sound reads =>
      exact .broken (List.mem_cons_of_mem cell found) held sound reads
  | failed found held sound reads =>
      exact .failed (List.mem_cons_of_mem cell found) held sound reads

theorem judge_judged (hsound : page.Sound Nesting.none results) (cells : List String) :
    page.Sound Nesting.none (page.judge Nesting.none cells results).2 ∧
      results.Within (page.judge Nesting.none cells results).2 ∧
      page.Judged (· ∈ cells) (page.judge Nesting.none cells results).2
        (page.judge Nesting.none cells results).1 := by
  induction cells generalizing results with
  | nil => exact ⟨hsound, Table.Within.refl results, .passed nofun⟩
  | cons cell cells ih =>
      by_cases hexists : page.text? (canonical cell) = none
      · rw [judge_missing hexists]
        obtain ⟨hafter, hwithin, hjudged⟩ := ih hsound
        exact ⟨hafter, hwithin, hjudged.cons fun hheld => absurd hexists hheld⟩
      rcases hread : page.readUnder Nesting.none cell results with ⟨reading, middle⟩
      obtain ⟨hmiddle, hgrows, hknown⟩ := readWithin_grows _ _ cell _ _ _ hsound hread
      rcases reading with (source | error) | text
      · rw [judge_failed hexists hread]
        exact ⟨hmiddle, hgrows,
          .broken List.mem_cons_self hexists hsound (congrArg Prod.fst hread)⟩
      · rw [judge_stopped hexists hread]
        exact ⟨hmiddle, hgrows,
          .failed List.mem_cons_self hexists hsound (congrArg Prod.fst hread)⟩
      · rw [judge_computed hexists hread]
        obtain ⟨hafter, hwithin, hjudged⟩ := ih hmiddle
        have hknows : page.Knows middle cell := ⟨text, hknown text rfl⟩
        exact ⟨hafter, hgrows.trans hwithin, hjudged.cons fun _ => hknows.mono hwithin⟩

end Page

namespace Solve

section

variable [Interference σ]

/-- Resolves cells one after another, up to the first that fails.  After each that is there,
its dependents are asked for. -/
def resolveInTurn (edges : Edges) : List String → Solve σ (Option FormulaError)
  | [] => pure none
  | cell :: cells => do
      match ← resolveExisting cell with
      | none => resolveInTurn edges cells
      | some resolution =>
          match resolution.outcome with
          | .error source => pure (some (.brokenDependent cell source))
          | .ok _ =>
              let _ ← onWorld (edges.dependents cell)
              resolveInTurn edges cells

end

variable {page : Page} {store : Store} {nesting : Nesting} {results : Table String}
  {session : Session Unit} {cell : String}

theorem dependents_tracks (edges : Edges) (h : Tracks page store nesting results session)
    (cell : String) :
    ∃ after, onWorld (edges.dependents cell) session =
        .ok (store.dependentsOf edges.sheet cell) after ∧
      Tracks page store nesting results after := by
  obtain ⟨world, hworld, hrun⟩ := onWorld_yields (edges.dependents_yields store cell) h.quiet
  exact ⟨{ session with world }, hrun, { h with quiet := hworld }⟩

/-- What a validation finds at a cell, held against what the page comes to there. -/
inductive Finds (page : Page) (cell : String) :
    Except Stop String → Except StoreError (Option Resolution) → Prop
  | missing {stop : Stop} (absent : page.text? (canonical cell) = none) :
      Finds page cell (.error stop) (.ok none)
  | computed {resolution : Resolution} {text : String}
      (holds : page.text? (canonical cell) ≠ none) (outcome : resolution.outcome = .ok text) :
      Finds page cell (.ok text) (.ok (some resolution))
  | failed {resolution : Resolution} {source : FormulaError}
      (holds : page.text? (canonical cell) ≠ none)
      (outcome : resolution.outcome = .error source) :
      Finds page cell (.error (.formula source)) (.ok (some resolution))
  | stopped {error : StoreError} (holds : page.text? (canonical cell) ≠ none) :
      Finds page cell (.error (.request error)) (.error error)

theorem resolveExisting_finds (h : Tracks page store nesting results session) (cell : String) :
    ∃ found after, resolveExisting cell session = endsWith after found ∧
      Tracks page store nesting (page.readUnder nesting cell results).2 after ∧
      Finds page cell (page.readUnder nesting cell results).1 found := by
  have hshows := resolve_matches_under nesting cell results session h
  cases hrun : resolve cell session with
  | ok resolution after =>
      rw [hrun] at hshows
      obtain ⟨hafter, htext, hreading⟩ := hshows
      have hexists : page.text? (canonical cell) ≠ none := by simp [htext]
      refine ⟨.ok (some resolution), after, resolveExisting_of_ok hrun, hafter, ?_⟩
      rw [hreading]
      cases houtcome : resolution.outcome with
      | ok text => exact .computed hexists houtcome
      | error source => exact .failed hexists houtcome
  | error error after =>
      rw [hrun] at hshows
      obtain ⟨hafter, hreading⟩ := hshows
      have hcaught := resolveExisting_of_error hrun
      rw [hreading]
      by_cases hexists : page.text? (canonical cell) = none
      · rw [Page.readUnder_missing hexists] at hreading
        cases hreading
        exact ⟨.ok none, after, hcaught, hafter, .missing hexists⟩
      · have hfound : error.isNotFound = false :=
          Page.isNotFound_of_readUnder hexists nesting results _ error (Prod.ext hreading rfl)
        rw [hfound] at hcaught
        exact ⟨.error error, after, hcaught, hafter, .stopped hexists⟩

theorem resolveInTurn_judges (edges : Edges) (h : Tracks page store nesting results session)
    (cells : List String) :
    ∃ after, resolveInTurn edges cells session =
        endsWith after (page.judge nesting cells results).1 ∧
      Tracks page store nesting (page.judge nesting cells results).2 after := by
  induction cells generalizing results session with
  | nil => exact ⟨session, rfl, h⟩
  | cons cell cells ih =>
      obtain ⟨found, after, hrun, hafter, hfinds⟩ := resolveExisting_finds h cell
      rw [resolveInTurn]
      rcases hread : page.readUnder nesting cell results with ⟨reading, computed⟩
      rw [hread] at hafter hfinds
      cases hfinds with
      | missing habsent =>
          rw [bind_of_ok hrun, Page.judge_missing habsent]
          rw [Page.readUnder_missing habsent] at hread
          cases hread
          exact ih hafter
      | failed hexists houtcome =>
          rw [bind_of_ok hrun, Page.judge_failed hexists hread]
          simp only [houtcome]
          exact ⟨after, rfl, hafter⟩
      | stopped hexists =>
          rw [bind_of_error hrun, Page.judge_stopped hexists hread]
          exact ⟨after, rfl, hafter⟩
      | computed hexists houtcome =>
          obtain ⟨next, hdependents, hnext⟩ := dependents_tracks edges hafter cell
          rw [bind_of_ok hrun, Page.judge_computed hexists hread]
          simp only [houtcome]
          rw [bind_of_ok hdependents]
          exact ih hnext

/-- The stack is emptied in the order in which a depth-first walk would come by its cells. -/
theorem validateStack_eq_resolveInTurn (edges : Edges) {bound : Nat} {visited : IdSet}
    {stack order : List String} (h : Tracks page store nesting results session)
    (hbound : stack.length + store.outstanding edges.sheet visited ≤ bound)
    (horder : DepthFirst (page.dependentIds store edges.sheet) visited.members stack order) :
    validateStack edges bound visited stack session = resolveInTurn edges order session := by
  induction bound generalizing visited stack order results session with
  | zero =>
      obtain rfl : stack = [] := List.eq_nil_of_length_eq_zero (by omega)
      cases horder
      rfl
  | succ bound ih =>
      cases stack with
      | nil =>
          cases horder
          rfl
      | cons cell stack =>
          rw [List.length_cons] at hbound
          rw [validateStack]
          by_cases hvisited : visited.contains cell = true
          · have hseen : cell ∈ visited.members := (visited.contains_eq_true_iff cell).mp hvisited
            rw [if_pos hvisited]
            exact ih h (by omega) (horder.skip hseen)
          have hnew : cell ∉ visited.members :=
            fun hmem => hvisited ((visited.contains_eq_true_iff cell).mpr hmem)
          obtain ⟨rest, rfl, hrest⟩ := horder.pop hnew
          rw [← IdSet.members_insert] at hrest
          have hcount := store.outstanding_insert edges.sheet hnew
          obtain ⟨found, after, hrun, hafter, hfinds⟩ := resolveExisting_finds h cell
          rw [if_neg hvisited, resolveInTurn]
          generalize (page.readUnder nesting cell results).1 = reading at hfinds
          cases hfinds with
          | stopped => rw [bind_of_error hrun, bind_of_error hrun]
          | missing habsent =>
              rw [Page.dependentIds, if_pos habsent] at hrest
              rw [bind_of_ok hrun, bind_of_ok hrun]
              exact ih hafter (by omega) hrest
          | failed hexists houtcome =>
              rw [bind_of_ok hrun, bind_of_ok hrun]
              simp only [houtcome]
          | computed hexists houtcome =>
              obtain ⟨next, hdependents, hnext⟩ := dependents_tracks edges hafter cell
              rw [Page.dependentIds, if_neg hexists] at hrest
              rw [bind_of_ok hrun, bind_of_ok hrun]
              simp only [houtcome]
              rw [bind_of_ok hdependents, bind_of_ok hdependents]
              refine ih hnext ?_ hrest
              rw [List.length_append]
              omega

theorem exists_validation_order (page : Page) (store : Store) (sheet cell : String) :
    ∃ order, DepthFirst (page.dependentIds store sheet) {cell} (store.dependentIds sheet cell)
      order := by
  have hshorter (id : String) :
      (page.dependentIds store sheet id).length ≤ (store.dependentIds sheet id).length := by
    unfold Page.dependentIds
    split
    · exact Nat.zero_le _
    · exact le_rfl
  obtain ⟨order, horder⟩ := store.exists_depthFirst sheet hshorter
    (IdSet.insert Table.empty cell) (store.dependentIds sheet cell)
  rw [IdSet.members_insert, IdSet.members_empty, insert_empty_eq] at horder
  exact ⟨order, horder⟩

theorem exists_reached (page : Page) (store : Store) (sheet : String)
    (hexists : page.text? (canonical cell) ≠ none) :
    ∃ reached : IdSet,
      ∀ id, id ∈ reached.toList ↔ ReflTransGen (page.Follows store sheet) cell id := by
  obtain ⟨order, horder⟩ := exists_validation_order page store sheet cell
  exact ⟨IdSet.ofList (cell :: order), fun id =>
    (IdSet.mem_toList_ofList _ id).trans (Page.mem_cons_order_iff horder hexists id)⟩

theorem validateDependents_eq_resolveInTurn (edges : Edges) {order : List String}
    (h : Tracks page store nesting results session)
    (horder : DepthFirst (page.dependentIds store edges.sheet) {cell}
      (store.dependentIds edges.sheet cell) order) :
    validateDependents edges cell session =
      (do let _ ← onWorld (edges.dependents cell); resolveInTurn edges order) session := by
  have hcount := store.outstanding_insert edges.sheet (IdSet.not_mem_toList_empty cell)
  rw [Store.outstanding_empty] at hcount
  have hbound : (store.dependentIds edges.sheet cell).length +
      store.outstanding edges.sheet (IdSet.insert Table.empty cell) ≤ store.edgeCount := by
    rw [Store.dependentIds]
    omega
  obtain ⟨next, hdependents, hnext⟩ := dependents_tracks edges h cell
  rw [← insert_empty_eq cell, ← IdSet.members_empty, ← IdSet.members_insert] at horder
  rw [validateDependents, bind_get, h.quiet.store, bind_of_ok hdependents,
    bind_of_ok hdependents]
  exact validateStack_eq_resolveInTurn edges hnext hbound horder

theorem validateDependents_judges (edges : Edges) {order : List String}
    (h : Tracks page store nesting results session)
    (horder : DepthFirst (page.dependentIds store edges.sheet) {cell}
      (store.dependentIds edges.sheet cell) order) :
    ∃ after, validateDependents edges cell session =
        endsWith after (page.judge nesting order results).1 ∧
      Tracks page store nesting (page.judge nesting order results).2 after := by
  obtain ⟨next, hdependents, hnext⟩ := dependents_tracks edges h cell
  rw [validateDependents_eq_resolveInTurn edges h horder, bind_of_ok hdependents]
  exact resolveInTurn_judges edges hnext order

end Solve

end LiveSheet
