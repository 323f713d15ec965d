import LiveSheet.Proofs.Sheet.Page
import LiveSheet.Proofs.Store.Quiet

namespace LiveSheet

open LiveSheet.Formula

/-! A session on a store that nothing interferes with resolves cells as the page
that it sees reads them. -/

structure Tracks (page : Page) (store : Store) (nesting : Nesting)
    (results : Table String) (session : Session Unit) : Prop where
  quiet : Quiet store session.world
  sheet : session.solver.sheet = page.sheet
  fetch : session.solver.fetch false = page.fetch
  text : ∀ cell,
    (session.solver.values.get? cell).or (store.cell? page.sheet cell) = page.text? cell
  cache : session.solver.cache = results
  waiting : session.solver.inProgress = nesting.waiting
  spent : session.solver.nesting = nesting.spent

namespace Session

def text? (session : Session σ) (cell : String) : Option String :=
  (session.solver.values.get? cell).or (session.world.store.cell? session.solver.sheet cell)

def page (session : Session Unit) : Page :=
  { sheet := session.solver.sheet, text? := session.text?, fetch := session.solver.fetch false }

def nesting (session : Session Unit) : Nesting :=
  { waiting := session.solver.inProgress, spent := session.solver.nesting }

/-- A session that nothing interferes with tracks its own page, whatever its solver holds. -/
theorem tracks {session : Session Unit} (hfired : session.world.fired = []) :
    Tracks session.page session.world.store session.nesting session.solver.cache session where
  quiet := ⟨rfl, hfired⟩
  sheet := rfl
  fetch := rfl
  text := fun _ => rfl
  cache := rfl
  waiting := rfl
  spent := rfl

end Session

def Stop.ofOutcome : Except FormulaError α → Except Stop α
  | .ok answer => .ok answer
  | .error error => .error (.formula error)

def Shows (tracks : Session Unit → Prop) (shown : α → Except Stop β → Prop)
    (reading : Except Stop β) : EStateM.Result StoreError (Session Unit) α → Prop
  | .ok answer session => tracks session ∧ shown answer reading
  | .error error session => tracks session ∧ reading = .error (.request error)

namespace Solve

/-- A program of a session that comes to what a page reads, and keeps track of
the results. -/
def Matches (page : Page) (store : Store) (nesting : Nesting) (solve : Solve Unit α)
    (reading : Reading β) (shown : α → Except Stop β → Prop) : Prop :=
  ∀ results session, Tracks page store nesting results session →
    Shows (Tracks page store nesting (reading results).2) shown (reading results).1
      (solve session)

variable {page : Page} {store : Store} {nesting : Nesting}

theorem onWorld_yields {access : Access Unit α} {result : Except StoreError α}
    {after : Store} (h : access.Yields store result after) {session : Session Unit}
    (hquiet : Quiet store session.world) :
    ∃ world, Quiet after world ∧
      onWorld access session = endsWith { session with world } result := by
  obtain ⟨world, hworld, haccess⟩ := h session.world hquiet
  refine ⟨world, hworld, ?_⟩
  rw [onWorld, haccess]
  cases result <;> rfl

theorem request_yields {call : Call} {result : Except StoreError call.Answer}
    {after : Store} {session : Session Unit}
    (h : (Access.request session.solver.token call : Access Unit call.Answer).Yields store
      result after)
    (hquiet : Quiet store session.world) :
    ∃ world, Quiet after world ∧
      request call session = endsWith { session with world } result :=
  onWorld_yields h hquiet

theorem rawValue_some {cell value : String} {results : Table String}
    {session : Session Unit} (h : Tracks page store nesting results session)
    (hvalue : page.text? cell = some value) :
    ∃ after, Tracks page store nesting results after ∧
      rawValue cell session = .ok value after := by
  have htext := h.text cell
  rw [hvalue] at htext
  cases hheld : session.solver.values.get? cell with
  | some held =>
      rw [hheld, Option.some_or] at htext
      cases htext
      refine ⟨session, h, ?_⟩
      simp only [rawValue, bind_get, hheld]
      rfl
  | none =>
      rw [hheld, Option.none_or, ← h.sheet] at htext
      obtain ⟨world, hworld, hrequest⟩ :=
        request_yields (Access.getCell_found session.solver.token htext) h.quiet
      refine ⟨{ solver := session.solver.remember cell value, world },
        { h with quiet := hworld, text := fun other => ?_ }, ?_⟩
      · rw [Solver.remember, Table.get?_insert, ← h.text other]
        split
        · rename_i heq
          rw [heq, hheld, ← h.sheet, htext]
          rfl
        · rfl
      · simp only [rawValue, bind_get, hheld]
        rw [bind_of_ok hrequest]
        rfl

theorem rawValue_none {cell : String} {results : Table String} {session : Session Unit}
    (h : Tracks page store nesting results session) (hmissing : page.text? cell = none) :
    ∃ after, Tracks page store nesting results after ∧
      rawValue cell session =
        .error (.notFound (Store.cellKey page.sheet cell)) after := by
  have htext := h.text cell
  rw [hmissing, Option.or_eq_none_iff, ← h.sheet] at htext
  obtain ⟨world, hworld, hrequest⟩ :=
    request_yields (Access.getCell_missing session.solver.token htext.2) h.quiet
  refine ⟨{ session with world }, { h with quiet := hworld }, ?_⟩
  simp only [rawValue, bind_get, htext.1]
  rw [bind_of_error hrequest, h.sheet]

def received : Except ExternalError String → Except StoreError (Except FormulaError String)
  | .ok text => .ok (.ok text)
  | .error .cancelled => .error .cancelled
  | .error error => .ok (.error (.eval (.external error.message)))

theorem externalResult_eq (locator : String) (session : Session σ) :
    externalResult locator session = endsWith session
      (received
        (session.solver.fetch (session.world.isFired session.solver.token) locator)) := by
  rw [externalResult, bind_get]
  cases session.solver.fetch (session.world.isFired session.solver.token) locator with
  | ok text => rfl
  | error error => cases error <;> rfl

theorem externalResult_matches (locator : String) :
    Matches page store nesting (externalResult locator)
      (fun results => (page.external locator, results))
      fun outcome reading => reading = Stop.ofOutcome outcome := by
  intro results session h
  rw [externalResult_eq, h.quiet.isFired, h.fetch, Page.external]
  rcases page.fetch locator with error | text
  · cases error <;> exact ⟨h, rfl⟩
  · exact ⟨h, rfl⟩

def Outcome (outcome : Except FormulaError α) (reading : Except Stop α) : Prop :=
  reading = Stop.ofOutcome outcome

theorem run_matches {answer : Request → Solve Unit (Except FormulaError String)}
    {inner : Request → Reading String}
    (h : ∀ request, Matches page store nesting (answer request) (inner request) Outcome)
    (evaluation : Evaluation α) :
    Matches page store nesting (evaluation.run answer FormulaError.eval)
      (readAll inner evaluation) Outcome := by
  induction evaluation with
  | done value => exact fun results session htracks => ⟨htracks, rfl⟩
  | failed error => exact fun results session htracks => ⟨htracks, rfl⟩
  | ask request resume ih =>
      intro results session htracks
      have hrequest := h request results session htracks
      rw [Evaluation.run]
      rcases hread : inner request results with ⟨reading, after⟩
      rw [hread] at hrequest
      rcases hanswer : answer request session with ⟨outcome, next⟩ | ⟨error, next⟩
      · rw [hanswer] at hrequest
        obtain ⟨hnext, hreading⟩ := hrequest
        rw [bind_of_ok hanswer]
        obtain rfl : reading = Stop.ofOutcome outcome := hreading
        cases outcome with
        | ok text =>
            rw [readAll_ask_ok hread]
            exact ih text after next hnext
        | error error =>
            rw [readAll_ask_error hread]
            exact ⟨hnext, rfl⟩
      · rw [hanswer] at hrequest
        obtain ⟨hnext, hreading⟩ := hrequest
        obtain rfl : reading = .error (.request error) := hreading
        rw [bind_of_error hanswer, readAll_ask_error hread]
        exact ⟨hnext, rfl⟩

theorem evaluating_matches {body : Solve Unit α} {reading : Reading β}
    {shown : α → Except Stop β → Prop} (cell : String) (cost : Nat)
    (h : Matches page store (nesting.enter cell cost) body reading shown) :
    Matches page store nesting (evaluating cell cost body) reading shown := by
  intro results session htracks
  have hentered : Tracks page store (nesting.enter cell cost) results
      { session with solver := session.solver.enter cell cost } :=
    { htracks with
      waiting := congrArg (cell :: ·) htracks.waiting
      spent := congrArg (· + cost) htracks.spent }
  have hleft (after : Table String) (final : Session Unit)
      (hfinal : Tracks page store (nesting.enter cell cost) after final) :
      Tracks page store nesting after
        { final with solver := final.solver.leave cell cost } := by
    refine { hfinal with waiting := ?_, spent := ?_ }
    · simp only [Solver.leave, hfinal.waiting, Nesting.enter, List.erase_cons_head]
    · simp only [Solver.leave, hfinal.spent, Nesting.enter, Nat.add_sub_cancel]
  have hbody := h results _ hentered
  rw [evaluating]
  cases hrun : body { session with solver := session.solver.enter cell cost } with
  | ok answer final =>
      rw [hrun] at hbody
      exact ⟨hleft _ final hbody.1, hbody.2⟩
  | error error final =>
      rw [hrun] at hbody
      exact ⟨hleft _ final hbody.1, hbody.2⟩

def Resolved (value : String) (resolution : Resolution) (reading : Except Stop String) :
    Prop :=
  resolution.value = value ∧ reading = Stop.ofOutcome resolution.outcome

theorem evaluateCell_matches {answer : Request → Solve Unit (Except FormulaError String)}
    {inner : Request → Reading String} (cell value : String) (expr : Expr)
    (h : ∀ request, Matches page store (nesting.enter cell (expr.height + 1))
      (answer request) (inner request) Outcome) :
    Matches page store nesting (evaluateCell answer cell value expr)
      (Page.readExpr inner cell expr) (Resolved value) := by
  intro results session htracks
  have hrun := evaluating_matches cell (expr.height + 1)
    (run_matches h (evaluate expr)) results session htracks
  rw [evaluateCell]
  rcases hread : readAll inner (evaluate expr) results with ⟨reading, after⟩
  rw [hread] at hrun
  cases hsession : evaluating cell (expr.height + 1)
      ((evaluate expr).run answer FormulaError.eval) session with
  | ok outcome next =>
      rw [hsession] at hrun
      obtain ⟨hnext, hreading⟩ := hrun
      rw [bind_of_ok hsession]
      obtain rfl : reading = Stop.ofOutcome outcome := hreading
      cases outcome with
      | ok literal =>
          rw [Page.readExpr_ok hread]
          exact ⟨{ hnext with cache := congrArg (·.insert cell literal.text) hnext.cache },
            rfl, rfl⟩
      | error error =>
          rw [Page.readExpr_error hread]
          exact ⟨hnext, rfl, rfl⟩
  | error error next =>
      rw [hsession] at hrun
      obtain ⟨hnext, hreading⟩ := hrun
      obtain rfl : reading = .error (.request error) := hreading
      rw [bind_of_error hsession, Page.readExpr_error hread]
      exact ⟨hnext, rfl⟩

theorem resolveFormula_matches {answer : Request → Solve Unit (Except FormulaError String)}
    {inner : Nesting → Request → Reading String}
    (h : ∀ nesting request,
      Matches page store nesting (answer request) (inner nesting request) Outcome)
    (cell value body : String) :
    Matches page store nesting (resolveFormula answer cell value body)
      (Page.readFormula inner nesting cell body) (Resolved value) := by
  intro results session htracks
  simp only [resolveFormula, Page.readFormula, bind_get, htracks.cache, htracks.waiting,
    htracks.spent]
  cases results.get? cell with
  | some result => exact ⟨htracks, rfl, rfl⟩
  | none =>
      dsimp only
      by_cases hwaits : nesting.waiting.contains cell = true
      · simp only [hwaits, if_true]
        exact ⟨htracks, rfl, rfl⟩
      simp only [hwaits]
      cases parse body with
      | error error => exact ⟨htracks, rfl, rfl⟩
      | ok expr =>
          dsimp only
          by_cases hdeep : maxResolutionDepth < nesting.spent + (expr.height + 1)
          · simp only [hdeep, if_true]
            exact ⟨htracks, rfl, rfl⟩
          · simp only [hdeep, if_false]
            exact evaluateCell_matches cell value expr (h _) results session htracks

/-- A cell as it resolves, held against what the page reads. -/
def Seen (page : Page) (name : String) (resolution : Resolution)
    (reading : Except Stop String) : Prop :=
  page.text? (canonical name) = some resolution.value ∧
    reading = Stop.ofOutcome resolution.outcome

theorem resolveWith_matches {answer : Request → Solve Unit (Except FormulaError String)}
    {inner : Nesting → Request → Reading String}
    (h : ∀ nesting request,
      Matches page store nesting (answer request) (inner nesting request) Outcome)
    (name : String) :
    Matches page store nesting (resolveWith answer name) (page.readWith inner nesting name)
      (Seen page name) := by
  intro results session htracks
  rw [resolveWith, Page.readWith]
  cases hvalue : page.text? (canonical name) with
  | none =>
      obtain ⟨after, hafter, hraw⟩ := rawValue_none htracks hvalue
      rw [bind_of_error hraw]
      exact ⟨hafter, rfl⟩
  | some value =>
      obtain ⟨after, hafter, hraw⟩ := rawValue_some htracks hvalue
      rw [bind_of_ok hraw]
      dsimp only
      cases body? value with
      | none => exact ⟨hafter, hvalue, rfl⟩
      | some body =>
          have hformula :=
            resolveFormula_matches h (canonical name) value body results after hafter
          dsimp only
          cases hrun : resolveFormula answer (canonical name) value body after with
          | ok resolution final =>
              rw [hrun] at hformula
              obtain ⟨hfinal, rfl, hreading⟩ := hformula
              exact ⟨hfinal, hvalue, hreading⟩
          | error error final =>
              rw [hrun] at hformula
              exact hformula

theorem referenceResult_matches {resolve : String → Solve Unit Resolution}
    {read : String → Reading String} {name : String}
    (h : Matches page store nesting (resolve name) (read name) (Seen page name)) :
    Matches page store nesting (referenceResult resolve name)
      (page.answer read (.cell name)) Outcome := by
  intro results session htracks
  have hresolve := h results session htracks
  simp only [referenceResult, tryCatch, tryCatchThe, MonadExceptOf.tryCatch,
    EStateM.tryCatch, Bind.bind, EStateM.bind, Page.answer]
  rcases hread : read name results with ⟨reading, after⟩
  rw [hread] at hresolve
  cases hrun : resolve name session with
  | ok resolution final =>
      rw [hrun] at hresolve
      obtain ⟨hfinal, -, hreading⟩ := hresolve
      obtain rfl : reading = Stop.ofOutcome resolution.outcome := hreading
      dsimp only [pure, EStateM.pure]
      cases resolution.outcome <;> exact ⟨hfinal, rfl⟩
  | error error final =>
      rw [hrun] at hresolve
      obtain ⟨hfinal, hreading⟩ := hresolve
      obtain rfl : reading = .error (.request error) := hreading
      dsimp only [Stop.forReader]
      cases error.isNotFound <;> exact ⟨hfinal, rfl⟩

theorem answerTo_matches {resolve : String → Solve Unit Resolution}
    {read : String → Reading String}
    (h : ∀ name, Matches page store nesting (resolve name) (read name) (Seen page name))
    (request : Request) :
    Matches page store nesting (answerTo resolve request) (page.answer read request)
      Outcome := by
  cases request with
  | cell name => exact referenceResult_matches (h name)
  | external locator => exact externalResult_matches locator

theorem resolveWithin_matches (levels : Nat) (nesting : Nesting) (name : String) :
    Matches page store nesting (resolveWithin levels name)
      (page.readWithin levels nesting name) (Seen page name) := by
  induction levels generalizing nesting name with
  | zero =>
      apply resolveWith_matches
      exact fun inner request results session htracks => ⟨htracks, rfl⟩
  | succ levels ih =>
      apply resolveWith_matches
      exact fun inner request => answerTo_matches (fun name => ih inner name) request

theorem resolve_matches_under (nesting : Nesting) (name : String) :
    Matches page store nesting (resolve name) (page.readUnder nesting name) (Seen page name) :=
  resolveWithin_matches maxResolutionDepth nesting name

theorem resolve_matches (name : String) :
    Matches page store Nesting.none (resolve name) (page.read name) (Seen page name) :=
  resolve_matches_under Nesting.none name

section

variable [Interference σ] {cell : String} {session after : Session σ}

theorem resolveExisting_of_ok {resolution : Resolution}
    (h : resolve cell session = .ok resolution after) :
    resolveExisting cell session = .ok (some resolution) after :=
  tryCatch_of_ok (map_of_ok some h)

theorem resolveExisting_of_error {error : StoreError}
    (h : resolve cell session = .error error after) :
    resolveExisting cell session =
      if error.isNotFound then .ok none after else .error error after := by
  rw [resolveExisting, tryCatch_of_error (map_of_error some h)]
  split <;> rfl

end

end Solve

end LiveSheet
