import LiveSheet.External.Remote
import LiveSheet.Proofs.Sheet.Effects
import LiveSheet.Proofs.Store.Unheard
import LiveSheet.Sheet.Feed

namespace LiveSheet

open LiveSheet.Formula

/-- A fetch that is told of the cancellation says so, or pays no heed to it. -/
def Fetch.Steady (fetch : Fetch) : Prop :=
  ∀ locator, fetch true locator = .error .cancelled ∨ fetch true locator = fetch false locator

theorem Fetch.disabled_steady : Fetch.disabled.Steady :=
  fun _ => Or.inr rfl

theorem Fetch.ofTable_steady (answers : Table (Except ExternalError String)) :
    (Fetch.ofTable answers).Steady :=
  fun _ => Or.inl rfl

theorem Fetch.remote_steady (transport : Transport) : (Fetch.remote transport).Steady :=
  fun _ => Or.inl rfl

namespace Edges

open Access Hearing

variable [Interference σ] {astray : Prop}

theorem forEach_parallel (token : CancelToken) (call : String → Call) (ids : List String) :
    (ofWorld token : Hearing σ _ _).Parallel astray (forEach token call ids)
      (forEach token call ids) := by
  induction ids with
  | nil => exact parallel_pure ()
  | cons id ids ih => exact (request_parallel (call id)).bind fun _ => ih

theorem commit_parallel (edges : Edges) (cell value : String) :
    (ofWorld edges.token : Hearing σ _ _).Parallel astray (edges.commit cell value)
      (edges.commit cell value) := by
  obtain ⟨sheet, token⟩ := edges
  refine (orAbsent_parallel (request_parallel _)).bind fun previous => ?_
  refine (request_parallel (.setCell sheet cell value)).bind fun _ => ?_
  cases previous <;>
    exact (forEach_parallel token _ _).bind fun _ => forEach_parallel token _ _

theorem dependents_parallel (edges : Edges) (cell : String) :
    (ofWorld edges.token : Hearing σ _ _).Parallel astray (edges.dependents cell)
      (edges.dependents cell) :=
  request_parallel (.getDependents edges.sheet cell)

theorem notifyStack_parallel (edges : Edges) (bound : Nat) (visited : IdSet)
    (stack : List String) :
    (ofWorld edges.token : Hearing σ _ _).Parallel astray
      (edges.notifyStack bound visited stack) (edges.notifyStack bound visited stack) := by
  induction bound generalizing visited stack with
  | zero => cases stack <;> exact parallel_pure visited
  | succ bound ih =>
      cases stack with
      | nil => exact parallel_pure visited
      | cons cell stack =>
          rw [notifyStack, notifyStack]
          split
          · exact ih visited stack
          · refine (request_parallel (.publish (Store.topic edges.sheet cell) cell)).bind
              fun _ => ?_
            exact (edges.dependents_parallel cell).bind fun next => ih _ _

theorem notify_parallel (edges : Edges) (cell : String) :
    (ofWorld edges.token : Hearing σ _ _).Parallel astray (edges.notify cell)
      (edges.notify cell) :=
  parallel_get fun world => (edges.notifyStack_parallel (world.store.edgeCount + 1) _ _).bind
    fun _ => parallel_pure _

end Edges

def Hearing.ofSession (token : CancelToken) (fetch : Fetch) :
    Hearing σ (Session σ) (Session (Unheard σ)) where
  token
  world := Session.world
  otherWorld := Session.world
  unheard := fun session => { session with world := session.world.unheard token }
  heard := fun session => { session with world := session.world.heard }
  heard_unheard := fun _ => rfl
  kept := fun session => session.solver.token = token ∧ session.solver.fetch = fetch

namespace Solve

open Hearing

variable {token : CancelToken} {fetch : Fetch} {astray : Prop} {α : Type}

theorem onWorld_eq (access : Access σ α) (session : Session σ) :
    onWorld access session =
      mapState (fun world => { session with world }) (access session.world) := by
  rw [onWorld]
  cases access session.world <;> rfl

theorem within_eq (solve : Solve σ α) (solver : Solver) (world : World σ) :
    within solve solver world = mapState Session.world (solve { solver, world }) := by
  rw [within]
  cases solve { solver, world } <;> rfl

theorem evaluating_eq (cell : String) (cost : Nat) (body : Solve σ α) (session : Session σ) :
    evaluating cell cost body session =
      mapState (fun after => { after with solver := after.solver.leave cell cost })
        (body { session with solver := session.solver.enter cell cost }) := by
  rw [evaluating]
  cases body { session with solver := session.solver.enter cell cost } <;> rfl

theorem onWorld_parallel {access : Access σ α} {other : Access (Unheard σ) α}
    (h : (ofWorld token).Parallel astray access other) :
    (ofSession token fetch).Parallel astray (onWorld access) (onWorld other) where
  stays := by
    intro session hkept hfired
    rw [onWorld_eq, endState_mapState]
    exact ⟨hkept, (h.stays session.world trivial hfired).2⟩
  notes := by
    intro session hdue
    rw [onWorld_eq, endState_mapState]
    exact h.notes session.world hdue
  ends := by
    intro session hkept
    rw [onWorld_eq, onWorld_eq]
    exact (h.ends session.world trivial).mapState rfl (fun _ _ => hkept) (fun _ => rfl)
      (fun _ => rfl) fun _ => rfl

theorem within_parallel (solver : Solver) {solve : Solve σ α} {other : Solve (Unheard σ) α}
    (h : (ofSession solver.token solver.fetch).Parallel astray solve other) :
    (ofWorld solver.token).Parallel astray (within solve solver) (within other solver) where
  stays := by
    intro world _ hfired
    rw [within_eq, endState_mapState]
    exact ⟨trivial, (h.stays { solver, world } ⟨rfl, rfl⟩ hfired).2⟩
  notes := by
    intro world hdue
    rw [within_eq, endState_mapState]
    exact h.notes { solver, world } hdue
  ends := by
    intro world _
    rw [within_eq, within_eq]
    exact (h.ends { solver, world } ⟨rfl, rfl⟩).mapState rfl (fun _ _ => trivial)
      (fun _ => rfl) (fun _ => rfl) fun _ => rfl

theorem evaluating_parallel {body : Solve σ α} {other : Solve (Unheard σ) α}
    (h : (ofSession token fetch).Parallel astray body other) (cell : String) (cost : Nat) :
    (ofSession token fetch).Parallel astray (evaluating cell cost body)
      (evaluating cell cost other) where
  stays := by
    intro session hkept hfired
    rw [evaluating_eq, endState_mapState]
    exact h.stays { session with solver := session.solver.enter cell cost } hkept hfired
  notes := by
    intro session hdue
    rw [evaluating_eq, endState_mapState]
    exact h.notes { session with solver := session.solver.enter cell cost } hdue
  ends := by
    intro session hkept
    rw [evaluating_eq, evaluating_eq]
    exact (h.ends { session with solver := session.solver.enter cell cost } hkept).mapState rfl
      (fun _ hlast => hlast) (fun _ => rfl) (fun _ => rfl) fun _ => rfl

theorem onSolver_parallel (change : Solver → Solver)
    (hchange : ∀ solver, (change solver).token = solver.token ∧
      (change solver).fetch = solver.fetch) :
    (ofSession token fetch : Hearing σ _ _).Parallel astray (onSolver change)
      (onSolver change) where
  stays := fun _ hkept hfired =>
    ⟨⟨(hchange _).1.trans hkept.1, (hchange _).2.trans hkept.2⟩, hfired, rfl⟩
  notes := fun _ hdue => .refl hdue
  ends := fun _ hkept => .ok () ⟨(hchange _).1.trans hkept.1, (hchange _).2.trans hkept.2⟩

theorem endState_endsWith (last : state) (result : Except ε α) :
    endState (endsWith last result) = last := by
  cases result <;> rfl

theorem ends_endsWith {before : Session σ} (h : (ofSession token fetch).kept before)
    (result : Except StoreError α) :
    (ofSession token fetch).Ends astray (endsWith before result)
      (endsWith ((ofSession token fetch).unheard before) result) := by
  cases result with
  | ok answer => exact .ok answer h
  | error error => exact .error error h

theorem externalResult_parallel (locator : String) :
    (ofSession token fetch : Hearing σ _ _).Parallel (¬fetch.Steady) (externalResult locator)
      (externalResult locator) where
  stays := by
    intro session hkept hfired
    rw [externalResult_eq, endState_endsWith]
    exact stays_refl session hkept hfired
  notes := by
    intro session hdue
    rw [externalResult_eq, endState_endsWith]
    exact .refl hdue
  ends := by
    rintro ⟨solver, world⟩ ⟨rfl, rfl⟩
    have hother : (world.unheard solver.token).isFired solver.token = false :=
      World.isFired_unheard solver.token world
    rw [externalResult_eq, externalResult_eq]
    change Ends _ _ _ (endsWith _ (received
      (solver.fetch ((world.unheard solver.token).isFired solver.token) locator)))
    rw [hother]
    cases hfired : world.isFired solver.token with
    | false => exact ends_endsWith ⟨rfl, rfl⟩ _
    | true =>
        have hapart : World.Apart solver.token world (world.unheard solver.token) :=
          World.apart_unheard hfired
        -- Told of the cancellation, a fetch gives up, answers as before, or leads astray.
        by_cases hcancelled : solver.fetch true locator = .error .cancelled
        · rw [hcancelled]
          refine .cut ?_
          rw [endState_endsWith]
          exact hapart
        by_cases hsame : solver.fetch true locator = solver.fetch false locator
        · rw [hsame]
          exact ends_endsWith ⟨rfl, rfl⟩ _
        · refine .astray (fun hsteady => (hsteady locator).elim hcancelled hsame) ?_ ?_
          · rw [endState_endsWith]
            exact ⟨rfl, rfl⟩
          · rw [endState_endsWith, endState_endsWith]
            exact hapart

variable [Interference σ]

theorem request_parallel (call : Call) :
    (ofSession token fetch : Hearing σ _ _).Parallel astray (request call) (request call) := by
  have hcall (held : CancelToken) :
      (ofSession held fetch : Hearing σ _ _).Parallel astray
        (onWorld (Access.request held call)) (onWorld (Access.request held call)) :=
    onWorld_parallel (Access.request_parallel call)
  refine ⟨?_, fun session => (hcall session.solver.token).notes session, ?_⟩
  · rintro session ⟨rfl, hfetch⟩ hfired
    exact (hcall session.solver.token).stays session ⟨rfl, hfetch⟩ hfired
  · rintro session ⟨rfl, hfetch⟩
    exact (hcall session.solver.token).ends session ⟨rfl, hfetch⟩

theorem rawValue_parallel (cell : String) :
    (ofSession token fetch : Hearing σ _ _).Parallel astray (rawValue cell)
      (rawValue cell) := by
  refine parallel_get fun session => ?_
  dsimp only [ofSession]
  split
  · exact parallel_pure _
  · refine (request_parallel _).bind fun value => ?_
    exact (onSolver_parallel (·.remember cell value) fun _ => ⟨rfl, rfl⟩).bind fun _ =>
      parallel_pure value

omit [Interference σ] in
theorem run_parallel {answer : Request → Solve σ (Except FormulaError String)}
    {other : Request → Solve (Unheard σ) (Except FormulaError String)}
    (h : ∀ request, (ofSession token fetch).Parallel astray (answer request) (other request))
    (fail : EvalError → FormulaError) (evaluation : Evaluation α) :
    (ofSession token fetch).Parallel astray (evaluation.run answer fail)
      (evaluation.run other fail) := by
  induction evaluation with
  | done value => exact parallel_pure (Except.ok value)
  | failed error => exact parallel_pure (Except.error (fail error))
  | ask request resume ih =>
      rw [Evaluation.run, Evaluation.run]
      refine (h request).bind fun result => ?_
      cases result with
      | ok text => exact ih text
      | error error => exact parallel_pure (Except.error error)

omit [Interference σ] in
theorem evaluateCell_parallel {answer : Request → Solve σ (Except FormulaError String)}
    {other : Request → Solve (Unheard σ) (Except FormulaError String)}
    (h : ∀ request, (ofSession token fetch).Parallel astray (answer request) (other request))
    (cell value : String) (expr : Expr) :
    (ofSession token fetch).Parallel astray (evaluateCell answer cell value expr)
      (evaluateCell other cell value expr) := by
  refine (evaluating_parallel (run_parallel h FormulaError.eval (evaluate expr)) cell _).bind
    fun result => ?_
  cases result with
  | ok literal =>
      exact (onSolver_parallel (·.keepResult cell literal.text) fun _ => ⟨rfl, rfl⟩).bind
        fun _ => parallel_pure _
  | error error => exact parallel_pure _

omit [Interference σ] in
theorem resolveFormula_parallel {answer : Request → Solve σ (Except FormulaError String)}
    {other : Request → Solve (Unheard σ) (Except FormulaError String)}
    (h : ∀ request, (ofSession token fetch).Parallel astray (answer request) (other request))
    (cell value body : String) :
    (ofSession token fetch).Parallel astray (resolveFormula answer cell value body)
      (resolveFormula other cell value body) := by
  refine parallel_get fun session => ?_
  dsimp only [ofSession]
  -- The cached, the cyclic, the unreadable and the too deep need no evaluation.
  split
  · exact parallel_pure _
  split
  · exact parallel_pure _
  split
  · exact parallel_pure _
  split
  · exact parallel_pure _
  · exact evaluateCell_parallel h cell value _

theorem resolveWith_parallel {answer : Request → Solve σ (Except FormulaError String)}
    {other : Request → Solve (Unheard σ) (Except FormulaError String)}
    (h : ∀ request, (ofSession token fetch).Parallel astray (answer request) (other request))
    (cell : String) :
    (ofSession token fetch).Parallel astray (resolveWith answer cell)
      (resolveWith other cell) := by
  refine (rawValue_parallel (canonical cell)).bind fun value => ?_
  split
  · exact parallel_pure _
  · exact resolveFormula_parallel h (canonical cell) value _

omit [Interference σ] in
theorem answerTo_parallel {resolve : String → Solve σ Resolution}
    {other : String → Solve (Unheard σ) Resolution}
    (h : ∀ cell, (ofSession token fetch).Parallel (¬fetch.Steady) (resolve cell) (other cell))
    (request : Request) :
    (ofSession token fetch).Parallel (¬fetch.Steady) (answerTo resolve request)
      (answerTo other request) := by
  cases request with
  | cell name =>
      refine ((h name).bind fun resolution => parallel_pure _).tryCatch (fun error => ?_) rfl
      split
      · exact parallel_pure _
      · exact parallel_throw error
  | external locator => exact externalResult_parallel locator

theorem resolveWithin_parallel (levels : Nat) (cell : String) :
    (ofSession token fetch : Hearing σ _ _).Parallel (¬fetch.Steady)
      (resolveWithin levels cell) (resolveWithin levels cell) := by
  induction levels generalizing cell with
  | zero => exact resolveWith_parallel (fun _ => parallel_pure _) cell
  | succ levels ih => exact resolveWith_parallel (answerTo_parallel ih) cell

theorem resolve_parallel (cell : String) :
    (ofSession token fetch : Hearing σ _ _).Parallel (¬fetch.Steady) (resolve cell)
      (resolve cell) :=
  resolveWithin_parallel maxResolutionDepth cell

theorem preload_parallel :
    (ofSession token fetch : Hearing σ _ _).Parallel astray preload preload :=
  parallel_get fun _ => (request_parallel _).bind fun cells =>
    (onSolver_parallel (·.seed cells.entries) fun _ => ⟨rfl, rfl⟩).bind fun _ =>
      parallel_pure _

theorem resolveExisting_parallel (cell : String) :
    (ofSession token fetch : Hearing σ _ _).Parallel (¬fetch.Steady) (resolveExisting cell)
      (resolveExisting cell) := by
  refine ((resolve_parallel cell).map some).tryCatch (fun error => ?_) rfl
  split
  · exact parallel_pure none
  · exact parallel_throw error

theorem validateStack_parallel (edges : Edges) (bound : Nat) (visited : IdSet)
    (stack : List String) :
    (ofSession edges.token fetch : Hearing σ _ _).Parallel (¬fetch.Steady)
      (validateStack edges bound visited stack) (validateStack edges bound visited stack) := by
  induction bound generalizing visited stack with
  | zero => cases stack <;> exact parallel_pure none
  | succ bound ih =>
      cases stack with
      | nil => exact parallel_pure none
      | cons cell stack =>
          rw [validateStack, validateStack]
          split
          · exact ih visited stack
          refine (resolveExisting_parallel cell).bind fun found => ?_
          cases found with
          | none => exact ih _ _
          | some resolution =>
              dsimp only
              split
              · exact parallel_pure _
              · exact (onWorld_parallel (edges.dependents_parallel cell)).bind fun next =>
                  ih _ _

theorem validateDependents_parallel (edges : Edges) (cell : String) :
    (ofSession edges.token fetch : Hearing σ _ _).Parallel (¬fetch.Steady)
      (validateDependents edges cell) (validateDependents edges cell) :=
  parallel_get fun _ => (onWorld_parallel (edges.dependents_parallel cell)).bind fun direct =>
    validateStack_parallel edges _ _ direct.toList

theorem consider_parallel (edges : Edges) (cell value : String) :
    (ofSession edges.token fetch : Hearing σ _ _).Parallel (¬fetch.Steady)
      (consider edges cell value) (consider edges cell value) := by
  refine (onSolver_parallel (·.setCell cell value) fun _ => ⟨rfl, rfl⟩).bind fun _ => ?_
  refine (resolve_parallel cell).bind fun resolution => ?_
  split
  · exact parallel_pure _
  refine (validateDependents_parallel edges cell).bind fun fault => ?_
  cases fault with
  | some error => exact parallel_pure _
  | none => exact parallel_pure _

theorem resolveAll_parallel (cells : List String) (sheet : SheetResponse) :
    (ofSession token fetch : Hearing σ _ _).Parallel (¬fetch.Steady)
      (Engine.resolveAll cells sheet) (Engine.resolveAll cells sheet) := by
  induction cells generalizing sheet with
  | nil => exact parallel_pure sheet
  | cons cell cells ih => exact (resolve_parallel cell).bind fun resolution => ih _

end Solve

theorem Feed.nextMessage_parallel [Interference σ] (feed : Feed) {astray : Prop} :
    (Hearing.ofWorld feed.engine.token : Hearing σ _ _).Parallel astray feed.nextMessage
      feed.nextMessage := by
  refine (Access.request_parallel (.nextMessage feed.listener)).bind fun message => ?_
  cases message with
  | none => exact Access.heed_parallel.bind fun _ => Hearing.parallel_pure none
  | some message => exact Hearing.parallel_pure (some message)

end LiveSheet
