import LiveSheet.Proofs.Sheet.Page
import LiveSheet.Proofs.Sheet.Tracking
import LiveSheet.Proofs.Store.Effects

namespace LiveSheet

open LiveSheet.Formula

/-! How a resolution calls itself.  A formula that waits costs something, so the
limit on nesting alone brings the recursion to its end. -/

namespace Solve

variable [Interference σ]

/-- Resolving a cell comes to evaluate its formula: it has no result, does not wait
already, and leaves the nesting within the limit. -/
structure Opens (name : String) (session : Session σ) (value : String) (expr : Expr)
    (after : Session σ) : Prop where
  reads : rawValue (canonical name) session = .ok value after
  parses : ∃ body, body? value = some body ∧ parse body = .ok expr
  fresh : after.solver.cache.get? (canonical name) = none
  free : canonical name ∉ after.solver.inProgress
  shallow : after.solver.nesting + (expr.height + 1) ≤ maxResolutionDepth

inductive AtOnce (name : String) (session : Session σ) :
    EStateM.Result StoreError (Session σ) Resolution → Prop
  | unread {error : StoreError} {after : Session σ}
      (reads : rawValue (canonical name) session = .error error after) :
      AtOnce name session (.error error after)
  | plain {value : String} {after : Session σ}
      (reads : rawValue (canonical name) session = .ok value after)
      (noFormula : body? value = none) :
      AtOnce name session (.ok (Resolution.computed value value) after)
  | known {value result : String} {after : Session σ}
      (reads : rawValue (canonical name) session = .ok value after)
      (held : after.solver.cache.get? (canonical name) = some result) :
      AtOnce name session (.ok (Resolution.computed value result) after)
  | refused {value : String} {after : Session σ} (error : FormulaError)
      (reads : rawValue (canonical name) session = .ok value after) :
      AtOnce name session (.ok (Resolution.failed value error) after)

theorem Opens.resolveWith_eq {name value : String} {expr : Expr} {session after : Session σ}
    (h : Opens name session value expr after)
    (answer : Request → Solve σ (Except FormulaError String)) :
    resolveWith answer name session = evaluateCell answer (canonical name) value expr after := by
  obtain ⟨body, hbody, hparse⟩ := h.parses
  rw [resolveWith, bind_of_ok h.reads]
  simp only [hbody, resolveFormula, bind_get, h.fresh, List.contains_iff_mem, h.free, if_false,
    hparse, Nat.not_lt.mpr h.shallow]

/-- Without an evaluation it does not matter how requests are answered. -/
theorem opens_or_atOnce (name : String) (session : Session σ) :
    (∃ value expr after, Opens name session value expr after) ∨
      ∃ result, AtOnce name session result ∧
        ∀ answer, resolveWith answer name session = result := by
  cases hraw : rawValue (canonical name) session with
  | error error after => exact .inr ⟨_, .unread hraw, fun answer => bind_of_error hraw⟩
  | ok value after =>
      simp only [resolveWith, bind_of_ok hraw]
      cases hbody : body? value with
      | none => exact .inr ⟨_, .plain hraw hbody, fun answer => rfl⟩
      | some body =>
          simp only [resolveFormula, bind_get]
          cases hcache : after.solver.cache.get? (canonical name) with
          | some result => exact .inr ⟨_, .known hraw hcache, fun answer => rfl⟩
          | none =>
              by_cases hwaits : canonical name ∈ after.solver.inProgress
              · simp only [List.contains_iff_mem, hwaits, if_true]
                exact .inr ⟨_, .refused _ hraw, fun answer => rfl⟩
              simp only [List.contains_iff_mem, hwaits, if_false]
              cases hparse : parse body with
              | error error => exact .inr ⟨_, .refused _ hraw, fun answer => rfl⟩
              | ok expr =>
                  by_cases hdeep :
                      maxResolutionDepth < after.solver.nesting + (expr.height + 1)
                  · simp only [hdeep, if_true]
                    exact .inr ⟨_, .refused _ hraw, fun answer => rfl⟩
                  · exact .inl ⟨value, expr, after, hraw, ⟨body, hbody, hparse⟩, hcache, hwaits,
                      Nat.le_of_not_lt hdeep⟩

end Solve

namespace Solve

def SameButTexts (before after : Session σ) : Prop :=
  ∃ values, after.solver = { before.solver with values }

theorem SameButTexts.refl (session : Session σ) : SameButTexts session session :=
  ⟨session.solver.values, rfl⟩

theorem SameButTexts.trans {first second third : Session σ} (h : SameButTexts first second)
    (hlast : SameButTexts second third) : SameButTexts first third := by
  obtain ⟨_, hsecond⟩ := h
  obtain ⟨values, hthird⟩ := hlast
  exact ⟨values, by rw [hthird, hsecond]⟩

theorem endState_evaluating (cell : String) (cost : Nat) (body : Solve σ α)
    (session : Session σ) :
    endState (evaluating cell cost body session) =
      { endState (body { session with solver := session.solver.enter cell cost }) with
        solver := (endState (body
          { session with solver := session.solver.enter cell cost })).solver.leave cell cost } := by
  rw [evaluating]
  cases body { session with solver := session.solver.enter cell cost } <;> rfl

theorem evaluating_of_ok {cell : String} {cost : Nat} {body : Solve σ α} {answer : α}
    {session inner : Session σ}
    (h : body { session with solver := session.solver.enter cell cost } = .ok answer inner) :
    evaluating cell cost body session =
      .ok answer { inner with solver := inner.solver.leave cell cost } := by
  rw [evaluating, h]

theorem evaluating_of_error {cell : String} {cost : Nat} {body : Solve σ α}
    {error : StoreError} {session inner : Session σ}
    (h : body { session with solver := session.solver.enter cell cost } = .error error inner) :
    evaluating cell cost body session =
      .error error { inner with solver := inner.solver.leave cell cost } := by
  rw [evaluating, h]

variable [Interference σ]

theorem request_sameButTexts (call : Call) :
    Moves SameButTexts (request call : Solve σ call.Answer) := by
  intro session
  rw [request, onWorld]
  cases Access.request session.solver.token call session.world <;> exact .refl session

theorem rawValue_sameButTexts (cell : String) :
    Moves SameButTexts (rawValue cell : Solve σ String) := by
  intro session
  rw [rawValue, bind_get]
  cases session.solver.values.get? cell with
  | some value => exact .refl session
  | none =>
      refine Moves.bind .refl .trans (request_sameButTexts _) (fun value after => ?_) session
      exact ⟨after.solver.values.insert cell value, rfl⟩

theorem preload_sameButTexts : Moves SameButTexts (preload : Solve σ (List String)) := by
  intro session
  rw [preload, bind_get]
  refine Moves.bind .refl .trans (request_sameButTexts _) (fun cells after => ?_) session
  exact ⟨(after.solver.seed cells.entries).values, rfl⟩

end Solve

section

variable [Interference σ]

/-- A relation between sessions that every step of a resolution moves along.  A formula
is evaluated only when it has no result and does not wait already. -/
structure Carries (rel : Session σ → Session σ → Prop) : Prop where
  refl : ∀ session, rel session session
  trans : ∀ {first second third}, rel first second → rel second third → rel first third
  read : ∀ cell, Moves rel (Solve.rawValue cell)
  evaluate : ∀ {cell : String} {cost : Nat} {body : Solve σ (Except FormulaError Literal)},
    Moves rel body → ∀ session : Session σ, session.solver.cache.get? cell = none →
      cell ∉ session.solver.inProgress →
      rel session (endState (Solve.evaluating cell cost body session))
  keep : ∀ (session : Session σ) (cell result : String),
    rel session { session with solver := session.solver.keepResult cell result }

namespace Carries

variable {rel : Session σ → Session σ → Prop} (h : Carries rel)
include h

theorem asked {answer : Request → Solve σ (Except FormulaError String)}
    {request : Request} {resume : String → Evaluation α}
    (hresume : ∀ text, Moves rel ((resume text).run answer FormulaError.eval))
    (session : Session σ) :
    rel (endState (answer request session))
      (endState ((Evaluation.ask request resume).run answer FormulaError.eval session)) := by
  rw [Evaluation.run]
  refine bind_goes_on h.refl (fun result => ?_) _ session
  cases result with
  | ok text => exact hresume text
  | error error => exact moves_pure h.refl (Except.error error)

theorem run {answer : Request → Solve σ (Except FormulaError String)}
    (hanswer : ∀ request, Moves rel (answer request)) (evaluation : Evaluation α) :
    Moves rel (evaluation.run answer FormulaError.eval) := by
  induction evaluation with
  | done value => exact moves_pure h.refl (Except.ok value)
  | failed error => exact moves_pure h.refl (Except.error (FormulaError.eval error))
  | ask request resume ih =>
      exact fun session => h.trans (hanswer request session) (h.asked ih session)

theorem evaluated (answer : Request → Solve σ (Except FormulaError String))
    (cell value : String) (expr : Expr) (session : Session σ) :
    rel
      (endState (Solve.evaluating cell (expr.height + 1)
        ((Formula.evaluate expr).run answer FormulaError.eval) session))
      (endState (Solve.evaluateCell answer cell value expr session)) := by
  refine bind_goes_on h.refl (fun result => ?_) _ session
  cases result with
  | ok literal => exact fun session => h.keep session cell literal.text
  | error error => exact moves_pure h.refl _

theorem evaluateCell {answer : Request → Solve σ (Except FormulaError String)}
    (hanswer : ∀ request, Moves rel (answer request)) {cell : String} (value : String)
    (expr : Expr) {session : Session σ} (hfresh : session.solver.cache.get? cell = none)
    (hfree : cell ∉ session.solver.inProgress) :
    rel session (endState (Solve.evaluateCell answer cell value expr session)) :=
  h.trans (h.evaluate (h.run hanswer (Formula.evaluate expr)) session hfresh hfree)
    (h.evaluated answer cell value expr session)

theorem resolveWith {answer : Request → Solve σ (Except FormulaError String)}
    (hanswer : ∀ request, Moves rel (answer request)) (name : String) :
    Moves rel (Solve.resolveWith answer name) := by
  intro session
  have hread := h.read (canonical name) session
  rcases Solve.opens_or_atOnce name session with
    ⟨value, expr, after, hopens⟩ | ⟨result, hends, hresult⟩
  · rw [hopens.resolveWith_eq]
    rw [hopens.reads] at hread
    exact h.trans hread (h.evaluateCell hanswer value expr hopens.fresh hopens.free)
  · rw [hresult]
    cases hends with
    | unread reads | plain reads | known reads | refused _ reads =>
        rw [reads] at hread
        exact hread

theorem answered (resolve : String → Solve σ Resolution) (name : String)
    (session : Session σ) :
    rel (endState (resolve name session))
      (endState (Solve.answerTo resolve (.cell name) session)) := by
  refine h.trans
    (bind_goes_on h.refl (fun resolution => moves_pure h.refl resolution.outcome) _ session)
    (tryCatch_goes_on h.refl (fun error => ?_) _ session)
  split
  · exact moves_pure h.refl _
  · exact moves_throw h.refl error

theorem answerTo {resolve : String → Solve σ Resolution}
    (hresolve : ∀ cell, Moves rel (resolve cell)) (request : Request) :
    Moves rel (Solve.answerTo resolve request) := by
  cases request with
  | cell name =>
      exact fun session => h.trans (hresolve name session) (h.answered resolve name session)
  | external locator =>
      intro session
      rw [Solve.answerTo, Solve.externalResult_eq]
      cases Solve.received (session.solver.fetch
        (session.world.isFired session.solver.token) locator) <;> exact h.refl session

theorem resolveWithin (levels : Nat) (cell : String) :
    Moves rel (Solve.resolveWithin levels cell) := by
  induction levels generalizing cell with
  | zero => exact h.resolveWith (fun _ => moves_pure h.refl _) cell
  | succ levels ih => exact h.resolveWith (h.answerTo ih) cell

theorem resolve (cell : String) : Moves rel (Solve.resolve cell) :=
  h.resolveWithin maxResolutionDepth cell

end Carries

end

namespace Solver

def pending (solver : Solver) : Nesting :=
  { waiting := solver.inProgress, spent := solver.nesting }

theorem pending_leave {solver : Solver} {nesting : Nesting} {cell : String} {cost : Nat}
    (h : solver.pending = nesting.enter cell cost) :
    (solver.leave cell cost).pending = nesting := by
  obtain ⟨hwaiting, hspent⟩ := Nesting.mk.inj h
  simp only [pending, leave, hwaiting, hspent, List.erase_cons_head, Nat.add_sub_cancel]

end Solver

namespace Solve

def SamePending (before after : Session σ) : Prop :=
  after.solver.pending = before.solver.pending

theorem SamePending.refl (session : Session σ) : SamePending session session :=
  rfl

theorem SamePending.trans {first second third : Session σ} (h : SamePending first second)
    (hlast : SamePending second third) : SamePending first third :=
  Eq.trans hlast h

def Restores (solve : Solve σ α) : Prop :=
  Moves SamePending solve

theorem restores_pure (answer : α) : (pure answer : Solve σ α).Restores :=
  fun _ => rfl

theorem evaluating_restores {body : Solve σ α} (h : body.Restores) (cell : String)
    (cost : Nat) : (evaluating cell cost body).Restores := by
  intro session
  rw [endState_evaluating]
  exact Solver.pending_leave (h { session with solver := session.solver.enter cell cost })

theorem SameButTexts.samePending {before after : Session σ} (h : SameButTexts before after) :
    SamePending before after := by
  obtain ⟨values, hvalues⟩ := h
  rw [SamePending, hvalues]
  rfl

variable [Interference σ]

theorem rawValue_restores (cell : String) : (rawValue cell : Solve σ String).Restores :=
  fun session => (rawValue_sameButTexts cell session).samePending

theorem preload_restores : (preload : Solve σ (List String)).Restores :=
  fun session => (preload_sameButTexts session).samePending

theorem restores_carries : Carries (SamePending (σ := σ)) where
  refl := SamePending.refl
  trans := .trans
  read := rawValue_restores
  evaluate := fun hbody session _ _ => evaluating_restores hbody _ _ session
  keep := fun _ _ _ => rfl

theorem resolve_restores (cell : String) : (resolve cell : Solve σ Resolution).Restores :=
  restores_carries.resolve cell

/-! So each formula that waits finds less of the limit left than the one before, and
whether there are any more levels does not show. -/

def answerWithin : Nat → Request → Solve σ (Except FormulaError String)
  | 0, _ => pure (.error (.eval (.depthExceeded maxResolutionDepth)))
  | levels + 1, request => answerTo (resolveWithin levels) request

theorem resolveWithin_eq (levels : Nat) :
    (resolveWithin levels : String → Solve σ Resolution) = resolveWith (answerWithin levels) := by
  cases levels <;> rfl

theorem answerWithin_restores (levels : Nat) (request : Request) :
    (answerWithin levels request : Solve σ (Except FormulaError String)).Restores := by
  cases levels with
  | zero => exact restores_pure _
  | succ levels => exact restores_carries.answerTo (restores_carries.resolveWithin levels) request

section

omit [Interference σ]

variable {answer other : Request → Solve σ (Except FormulaError String)}

theorem run_congr {nesting : Nesting} (hrestores : ∀ request, (answer request).Restores)
    (h : ∀ request (session : Session σ), session.solver.pending = nesting →
      answer request session = other request session)
    (evaluation : Evaluation α) (session : Session σ)
    (hsession : session.solver.pending = nesting) :
    evaluation.run answer FormulaError.eval session =
      evaluation.run other FormulaError.eval session := by
  induction evaluation generalizing session with
  | done value => rfl
  | failed error => rfl
  | ask request resume ih =>
      have hsame := h request session hsession
      have hafter := hrestores request session
      rw [Evaluation.run, Evaluation.run]
      cases hrun : answer request session with
      | error error after => rw [bind_of_error hrun, bind_of_error (hsame.symm.trans hrun)]
      | ok result after =>
          rw [hrun] at hafter
          rw [bind_of_ok hrun, bind_of_ok (hsame.symm.trans hrun)]
          cases result with
          | ok text => exact ih text after (Eq.trans hafter hsession)
          | error error => rfl

theorem evaluateCell_of_run_eq {session : Session σ} {cell value : String} {expr : Expr}
    (h : (evaluate expr).run answer FormulaError.eval
        { session with solver := session.solver.enter cell (expr.height + 1) } =
      (evaluate expr).run other FormulaError.eval
        { session with solver := session.solver.enter cell (expr.height + 1) }) :
    evaluateCell answer cell value expr session =
      evaluateCell other cell value expr session := by
  have hevaluating : evaluating cell (expr.height + 1)
      ((evaluate expr).run answer FormulaError.eval) session =
        evaluating cell (expr.height + 1)
          ((evaluate expr).run other FormulaError.eval) session := by
    rw [evaluating, evaluating, h]
  simp only [evaluateCell, Bind.bind, EStateM.bind, hevaluating]

theorem evaluateCell_congr {session : Session σ} {cell : String} {expr : Expr}
    (hrestores : ∀ request, (answer request).Restores)
    (h : ∀ request (inner : Session σ),
      inner.solver.pending = session.solver.pending.enter cell (expr.height + 1) →
      answer request inner = other request inner) (value : String) :
    evaluateCell answer cell value expr session =
      evaluateCell other cell value expr session :=
  evaluateCell_of_run_eq (run_congr hrestores h (evaluate expr) _ rfl)

theorem answerTo_congr {first second : String → Solve σ Resolution} {session : Session σ}
    (h : ∀ cell, first cell session = second cell session) (request : Request) :
    answerTo first request session = answerTo second request session := by
  cases request with
  | external locator => rfl
  | cell name =>
      simp only [answerTo, referenceResult, tryCatch, tryCatchThe, MonadExceptOf.tryCatch,
        EStateM.tryCatch, Bind.bind, EStateM.bind, h name]

end

theorem resolveWith_congr {answer other : Request → Solve σ (Except FormulaError String)}
    {session : Session σ} (hrestores : ∀ request, (answer request).Restores)
    (h : ∀ request (inner : Session σ), session.solver.nesting < inner.solver.nesting →
      inner.solver.nesting ≤ maxResolutionDepth → answer request inner = other request inner)
    (name : String) :
    resolveWith answer name session = resolveWith other name session := by
  rcases opens_or_atOnce name session with
    ⟨value, expr, after, hopens⟩ | ⟨result, -, hresult⟩
  · have hread := rawValue_restores (canonical name) session
    rw [hopens.reads] at hread
    rw [hopens.resolveWith_eq, hopens.resolveWith_eq]
    refine evaluateCell_congr hrestores (fun request inner hinner => ?_) value
    have hspent : after.solver.nesting = session.solver.nesting :=
      congrArg Nesting.spent hread
    have hnesting : inner.solver.nesting = after.solver.nesting + (expr.height + 1) :=
      congrArg Nesting.spent hinner
    have hshallow := hopens.shallow
    exact h request inner (by omega) (by omega)
  · rw [hresult, hresult]

theorem resolveWithin_congr {levels more : Nat} {session : Session σ}
    (hlevels : maxResolutionDepth ≤ levels + session.solver.nesting)
    (hmore : maxResolutionDepth ≤ more + session.solver.nesting) (cell : String) :
    resolveWithin levels cell session = resolveWithin more cell session := by
  induction levels generalizing more session cell with
  | zero =>
      rw [resolveWithin_eq, resolveWithin_eq]
      exact resolveWith_congr (answerWithin_restores 0) (fun _ _ _ _ => by omega) cell
  | succ levels ih =>
      rw [resolveWithin_eq, resolveWithin_eq]
      refine resolveWith_congr (answerWithin_restores (levels + 1))
        (fun request inner hspent hshallow => ?_) cell
      cases more with
      | zero => omega
      | succ more => exact answerTo_congr (fun cell => ih (by omega) (by omega) cell) request

/-- A cell is resolved with the requests of its formula answered in the same way. -/
theorem resolve_eq (cell : String) :
    (resolve cell : Solve σ Resolution) = resolveWith (answerTo resolve) cell := by
  funext session
  have hlevels : maxResolutionDepth ≤ maxResolutionDepth + session.solver.nesting :=
    Nat.le_add_right _ _
  have hmore : maxResolutionDepth ≤ maxResolutionDepth + 1 + session.solver.nesting := by omega
  exact resolveWithin_congr hlevels hmore cell

end Solve

structure Waiting where
  cell : String
  expr : Expr

def Waiting.cost (waiting : Waiting) : Nat :=
  waiting.expr.height + 1

/-- The session in which the evaluation of a formula begins. -/
def Session.entering (session : Session σ) (waiting : Waiting) : Session σ :=
  { session with solver := session.solver.enter waiting.cell waiting.cost }

/-- How far an evaluation comes while its requests are granted. -/
inductive Comes (answer : Request → Solve σ (Except FormulaError String)) :
    Evaluation α → Session σ → Evaluation α → Session σ → Prop
  | start (evaluation : Evaluation α) (session : Session σ) :
      Comes answer evaluation session evaluation session
  | granted {request : Request} {resume : String → Evaluation α} {text : String}
      {rest : Evaluation α} {session middle after : Session σ}
      (grants : answer request session = .ok (.ok text) middle)
      (goesOn : Comes answer (resume text) middle rest after) :
      Comes answer (.ask request resume) session rest after

theorem Comes.rel {answer : Request → Solve σ (Except FormulaError String)}
    {rel : Session σ → Session σ → Prop} (hrefl : ∀ session, rel session session)
    (htrans : ∀ {first second third}, rel first second → rel second third → rel first third)
    (hanswer : ∀ request, Moves rel (answer request)) {evaluation rest : Evaluation α}
    {session after : Session σ} (h : Comes answer evaluation session rest after) :
    rel session after := by
  induction h with
  | start => exact hrefl _
  | @granted request _ _ _ session _ _ grants _ ih =>
      have hgranted := hanswer request session
      rw [grants] at hgranted
      exact htrans hgranted ih

/-- While `cell` is resolved from a session on, `name` is resolved in another one, and the
formulas of `stack` wait for it, innermost first. -/
inductive Resolving [Interference σ] (start : Session σ) (cell : String) :
    List Waiting → Session σ → String → Prop
  | top : Resolving start cell [] start cell
  | nested {stack : List Waiting} {session after asking : Session σ}
      {name value other : String} {expr : Expr} {resume : String → Evaluation Literal}
      (outer : Resolving start cell stack session name)
      (opens : Solve.Opens name session value expr after)
      (asks : Comes (Solve.answerTo Solve.resolve) (evaluate expr)
        (after.entering { cell := canonical name, expr }) (.ask (.cell other) resume) asking) :
      Resolving start cell ({ cell := canonical name, expr } :: stack) asking other

end LiveSheet
