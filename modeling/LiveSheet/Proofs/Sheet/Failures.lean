import LiveSheet.Proofs.Sheet.Attempts
import LiveSheet.Proofs.Sheet.Outcome

namespace LiveSheet

open LiveSheet.Formula

/-- Whether a fetch is given up only when the request is cancelled. -/
def Fetch.Heeds (fetch : Fetch) : Prop :=
  ∀ locator, fetch false locator ≠ .error .cancelled

structure Logged (before : Session σ) (attempts : List Attempt) (after : Session σ) : Prop where
  calls : after.world.calls = (attempts.filterMap Attempt.call?).reverse ++ before.world.calls
  fetch : after.solver.fetch = before.solver.fetch

theorem Logged.append {before middle after : Session σ} {attempts later : List Attempt}
    (h : Logged before attempts middle) (hlater : Logged middle later after) :
    Logged before (attempts ++ later) after where
  calls := by
    rw [hlater.calls, h.calls, List.filterMap_append, List.reverse_append, List.append_assoc]
  fetch := hlater.fetch.trans h.fetch

inductive Told (before : Session σ) :
    List Attempt → EStateM.Result StoreError (Session σ) α → Prop
  | answered {attempts : List Attempt} {answer : α} {after : Session σ}
      (logged : Logged before attempts after)
      (fine : ∀ attempt ∈ attempts, attempt.fatal? = none) :
      Told before attempts (.ok answer after)
  | failed {attempts earlier : List Attempt} {last : Attempt} {error : StoreError}
      {after : Session σ} (logged : Logged before attempts after)
      (split : attempts = earlier ++ [last])
      (fine : ∀ attempt ∈ earlier, attempt.fatal? = none)
      (fatal : last.fatal? = some error) :
      Told before attempts (.error error after)

theorem eq_nil_of_fatal {earlier first later : List Attempt} {last attempt : Attempt}
    (hfine : ∀ attempt ∈ earlier, attempt.fatal? = none)
    (h : earlier ++ [last] = first ++ attempt :: later) (hfatal : attempt.fatal? ≠ none) :
    later = [] := by
  rcases List.eq_nil_or_concat later with rfl | ⟨rest, final, rfl⟩
  · rfl
  · rw [List.concat_eq_append, ← List.cons_append, ← List.append_assoc] at h
    have hearlier := (List.append_inj' h rfl).1
    have hmem : attempt ∈ earlier := hearlier ▸ List.mem_append_right _ List.mem_cons_self
    exact absurd (hfine attempt hmem) hfatal

namespace Told

variable {before middle : Session σ} {attempts later : List Attempt}

theorem after_answered {result : EStateM.Result StoreError (Session σ) α}
    (h : Told middle later result) (hlogged : Logged before attempts middle)
    (hfine : ∀ attempt ∈ attempts, attempt.fatal? = none) :
    Told before (attempts ++ later) result := by
  cases h with
  | answered hlater hrest =>
      exact .answered (hlogged.append hlater) (List.forall_mem_append.mpr ⟨hfine, hrest⟩)
  | failed hlater hsplit hrest hfatal =>
      refine .failed (hlogged.append hlater) ?_ (List.forall_mem_append.mpr ⟨hfine, hrest⟩) hfatal
      rw [hsplit, List.append_assoc]

theorem failed_alone {attempt : Attempt} {error : StoreError}
    (hlogged : Logged before [attempt] middle) (hfatal : attempt.fatal? = some error) :
    Told (α := α) before [attempt] (.error error middle) :=
  .failed hlogged (List.nil_append [attempt]).symm nofun hfatal

theorem of_error {error : StoreError}
    (h : Told (α := α) before attempts (.error error middle)) :
    Told (α := β) before attempts (.error error middle) := by
  cases h with
  | failed hlogged hsplit hfine hfatal => exact .failed hlogged hsplit hfine hfatal

end Told

namespace Traced

/-- Whether a program fails where, and only where, an attempt has failed it. -/
def Candid (program : Traced σ α) : Prop :=
  ∀ session, session.solver.fetch.Heeds →
    Told session (program.attempts session) (program.run session)

theorem candid_silent {solve : Solve σ α}
    (h : ∀ session, ∃ answer after, solve session = .ok answer after ∧
      after.world = session.world ∧ after.solver.fetch = session.solver.fetch) :
    (silent solve).Candid := by
  intro session _
  obtain ⟨answer, after, hrun, hworld, hfetch⟩ := h session
  rw [silent_run, hrun]
  exact .answered ⟨congrArg World.calls hworld, hfetch⟩ nofun

theorem candid_pure (answer : α) : (pure answer : Traced σ α).Candid :=
  candid_silent fun session => ⟨answer, session, rfl, rfl, rfl⟩

theorem candid_get : (silent get : Traced σ (Session σ)).Candid :=
  candid_silent fun session => ⟨session, session, rfl, rfl, rfl⟩

theorem told_bind {program : Traced σ α} {next : α → Traced σ β} {session : Session σ}
    (h : Told session (program.attempts session) (program.run session))
    (hheeds : session.solver.fetch.Heeds) (hnext : ∀ answer, (next answer).Candid) :
    Told session ((program >>= next).attempts session) ((program >>= next).run session) := by
  cases hrun : program.run session with
  | error error after =>
      rw [hrun] at h
      rw [attempts_bind_of_error hrun, bind_run, bind_of_error hrun]
      exact h.of_error
  | ok answer after =>
      rw [hrun] at h
      rw [attempts_bind_of_ok hrun, bind_run, bind_of_ok hrun]
      cases h with
      | answered hlogged hfine =>
          have hlater := hnext answer after (hlogged.fetch ▸ hheeds)
          exact hlater.after_answered hlogged hfine

theorem Candid.bind {program : Traced σ α} {next : α → Traced σ β} (h : program.Candid)
    (hnext : ∀ answer, (next answer).Candid) : (program >>= next).Candid :=
  fun session hheeds => told_bind (h session hheeds) hheeds hnext

theorem Candid.evaluating {body : Traced σ α} (h : body.Candid) (cell : String) (cost : Nat) :
    (evaluating cell cost body).Candid := by
  intro session hheeds
  have htold := h { session with solver := session.solver.enter cell cost } hheeds
  unfold Traced.evaluating Solve.evaluating
  dsimp only
  cases hrun : body.run { session with solver := session.solver.enter cell cost } with
  | ok answer after =>
      rw [hrun] at htold
      cases htold with
      | answered hlogged hfine => exact .answered ⟨hlogged.calls, hlogged.fetch⟩ hfine
  | error error after =>
      rw [hrun] at htold
      cases htold with
      | failed hlogged hsplit hfine hfatal =>
          exact .failed ⟨hlogged.calls, hlogged.fetch⟩ hsplit hfine hfatal

theorem candid_external (locator : String) :
    (external locator : Traced σ (Except FormulaError String)).Candid := by
  intro session hheeds
  have hlogged (attempt : Attempt) (hcall : attempt.call? = none) :
      Logged session [attempt] session := by
    constructor
    · simp [hcall]
    · rfl
  unfold external
  dsimp only
  cases hfetch : session.solver.fetch (session.world.isFired session.solver.token) locator with
  | ok text =>
      have hrun : Solve.externalResult locator session = .ok (.ok text) session := by
        simp only [Solve.externalResult, bind_get, hfetch]
        rfl
      rw [hrun]
      exact .answered (hlogged _ rfl) (by simp [Attempt.fatal?])
  | error error =>
      by_cases hcancelled : error = .cancelled
      · subst hcancelled
        have hrun : Solve.externalResult locator session = .error .cancelled session := by
          simp only [Solve.externalResult, bind_get, hfetch]
          rfl
        have hfired : session.world.isFired session.solver.token = true := by
          by_contra hne
          rw [Bool.not_eq_true] at hne
          exact hheeds locator (hne ▸ hfetch)
        rw [hrun, hfired]
        exact .failed_alone (hlogged _ rfl) rfl
      · have hrun : Solve.externalResult locator session =
            .ok (.error (.eval (.external error.message))) session := by
          simp only [Solve.externalResult, bind_get, hfetch]
          rfl
        rw [hrun]
        refine .answered (hlogged _ rfl) (List.forall_mem_singleton.mpr ?_)
        cases error with
        | cancelled => exact absurd rfl hcancelled
        | _ => cases session.world.isFired session.solver.token <;> rfl

theorem candid_run {answer : Request → Traced σ (Except FormulaError String)}
    (h : ∀ request, (answer request).Candid) (evaluation : Evaluation α) :
    (evaluation.run answer FormulaError.eval).Candid := by
  induction evaluation with
  | done value => exact candid_pure (Except.ok value)
  | failed error => exact candid_pure (Except.error (FormulaError.eval error))
  | ask request resume ih =>
      rw [Evaluation.run]
      refine (h request).bind fun result => ?_
      cases result with
      | ok text => exact ih text
      | error error => exact candid_pure (Except.error error)

theorem candid_evaluateCell {answer : Request → Traced σ (Except FormulaError String)}
    (h : ∀ request, (answer request).Candid) (cell value : String) (expr : Expr) :
    (evaluateCell answer cell value expr).Candid := by
  refine ((candid_run h (evaluate expr)).evaluating cell _).bind fun result => ?_
  cases result with
  | error error => exact candid_pure _
  | ok literal =>
      have hkeep : (silent (Solve.onSolver (·.keepResult cell literal.text)) :
          Traced σ Unit).Candid :=
        candid_silent fun session => ⟨(), _, rfl, rfl, rfl⟩
      exact hkeep.bind fun _ => candid_pure _

theorem candid_resolveFormula {answer : Request → Traced σ (Except FormulaError String)}
    (h : ∀ request, (answer request).Candid) (cell value body : String) :
    (resolveFormula answer cell value body).Candid := by
  refine candid_get.bind fun session => ?_
  dsimp only
  -- The cached, the cyclic, the unreadable and the too deep need no evaluation.
  split
  · exact candid_pure _
  split
  · exact candid_pure _
  split
  · exact candid_pure _
  split
  · exact candid_pure _
  · exact candid_evaluateCell h cell value _

end Traced

namespace Session

def missing (session : Session σ) (cell : String) : StoreError :=
  .notFound (Store.cellKey session.solver.sheet cell)

end Session

/-- How a resolution ends: where an attempt has failed it, or else because its own
cell has no text. -/
inductive Resolved (cell : String) (before : Session σ) :
    List Attempt → EStateM.Result StoreError (Session σ) α → Prop
  | told {attempts : List Attempt} {result : EStateM.Result StoreError (Session σ) α}
      (told : Told before attempts result)
      (fails : before.text? cell = none → ∃ error after, result = .error error after) :
      Resolved cell before attempts result
  | missing {attempts : List Attempt} {after : Session σ} (absent : before.text? cell = none)
      (logged : Logged before attempts after)
      (fine : ∀ attempt ∈ attempts, attempt.fatal? = none) :
      Resolved cell before attempts (.error (before.missing cell) after)

theorem Resolved.bind {cell : String} {session : Session σ} {program : Traced σ α}
    {next : α → Traced σ β}
    (h : Resolved cell session (program.attempts session) (program.run session))
    (hheeds : session.solver.fetch.Heeds) (hnext : ∀ answer, (next answer).Candid) :
    Resolved cell session ((program >>= next).attempts session)
      ((program >>= next).run session) := by
  generalize hattempts : program.attempts session = attempts at h
  generalize hresult : program.run session = result at h
  cases h with
  | told htold hfails =>
      rw [← hattempts, ← hresult] at htold
      refine .told (Traced.told_bind htold hheeds hnext) fun habsent => ?_
      obtain ⟨error, after, herror⟩ := hfails habsent
      exact ⟨error, after, bind_of_error (hresult.trans herror)⟩
  | missing habsent hlogged hfine =>
      rw [Traced.attempts_bind_of_error hresult, Traced.bind_run, bind_of_error hresult,
        hattempts]
      exact .missing habsent hlogged hfine

theorem not_fatal_of_fine {attempts : List Attempt} {attempt : Attempt} {error : StoreError}
    (hfine : ∀ attempt ∈ attempts, attempt.fatal? = none) (hmem : attempt ∈ attempts) :
    attempt.fatal? ≠ some error := by
  rw [hfine attempt hmem]
  nofun

section

variable {before session : Session σ} {attempts : List Attempt} {solve : Solve σ α}

theorem Told.logged (h : Told session attempts (solve session)) :
    Logged session attempts (solve.leaves session) := by
  unfold Solve.leaves
  cases hresult : solve session with
  | ok answer after =>
      rw [hresult] at h
      cases h with
      | answered hlogged _ => exact hlogged
  | error error after =>
      rw [hresult] at h
      cases h with
      | failed hlogged _ _ _ => exact hlogged

theorem Told.answer_eq_error_iff (h : Told session attempts (solve session))
    (error : StoreError) :
    solve.answer session = .error error ↔
      ∃ attempt ∈ attempts, attempt.fatal? = some error := by
  unfold Solve.answer
  cases hresult : solve session with
  | ok answer after =>
      rw [hresult] at h
      cases h with
      | answered _ hfine =>
          refine iff_of_false nofun ?_
          rintro ⟨attempt, hmem, hfatal⟩
          exact not_fatal_of_fine hfine hmem hfatal
  | error failure after =>
      rw [hresult] at h
      cases h with
      | @failed earlier last _ _ _ hsplit hfine hlast =>
          subst hsplit
          constructor
          · rintro ⟨rfl⟩
            exact ⟨last, List.mem_append_right _ List.mem_cons_self, hlast⟩
          · rintro ⟨attempt, hmem, hfatal⟩
            rcases List.mem_append.mp hmem with hearlier | hsame
            · exact absurd hfatal (not_fatal_of_fine hfine hearlier)
            · rw [List.mem_singleton.mp hsame, hlast] at hfatal
              rw [Option.some.inj hfatal]

theorem Told.eq_nil_after_fatal {result : EStateM.Result StoreError (Session σ) α}
    (h : Told before attempts result) {earlier later : List Attempt} {attempt : Attempt}
    (hsplit : attempts = earlier ++ attempt :: later) (hfatal : attempt.fatal? ≠ none) :
    later = [] := by
  cases h with
  | answered _ hfine =>
      exact absurd (hfine _ (hsplit ▸ List.mem_append_right _ List.mem_cons_self)) hfatal
  | failed _ hlast hfine _ => exact eq_nil_of_fatal hfine (hlast.symm.trans hsplit) hfatal

namespace Resolved

variable {cell : String}

theorem logged (h : Resolved cell session attempts (solve session)) :
    Logged session attempts (solve.leaves session) := by
  generalize hresult : solve session = result at h
  cases h with
  | told htold _ => exact Told.logged (hresult ▸ htold)
  | missing _ hlogged _ => rwa [Solve.leaves, hresult]

theorem answer_eq_error_iff (h : Resolved cell session attempts (solve session))
    (error : StoreError) :
    solve.answer session = .error error ↔
      (∃ attempt ∈ attempts, attempt.fatal? = some error) ∨
      (error = session.missing cell ∧ session.text? cell = none ∧
        ∀ attempt ∈ attempts, attempt.fatal? = none) := by
  generalize hresult : solve session = result at h
  cases h with
  | told htold hfails =>
      have htold : Told session attempts (solve session) := hresult ▸ htold
      rw [htold.answer_eq_error_iff error, iff_self_or]
      rintro ⟨-, habsent, hfine⟩
      -- A cell without a text has failed the program, so an attempt was fatal.
      obtain ⟨failure, after, hfailed⟩ := hfails habsent
      have hanswer : solve.answer session = .error failure := by
        rw [Solve.answer, hresult, hfailed]
      obtain ⟨attempt, hmem, hfatal⟩ := (htold.answer_eq_error_iff failure).mp hanswer
      exact absurd hfatal (not_fatal_of_fine hfine hmem)
  | missing habsent hlogged hfine =>
      rw [Solve.answer, hresult]
      constructor
      · rintro ⟨rfl⟩
        exact Or.inr ⟨rfl, habsent, hfine⟩
      · rintro (⟨attempt, hmem, hfatal⟩ | ⟨rfl, -⟩)
        · exact absurd hfatal (not_fatal_of_fine hfine hmem)
        · rfl

theorem eq_nil_after_fatal {result : EStateM.Result StoreError (Session σ) α}
    (h : Resolved cell before attempts result) {earlier later : List Attempt}
    {attempt : Attempt} (hsplit : attempts = earlier ++ attempt :: later)
    (hfatal : attempt.fatal? ≠ none) : later = [] := by
  cases h with
  | told htold _ => exact htold.eq_nil_after_fatal hsplit hfatal
  | missing _ _ hfine =>
      exact absurd (hfine _ (hsplit ▸ List.mem_append_right _ List.mem_cons_self)) hfatal

end Resolved

end

theorem Traced.candid_referenceResult {resolve : String → Traced σ Resolution}
    (h : ∀ cell (session : Session σ), session.solver.fetch.Heeds →
      Resolved (canonical cell) session ((resolve cell).attempts session)
        ((resolve cell).run session))
    (name : String) : (referenceResult resolve name).Candid := by
  intro session hheeds
  have hresolved := (h name session hheeds).bind hheeds fun resolution =>
    candid_pure resolution.outcome
  unfold referenceResult
  generalize (resolve name >>= fun resolution => pure resolution.outcome :
    Traced σ (Except FormulaError String)) = program at hresolved ⊢
  cases hrun : program.run session with
  | ok outcome after =>
      rw [attempts_catching_of_ok hrun, catching_run, tryCatch_of_ok hrun]
      rw [hrun] at hresolved
      cases hresolved with
      | told htold hfails => exact htold
  | error error after =>
      rw [attempts_catching_of_error hrun, catching_run, tryCatch_of_error hrun]
      rw [hrun] at hresolved
      cases hresolved with
      | told htold hfails =>
          cases htold with
          | failed hlogged hsplit hfine hfatal =>
              rw [Attempt.isNotFound_of_fatal? hfatal]
              exact .failed (hlogged.append ⟨rfl, rfl⟩) ((List.append_nil _).trans hsplit)
                hfine hfatal
      | missing habsent hlogged hfine =>
          exact .answered (hlogged.append ⟨rfl, rfl⟩)
            (List.forall_mem_append.mpr ⟨hfine, nofun⟩)

inductive Fetched (sheet cell : String) (before : World σ) :
    EStateM.Result StoreError (World σ) String → Prop
  | failed {reason : String} {after : World σ}
      (calls : after.calls = .getCell sheet cell :: before.calls) :
      Fetched sheet cell before (.error (.backend reason) after)
  | missing {after : World σ} (calls : after.calls = .getCell sheet cell :: before.calls)
      (absent : before.store.cell? sheet cell = none) :
      Fetched sheet cell before (.error (.notFound (Store.cellKey sheet cell)) after)
  | found {value : String} {after : World σ}
      (calls : after.calls = .getCell sheet cell :: before.calls)
      (held : before.store.cell? sheet cell = some value) :
      Fetched sheet cell before (.ok value after)

theorem Access.request_fetched [Interference σ] {token : CancelToken} {sheet cell : String}
    {world : World σ} (h : world.isFired token = false) :
    Fetched sheet cell world (request token (.getCell sheet cell) world) := by
  unfold request
  rw [h]
  rcases Interference.react world.conditions (.getCell sheet cell) with ⟨reaction, conditions⟩
  simp only [Bool.false_eq_true, if_false]
  cases reaction.failure with
  | some reason => exact .failed rfl
  | none =>
      rw [Call.perform]
      cases hcell : world.store.cell? sheet cell with
      | some value => exact .found rfl hcell
      | none => exact .missing rfl hcell

namespace Traced

variable [Interference σ]

theorem request_resolved {cell : String} {session : Session σ}
    (hunread : session.solver.values.get? cell = none) :
    Resolved cell session
      ((request (.getCell session.solver.sheet cell)).attempts session)
      ((request (.getCell session.solver.sheet cell) : Traced σ String).run session) := by
  unfold request Solve.request Solve.onWorld
  dsimp only
  cases hfired : session.world.isFired session.solver.token with
  | true =>
      have hrefused : (Access.request session.solver.token
          (.getCell session.solver.sheet cell) : Access σ String) session.world =
            .error .cancelled session.world := by
        rw [Access.request, hfired]
        rfl
      rw [hrefused]
      exact .told (.failed_alone ⟨rfl, rfl⟩ rfl) fun _ => ⟨_, _, rfl⟩
  | false =>
      have hfetched : Fetched session.solver.sheet cell session.world
          (Access.request session.solver.token (.getCell session.solver.sheet cell)
            session.world) :=
        Access.request_fetched hfired
      generalize (Access.request session.solver.token
        (.getCell session.solver.sheet cell) : Access σ String) session.world = result at hfetched
      cases hfetched with
      | failed hcalls =>
          exact .told (.failed_alone ⟨hcalls, rfl⟩ rfl) fun _ => ⟨_, _, rfl⟩
      | missing hcalls habsent =>
          refine .missing ?_ ⟨hcalls, rfl⟩ (List.forall_mem_singleton.mpr rfl)
          rw [Session.text?, hunread, habsent, Option.or_none]
      | found hcalls hheld =>
          refine .told (.answered ⟨hcalls, rfl⟩ (List.forall_mem_singleton.mpr rfl)) ?_
          intro habsent
          rw [Session.text?, hunread, hheld] at habsent
          cases habsent

theorem rawValue_resolved (cell : String) {session : Session σ}
    (hheeds : session.solver.fetch.Heeds) :
    Resolved cell session ((rawValue cell).attempts session)
      ((rawValue cell : Traced σ String).run session) := by
  have hget : (silent get : Traced σ (Session σ)).run session = .ok session session := rfl
  unfold rawValue
  rw [attempts_bind_of_ok hget, bind_run, bind_of_ok hget]
  dsimp only
  cases hvalue : session.solver.values.get? cell with
  | some value =>
      refine .told (candid_pure value session hheeds) fun habsent => ?_
      rw [Session.text?, hvalue] at habsent
      cases habsent
  | none =>
      have hremember (value : String) :
          (silent (Solve.onSolver (·.remember cell value)) : Traced σ Unit).Candid :=
        candid_silent fun session => ⟨(), _, rfl, rfl, rfl⟩
      exact (request_resolved hvalue).bind hheeds fun value =>
        (hremember value).bind fun _ => candid_pure value

theorem resolveWith_resolved {answer : Request → Traced σ (Except FormulaError String)}
    (h : ∀ request, (answer request).Candid) (cell : String) {session : Session σ}
    (hheeds : session.solver.fetch.Heeds) :
    Resolved (canonical cell) session ((resolveWith answer cell).attempts session)
      ((resolveWith answer cell).run session) := by
  refine (rawValue_resolved (canonical cell) hheeds).bind hheeds fun value => ?_
  split
  · exact candid_pure _
  · exact candid_resolveFormula h (canonical cell) value _

theorem resolveWithin_resolved (levels : Nat) (cell : String) {session : Session σ}
    (hheeds : session.solver.fetch.Heeds) :
    Resolved (canonical cell) session ((resolveWithin levels cell).attempts session)
      ((resolveWithin levels cell : Traced σ Resolution).run session) := by
  induction levels generalizing cell session with
  | zero => exact resolveWith_resolved (fun _ => candid_pure _) cell hheeds
  | succ levels ih =>
      refine resolveWith_resolved (fun request => ?_) cell hheeds
      cases request with
      | external locator => exact candid_external locator
      | cell name => exact candid_referenceResult (fun cell session => ih cell) name

theorem resolve_resolved (cell : String) {session : Session σ}
    (hheeds : session.solver.fetch.Heeds) :
    Resolved (canonical cell) session ((resolve cell).attempts session)
      (Solve.resolve cell session) := by
  rw [← resolve_run]
  exact resolveWithin_resolved maxResolutionDepth cell hheeds

end Traced

namespace Session

variable [Interference σ]

def attempts (session : Session σ) (cell : String) : List Attempt :=
  (Traced.resolve cell).attempts session

/-- Whether a resolution fails with what has failed it, and with nothing else. -/
structure TellsFailures (session : Session σ) (cell : String) : Prop where
  calls : ((Solve.resolve cell).leaves session).world.calls =
    ((session.attempts cell).filterMap Attempt.call?).reverse ++ session.world.calls
  error_iff : ∀ error,
    (Solve.resolve cell).answer session = .error error ↔
      (∃ attempt ∈ session.attempts cell, attempt.fatal? = some error) ∨
      (error = session.missing (canonical cell) ∧ session.text? (canonical cell) = none ∧
        ∀ attempt ∈ session.attempts cell, attempt.fatal? = none)
  last : ∀ {earlier attempt later}, session.attempts cell = earlier ++ attempt :: later →
    attempt.fatal? ≠ none → later = []

theorem tells_failures (session : Session σ) (cell : String)
    (hheeds : session.solver.fetch.Heeds) : session.TellsFailures cell := by
  have hresolved : Resolved (canonical cell) session (session.attempts cell)
      (Solve.resolve cell session) :=
    Traced.resolve_resolved cell hheeds
  exact ⟨hresolved.logged.calls, hresolved.answer_eq_error_iff,
    fun hsplit hfatal => hresolved.eq_nil_after_fatal hsplit hfatal⟩

end Session

namespace Engine

/-- Nothing fails a write when nothing interferes with it. -/
theorem upsert_answers (engine : Engine) {world : World Unit} (hfired : world.fired = [])
    (hheeds : engine.fetch.Heeds) (sheet cell value : String) :
    ∃ outcome, (engine.upsert sheet cell value).answer world = .ok outcome := by
  have hquiet : Quiet world.store world := ⟨rfl, hfired⟩
  obtain ⟨result, after, hresult, -, hends⟩ := engine.upsert_concludes sheet cell value hquiet
  cases hends with
  | committed => exact ⟨_, hresult⟩
  | rejected => exact ⟨_, hresult⟩
  | @failed error hstumbles =>
      obtain ⟨name, results, -, hexists, hread⟩ := hstumbles
      have hfetch (locator : String) : (engine.page (world.store.setCell (canonical sheet)
          (canonical cell) value) (canonical sheet)).fetch locator ≠ .error .cancelled :=
        hheeds locator
      exact absurd hread (Page.readUnder_ne_request hfetch hexists Nesting.none results error)

theorem getCell_answers (engine : Engine) {world : World Unit} (hfired : world.fired = [])
    (hheeds : engine.fetch.Heeds) (sheet cell : String) {error : StoreError}
    (h : (engine.getCell sheet cell).answer world = .error error) :
    error.isNotFound = true := by
  rw [(engine.getCell_yields world.store sheet cell).answer ⟨rfl, hfired⟩, Page.response] at h
  have hfetch (locator : String) : (engine.page world.store (canonical sheet)).fetch locator ≠
      .error .cancelled :=
    hheeds locator
  generalize hread : (engine.page world.store (canonical sheet)).read cell Table.empty = reading
    at h
  rcases reading with ⟨stop | text, after⟩
  · cases stop with
    | formula failure => cases h
    | request failure =>
        cases h
        exact Page.readWithin_stopsWith hfetch maxResolutionDepth Nesting.none cell _ _ _ hread
  · cases h

end Engine

end LiveSheet
