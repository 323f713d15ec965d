import LiveSheet.Proofs.Sheet.Readings

namespace LiveSheet

open LiveSheet.Formula

/-! Within one resolution a formula is evaluated once: its result is there for the rest of
the session, and a failure ends the resolution.  A solver notes each evaluation as it
begins. -/

/-- The cells whose evaluation begins between one session and another, latest first. -/
structure Starts (before : Session σ) (more : List String) (after : Session σ) : Prop where
  started : after.solver.started = more ++ before.solver.started
  fresh : ∀ cell ∈ more, cell ∉ before.solver.cache.keys
  keeps : ∀ cell ∈ before.solver.cache.keys, cell ∈ after.solver.cache.keys

namespace Starts

variable {first second third before after : Session σ} {started more : List String}

theorem refl (session : Session σ) : Starts session [] session :=
  ⟨rfl, nofun, fun _ hcell => hcell⟩

theorem trans (h : Starts first started second) (hlast : Starts second more third) :
    Starts first (more ++ started) third where
  started := by rw [hlast.started, h.started, List.append_assoc]
  fresh := by
    intro cell hmore hcell
    rcases List.mem_append.mp hmore with hmore | hstarted
    · exact hlast.fresh cell hmore (h.keeps cell hcell)
    · exact h.fresh cell hstarted hcell
  keeps := fun cell hcell => hlast.keeps cell (h.keeps cell hcell)

theorem of_sameButTexts (h : Solve.SameButTexts before after) : Starts before [] after := by
  obtain ⟨values, hvalues⟩ := h
  refine ⟨?_, nofun, fun cell hcell => ?_⟩
  · rw [hvalues]
    rfl
  · rw [hvalues]
    exact hcell

theorem keep (session : Session σ) (cell result : String) :
    Starts session [] { session with solver := session.solver.keepResult cell result } :=
  ⟨rfl, nofun, fun _ hcell => (Table.mem_keys_insert _ _ _ _).mpr (.inr hcell)⟩

theorem evaluating {cell : String} {cost : Nat} {body : Solve σ α} {session : Session σ}
    (hfresh : session.solver.cache.get? cell = none)
    (h : Starts { session with solver := session.solver.enter cell cost } more
      (endState (body { session with solver := session.solver.enter cell cost }))) :
    Starts session (more ++ [cell]) (endState (Solve.evaluating cell cost body session)) := by
  rw [Solve.endState_evaluating]
  refine ⟨?_, fun other hother => ?_, h.keeps⟩
  · rw [List.append_assoc]
    exact h.started
  · rcases List.mem_append.mp hother with hmore | hcell
    · exact h.fresh other hmore
    · rw [List.mem_singleton.mp hcell]
      exact (Table.not_mem_keys_iff _ _).mpr hfresh

end Starts

namespace Solve

variable [Interference σ]

theorem starts_carries :
    Carries (σ := σ) fun before after => ∃ more, Starts before more after where
  refl := fun session => ⟨[], .refl session⟩
  trans := fun ⟨_, hfirst⟩ ⟨_, hlast⟩ => ⟨_, hfirst.trans hlast⟩
  read := fun cell session => ⟨[], .of_sameButTexts (rawValue_sameButTexts cell session)⟩
  evaluate := by
    intro cell cost body hbody session hfresh _
    obtain ⟨more, hmore⟩ := hbody { session with solver := session.solver.enter cell cost }
    exact ⟨_, hmore.evaluating hfresh⟩
  keep := fun session cell result => ⟨[], .keep session cell result⟩

end Solve

theorem Step.run_starts [Interference σ] (steps : List Step) (session : Session σ) :
    ∃ more, Starts session more (Step.run steps session) :=
  Solve.starts_carries.steps
    (fun session => ⟨[], .of_sameButTexts (Solve.preload_sameButTexts session)⟩) steps session

/-- Nothing is started twice, and nothing that waits. -/
structure StartsOnce (before : Session σ) (more : List String) (after : Session σ) : Prop
    extends Starts before more after where
  once : more.Nodup
  free : ∀ cell ∈ more, cell ∉ before.solver.inProgress

namespace StartsOnce

variable {first second third before after : Session σ} {started more : List String}

theorem still (h : Starts before [] after) : StartsOnce before [] after :=
  ⟨h, List.nodup_nil, fun _ hcell => absurd hcell List.not_mem_nil⟩

theorem trans (h : StartsOnce first started second)
    (hkept : ∀ cell ∈ started, cell ∈ second.solver.cache.keys)
    (hpending : Solve.SamePending first second) (hlast : StartsOnce second more third) :
    StartsOnce first (more ++ started) third where
  toStarts := h.toStarts.trans hlast.toStarts
  once := by
    refine List.nodup_append.mpr ⟨hlast.once, h.once, ?_⟩
    rintro cell hmore _ hstarted rfl
    exact hlast.fresh cell hmore (hkept cell hstarted)
  free := by
    intro cell hcell
    rcases List.mem_append.mp hcell with hmore | hstarted
    · rw [← show second.solver.inProgress = first.solver.inProgress from
        congrArg Nesting.waiting hpending]
      exact hlast.free cell hmore
    · exact h.free cell hstarted

theorem evaluating {cell : String} {cost : Nat} {body : Solve σ α} {session : Session σ}
    (hfresh : session.solver.cache.get? cell = none) (hfree : cell ∉ session.solver.inProgress)
    (h : StartsOnce { session with solver := session.solver.enter cell cost } more
      (endState (body { session with solver := session.solver.enter cell cost }))) :
    StartsOnce session (more ++ [cell])
      (endState (Solve.evaluating cell cost body session)) where
  toStarts := h.toStarts.evaluating hfresh
  once := by
    refine List.nodup_append.mpr ⟨h.once, List.pairwise_singleton _ _, ?_⟩
    rintro _ hmore _ hcell rfl
    rw [List.mem_singleton.mp hcell] at hmore
    exact h.free cell hmore List.mem_cons_self
  free := by
    intro other hother hwaits
    rcases List.mem_append.mp hother with hmore | hcell
    · exact h.free other hmore (List.mem_cons_of_mem _ hwaits)
    · exact hfree (List.mem_singleton.mp hcell ▸ hwaits)

end StartsOnce

namespace Solve

def Kept (good : α → Prop) (more : List String) :
    EStateM.Result StoreError (Session σ) α → Prop
  | .ok answer after => good answer → ∀ cell ∈ more, cell ∈ after.solver.cache.keys
  | .error _ _ => True

theorem kept_nil (good : α → Prop) (result : EStateM.Result StoreError (Session σ) α) :
    Kept good [] result := by
  cases result with
  | ok answer after => exact fun _ _ hcell => absurd hcell List.not_mem_nil
  | error error after => trivial

theorem Kept.append {good : α → Prop} {started more : List String} {middle : Session σ}
    {result : EStateM.Result StoreError (Session σ) α} (h : Kept good more result)
    (hstarts : Starts middle more (endState result))
    (hkept : ∀ cell ∈ started, cell ∈ middle.solver.cache.keys) :
    Kept good (more ++ started) result := by
  cases result with
  | ok answer after =>
      intro hgood cell hcell
      rcases List.mem_append.mp hcell with hmore | hstarted
      · exact h hgood cell hmore
      · exact hstarts.keeps cell (hkept cell hstarted)
  | error error after => trivial

/-- Whether a program starts each evaluation once, wherever it begins, and has a result of
each when it ends well. -/
def Once (good : α → Prop) (solve : Solve σ α) : Prop :=
  ∀ session, ∃ more,
    StartsOnce session more (endState (solve session)) ∧ Kept good more (solve session)

theorem once_pure (good : α → Prop) (answer : α) : Once good (pure answer : Solve σ α) :=
  fun session => ⟨[], .still (.refl session), kept_nil good _⟩

def Good (outcome : Except FormulaError α) : Prop :=
  outcome.isOk = true

theorem run_once {answer : Request → Solve σ (Except FormulaError String)}
    (hrestores : ∀ request, (answer request).Restores)
    (hanswer : ∀ request, Once Good (answer request)) (evaluation : Evaluation α) :
    Once Good (evaluation.run answer FormulaError.eval) := by
  induction evaluation with
  | done value => exact once_pure Good _
  | failed error => exact once_pure Good _
  | ask request resume ih =>
      intro session
      obtain ⟨started, hstarted, hkept⟩ := hanswer request session
      have hpending := hrestores request session
      rw [Evaluation.run]
      cases hrun : answer request session with
      | error error after =>
          rw [hrun] at hstarted
          rw [bind_of_error hrun]
          exact ⟨started, hstarted, trivial⟩
      | ok outcome after =>
          rw [hrun] at hstarted hkept hpending
          rw [bind_of_ok hrun]
          cases outcome with
          | ok text =>
              obtain ⟨more, hmore, hlater⟩ := ih text after
              exact ⟨more ++ started, hstarted.trans (hkept rfl) hpending hmore,
                hlater.append hmore.toStarts (hkept rfl)⟩
          | error error =>
              refine ⟨started, hstarted, fun hgood => ?_⟩
              cases hgood

theorem evaluateCell_once {answer : Request → Solve σ (Except FormulaError String)}
    (hrestores : ∀ request, (answer request).Restores)
    (hanswer : ∀ request, Once Good (answer request)) {cell : String} (value : String)
    (expr : Expr) {session : Session σ} (hfresh : session.solver.cache.get? cell = none)
    (hfree : cell ∉ session.solver.inProgress) :
    ∃ more, StartsOnce session more (endState (evaluateCell answer cell value expr session)) ∧
      Kept (fun resolution => Good resolution.outcome) more
        (evaluateCell answer cell value expr session) := by
  obtain ⟨more, hmore, hkept⟩ := run_once hrestores hanswer (evaluate expr)
    { session with solver := session.solver.enter cell (expr.height + 1) }
  have hstarts := hmore.evaluating hfresh hfree
  refine ⟨more ++ [cell], ?_⟩
  rw [evaluateCell]
  cases hbody : (evaluate expr).run answer FormulaError.eval
      { session with solver := session.solver.enter cell (expr.height + 1) } with
  | error error inner =>
      have hrun := evaluating_of_error hbody
      rw [hrun] at hstarts
      rw [bind_of_error hrun]
      exact ⟨hstarts, trivial⟩
  | ok outcome inner =>
      have hrun := evaluating_of_ok hbody
      rw [hrun] at hstarts
      rw [hbody] at hkept
      rw [bind_of_ok hrun]
      cases outcome with
      | error error =>
          refine ⟨hstarts, fun hgood => ?_⟩
          cases hgood
      | ok literal =>
          refine ⟨⟨hstarts.toStarts.trans (.keep _ cell literal.text), hstarts.once,
            hstarts.free⟩, fun _ other hother => ?_⟩
          refine (Table.mem_keys_insert _ _ _ _).mpr ?_
          rcases List.mem_append.mp hother with hother | hother
          · exact .inr (hkept rfl other hother)
          · exact .inl (List.mem_singleton.mp hother)

variable [Interference σ]

theorem resolveWith_once {answer : Request → Solve σ (Except FormulaError String)}
    (hrestores : ∀ request, (answer request).Restores)
    (hanswer : ∀ request, Once Good (answer request)) (name : String) :
    Once (fun resolution => Good resolution.outcome) (resolveWith answer name) := by
  intro session
  have hread := rawValue_sameButTexts (canonical name) session
  rcases opens_or_atOnce name session with
    ⟨value, expr, after, hopens⟩ | ⟨result, hends, hresult⟩
  · rw [hopens.reads] at hread
    obtain ⟨more, hmore, hkept⟩ :=
      evaluateCell_once hrestores hanswer value expr hopens.fresh hopens.free
    have hnone : ∀ cell ∈ ([] : List String), cell ∈ after.solver.cache.keys :=
      fun _ hcell => absurd hcell List.not_mem_nil
    have hfirst : StartsOnce session [] after := .still (.of_sameButTexts hread)
    rw [hopens.resolveWith_eq]
    exact ⟨more ++ [], hfirst.trans hnone hread.samePending hmore,
      hkept.append hmore.toStarts hnone⟩
  · rw [hresult]
    refine ⟨[], .still (.of_sameButTexts ?_), kept_nil _ _⟩
    cases hends with
    | unread reads | plain reads | known reads | refused _ reads =>
        rw [reads] at hread
        exact hread

omit [Interference σ] in
theorem answerTo_once {resolve : String → Solve σ Resolution}
    (hresolve : ∀ cell, Once (fun resolution => Good resolution.outcome) (resolve cell))
    (request : Request) : Once Good (answerTo resolve request) := by
  intro session
  cases request with
  | cell name =>
      obtain ⟨more, hmore, hkept⟩ := hresolve name session
      refine ⟨more, ?_⟩
      rw [answerTo, referenceResult]
      cases hrun : resolve name session with
      | ok resolution after =>
          rw [hrun] at hmore hkept
          have hasked : (do return (← resolve name).outcome : Solve σ _) session =
              .ok resolution.outcome after := bind_of_ok hrun
          rw [tryCatch_of_ok hasked]
          exact ⟨hmore, hkept⟩
      | error error after =>
          rw [hrun] at hmore
          have hasked : (do return (← resolve name).outcome : Solve σ _) session =
              .error error after := bind_of_error hrun
          rw [tryCatch_of_error hasked]
          split
          · refine ⟨hmore, fun hgood => ?_⟩
            cases hgood
          · exact ⟨hmore, trivial⟩
  | external locator =>
      rw [answerTo, externalResult_eq]
      refine ⟨[], .still ?_, kept_nil _ _⟩
      cases received (session.solver.fetch
        (session.world.isFired session.solver.token) locator) <;> exact .refl session

theorem resolveWithin_once (levels : Nat) (cell : String) :
    Once (fun resolution => Good resolution.outcome)
      (resolveWithin levels cell : Solve σ Resolution) := by
  rw [resolveWithin_eq]
  induction levels generalizing cell with
  | zero => exact resolveWith_once (answerWithin_restores 0) (fun _ => once_pure Good _) cell
  | succ levels ih =>
      have hanswer (request : Request) :
          Once Good (answerTo (resolveWithin levels) request : Solve σ _) := by
        rw [resolveWithin_eq]
        exact answerTo_once ih request
      exact resolveWith_once (answerWithin_restores (levels + 1)) hanswer cell

theorem resolve_once (cell : String) :
    Once (fun resolution => Good resolution.outcome) (resolve cell : Solve σ Resolution) :=
  resolveWithin_once maxResolutionDepth cell

theorem mem_cache_of_resolve {name : String} {session after : Session σ}
    {resolution : Resolution} (h : resolve name session = .ok resolution after)
    (hformula : isFormula resolution.value = true) (hgood : Good resolution.outcome) :
    canonical name ∈ after.solver.cache.keys := by
  rw [resolve_eq] at h
  rcases opens_or_atOnce name session with
    ⟨value, expr, opened, hopens⟩ | ⟨result, hends, hresult⟩
  · rw [hopens.resolveWith_eq, evaluateCell] at h
    obtain ⟨outcome, middle, -, hrest⟩ := exists_of_bind_ok h
    cases outcome with
    | error error =>
        cases hrest
        cases hgood
    | ok literal =>
        cases hrest
        exact (Table.mem_keys_insert _ _ _ _).mpr (.inl rfl)
  · rw [hresult] at h
    subst h
    cases hends with
    | @plain value _ reads noFormula =>
        have hplain : isFormula value = false := by rw [isFormula, noFormula, Option.isSome_none]
        cases hplain.symm.trans hformula
    | known reads held => exact Table.mem_keys_of_get? held
    | refused error reads => cases hgood

end Solve

theorem Comes.run_eq {answer : Request → Solve σ (Except FormulaError String)}
    {evaluation rest : Evaluation α} {session after : Session σ}
    (h : Comes answer evaluation session rest after) :
    evaluation.run answer FormulaError.eval session =
      rest.run answer FormulaError.eval after := by
  induction h with
  | start => rfl
  | granted grants _ ih =>
      rw [Evaluation.run, bind_of_ok grants]
      exact ih

namespace Solve

variable [Interference σ] {name value : String} {expr : Expr} {session after between : Session σ}

theorem Opens.starts (hopens : Opens name session value expr after)
    (h : ∃ more, Starts between more
      (endState ((evaluate expr).run (answerTo resolve) FormulaError.eval
        (after.entering { cell := canonical name, expr })))) :
    ∃ more, Starts between more (endState (resolve name session)) := by
  obtain ⟨more, hmore⟩ := h
  have hleft : Starts between more
      (endState (evaluating (canonical name) (expr.height + 1)
        ((evaluate expr).run (answerTo resolve) FormulaError.eval) after)) := by
    rw [endState_evaluating]
    exact ⟨hmore.started, hmore.fresh, hmore.keeps⟩
  rw [resolve_eq name, hopens.resolveWith_eq]
  exact starts_carries.trans ⟨more, hleft⟩ (starts_carries.evaluated _ _ value expr after)

theorem Opens.starts_entering (hopens : Opens name session value expr after) :
    ∃ more, Starts (after.entering { cell := canonical name, expr }) more
      (endState (resolve name session)) :=
  hopens.starts (starts_carries.run (starts_carries.answerTo starts_carries.resolve)
    (evaluate expr) _)

end Solve

theorem Resolving.starts [Interference σ] {start session : Session σ} {cell name : String}
    {stack : List Waiting} (h : Resolving start cell stack session name) :
    ∃ more, Starts (endState (Solve.resolve name session)) more
      (endState (Solve.resolve cell start)) := by
  have hcarries : Carries fun before after : Session σ => ∃ more, Starts before more after :=
    Solve.starts_carries
  induction h with
  | top => exact hcarries.refl _
  | @nested _ _ _ asking _ _ other _ resume _ opens asks ih =>
      refine hcarries.trans (opens.starts ?_) ih
      rw [asks.run_eq]
      exact hcarries.trans (hcarries.answered Solve.resolve other asking)
        (hcarries.asked (fun text => hcarries.run (hcarries.answerTo hcarries.resolve)
          (resume text)) asking)

theorem Step.run_append [Interference σ] (steps later : List Step) (session : Session σ) :
    run (steps ++ later) session = run later (run steps session) :=
  List.foldl_append

namespace Session

/-- However a session reads and resolves, a store without faults is asked just once for a
text that it has, and never for one that was read with all others.  Every evaluation that
begins is noted.  Within one resolution none begins twice, and none of a cell that was
computed begins again in the same session. -/
theorem read_and_computed_once [Interference σ] (start : Session σ) :
    (Faultless σ →
      (∀ steps, ∃ made, (Step.run steps start).world.calls = made ++ start.world.calls ∧
        (∀ sheet cell, .getCell sheet cell ∈ made → sheet = start.solver.sheet) ∧
        ∀ cell, start.world.store.cell? start.solver.sheet cell ≠ none →
          made.count (.getCell start.solver.sheet cell) ≤ 1) ∧
      ∀ steps later ids, Solve.preload.answer (Step.run steps start) = .ok ids →
        ∃ before made,
          (Step.run steps start).world.calls = before ++ start.world.calls ∧
          (Step.run (steps ++ .preload :: later) start).world.calls =
            made ++ (before ++ start.world.calls) ∧
          ∀ id ∈ ids, .getCell start.solver.sheet id ∉ made ∧
            (id ∉ (Step.run steps start).solver.values.keys →
              start.world.store.cell? start.solver.sheet id ≠ none →
              .getCell start.solver.sheet id ∉ before)) ∧
    (∀ steps cell, ∃ more,
      (Step.run (steps ++ [.resolve cell]) start).solver.started =
        more ++ (Step.run steps start).solver.started ∧ more.Nodup) ∧
    (∀ steps cell stack session name value expr after,
      Resolving (Step.run steps start) cell stack session name →
      Solve.Opens name session value expr after →
      ∃ more, (Step.run (steps ++ [.resolve cell]) start).solver.started =
        more ++ canonical name :: after.solver.started) ∧
    ∀ steps cell stack session name resolution text after,
      Resolving (Step.run steps start) cell stack session name →
      Solve.resolve name session = .ok resolution after →
      isFormula resolution.value = true → resolution.outcome = .ok text →
      ∀ later, ∃ more,
        (Step.run (steps ++ .resolve cell :: later) start).solver.started =
          more ++ after.solver.started ∧ canonical name ∉ more := by
  refine ⟨fun hcalm => ⟨fun steps => ?_, fun steps later ids hids => ?_⟩,
    fun steps cell => ?_, ?_, ?_⟩
  · obtain ⟨made, hmade⟩ := Step.run_asks hcalm steps start
    exact ⟨made, hmade.calls, fun _ _ => hmade.own, hmade.once⟩
  · obtain ⟨before, hbefore⟩ := Step.run_asks hcalm steps start
    obtain ⟨own, hown, hnone⟩ := Solve.preload_asks hcalm (Step.run steps start)
    have hrun := Solve.eq_ok_of_answer hids
    rw [← Solve.leaves_eq_endState] at hown
    obtain ⟨made, hmade⟩ := Step.run_asks hcalm later
      (Solve.preload.leaves (Step.run steps start))
    have hasked := hown.trans hmade
    refine ⟨before, made ++ own, hbefore.calls, ?_, fun id hid => ⟨fun hasks => ?_, ?_⟩⟩
    · rw [Step.run_append, ← hbefore.calls]
      exact hasked.calls
    · rw [← hbefore.sheet] at hasks
      rcases List.mem_append.mp hasks with hasks | hasks
      · rw [← hown.sheet] at hasks
        exact hmade.unasked id (Solve.mem_keys_of_preload hrun hid) hasks
      · exact hnone id hasks
    · exact fun hunread hstored hasks => hunread (hbefore.answered id hstored hasks)
  · obtain ⟨more, hmore, -⟩ := Solve.resolve_once cell (Step.run steps start)
    refine ⟨more, ?_, hmore.once⟩
    rw [Step.run_append]
    change ((Solve.resolve cell).leaves _).solver.started = _
    rw [Solve.leaves_eq_endState]
    exact hmore.started
  · intro steps cell stack session name value expr after hresolving hopens
    obtain ⟨first, hfirst⟩ := hopens.starts_entering
    obtain ⟨last, hlast⟩ := hresolving.starts
    refine ⟨last ++ first, ?_⟩
    rw [Step.run_append]
    change ((Solve.resolve cell).leaves _).solver.started = _
    rw [Solve.leaves_eq_endState]
    exact (hfirst.trans hlast).started
  · intro steps cell stack session name resolution text after hresolving hrun hformula
      houtcome later
    have hkept := Solve.mem_cache_of_resolve hrun hformula
      (show resolution.outcome.isOk = true by rw [houtcome]; rfl)
    obtain ⟨first, hfirst⟩ := hresolving.starts
    rw [hrun, ← Solve.leaves_eq_endState] at hfirst
    obtain ⟨last, hlast⟩ := Step.run_starts later
      ((Solve.resolve cell).leaves (Step.run steps start))
    have hstarts := hfirst.trans hlast
    refine ⟨last ++ first, ?_, fun hmore => hstarts.fresh _ hmore hkept⟩
    rw [Step.run_append]
    exact hstarts.started

theorem read_and_computed_once_cycle :
    Faultless Unit ∧
      (∃ made,
        (Step.run [.resolve "C", .preload, .resolve "b"] opening).world.calls =
          made ++ opening.world.calls ∧
        made.count (.getCell opening.solver.sheet "a") ≤ 1) ∧
      (∃ before made,
        (Step.run [.resolve "b", .preload, .resolve "C"] opening).world.calls =
          made ++ (before ++ opening.world.calls) ∧
        .getCell opening.solver.sheet "b" ∉ made ∧ .getCell opening.solver.sheet "c" ∉ made ∧
        .getCell opening.solver.sheet "c" ∉ before) ∧
      (∃ more, (Step.run [.preload, .resolve "C"] opening).solver.started =
        more ++ (Step.run [.preload] opening).solver.started ∧ more.Nodup) ∧
      (∃ more, (Step.run [.resolve "C"] opening).solver.started =
        more ++ canonical "C" :: outerRead.solver.started) ∧
      ∃ session resolution after more,
        Resolving opening "C" [outerFormula] session "b" ∧
        Solve.resolve "b" session = .ok resolution after ∧ resolution.outcome = .ok "2" ∧
        (Step.run [.resolve "C", .preload, .resolve "b", .resolve "C"] opening).solver.started =
          more ++ after.solver.started ∧ canonical "b" ∉ more := by
  have hcalm : Faultless Unit := fun _ _ => rfl
  have hids : Solve.preload.answer (Step.run [.resolve "b"] opening) = .ok ["a", "b", "c"] := by
    decide +kernel
  have hnested : Resolving opening "C" [outerFormula] (outerRead.entering outerFormula) "b" :=
    Resolving.top.nested opens_outer (.start _ _)
  have hsum : ((Solve.resolve "b").answer (outerRead.entering outerFormula)).map
      (fun resolution => (isFormula resolution.value, resolution.outcome)) =
        .ok (true, .ok "2") := by
    decide +kernel
  obtain ⟨resolution, hanswer, hresolution⟩ := map_eq_ok hsum
  obtain ⟨hformula, houtcome⟩ := Prod.mk.inj hresolution
  obtain ⟨hreads, hstarts, hnoted, hkept⟩ := read_and_computed_once opening
  obtain ⟨hcounts, hseeded⟩ := hreads hcalm
  obtain ⟨made, hmade, -, hcount⟩ := hcounts [.resolve "C", .preload, .resolve "b"]
  obtain ⟨before, later, -, hlater, hnever⟩ :=
    hseeded [.resolve "b"] [.resolve "C"] ["a", "b", "c"] hids
  rw [List.singleton_append] at hlater
  have hsum := hnever "b" (by decide)
  have hcycle := hnever "c" (by decide)
  have hstarted := hstarts [.preload] "C"
  rw [List.singleton_append] at hstarted
  have hbegun := hnoted [] "C" [] opening "C" "=b+c" outerFormula.expr outerRead .top opens_outer
  rw [List.nil_append] at hbegun
  obtain ⟨more, hmore⟩ := hkept [] "C" [outerFormula] (outerRead.entering outerFormula) "b"
    resolution "2" _ hnested (Solve.eq_ok_of_answer hanswer) hformula houtcome
    [.preload, .resolve "b", .resolve "C"]
  rw [List.nil_append] at hmore
  exact ⟨hcalm, ⟨made, hmade, hcount "a" (by decide +kernel)⟩,
    ⟨before, later, hlater, hsum.1, hcycle.1,
      hcycle.2 (by decide +kernel) (by decide +kernel)⟩,
    hstarted, hbegun, _, resolution, _, more, hnested, Solve.eq_ok_of_answer hanswer,
    houtcome, hmore⟩

end Session

end LiveSheet
