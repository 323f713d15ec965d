import LiveSheet.Proofs.Sheet.Calls
import LiveSheet.Proofs.Sheet.Sessions

namespace LiveSheet

open LiveSheet.Formula

/-! What a solver notes of the formulas that wait is what waits, at every point of a
resolution, and nothing of it is left behind. -/

theorem Formula.Expr.height_pos (expr : Expr) : 0 < expr.height := by
  cases expr <;> simp [Expr.height]

/-- The notes of a solver are those of a stack of formulas, all of different cells, that
nest within the limit. -/
structure Notes (stack : List Waiting) (session : Session σ) : Prop where
  inProgress : session.solver.inProgress = stack.map Waiting.cell
  apart : (stack.map Waiting.cell).Nodup
  nesting : session.solver.nesting = (stack.map Waiting.cost).sum
  bounded : session.solver.nesting ≤ maxResolutionDepth

namespace Notes

variable {stack : List Waiting} {session after : Session σ}

theorem of_pending (h : Notes stack session)
    (hpending : after.solver.pending = session.solver.pending) : Notes stack after where
  inProgress := (congrArg Nesting.waiting hpending).trans h.inProgress
  apart := h.apart
  nesting := (congrArg Nesting.spent hpending).trans h.nesting
  bounded := (congrArg Nesting.spent hpending).trans_le h.bounded

theorem length_le (h : Notes stack session) : 2 * stack.length ≤ maxResolutionDepth := by
  have hcosts (stack : List Waiting) : 2 * stack.length ≤ (stack.map Waiting.cost).sum := by
    induction stack with
    | nil => exact Nat.zero_le _
    | cons waiting stack ih =>
        have hpos := waiting.expr.height_pos
        rw [List.length_cons, List.map_cons, List.sum_cons, Waiting.cost]
        omega
  exact (hcosts stack).trans (h.nesting.symm.trans_le h.bounded)

variable [Interference σ]

theorem enter {name value : String} {expr : Expr} (h : Notes stack session)
    (hopens : Solve.Opens name session value expr after) :
    Notes ({ cell := canonical name, expr } :: stack)
      (after.entering { cell := canonical name, expr }) := by
  have hread := Solve.rawValue_restores (canonical name) session
  rw [hopens.reads] at hread
  have hafter : Notes stack after := h.of_pending hread
  have hnesting : (after.entering { cell := canonical name, expr }).solver.nesting =
      after.solver.nesting + (expr.height + 1) := rfl
  refine ⟨congrArg (canonical name :: ·) hafter.inProgress, ?_, ?_, ?_⟩
  · rw [List.map_cons, List.nodup_cons, ← hafter.inProgress]
    exact ⟨hopens.free, hafter.inProgress ▸ hafter.apart⟩
  · rw [hnesting, hafter.nesting, List.map_cons, List.sum_cons, Nat.add_comm]
    rfl
  · rw [hnesting]
    exact hopens.shallow

end Notes

theorem Nested.notes [Interference σ] {start session : Session σ} {cell : String}
    {stack : List Waiting} {request : Request} (h : Nested start cell stack session request)
    (hidle : Notes [] start) : Notes stack session := by
  induction h with
  | top => exact hidle
  | call _ reads formula parses calls ih =>
      obtain ⟨_, _, _, _, hopens, hcomes⟩ := Solve.calls_resolveWith_iff.mp calls
      obtain ⟨_, hbody, hparse⟩ := hopens.parses
      cases reads.symm.trans hopens.reads
      cases formula.symm.trans hbody
      cases parses.symm.trans hparse
      refine (ih.enter hopens).of_pending ?_
      exact hcomes.rel .refl .trans (Solve.restores_carries.answerTo Solve.resolve_restores)

/-- The sessions that a solver goes through, whatever is done with it and whatever others
make of the world in between. -/
inductive Lives [Interference σ] (start : Session σ) : Session σ → Prop
  | start : Lives start start
  | set {session : Session σ} (before : Lives start session) (cell value : String) :
      Lives start { session with solver := session.solver.setCell cell value }
  | step {session : Session σ} (before : Lives start session) (step : Step) :
      Lives start (step.apply session)
  | world {session : Session σ} (before : Lives start session) (world : World σ) :
      Lives start { session with world }

theorem Solve.leaves_eq_endState (solve : Solve σ α) (session : Session σ) :
    solve.leaves session = endState (solve session) := by
  rw [leaves]
  cases solve session <;> rfl

theorem Solve.eq_ok_of_answer {solve : Solve σ α} {session : Session σ} {answer : α}
    (h : solve.answer session = .ok answer) :
    solve session = .ok answer (solve.leaves session) := by
  rw [Solve.answer] at h
  rw [leaves]
  cases hrun : solve session with
  | ok other after =>
      rw [hrun] at h
      cases h
      rfl
  | error error after =>
      rw [hrun] at h
      cases h

theorem Carries.steps [Interference σ] {rel : Session σ → Session σ → Prop} (h : Carries rel)
    (hpreload : Moves rel (Solve.preload : Solve σ _)) (steps : List Step)
    (session : Session σ) : rel session (Step.run steps session) := by
  induction steps generalizing session with
  | nil => exact h.refl session
  | cons step steps ih =>
      refine h.trans ?_ (ih (step.apply session))
      cases step with
      | preload =>
          rw [Step.apply, Solve.leaves_eq_endState]
          exact hpreload session
      | resolve cell =>
          rw [Step.apply, Solve.leaves_eq_endState]
          exact h.resolve cell session

theorem Lives.notes [Interference σ] {start session : Session σ} (h : Lives start session)
    (hidle : Notes [] start) : Notes [] session := by
  induction h with
  | start => exact hidle
  | set _ cell value ih => exact ih.of_pending rfl
  | world _ world ih => exact ih.of_pending rfl
  | @step session _ step ih =>
      exact ih.of_pending (Solve.restores_carries.steps Solve.preload_restores [step] session)

namespace Session

/-- However a resolution ends, it leaves what is noted as waiting as it has found it.  It
is resolved in the same way all along, and from a fresh solver on, wherever it calls for
a request, and wherever it evaluates a formula, just the formulas that wait are noted,
each cell once, with what they cost together. -/
theorem bookkeeping_restored [Interference σ] :
    (∀ (session : Session σ) (cell : String),
      ((Solve.resolve cell).leaves session).solver.inProgress = session.solver.inProgress ∧
        ((Solve.resolve cell).leaves session).solver.nesting = session.solver.nesting) ∧
    (∀ cell : String, (Solve.resolve cell : Solve σ Resolution) =
      Solve.resolveWith (Solve.answerTo Solve.resolve) cell) ∧
    ∀ (engine : Engine) (sheet : String) (world : World σ) (start : Session σ),
      Lives { solver := engine.solver sheet, world } start →
      ∀ (cell : String) (stack : List Waiting) (session : Session σ) (request : Request),
        Nested start cell stack session request →
        (Notes stack session ∧ 2 * stack.length ≤ maxResolutionDepth) ∧
          ∀ name value expr after, request = .cell name →
            Solve.Opens name session value expr after →
            Solve.resolve name session =
                Solve.evaluateCell (Solve.answerTo Solve.resolve) (canonical name) value expr
                  after ∧
              ∀ inner,
                Solve.Calls (fun body => Solve.evaluating (canonical name) (expr.height + 1)
                    (body ()))
                  (fun _ => (evaluate expr).run (Solve.answerTo Solve.resolve)
                    FormulaError.eval) after () inner →
                Notes ({ cell := canonical name, expr } :: stack) inner := by
  refine ⟨fun session cell => ?_, Solve.resolve_eq, ?_⟩
  · have hrestores := Solve.resolve_restores cell session
    rw [← Solve.leaves_eq_endState] at hrestores
    exact ⟨congrArg Nesting.waiting hrestores, congrArg Nesting.spent hrestores⟩
  · intro engine sheet world start hlives cell stack session request hnested
    have hfresh : Notes [] ({ solver := engine.solver sheet, world } : Session σ) :=
      ⟨rfl, List.nodup_nil, rfl, Nat.zero_le _⟩
    have hnotes := hnested.notes (hlives.notes hfresh)
    refine ⟨⟨hnotes, hnotes.length_le⟩, fun name value expr after _ hopens => ⟨?_, ?_⟩⟩
    · rw [Solve.resolve_eq, hopens.resolveWith_eq]
    · intro inner hcalls
      rw [Solve.calls_evaluating_iff.mp hcalls]
      exact hnotes.enter hopens

def opening : Session Unit :=
  { solver := Engine.solver { fetch := Fetch.disabled, token := 0 } "S"
    world := Engine.sampleWorld }

def outerFormula : Waiting :=
  { cell := canonical "C", expr := .binary .add (.identifier "b") (.identifier "c") }

def outerRead : Session Unit :=
  (Solve.rawValue (canonical "C")).leaves opening

def innerFormula : Waiting :=
  { cell := canonical "b"
    expr := .binary .add (.identifier "A") (.literal { kind := .int, text := "1" }) }

def innerRead : Session Unit :=
  (Solve.rawValue (canonical "b")).leaves (outerRead.entering outerFormula)

theorem opens_outer : Solve.Opens "C" opening "=b+c" outerFormula.expr outerRead :=
  ⟨Solve.eq_ok_of_answer (by decide +kernel), ⟨"b+c", rfl, rfl⟩, by decide +kernel,
    by decide +kernel, by decide +kernel⟩

theorem bookkeeping_restored_sample :
    Lives opening opening ∧
      (∃ session, Nested opening "C" [innerFormula, outerFormula] session (.cell "A") ∧
        session.solver.inProgress = ["b", "c"] ∧ session.solver.nesting = 6) ∧
      ∃ inner,
        Solve.Calls (fun body => Solve.evaluating (canonical "b")
            (innerFormula.expr.height + 1) (body ()))
          (fun _ => (evaluate innerFormula.expr).run (Solve.answerTo Solve.resolve)
            FormulaError.eval) innerRead () inner ∧
        Notes [innerFormula, outerFormula] inner := by
  have hinner : Solve.Opens "b" (outerRead.entering outerFormula) "=A+1" innerFormula.expr
      innerRead :=
    ⟨Solve.eq_ok_of_answer (by decide +kernel), ⟨"A+1", rfl, rfl⟩, by decide +kernel,
      by decide +kernel, by decide +kernel⟩
  have houter : Resolving opening "C" [outerFormula] (outerRead.entering outerFormula) "b" :=
    Resolving.top.nested opens_outer (.start _ _)
  have hnested : Nested opening "C" [innerFormula, outerFormula]
      (innerRead.entering innerFormula) (.cell "A") :=
    .of_resolving (houter.nested hinner (.start _ _))
  have hcells : canonical "b" = "b" ∧ canonical "C" = "c" := by decide +kernel
  have hnotes := bookkeeping_restored.2.2 { fetch := Fetch.disabled, token := 0 } "S"
    Engine.sampleWorld opening .start "C"
  refine ⟨.start, ⟨_, hnested, ?_, (hnotes _ _ _ hnested).1.1.nesting⟩, _,
    Solve.calls_evaluating_iff.mpr rfl, ?_⟩
  · rw [(hnotes _ _ _ hnested).1.1.inProgress]
    exact congrArg₂ (fun first second => [first, second]) hcells.1 hcells.2
  · obtain ⟨-, hevaluates⟩ := (hnotes _ _ _ (.of_resolving houter)).2 "b" _ _ _ rfl hinner
    exact hevaluates _ (Solve.calls_evaluating_iff.mpr rfl)

end Session

end LiveSheet
