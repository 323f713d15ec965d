import LiveSheet.Proofs.Sheet.Recursion
import Mathlib.Tactic.ByContra

namespace LiveSheet

open LiveSheet.Formula

namespace Solve

/-! A program calls a part of it in a session when what it does depends on what the part
does in that session. -/

def AgreeBut (index : ι) (inner : Session σ) (other part : ι → Solve σ β) : Prop :=
  ∀ called (session : Session σ), ¬ (called = index ∧ session = inner) →
    other called session = part called session

def Calls (program : (ι → Solve σ β) → Solve σ α) (part : ι → Solve σ β)
    (session : Session σ) (index : ι) (inner : Session σ) : Prop :=
  ∃ other, AgreeBut index inner other part ∧ program other session ≠ program part session

theorem exists_agreeBut_failing (part : ι → Solve σ β) (index : ι) (inner : Session σ)
    (error : StoreError) :
    ∃ other, AgreeBut index inner other part ∧ other index inner = .error error inner := by
  classical
  refine ⟨fun called session =>
    if called = index ∧ session = inner then .error error inner else part called session,
    fun called session hne => if_neg hne, if_pos ⟨rfl, rfl⟩⟩

theorem calls_of_fails {program : (ι → Solve σ β) → Solve σ α} {part : ι → Solve σ β}
    {session : Session σ} {index : ι} {inner : Session σ}
    (h : ∀ error other, AgreeBut index inner other part →
      other index inner = .error error inner →
      ∃ after, program other session = .error error after) :
    Calls program part session index inner := by
  obtain ⟨first, hfirst, hcancels⟩ := exists_agreeBut_failing part index inner .cancelled
  obtain ⟨second, hsecond, hbreaks⟩ := exists_agreeBut_failing part index inner (.backend "")
  obtain ⟨_, hcancelled⟩ := h .cancelled first hfirst hcancels
  obtain ⟨_, hbackend⟩ := h (.backend "") second hsecond hbreaks
  -- As it is, it cannot fail with both errors.
  by_cases hsame : program first session = program part session
  · refine ⟨second, hsecond, fun hother => ?_⟩
    cases hbackend.symm.trans (hother.trans (hsame.symm.trans hcancelled))
  · exact ⟨first, hfirst, hsame⟩

theorem calls_evaluating_iff {cell : String} {cost : Nat} {part : Unit → Solve σ α}
    {session inner : Session σ} :
    Calls (fun body => evaluating cell cost (body ())) part session () inner ↔
      inner = { session with solver := session.solver.enter cell cost } := by
  constructor
  · rintro ⟨other, hagrees, hdiffers⟩
    by_contra hne
    apply hdiffers
    simp only [evaluating]
    rw [hagrees () _ (fun hself => hne hself.2.symm)]
  · rintro rfl
    exact calls_of_fails fun error other _ hfails => ⟨_, evaluating_of_error hfails⟩

section

variable {answer other : Request → Solve σ (Except FormulaError String)} {request : Request}
  {session inner : Session σ}

theorem exists_comes_of_run_ne
    (hagrees : AgreeBut request inner other answer) {evaluation : Evaluation α}
    (hdiffers : evaluation.run other FormulaError.eval session ≠
      evaluation.run answer FormulaError.eval session) :
    ∃ resume, Comes answer evaluation session (.ask request resume) inner := by
  induction evaluation generalizing session with
  | done value => exact absurd rfl hdiffers
  | failed error => exact absurd rfl hdiffers
  | ask called resume ih =>
      by_cases hhere : called = request ∧ session = inner
      · obtain ⟨rfl, rfl⟩ := hhere
        exact ⟨resume, .start _ _⟩
      have hsame := hagrees called session hhere
      rw [Evaluation.run, Evaluation.run] at hdiffers
      cases hrun : answer called session with
      | error error after =>
          rw [bind_of_error hrun, bind_of_error (hsame.trans hrun)] at hdiffers
          exact absurd rfl hdiffers
      | ok result after =>
          rw [bind_of_ok hrun, bind_of_ok (hsame.trans hrun)] at hdiffers
          cases result with
          | error error => exact absurd rfl hdiffers
          | ok text =>
              obtain ⟨rest, hcomes⟩ := ih text hdiffers
              exact ⟨rest, .granted hrun hcomes⟩

theorem run_of_comes_failing
    (hagrees : AgreeBut request inner other answer)
    {error : StoreError} (hfails : other request inner = .error error inner)
    {evaluation : Evaluation α} {resume : String → Evaluation α}
    (h : Comes answer evaluation session (.ask request resume) inner) :
    evaluation.run other FormulaError.eval session = .error error inner := by
  generalize hrest : Evaluation.ask request resume = rest at h
  induction h with
  | start =>
      subst hrest
      rw [Evaluation.run, bind_of_error hfails]
  | @granted called _ _ _ before _ last grants _ ih =>
      rw [Evaluation.run]
      -- The same request may have been made in the same session before.
      by_cases hhere : called = request ∧ before = last
      · rw [hhere.1, hhere.2, bind_of_error hfails]
      · rw [bind_of_ok ((hagrees called before hhere).trans grants)]
        exact ih hagrees hfails hrest

end

variable [Interference σ]

/-- Resolving a cell calls for a request just where the evaluation of its formula comes
to that request. -/
theorem calls_resolveWith_iff {answer : Request → Solve σ (Except FormulaError String)}
    {name : String} {session inner : Session σ} {request : Request} :
    Calls (resolveWith · name) answer session request inner ↔
      ∃ value expr after resume, Opens name session value expr after ∧
        Comes answer (evaluate expr) (after.entering { cell := canonical name, expr })
          (.ask request resume) inner := by
  constructor
  · rintro ⟨other, hagrees, hdiffers⟩
    dsimp only at hdiffers
    rcases opens_or_atOnce name session with
      ⟨value, expr, after, hopens⟩ | ⟨result, -, hresult⟩
    · rw [hopens.resolveWith_eq, hopens.resolveWith_eq] at hdiffers
      have hruns := mt evaluateCell_of_run_eq hdiffers
      obtain ⟨resume, hcomes⟩ := exists_comes_of_run_ne hagrees hruns
      exact ⟨value, expr, after, resume, hopens, hcomes⟩
    · rw [hresult, hresult] at hdiffers
      exact absurd rfl hdiffers
  · rintro ⟨value, expr, after, resume, hopens, hcomes⟩
    refine calls_of_fails fun error other hagrees hfails => ?_
    have hrun := run_of_comes_failing hagrees hfails hcomes
    exact ⟨_, (hopens.resolveWith_eq other).trans (bind_of_error (evaluating_of_error hrun))⟩

end Solve

/-- While `cell` is resolved from a session on, a request is made in another one, and the
formulas of `stack` wait for it, innermost first. -/
inductive Nested [Interference σ] (start : Session σ) (cell : String) :
    List Waiting → Session σ → Request → Prop
  | top : Nested start cell [] start (.cell cell)
  | call {stack : List Waiting} {session after inner : Session σ} {name value body : String}
      {expr : Expr} {request : Request}
      (outer : Nested start cell stack session (.cell name))
      (reads : Solve.rawValue (canonical name) session = .ok value after)
      (formula : body? value = some body) (parses : parse body = .ok expr)
      (calls : Solve.Calls (Solve.resolveWith · name)
        (Solve.answerTo Solve.resolve) session request inner) :
      Nested start cell ({ cell := canonical name, expr } :: stack) inner request

namespace Nested

variable [Interference σ] {start session : Session σ} {cell name : String}
  {stack : List Waiting} {request : Request}

theorem of_resolving (h : Resolving start cell stack session name) :
    Nested start cell stack session (.cell name) := by
  induction h with
  | top => exact .top
  | nested _ opens asks ih =>
      obtain ⟨body, hbody, hparse⟩ := opens.parses
      exact .call ih opens.reads hbody hparse
        (Solve.calls_resolveWith_iff.mpr ⟨_, _, _, _, opens, asks⟩)

end Nested

end LiveSheet
