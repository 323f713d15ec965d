import LiveSheet.Proofs.Formula.Coverage

namespace LiveSheet.Formula

/-! The requests that reach whoever answers them.  An evaluation is carried out with a
record of them, whatever the answers are and whatever they depend on. -/

/-- Writes each request down before it is answered. -/
def recording (answer : Request → StateM σ (Except ε String)) (request : Request) :
    StateT (List Request) (StateM σ) (Except ε String) := do
  modify fun asked => asked ++ [request]
  answer request

namespace Evaluation

def asked (answer : Request → StateM σ (Except ε String)) (fail : EvalError → ε)
    (evaluation : Evaluation α) (state : σ) : List Request :=
  (((evaluation.run (recording answer) fail).run []).run state).1.2

section

variable {answer : Request → StateM σ (Except ε String)} {fail : EvalError → ε}

theorem run_recording_ask (request : Request) (resume : String → Evaluation α)
    (before : List Request) (state : σ) :
    (((Evaluation.ask request resume).run (recording answer) fail).run before).run state =
      match (answer request).run state with
      | (.ok text, after) =>
          (((resume text).run (recording answer) fail).run (before ++ [request])).run after
      | (.error error, after) => ((.error error, before ++ [request]), after) := by
  rcases hanswer : (answer request).run state with ⟨_ | text, after⟩ <;>
    simp [Evaluation.run, recording, hanswer] <;> rfl

theorem run_recording (evaluation : Evaluation α) (before : List Request) (state : σ) :
    (((evaluation.run (recording answer) fail).run before).run state).1.2 =
      before ++ evaluation.asked answer fail state := by
  rw [asked]
  induction evaluation generalizing before state with
  | done value => exact (List.append_nil before).symm
  | failed error => exact (List.append_nil before).symm
  | ask request resume ih =>
      rw [run_recording_ask, run_recording_ask]
      split
      · rw [ih _ (before ++ [request]), ih _ ([] ++ [request]), List.nil_append,
          List.append_assoc]
      · rfl

theorem asked_ask (request : Request) (resume : String → Evaluation α) (state : σ) :
    (Evaluation.ask request resume).asked answer fail state =
      request :: match (answer request).run state with
        | (.ok text, after) => (resume text).asked answer fail after
        | (.error _, _) => [] := by
  rw [asked, run_recording_ask]
  split
  · exact run_recording _ _ _
  · rfl

theorem Follows.asked_on_plan {evaluation : Evaluation α} {plan : List Request}
    (h : evaluation.Follows plan) (state : σ) : evaluation.asked answer fail state <+: plan := by
  induction evaluation generalizing plan state with
  | done value => exact List.nil_prefix
  | failed error => exact List.nil_prefix
  | ask request resume ih =>
      obtain ⟨rest, rfl, hrest⟩ := h
      rw [asked_ask, List.prefix_cons_inj]
      split
      · exact ih _ (hrest _) _
      · exact List.nil_prefix

end

end Evaluation

/-- What is asked for while a formula is evaluated is mentioned in its text, or is its
own cell. -/
theorem references_cover_asked (cell : String) {body : String} {expr : Expr}
    (hparse : parse body = .ok expr) (answer : Request → StateM σ (Except ε String))
    (fail : EvalError → ε) (state : σ) {name : String}
    (hname : .cell name ∈ (evaluate expr).asked answer fail state) :
    canonical name ∈ (references cell ("=" ++ body)).toList ∨
      canonical name = canonical cell := by
  have hrequest : .cell name ∈ expr.requests :=
    ((evaluate_follows expr).asked_on_plan state).subset hname
  by_cases hself : canonical name = canonical cell
  · exact Or.inr hself
  · exact Or.inl (mem_references_of_mem_requests (body?_marked body) hparse hrequest hself)

def counting (_ : Request) : StateM Nat (Except EvalError String) :=
  modifyGet fun count => (.ok (toString count), count + 1)

theorem references_cover_asked_mixedTree :
    (evaluate mixedTree).asked counting id 0 =
        [.cell "a", .external "http://h/(x)", .cell "B"] ∧
      (canonical "B" ∈ (references "c" ("=" ++
          "SUM(a,-1.5e3)*(external_ref( http://h/(x) )-B)")).toList ∨
        canonical "B" = canonical "c") := by
  have hparse : parse "SUM(a,-1.5e3)*(external_ref( http://h/(x) )-B)" = .ok mixedTree := rfl
  have hasked : (evaluate mixedTree).asked counting id 0 =
      [.cell "a", .external "http://h/(x)", .cell "B"] := by
    decide +kernel
  refine ⟨hasked, references_cover_asked "c" hparse counting id 0 ?_⟩
  rw [hasked]
  decide

end LiveSheet.Formula
