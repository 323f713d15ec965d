import LiveSheet.Proofs.Formula.Failing

namespace LiveSheet.Formula

open LiveSheet.Text

/-! A formula is evaluated from left to right: what it asks for is what is named in its
text, one name after the other, until it is done or fails. -/

/-- What words name.  A name in front of a parenthesis is that of a function, and the
locator of an external call may be left out. -/
def namedIn : List Word → List Request
  | [] => []
  | .token (.identifier _) :: .token .openParen :: rest => namedIn rest
  | .token (.identifier name) :: rest => .cell name :: namedIn rest
  | .external _ locator :: rest =>
      (if locator.isEmpty then [] else [.external locator]) ++ namedIn rest
  | _ :: rest => namedIn rest

def ClosesName (words : List Word) : Prop :=
  words.head? ≠ some (.token .openParen)

theorem closesName_token {token : Token} (h : token ≠ .openParen) (rest : List Word) :
    ClosesName (.token token :: rest) := by
  rintro ⟨⟩
  exact h rfl

theorem namedIn_name (name : String) {rest : List Word} (h : ClosesName rest) :
    namedIn (.token (.identifier name) :: rest) = .cell name :: namedIn rest := by
  refine namedIn.eq_3 name rest ?_
  rintro tail rfl
  exact h rfl

theorem namedIn_number {literal : Literal} {token : Token} (h : literal.token? = some token)
    (rest : List Word) : namedIn (.token token :: rest) = namedIn rest := by
  obtain ⟨kind, text⟩ := literal
  cases kind <;> cases h <;> rfl

namespace Expr

/-- Whether the words of a tree name what it asks for, whatever stands behind them. -/
def NamesInOrder (expr : Expr) : Prop :=
  ∀ rest, ClosesName rest → namedIn (expr.words ++ rest) = expr.requests ++ namedIn rest

section

variable {arguments : List Expr} {rest : List Word}

theorem closesName_furtherWords (h : ClosesName rest) :
    ClosesName (furtherWords arguments ++ rest) := by
  cases arguments with
  | nil => exact h
  | cons first others =>
      rw [furtherWords]
      exact closesName_token Token.noConfusion _

theorem namedIn_furtherWords (h : ∀ argument ∈ arguments, argument.NamesInOrder)
    (hrest : ClosesName rest) :
    namedIn (furtherWords arguments ++ rest) = allRequests arguments ++ namedIn rest := by
  induction arguments with
  | nil => rfl
  | cons first others ih =>
      obtain ⟨hfirst, hothers⟩ := List.forall_mem_cons.mp h
      rw [furtherWords, allRequests, List.cons_append, List.append_assoc, List.append_assoc,
        ← ih hothers, ← hfirst _ (closesName_furtherWords hrest)]
      rfl

theorem namedIn_argumentWords (h : ∀ argument ∈ arguments, argument.NamesInOrder)
    (hrest : ClosesName rest) :
    namedIn (argumentWords arguments ++ rest) = allRequests arguments ++ namedIn rest := by
  cases arguments with
  | nil => rfl
  | cons first others =>
      obtain ⟨hfirst, hothers⟩ := List.forall_mem_cons.mp h
      rw [argumentWords, allRequests, List.append_assoc, List.append_assoc,
        ← namedIn_furtherWords hothers hrest, hfirst _ (closesName_furtherWords hrest)]

end

theorem WellFormed.namesInOrder {expr : Expr} (h : expr.WellFormed) : expr.NamesInOrder := by
  induction h with
  | @number literal token hnumber _ =>
      intro rest _
      rw [words, hnumber, requests]
      exact namedIn_number hnumber rest
  | identifier _ =>
      intro rest hrest
      rw [words, requests]
      exact namedIn_name _ hrest
  | unary _ _ _ ih =>
      intro rest hrest
      rw [words, requests]
      exact ih rest hrest
  | binary _ _ _ _ ihLeft ihRight =>
      intro rest hrest
      rw [words, requests, List.append_assoc, List.append_assoc, ← ihRight rest hrest]
      exact ihLeft _ (closesName_token Token.noConfusion _)
  | paren _ ih =>
      intro rest _
      have hclosed := ih (.token .closeParen :: rest) (closesName_token Token.noConfusion _)
      rw [words, requests, List.cons_append, List.append_assoc]
      exact hclosed
  | @call name arguments _ hname _ ih =>
      intro rest _
      have hother : uppercase name ≠ externalFunction := by
        rw [ne_eq, ← namesExternal_iff, hname]
        exact Bool.false_ne_true
      have hclosed := namedIn_argumentWords ih
        (closesName_token Token.noConfusion rest : ClosesName (.token .closeParen :: rest))
      rw [words_call hname, requests, if_neg hother, List.cons_append, List.cons_append,
        List.append_assoc]
      exact hclosed
  | bareExternal _ hname =>
      intro rest _
      rw [words_external hname, requests, if_pos (namesExternal_iff.mp hname)]
      rfl
  | @external name locator _ hname hlocator =>
      intro rest _
      have hsome : locator.isEmpty = false := by simpa using hlocator.ne_empty
      rw [words_external hname, requests, if_pos (namesExternal_iff.mp hname), Expr.locator,
        List.cons_append, namedIn, hsome]
      rfl

end Expr

namespace Evaluation

section

variable {answer : Request → StateM σ (Except ε String)} {fail : EvalError → ε}

theorem Follows.asked_of_ok {evaluation : Evaluation α} {plan : List Request}
    (h : evaluation.Follows plan) {state : σ} {value : α}
    (hok : ((evaluation.run answer fail).run state).1 = .ok value) :
    evaluation.asked answer fail state = plan := by
  induction evaluation generalizing plan state with
  | done result => exact (h : plan = []).symm
  | failed error => cases hok
  | ask request resume ih =>
      obtain ⟨rest, rfl, hrest⟩ := h
      rw [run_ask] at hok
      rw [asked_ask]
      rcases hanswer : (answer request).run state with ⟨error | text, after⟩ <;> rw [hanswer] at hok
      · cases hok
      · exact congrArg (List.cons request) (ih text (hrest text) hok)

theorem run_of_refused {evaluation : Evaluation α} {state : σ} {request : Request} {error : ε}
    (h : (request, .error error) ∈ evaluation.exchanges answer state) :
    (evaluation.exchanges answer state).getLast? = some (request, .error error) ∧
      ((evaluation.run answer fail).run state).1 = .error error := by
  induction evaluation generalizing state with
  | done result => cases h
  | failed error => cases h
  | ask first resume ih =>
      rw [run_ask]
      rw [exchanges] at h ⊢
      rcases hanswer : (answer first).run state with ⟨refused | text, after⟩ <;> rw [hanswer] at h
      · cases List.mem_singleton.mp h
        exact ⟨rfl, rfl⟩
      · have hlater : (request, .error error) ∈ exchanges answer (resume text) after :=
          (List.mem_cons.mp h).resolve_left fun heq => by cases heq
        obtain ⟨hlast, hfails⟩ := ih text hlater
        refine ⟨?_, hfails⟩
        dsimp only
        rw [List.getLast?_cons, hlast]
        rfl

end

end Evaluation

/-- The requests of a parsed formula are made in the order in which they are named in its
text, and all of them when it comes to a value.  One that is refused is the last. -/
theorem asked_left_to_right {body : String} {expr : Expr} (hparse : parse body = .ok expr)
    (answer : Request → StateM σ (Except ε String)) (fail : EvalError → ε) (state : σ) :
    expr.requests = namedIn ((lexemes body).1.map Lexeme.word) ∧
      (evaluate expr).asked answer fail state <+: expr.requests ∧
      (∀ value, (((evaluate expr).run answer fail).run state).1 = .ok value →
        (evaluate expr).asked answer fail state = expr.requests) ∧
      ((evaluate expr).exchanges answer state).map Prod.fst =
        (evaluate expr).asked answer fail state ∧
      ∀ request error, (request, .error error) ∈ (evaluate expr).exchanges answer state →
        ((evaluate expr).exchanges answer state).getLast? = some (request, .error error) ∧
          (((evaluate expr).run answer fail).run state).1 = .error error := by
  have hfollows := evaluate_follows expr
  refine ⟨?_, hfollows.asked_on_plan state, fun value hok => hfollows.asked_of_ok hok,
    Evaluation.map_fst_exchanges (evaluate expr) state,
    fun request error hrefused => Evaluation.run_of_refused hrefused⟩
  have hnamed := (parse_eq_ok_iff.mp hparse).1.namesInOrder [] nofun
  rw [List.append_nil] at hnamed
  rw [(words_of_parse hparse).1, hnamed]
  exact (List.append_nil _).symm

theorem asked_left_to_right_mixedTree :
    parse "SUM(a,-1.5e3)*(external_ref( http://h/(x) )-B)" = .ok mixedTree ∧
      (evaluate mixedTree).asked counting id 0 =
        [.cell "a", .external "http://h/(x)", .cell "B"] := by
  have hparse : parse "SUM(a,-1.5e3)*(external_ref( http://h/(x) )-B)" = .ok mixedTree := rfl
  have hok : (((evaluate mixedTree).run counting id).run 0).1 =
      .ok { kind := .float, text := "1500" } := by
    decide +kernel
  have hrequests : mixedTree.requests = [.cell "a", .external "http://h/(x)", .cell "B"] := by
    decide +kernel
  exact ⟨hparse, ((asked_left_to_right hparse counting id 0).2.2.1 _ hok).trans hrequests⟩

end LiveSheet.Formula
