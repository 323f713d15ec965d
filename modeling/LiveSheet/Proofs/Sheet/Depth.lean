import LiveSheet.Proofs.Sheet.Derivation

namespace LiveSheet.Page

open LiveSheet.Formula

/-! How deep the formulas nest that a cell needs.  The walk takes them in the
order in which they are computed, each once, and only looks at which cells hold
formulas, how tall these are and what they ask for. -/

section

variable (page : Page)

def visitRequest (visit : String → List String → Option (List String)) :
    Request → List String → Option (List String)
  | .cell name, seen => visit name seen
  | .external _, seen => some seen

def visitAll (visit : Request → List String → Option (List String))
    (plan : List Request) (seen : List String) : Option (List String) :=
  plan.foldlM (fun seen request => visit request seen) seen

def visitWith (inner : Nat → Request → List String → Option (List String))
    (spent : Nat) (name : String) (seen : List String) : Option (List String) :=
  match page.expr? (canonical name) with
  | none => some seen
  | some expr =>
      if canonical name ∈ seen then some seen
      else if maxResolutionDepth < spent + (expr.height + 1) then none
      else
        (visitAll (inner (spent + (expr.height + 1))) expr.requests seen).map
          (canonical name :: ·)

/-- The formulas computed so far, unless they nest too deep. -/
def visitWithin : Nat → Nat → String → List String → Option (List String)
  | 0 => page.visitWith fun _ _ _ => none
  | levels + 1 => page.visitWith fun spent => visitRequest (visitWithin levels spent)

def fits (cell : String) : Bool :=
  (page.visitWithin maxResolutionDepth 0 cell []).isSome

end

variable {page : Page}

def Marks (seen : List String) (results : Table String) : Prop :=
  ∀ cell, cell ∈ seen ↔ cell ∈ results.keys

inductive Keeps (derived results : Table String) (value : α) :
    Except Stop α × Table String → Option (List String) → Prop
  | within {after : Table String} {seen : List String} (marks : Marks seen after)
      (origin : ∀ cell ∈ after.keys, cell ∈ results.keys ∨ cell ∈ derived.keys) :
      Keeps derived results value (.ok value, after) (some seen)
  | tooDeep {after : Table String} :
      Keeps derived results value (.error Stop.tooDeep, after) none

theorem Keeps.refl {derived results : Table String} {value : α} {seen : List String}
    (h : Marks seen results) : Keeps derived results value (.ok value, results) (some seen) :=
  .within h fun _ => Or.inl

def Answers (page : Page) (nesting : Nesting) (derived : Table String)
    (inner : Request → Reading String)
    (visit : Request → List String → Option (List String)) : Prop :=
  ∀ request text results seen, page.settled derived request = some text →
    page.Sound nesting results → Marks seen results →
    Keeps derived results text (inner request results) (visit request seen)

theorem readAll_keeps {nesting : Nesting} {derived : Table String}
    {inner : Request → Reading String}
    {visit : Request → List String → Option (List String)}
    (hgrows : ∀ request, page.Grows nesting (inner request)
      fun results text => page.settled results request = some text)
    (h : page.Answers nesting derived inner visit)
    {evaluation : Evaluation α} {plan : List Request} (hplan : evaluation.Follows plan)
    {value : α} (hsettle : evaluation.settle (page.settled derived) = some value)
    {results : Table String} {seen : List String} (hsound : page.Sound nesting results)
    (hmarks : Marks seen results) :
    Keeps derived results value (readAll inner evaluation results)
      (visitAll visit plan seen) := by
  induction evaluation generalizing plan results seen with
  | done result =>
      obtain rfl : plan = [] := hplan
      cases hsettle
      exact .refl hmarks
  | failed error => cases hsettle
  | ask request resume ih =>
      obtain ⟨rest, rfl, hrest⟩ := hplan
      obtain ⟨text, htext, hsettle⟩ := Option.bind_eq_some_iff.mp hsettle
      have hrequest := h request text results seen htext hsound hmarks
      rw [visitAll, List.foldlM_cons]
      rcases hread : inner request results with ⟨answer, middle⟩
      rw [hread] at hrequest
      generalize visit request seen = visited at hrequest ⊢
      cases hrequest with
      | tooDeep =>
          rw [readAll_ask_error hread]
          exact .tooDeep
      | @within _ next hmiddle horigin =>
          rw [readAll_ask_ok hread]
          have hafter := (hgrows request _ _ _ hsound hread).1
          have hothers := ih text (hrest text) hsettle hafter hmiddle
          change Keeps derived results value (readAll inner (resume text) middle)
            (visitAll visit rest next)
          generalize readAll inner (resume text) middle = reading at hothers ⊢
          generalize visitAll visit rest next = visited at hothers ⊢
          cases hothers with
          | tooDeep => exact .tooDeep
          | within hmarks hlast =>
              refine .within hmarks fun cell hcell => ?_
              rcases hlast cell hcell with hmem | hmem
              · exact horigin cell hmem
              · exact Or.inr hmem

theorem readExpr_keeps {nesting : Nesting} {derived : Table String} {cell : String}
    {inner : Request → Reading String}
    {visit : Request → List String → Option (List String)} {expr : Expr}
    (hgrows : ∀ request, page.Grows (nesting.enter cell (expr.height + 1)) (inner request)
      fun results text => page.settled results request = some text)
    (h : page.Answers (nesting.enter cell (expr.height + 1)) derived inner visit)
    {literal : Literal}
    (hsettle : (evaluate expr).settle (page.settled derived) = some literal)
    {results : Table String} {seen : List String} (hsound : page.Sound nesting results)
    (hnew : results.get? cell = none) (hmarks : Marks seen results)
    {whole : Table String} (hwhole : derived.Within whole) (hcell : cell ∈ whole.keys) :
    Keeps whole results literal.text (readExpr inner cell expr results)
      ((visitAll visit expr.requests seen).map (cell :: ·)) := by
  have hall := readAll_keeps hgrows h (evaluate_follows expr) hsettle
    (hsound.enter hnew _) hmarks
  rcases hread : readAll inner (evaluate expr) results with ⟨answer, after⟩
  rw [hread] at hall
  generalize visitAll visit expr.requests seen = visited at hall ⊢
  cases hall with
  | tooDeep =>
      rw [readExpr_error hread]
      exact .tooDeep
  | within hseen horigin =>
      rw [readExpr_ok hread]
      refine .within (fun other => ?_) fun other hother => ?_
      · rw [List.mem_cons, Table.mem_keys_insert, hseen other]
      · rcases (Table.mem_keys_insert _ _ _ _).mp hother with rfl | hother
        · exact Or.inr hcell
        · rcases horigin other hother with hmem | hmem
          · exact Or.inl hmem
          · obtain ⟨text, htext⟩ := (Table.mem_keys_iff _ _).mp hmem
            exact Or.inr (Table.mem_keys_of_get? (hwhole htext))

theorem Sound.before {nesting : Nesting} {derived before : Table String} {cell : String}
    (h : page.Sound nesting derived) (hbefore : page.Derived before)
    (hwithin : before.Within derived) (hnew : before.get? cell = none) (cost : Nat) :
    page.Sound (nesting.enter cell cost) before := by
  refine Sound.enter ⟨hbefore, fun other hother => ?_⟩ hnew cost
  exact hwithin.get?_eq_none (h.waiting other hother)

theorem readWith_keeps {inner : Nesting → Request → Reading String}
    {visit : Nat → Request → List String → Option (List String)}
    (hgrows : ∀ nesting request, page.Grows nesting (inner nesting request)
      fun results text => page.settled results request = some text)
    (h : ∀ nesting derived, page.Sound nesting derived →
      page.Answers nesting derived (inner nesting) (visit nesting.spent))
    {nesting : Nesting} {derived : Table String} (hderived : page.Sound nesting derived)
    {name text : String} (hknown : page.known? derived name = some text)
    {results : Table String} {seen : List String} (hsound : page.Sound nesting results)
    (hmarks : Marks seen results) :
    Keeps derived results text (page.readWith inner nesting name results)
      (page.visitWith visit nesting.spent name seen) := by
  unfold readWith visitWith
  obtain ⟨value, hvalue, hheld⟩ := Option.bind_eq_some_iff.mp hknown
  cases hbody : body? value with
  | none =>
      rw [known?_of_plain derived hvalue hbody] at hknown
      cases hknown
      have hexpr : page.expr? (canonical name) = none := by
        simp [expr?, hvalue, hbody]
      simp only [hvalue, hbody, hexpr]
      exact .refl hmarks
  | some body =>
      rw [known?_of_formula derived hvalue hbody] at hknown
      -- What the formula asks for was derived before it, so that is what its
      -- requests are held against.
      obtain ⟨before, hbefore, hwithin, hnew, expr, literal, hexpr, hsettle, rfl⟩ :=
        hderived.derived.earlier_of_get? hknown
      obtain ⟨same, source, hsame, hsource, hparse⟩ := expr?_eq_some.mp hexpr
      cases hvalue.symm.trans hsame
      cases hbody.symm.trans hsource
      simp only [hvalue, hbody, hexpr]
      have hmem := hmarks (canonical name)
      cases hresult : results.get? (canonical name) with
      | some result =>
          obtain rfl := hderived.derived.agree hsound.derived hknown hresult
          rw [readFormula_known hresult, if_pos (hmem.mpr (Table.mem_keys_of_get? hresult))]
          exact .refl hmarks
      | none =>
          -- A derived formula does not wait: what waits has no result yet.
          have hfree : canonical name ∉ nesting.waiting := by
            intro hwaits
            rw [hderived.waiting _ hwaits] at hknown
            cases hknown
          have hunseen : canonical name ∉ seen := fun hseen =>
            (Table.not_mem_keys_iff _ _).mpr hresult (hmem.mp hseen)
          rw [if_neg hunseen]
          by_cases hdeep : maxResolutionDepth < nesting.spent + (expr.height + 1)
          · rw [readFormula_deep hresult hfree hparse hdeep, if_pos hdeep]
            exact .tooDeep
          · rw [readFormula_open hresult hfree hparse hdeep, if_neg hdeep]
            exact readExpr_keeps (hgrows _)
              (h _ before (hderived.before hbefore hwithin hnew (expr.height + 1)))
              hsettle hsound hresult hmarks hwithin (Table.mem_keys_of_get? hknown)

theorem answer_keeps {nesting : Nesting} {derived : Table String}
    {read : String → Reading String} {visit : String → List String → Option (List String)}
    (h : ∀ name text results seen, page.known? derived name = some text →
      page.Sound nesting results → Marks seen results →
      Keeps derived results text (read name results) (visit name seen)) :
    page.Answers nesting derived (page.answer read) (visitRequest visit) := by
  intro request text results seen hsettled hsound hmarks
  cases request with
  | external locator =>
      change (page.external locator).toOption = some text at hsettled
      change Keeps derived results text (page.external locator, results) (some seen)
      cases hexternal : page.external locator with
      | error stop =>
          rw [hexternal] at hsettled
          cases hsettled
      | ok reply =>
          rw [hexternal] at hsettled
          cases hsettled
          exact .refl hmarks
  | cell name =>
      have hname := h name text results seen hsettled hsound hmarks
      change Keeps derived results text _ (visit name seen)
      unfold Page.answer
      dsimp only
      generalize read name results = reading at hname ⊢
      generalize visit name seen = visited at hname ⊢
      cases hname with
      | within hseen horigin => exact .within hseen horigin
      | tooDeep => exact .tooDeep

theorem readWithin_keeps (levels : Nat) {nesting : Nesting} {derived : Table String}
    (hderived : page.Sound nesting derived) {name text : String}
    (hknown : page.known? derived name = some text) {results : Table String}
    {seen : List String} (hsound : page.Sound nesting results)
    (hmarks : Marks seen results) :
    Keeps derived results text (page.readWithin levels nesting name results)
      (page.visitWithin levels nesting.spent name seen) := by
  induction levels generalizing nesting derived name text results seen with
  | zero =>
      refine readWith_keeps (answerWithin_grows 0) (fun inner before _ => ?_)
        hderived hknown hsound hmarks
      exact fun request reply results seen _ _ _ => .tooDeep
  | succ levels ih =>
      refine readWith_keeps (answerWithin_grows (levels + 1)) (fun inner before hbefore => ?_)
        hderived hknown hsound hmarks
      exact answer_keeps fun name text results seen hknown hsound hmarks =>
        ih hbefore hknown hsound hmarks

end LiveSheet.Page
