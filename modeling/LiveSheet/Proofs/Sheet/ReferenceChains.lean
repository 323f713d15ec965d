import LiveSheet.Proofs.Formula.Stable
import LiveSheet.Proofs.Sheet.Denotation
import Mathlib.Logic.Relation

namespace LiveSheet

open LiveSheet.Formula
open Relation

def passOn (text name : String) : Option String :=
  ((evaluate (.identifier name)).settle fun request =>
    if request = .cell name then some text else none).map Literal.text

theorem passOn_eq (text name : String) :
    passOn text name = some (Literal.ofText text).text := by
  simp [passOn, evaluate, Evaluation.settle]

theorem foldlM_passOn {text : String} (h : (Literal.ofText text).text = text)
    (names : List String) : names.foldlM passOn text = some text := by
  induction names with
  | nil => rfl
  | cons name names ih =>
      rw [List.foldlM_cons, passOn_eq, h]
      exact ih

namespace Page

def RefersTo (page : Page) (cell name : String) : Prop :=
  page.expr? (canonical cell) = some (.identifier name)

variable {page : Page} {cell name text : String}

theorem Denotes.reference (hrefers : page.RefersTo cell name) (h : page.Denotes name text) :
    page.Denotes cell (Literal.ofText text).text := by
  obtain ⟨value, body, hvalue, hbody, hparse⟩ := expr?_eq_some.mp hrefers
  let answer (request : Request) : Option String :=
    if request = .cell name then some text else none
  have hsettle : (evaluate (.identifier name)).settle answer = some (Literal.ofText text) := by
    simp [answer, evaluate, Evaluation.settle]
  refine .formula answer hvalue hbody hparse ?_ ?_ hsettle
  · intro other found hfound
    simp only [answer] at hfound
    split at hfound
    · rename_i hsame
      cases hsame
      cases hfound
      exact h
    · cases hfound
  · intro locator found hfound
    simp [answer] at hfound

theorem Denotes.text_eq {expr : Expr} (h : page.Denotes cell text)
    (hformula : page.expr? (canonical cell) = some expr) :
    (Literal.ofText text).text = text := by
  obtain ⟨value, body, hvalue, hbody, -⟩ := expr?_eq_some.mp hformula
  cases h with
  | plain holds noFormula =>
      cases holds.symm.trans hvalue
      cases noFormula.symm.trans hbody
  | formula _ _ _ parses _ _ settles =>
      exact ((parse_eq_ok_iff.mp parses).1.always_settled.settle settles).text_eq

theorem Denotes.chain {expr : Expr} {first last : String} (h : page.Denotes first text)
    (hformula : page.expr? (canonical first) = some expr)
    (hchain : ReflTransGen page.RefersTo last first) : page.Denotes last text := by
  induction hchain using ReflTransGen.head_induction_on with
  | refl => exact h
  | head hrefers _ ih =>
      have hnext := Denotes.reference hrefers ih
      rwa [h.text_eq hformula] at hnext

end Page

/-- Whatever a formula comes to is read back as it is, but for a whole number that is
read back as an integer, and a chain of references hands on the text of it. -/
theorem results_stable {body : String} {expr : Expr} (hparse : parse body = .ok expr) :
    (∀ (answer : Request → StateM σ (Except ε String)) (fail : EvalError → ε) (state : σ)
      (result : Literal), (((evaluate expr).run answer fail).run state).1 = .ok result →
        (result.kind = .float → IsWhole result.text →
          Literal.ofText result.text = { kind := .int, text := result.text }) ∧
        (¬ (result.kind = .float ∧ IsWhole result.text) →
          Literal.ofText result.text = result) ∧
        (Literal.ofText result.text).text = result.text ∧
        ∀ names : List String, names.foldlM passOn result.text = some result.text) ∧
    ∀ (page : Page) (first last text : String), page.expr? (canonical first) = some expr →
      page.Denotes first text → ReflTransGen page.RefersTo last first →
        page.Denotes last text ∧
        ∀ results other, page.Sound Nesting.none results →
          (page.read last results).1 = .ok other → other = text := by
  constructor
  · intro answer fail state result hrun
    have hsettled : result.Settled := (parse_eq_ok_iff.mp hparse).1.always_settled.run hrun
    exact ⟨fun _ hwhole => Literal.ofText_of_isWhole hwhole, hsettled.resolve_right,
      hsettled.text_eq, foldlM_passOn hsettled.text_eq⟩
  · intro page first last text hformula hdenotes hchain
    have hlast := hdenotes.chain hformula hchain
    refine ⟨hlast, fun results other hsound hread => ?_⟩
    exact (Page.denotes_of_read hsound hread).unique hlast

def quotient : Expr :=
  .binary .div (.literal ⟨.int, "6"⟩) (.unary .sub (.literal ⟨.int, "2"⟩))

def quotientPage : Page where
  sheet := "s"
  text? := fun cell =>
    if cell = "a" then some "=6/-2" else if cell = "b" then some "=A"
    else if cell = "c" then some "= b" else none
  fetch := fun _ => .error .disabled

def blankAnswer (_ : Request) : StateM Unit (Except EvalError String) :=
  pure (.ok "")

theorem results_stable_quotient :
    (parse "6/-2" = .ok quotient ∧
      (((evaluate quotient).run blankAnswer id).run ()).1 = .ok ⟨.float, "-3"⟩ ∧
      Literal.ofText "-3" = ⟨.int, "-3"⟩ ∧ ["A", "b"].foldlM passOn "-3" = some "-3") ∧
    quotientPage.Denotes "A" "-3" ∧ ReflTransGen quotientPage.RefersTo "c" "A" ∧
      quotientPage.Denotes "c" "-3" := by
  have hparse : parse "6/-2" = .ok quotient := by rfl
  have hrun : (((evaluate quotient).run blankAnswer id).run ()).1 = .ok ⟨.float, "-3"⟩ := by
    decide +kernel
  have hwhole : IsWhole "-3" :=
    ⟨.minus, ['3'], ⟨List.cons_ne_nil _ _, List.forall_mem_singleton.mpr rfl⟩, rfl⟩
  obtain ⟨hresult, hchains⟩ := @results_stable Unit EvalError _ _ hparse
  obtain ⟨hreads, -, -, hnames⟩ := hresult blankAnswer id () _ hrun
  have hnone : (evaluate quotient).settle (fun _ => none) = some ⟨.float, "-3"⟩ := by
    decide +kernel
  have hfirst : canonical "A" = "a" := by decide +kernel
  have hsecond : canonical "b" = "b" := by decide +kernel
  have hthird : canonical "c" = "c" := by decide +kernel
  have hvalue : quotientPage.text? (canonical "A") = some "=6/-2" := by rw [hfirst]; rfl
  have hformula : quotientPage.expr? (canonical "A") = some quotient :=
    Page.expr?_eq_some.mpr ⟨"=6/-2", "6/-2", hvalue, rfl, hparse⟩
  have hdenotes : quotientPage.Denotes "A" "-3" :=
    .formula (fun _ => none) hvalue rfl hparse nofun nofun hnone
  have hlast : quotientPage.RefersTo "c" "b" := by
    rw [Page.RefersTo, hthird]
    rfl
  have hmiddle : quotientPage.RefersTo "b" "A" := by
    rw [Page.RefersTo, hsecond]
    rfl
  have hchain : ReflTransGen quotientPage.RefersTo "c" "A" := .head hlast (.single hmiddle)
  exact ⟨⟨hparse, hrun, hreads rfl hwhole, hnames _⟩, hdenotes, hchain,
    (hchains quotientPage "A" "c" "-3" hformula hdenotes hchain).1⟩

end LiveSheet
