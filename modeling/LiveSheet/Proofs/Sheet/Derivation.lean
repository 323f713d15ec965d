import LiveSheet.Proofs.Sheet.Page
import LiveSheet.Proofs.Table

namespace LiveSheet.Page

open LiveSheet.Formula

/-! Results that follow from one another.  A table of results is derived when
each formula in it was computed from those before. -/

section

variable (page : Page)

def known? (results : Table String) (name : String) : Option String :=
  (page.text? (canonical name)).bind fun value =>
    if isFormula value then results.get? (canonical name) else some value

def settled (results : Table String) : Request → Option String
  | .cell name => page.known? results name
  | .external locator => (page.external locator).toOption

def expr? (cell : String) : Option Expr := do
  let body ← body? (← page.text? cell)
  (parse body).toOption

/-- Whether the formula of a cell comes to a text, given some results. -/
def Computes (results : Table String) (cell text : String) : Prop :=
  ∃ expr literal, page.expr? cell = some expr ∧
    (evaluate expr).settle (page.settled results) = some literal ∧ literal.text = text

inductive Derived : Table String → Prop
  | empty : Derived Table.empty
  | insert {results : Table String} {cell text : String} (earlier : Derived results)
      (fresh : results.get? cell = none) (computes : page.Computes results cell text) :
      Derived (results.insert cell text)

end

variable {page : Page}

theorem expr?_eq_some {cell : String} {expr : Expr} :
    page.expr? cell = some expr ↔
      ∃ value body, page.text? cell = some value ∧ body? value = some body ∧
        parse body = .ok expr := by
  simp only [expr?, Option.bind_eq_bind, Option.bind_eq_some_iff, Except.toOption]
  constructor
  · rintro ⟨value, hvalue, body, hbody, hparse⟩
    split at hparse
    · cases hparse
      exact ⟨value, body, hvalue, hbody, by assumption⟩
    · cases hparse
  · rintro ⟨value, body, hvalue, hbody, hparse⟩
    exact ⟨value, hvalue, body, hbody, by rw [hparse]⟩

theorem known?_of_plain {name value : String} (results : Table String)
    (h : page.text? (canonical name) = some value) (hplain : body? value = none) :
    page.known? results name = some value := by
  simp [known?, h, isFormula, hplain]

theorem known?_of_formula {name value body : String} (results : Table String)
    (h : page.text? (canonical name) = some value) (hbody : body? value = some body) :
    page.known? results name = results.get? (canonical name) := by
  simp [known?, h, isFormula, hbody]

theorem known?_mono {results after : Table String} (h : results.Within after)
    {name text : String} (hknown : page.known? results name = some text) :
    page.known? after name = some text := by
  obtain ⟨value, hvalue, hknown⟩ := Option.bind_eq_some_iff.mp hknown
  refine Option.bind_eq_some_iff.mpr ⟨value, hvalue, ?_⟩
  split at hknown
  · rename_i hformula
    rw [if_pos hformula, h hknown]
  · rename_i hplain
    rw [if_neg hplain, hknown]

theorem settled_mono {results after : Table String} (h : results.Within after)
    (request : Request) (text : String) (hsettled : page.settled results request = some text) :
    page.settled after request = some text := by
  cases request with
  | cell name => exact known?_mono h hsettled
  | external locator => exact hsettled

theorem Computes.mono {results after : Table String} {cell text : String}
    (hcomputes : page.Computes results cell text) (h : results.Within after) :
    page.Computes after cell text := by
  obtain ⟨expr, literal, hexpr, hsettle, htext⟩ := hcomputes
  exact ⟨expr, literal, hexpr, Evaluation.settle_mono (settled_mono h) hsettle, htext⟩

namespace Derived

/-- Each result was computed from results that do not hold it yet. -/
theorem earlier_of_get? {results : Table String} (h : page.Derived results)
    {cell text : String} (hcell : results.get? cell = some text) :
    ∃ before, page.Derived before ∧ before.Within results ∧ before.get? cell = none ∧
      page.Computes before cell text := by
  induction h with
  | empty => cases hcell
  | @insert results added result earlier fresh computes ih =>
      by_cases hsame : cell = added
      · subst hsame
        rw [Table.get?_insert_self] at hcell
        cases hcell
        exact ⟨results, earlier, Table.within_insert fresh _, fresh, computes⟩
      · rw [Table.get?_insert_of_ne _ _ hsame] at hcell
        obtain ⟨before, hbefore, hwithin, hnew, hcomputes⟩ := ih hcell
        exact ⟨before, hbefore, hwithin.trans (Table.within_insert fresh _), hnew, hcomputes⟩

theorem computes {results : Table String} (h : page.Derived results) {cell text : String}
    (hcell : results.get? cell = some text) : page.Computes results cell text := by
  obtain ⟨before, -, hwithin, -, hcomputes⟩ := h.earlier_of_get? hcell
  exact hcomputes.mono hwithin

end Derived

theorem known?_agree {first second : Table String}
    (h : ∀ {cell text other}, first.get? cell = some text →
      second.get? cell = some other → text = other)
    {name text other : String} (hfirst : page.known? first name = some text)
    (hsecond : page.known? second name = some other) : text = other := by
  obtain ⟨value, hvalue, hfirst⟩ := Option.bind_eq_some_iff.mp hfirst
  obtain ⟨value, hsame, hsecond⟩ := Option.bind_eq_some_iff.mp hsecond
  cases hvalue.symm.trans hsame
  split at hfirst
  · rename_i hformula
    rw [if_pos hformula] at hsecond
    exact h hfirst hsecond
  · rename_i hplain
    rw [if_neg hplain] at hsecond
    exact Option.some.inj (hfirst.symm.trans hsecond)

theorem Computes.agree {first second : Table String}
    (h : ∀ {cell text other}, first.get? cell = some text →
      second.get? cell = some other → text = other)
    {cell text other : String} (hfirst : page.Computes first cell text)
    (hsecond : page.Computes second cell other) : text = other := by
  obtain ⟨expr, literal, hexpr, hsettle, rfl⟩ := hfirst
  obtain ⟨expr, final, hsame, hfinal, rfl⟩ := hsecond
  cases hexpr.symm.trans hsame
  apply congrArg Literal.text
  refine Evaluation.settle_unique ?_ hsettle hfinal
  intro request text other hfirst hsecond
  cases request with
  | cell name => exact known?_agree h hfirst hsecond
  | external locator => exact Option.some.inj (hfirst.symm.trans hsecond)

theorem Derived.agree {first second : Table String} (hfirst : page.Derived first)
    (hsecond : page.Derived second) {cell text other : String}
    (htext : first.get? cell = some text) (hother : second.get? cell = some other) :
    text = other := by
  induction hfirst generalizing second cell text other with
  | empty => cases htext
  | @insert results added result earlier fresh computes ih =>
      by_cases hsame : cell = added
      · subst hsame
        rw [Table.get?_insert_self] at htext
        cases htext
        obtain ⟨before, hbefore, -, -, hcomputes⟩ := hsecond.earlier_of_get? hother
        exact computes.agree (fun hfirst hsecond => ih hbefore hfirst hsecond) hcomputes
      · rw [Table.get?_insert_of_ne _ _ hsame] at htext
        exact ih hsecond htext hother

/-- Results that are derived, with none for a formula that is waiting. -/
structure Sound (page : Page) (nesting : Nesting) (results : Table String) : Prop where
  derived : page.Derived results
  waiting : ∀ cell ∈ nesting.waiting, results.get? cell = none

theorem sound_empty (page : Page) (nesting : Nesting) :
    page.Sound nesting Table.empty where
  derived := .empty
  waiting := fun _ _ => rfl

def Grows (page : Page) (nesting : Nesting) (reading : Reading α)
    (knows : Table String → α → Prop) : Prop :=
  ∀ results answer after, page.Sound nesting results →
    reading results = (answer, after) →
    page.Sound nesting after ∧ results.Within after ∧
      ∀ value, answer = .ok value → knows after value

theorem readAll_grows {nesting : Nesting} {inner : Request → Reading String}
    (h : ∀ request, page.Grows nesting (inner request)
      fun results text => page.settled results request = some text)
    (evaluation : Evaluation α) :
    page.Grows nesting (readAll inner evaluation)
      fun results value => evaluation.settle (page.settled results) = some value := by
  induction evaluation with
  | done value =>
      intro results answer after hsound hread
      cases hread
      exact ⟨hsound, Table.Within.refl _, fun other hother => by cases hother; rfl⟩
  | failed error =>
      intro results answer after hsound hread
      cases hread
      exact ⟨hsound, Table.Within.refl _, nofun⟩
  | ask request resume ih =>
      intro results answer after hsound hread
      rcases hrequest : inner request results with ⟨stop | text, middle⟩
      · rw [readAll_ask_error hrequest] at hread
        cases hread
        obtain ⟨hmiddle, hwithin, -⟩ := h request _ _ _ hsound hrequest
        exact ⟨hmiddle, hwithin, nofun⟩
      · rw [readAll_ask_ok hrequest] at hread
        obtain ⟨hmiddle, hwithin, hknown⟩ := h request _ _ _ hsound hrequest
        obtain ⟨hafter, hrest, hvalue⟩ := ih text _ _ _ hmiddle hread
        refine ⟨hafter, hwithin.trans hrest, fun value hanswer => ?_⟩
        exact Option.bind_eq_some_iff.mpr
          ⟨text, settled_mono hrest request text (hknown text rfl), hvalue value hanswer⟩

theorem Sound.enter {nesting : Nesting} {results : Table String}
    (h : page.Sound nesting results) {cell : String} (hnew : results.get? cell = none)
    (cost : Nat) : page.Sound (nesting.enter cell cost) results where
  derived := h.derived
  waiting := by
    intro other hother
    rcases List.mem_cons.mp hother with rfl | hother
    · exact hnew
    · exact h.waiting other hother

theorem Sound.leave {nesting : Nesting} {results : Table String} {cell : String} {cost : Nat}
    (h : page.Sound (nesting.enter cell cost) results) : page.Sound nesting results where
  derived := h.derived
  waiting := fun other hother => h.waiting other (List.mem_cons_of_mem _ hother)

theorem Sound.keep {nesting : Nesting} {results : Table String} {cell text : String}
    (h : page.Sound nesting results) (hnew : results.get? cell = none)
    (hfree : cell ∉ nesting.waiting) (hcomputes : page.Computes results cell text) :
    page.Sound nesting (results.insert cell text) where
  derived := h.derived.insert hnew hcomputes
  waiting := by
    intro other hother
    rw [Table.get?_insert_of_ne]
    · exact h.waiting other hother
    · rintro rfl
      exact hfree hother

theorem readFormula_grows {inner : Nesting → Request → Reading String}
    (h : ∀ nesting request, page.Grows nesting (inner nesting request)
      fun results text => page.settled results request = some text)
    {nesting : Nesting} {cell value body : String} (hvalue : page.text? cell = some value)
    (hbody : body? value = some body) {results after : Table String}
    {answer : Except Stop String} (hsound : page.Sound nesting results)
    (hread : OfFormula inner nesting cell body results (answer, after)) :
    page.Sound nesting after ∧ results.Within after ∧
      ∀ text, answer = .ok text → after.get? cell = some text := by
  cases hread with
  | known held =>
      exact ⟨hsound, Table.Within.refl _, fun text htext => by cases htext; exact held⟩
  | cycle _ => exact ⟨hsound, Table.Within.refl _, nofun⟩
  | unparsed _ => exact ⟨hsound, Table.Within.refl _, nofun⟩
  | deep => exact ⟨hsound, Table.Within.refl _, nofun⟩
  | @failed expr _ _ fresh _ evaluates =>
      obtain ⟨hafter, hwithin, -⟩ := readAll_grows (h _) (evaluate expr) _ _ _
        (hsound.enter fresh (expr.height + 1)) evaluates
      exact ⟨hafter.leave, hwithin, nofun⟩
  | @computed expr literal middle fresh free parses evaluates =>
      obtain ⟨hmiddle, hwithin, hsettle⟩ := readAll_grows (h _) (evaluate expr) _ _ _
        (hsound.enter fresh (expr.height + 1)) evaluates
      have hfresh := hmiddle.waiting cell List.mem_cons_self
      have hcomputes : page.Computes middle cell literal.text :=
        ⟨expr, literal, expr?_eq_some.mpr ⟨value, body, hvalue, hbody, parses⟩,
          hsettle literal rfl, rfl⟩
      refine ⟨hmiddle.leave.keep hfresh free hcomputes,
        hwithin.trans (Table.within_insert hfresh _), fun text htext => ?_⟩
      cases htext
      exact Table.get?_insert_self _ _ _

theorem readWith_grows {inner : Nesting → Request → Reading String}
    (h : ∀ nesting request, page.Grows nesting (inner nesting request)
      fun results text => page.settled results request = some text)
    (nesting : Nesting) (name : String) :
    page.Grows nesting (page.readWith inner nesting name)
      fun results text => page.known? results name = some text := by
  intro results answer after hsound hread
  have hcases := page.readWith_cases inner nesting name results
  rw [hread] at hcases
  cases hcases with
  | missing _ => exact ⟨hsound, Table.Within.refl _, nofun⟩
  | plain holds noFormula =>
      refine ⟨hsound, Table.Within.refl _, fun text htext => ?_⟩
      cases htext
      exact known?_of_plain results holds noFormula
  | formula holds isFormula reads =>
      obtain ⟨hafter, hwithin, hknown⟩ := readFormula_grows h holds isFormula hsound reads
      exact ⟨hafter, hwithin, fun text htext =>
        (known?_of_formula after holds isFormula).trans (hknown text htext)⟩

theorem answer_grows {nesting : Nesting} {read : String → Reading String}
    (h : ∀ name, page.Grows nesting (read name)
      fun results text => page.known? results name = some text)
    (request : Request) :
    page.Grows nesting (page.answer read request)
      fun results text => page.settled results request = some text := by
  intro results answer after hsound hread
  cases request with
  | external locator =>
      cases hread
      refine ⟨hsound, Table.Within.refl _, fun text htext => ?_⟩
      change (page.external locator).toOption = some text
      rw [htext]
      rfl
  | cell name =>
      rcases hname : read name results with ⟨stop | text, middle⟩
      · simp only [Page.answer, hname] at hread
        cases hread
        obtain ⟨hmiddle, hwithin, -⟩ := h name _ _ _ hsound hname
        exact ⟨hmiddle, hwithin, nofun⟩
      · simp only [Page.answer, hname] at hread
        cases hread
        exact h name _ _ _ hsound hname

theorem stop_grows (nesting : Nesting) (stop : Stop)
    (knows : Table String → α → Prop) :
    page.Grows nesting (fun results => (.error stop, results)) knows := by
  intro results answer after hsound hread
  cases hread
  exact ⟨hsound, Table.Within.refl _, nofun⟩

theorem readWithin_grows (levels : Nat) (nesting : Nesting) (name : String) :
    page.Grows nesting (page.readWithin levels nesting name)
      fun results text => page.known? results name = some text := by
  induction levels generalizing nesting name with
  | zero => exact readWith_grows (fun inner _ => stop_grows inner Stop.tooDeep _) nesting name
  | succ levels ih =>
      exact readWith_grows (fun inner request => answer_grows (ih inner) request)
        nesting name

theorem answerWithin_grows (levels : Nat) (nesting : Nesting) (request : Request) :
    page.Grows nesting (page.answerWithin levels nesting request)
      fun results text => page.settled results request = some text := by
  cases levels with
  | zero => exact stop_grows nesting Stop.tooDeep _
  | succ levels => exact answer_grows (readWithin_grows levels nesting) request

end LiveSheet.Page
