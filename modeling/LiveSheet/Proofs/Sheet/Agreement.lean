import LiveSheet.Proofs.Sheet.Derivation

namespace LiveSheet.Page

open LiveSheet.Formula

/-! Pages that agree on some cells.  When the formulas there only ask for cells
that are among them, the pages read all of them alike. -/

structure AgreeOn (among : String → Prop) (page other : Page) : Prop where
  sheet : page.sheet = other.sheet
  fetch : page.fetch = other.fetch
  text : ∀ {cell}, among cell → page.text? cell = other.text? cell
  closed : ∀ {cell expr name}, among cell → page.expr? cell = some expr →
    .cell name ∈ expr.requests → among (canonical name)

variable {among : String → Prop} {page other : Page}

theorem readAll_congr {first second : Request → Reading String}
    {evaluation : Evaluation α} {plan : List Request} (hplan : evaluation.Follows plan)
    (h : ∀ request ∈ plan, first request = second request) :
    readAll first evaluation = readAll second evaluation := by
  induction evaluation generalizing plan with
  | done value => rfl
  | failed error => rfl
  | ask request resume ih =>
      obtain ⟨rest, rfl, hrest⟩ := hplan
      have hsame := h request List.mem_cons_self
      funext results
      rcases hread : first request results with ⟨stop | text, after⟩
      · rw [readAll_ask_error hread, readAll_ask_error (hsame ▸ hread)]
      · rw [readAll_ask_ok hread, readAll_ask_ok (hsame ▸ hread)]
        exact congrFun (ih text (hrest text) fun next hmem =>
          h next (List.mem_cons_of_mem _ hmem)) after

namespace AgreeOn

theorem external (h : AgreeOn among page other) (locator : String) :
    page.external locator = other.external locator := by
  rw [Page.external, Page.external, h.fetch]

theorem expr? (h : AgreeOn among page other) {cell : String} (hcell : among cell) :
    page.expr? cell = other.expr? cell := by
  rw [Page.expr?, Page.expr?, h.text hcell]

theorem readFormula (h : AgreeOn among page other)
    {first second : Nesting → Request → Reading String}
    (hinner : ∀ nesting request, (∀ name, request = .cell name → among (canonical name)) →
      first nesting request = second nesting request)
    (nesting : Nesting) {cell value body : String} (hcell : among cell)
    (hvalue : page.text? cell = some value) (hbody : body? value = some body) :
    Page.readFormula first nesting cell body = Page.readFormula second nesting cell body := by
  funext results
  unfold Page.readFormula
  cases hparse : parse body with
  | error error => rfl
  | ok expr =>
      have hexpr := expr?_eq_some.mpr ⟨value, body, hvalue, hbody, hparse⟩
      have hall : readAll (first (nesting.enter cell (expr.height + 1))) (evaluate expr) =
          readAll (second (nesting.enter cell (expr.height + 1))) (evaluate expr) :=
        readAll_congr (evaluate_follows expr) fun request hmem =>
          hinner _ request fun name hname => h.closed hcell hexpr (hname ▸ hmem)
      simp only [readExpr, hall]

theorem readWith (h : AgreeOn among page other)
    {first second : Nesting → Request → Reading String}
    (hinner : ∀ nesting request, (∀ name, request = .cell name → among (canonical name)) →
      first nesting request = second nesting request)
    (nesting : Nesting) {name : String} (hname : among (canonical name)) :
    page.readWith first nesting name = other.readWith second nesting name := by
  funext results
  unfold Page.readWith
  rw [← h.text hname, h.sheet]
  cases hvalue : page.text? (canonical name) with
  | none => rfl
  | some value =>
      dsimp only
      cases hbody : body? value with
      | none => rfl
      | some body =>
          exact congrFun (h.readFormula hinner nesting hname hvalue hbody) results

theorem answer (h : AgreeOn among page other) {first second : String → Reading String}
    (hread : ∀ name, among (canonical name) → first name = second name)
    {request : Request} (hrequest : ∀ name, request = .cell name → among (canonical name)) :
    page.answer first request = other.answer second request := by
  cases request with
  | cell name =>
      simp only [Page.answer, hread name (hrequest name rfl)]
  | external locator =>
      simp only [Page.answer, h.external]

theorem readWithin (h : AgreeOn among page other) (levels : Nat) (nesting : Nesting)
    {name : String} (hname : among (canonical name)) :
    page.readWithin levels nesting name = other.readWithin levels nesting name := by
  induction levels generalizing nesting name with
  | zero => exact h.readWith (fun _ _ _ => rfl) nesting hname
  | succ levels ih =>
      exact h.readWith (fun inner request hrequest =>
        h.answer (fun name hname => ih inner hname) hrequest) nesting hname

theorem read (h : AgreeOn among page other) {name : String}
    (hname : among (canonical name)) : page.read name = other.read name :=
  h.readWithin maxResolutionDepth Nesting.none hname

theorem known? (h : AgreeOn among page other) {results restricted : Table String}
    (hsame : ∀ {cell}, among cell → restricted.get? cell = results.get? cell)
    {name : String} (hname : among (canonical name)) :
    page.known? results name = other.known? restricted name := by
  rw [Page.known?, Page.known?, h.text hname, hsame hname]

theorem computes (h : AgreeOn among page other) {results restricted : Table String}
    (hsame : ∀ {cell}, among cell → restricted.get? cell = results.get? cell)
    {cell text : String} (hcell : among cell) (hcomputes : page.Computes results cell text) :
    other.Computes restricted cell text := by
  obtain ⟨expr, literal, hexpr, hsettle, htext⟩ := hcomputes
  refine ⟨expr, literal, (h.expr? hcell).symm.trans hexpr, ?_, htext⟩
  rw [← hsettle]
  apply Eq.symm
  apply (evaluate_follows expr).settle_congr
  intro request hrequest
  cases request with
  | cell name => exact h.known? hsame (h.closed hcell hexpr hrequest)
  | external locator =>
      exact congrArg Except.toOption (h.external locator)

theorem derived (h : AgreeOn among page other) {results : Table String}
    (hderived : page.Derived results) :
    ∃ restricted, other.Derived restricted ∧
      (∀ {cell}, among cell → restricted.get? cell = results.get? cell) ∧
      restricted.Within results := by
  induction hderived with
  | empty => exact ⟨Table.empty, .empty, fun _ => rfl, Table.Within.refl _⟩
  | @insert results added text earlier fresh computes ih =>
      obtain ⟨restricted, hrestricted, hsame, hwithin⟩ := ih
      by_cases hadded : among added
      · have hfresh : restricted.get? added = none := (hsame hadded).trans fresh
        refine ⟨restricted.insert added text,
          hrestricted.insert hfresh (h.computes hsame hadded computes), ?_, ?_⟩
        · intro cell hcell
          rw [Table.get?_insert, Table.get?_insert, hsame hcell]
        · intro cell held hheld
          rw [Table.get?_insert] at hheld ⊢
          split at hheld
          · rename_i hnew
            rw [if_pos hnew, hheld]
          · rename_i hold
            rw [if_neg hold, hwithin hheld]
      · refine ⟨restricted, hrestricted, ?_,
          hwithin.trans (Table.within_insert fresh text)⟩
        intro cell hcell
        rw [hsame hcell, Table.get?_insert_of_ne]
        rintro rfl
        exact hadded hcell

end AgreeOn

end LiveSheet.Page
