import LiveSheet.Proofs.Formula.Requests
import LiveSheet.Sheet.Resolve

namespace LiveSheet

open LiveSheet.Formula

/-! What the cells of a sheet come to, as a function of their texts and of what
has been computed before.  A page is a sheet as one session sees it. -/

structure Page where
  sheet : String
  text? : String → Option String
  fetch : String → Except ExternalError String

/-- Why a cell comes to no text: its formula fails, or reading it does. -/
inductive Stop where
  | formula (error : FormulaError)
  | request (error : StoreError)

namespace Stop

def tooDeep : Stop :=
  .formula (.eval (.depthExceeded maxResolutionDepth))

def forReader (name : String) : Stop → Stop
  | .formula error => .formula error
  | .request error =>
      if error.isNotFound then .formula (.eval (.unknownCell (canonical name)))
      else .request error

end Stop

abbrev Reading (α : Type) := StateM (Table String) (Except Stop α)

/-- The cells whose formulas wait for others, and what they cost together. -/
structure Nesting where
  waiting : List String
  spent : Nat

namespace Nesting

def none : Nesting :=
  { waiting := [], spent := 0 }

def enter (nesting : Nesting) (cell : String) (cost : Nat) : Nesting :=
  { waiting := cell :: nesting.waiting, spent := nesting.spent + cost }

end Nesting

def readAll (answer : Request → Reading String) (evaluation : Evaluation α) : Reading α :=
  evaluation.run answer fun error => .formula (.eval error)

section

variable {answer : Request → Reading String}

@[simp] theorem readAll_done (value : α) (results : Table String) :
    readAll answer (.done value) results = (.ok value, results) := rfl

theorem readAll_ask_ok {request : Request} {resume : String → Evaluation α}
    {results after : Table String} {text : String}
    (h : answer request results = (.ok text, after)) :
    readAll answer (.ask request resume) results = readAll answer (resume text) after := by
  simp only [readAll, Evaluation.run, Bind.bind, StateT.bind, h]

theorem readAll_ask_error {request : Request} {resume : String → Evaluation α}
    {results after : Table String} {stop : Stop}
    (h : answer request results = (.error stop, after)) :
    readAll answer (.ask request resume) results = (.error stop, after) := by
  simp only [readAll, Evaluation.run, Bind.bind, StateT.bind, h]
  rfl

end

namespace Page

variable (page : Page)

def external (locator : String) : Except Stop String :=
  match page.fetch locator with
  | .ok text => .ok text
  | .error .cancelled => .error (.request .cancelled)
  | .error error => .error (.formula (.eval (.external error.message)))

def answer (read : String → Reading String) : Request → Reading String
  | .cell name => fun results =>
      match read name results with
      | (.ok text, after) => (.ok text, after)
      | (.error stop, after) => (.error (stop.forReader name), after)
  | .external locator => fun results => (page.external locator, results)

def readExpr (inner : Request → Reading String) (cell : String) (expr : Expr) :
    Reading String := fun results =>
  match readAll inner (evaluate expr) results with
  | (.ok literal, after) => (.ok literal.text, after.insert cell literal.text)
  | (.error stop, after) => (.error stop, after)

def readFormula (inner : Nesting → Request → Reading String) (nesting : Nesting)
    (cell body : String) : Reading String := fun results =>
  match results.get? cell with
  | some result => (.ok result, results)
  | none =>
      if nesting.waiting.contains cell then (.error (.formula (.cycle cell)), results)
      else
        match parse body with
        | .error error => (.error (.formula (.parse error)), results)
        | .ok expr =>
            if maxResolutionDepth < nesting.spent + (expr.height + 1) then
              (.error Stop.tooDeep, results)
            else readExpr (inner (nesting.enter cell (expr.height + 1))) cell expr results

def readWith (inner : Nesting → Request → Reading String) (nesting : Nesting)
    (name : String) : Reading String := fun results =>
  match page.text? (canonical name) with
  | none =>
      (.error (.request (.notFound (Store.cellKey page.sheet (canonical name)))), results)
  | some value =>
      match body? value with
      | none => (.ok value, results)
      | some body => readFormula inner nesting (canonical name) body results

def readWithin : Nat → Nesting → String → Reading String
  | 0 => page.readWith fun _ _ results => (.error Stop.tooDeep, results)
  | levels + 1 => page.readWith fun nesting => page.answer (readWithin levels nesting)

def read (name : String) : Reading String :=
  page.readWithin maxResolutionDepth Nesting.none name

/-- A cell as it is read while other formulas wait. -/
def readUnder (nesting : Nesting) (name : String) : Reading String :=
  page.readWithin maxResolutionDepth nesting name

def answerWithin : Nat → Nesting → Request → Reading String
  | 0, _, _ => fun results => (.error Stop.tooDeep, results)
  | levels + 1, nesting, request => page.answer (page.readWithin levels nesting) request

theorem readWithin_eq (levels : Nat) :
    page.readWithin levels = page.readWith (page.answerWithin levels) := by
  cases levels <;> rfl

variable {page}

theorem readExpr_ok {inner : Request → Reading String} {cell : String} {expr : Expr}
    {results after : Table String} {literal : Literal}
    (h : readAll inner (evaluate expr) results = (.ok literal, after)) :
    readExpr inner cell expr results =
      (.ok literal.text, after.insert cell literal.text) := by
  rw [readExpr, h]

theorem readExpr_error {inner : Request → Reading String} {cell : String} {expr : Expr}
    {results after : Table String} {stop : Stop}
    (h : readAll inner (evaluate expr) results = (.error stop, after)) :
    readExpr inner cell expr results = (.error stop, after) := by
  rw [readExpr, h]

section

variable {inner : Nesting → Request → Reading String} {nesting : Nesting}
  {cell body : String} {results : Table String}

theorem readFormula_known {result : String} (h : results.get? cell = some result) :
    readFormula inner nesting cell body results = (.ok result, results) := by
  rw [readFormula, h]

theorem readFormula_cycle (hnew : results.get? cell = none) (h : cell ∈ nesting.waiting) :
    readFormula inner nesting cell body results =
      (.error (.formula (.cycle cell)), results) := by
  simp only [readFormula, hnew, List.contains_iff_mem.mpr h, if_true]

theorem readFormula_unparsed {error : ParseError} (hnew : results.get? cell = none)
    (hfree : cell ∉ nesting.waiting) (h : parse body = .error error) :
    readFormula inner nesting cell body results =
      (.error (.formula (.parse error)), results) := by
  simp [readFormula, hnew, hfree, h]

theorem readFormula_deep {expr : Expr} (hnew : results.get? cell = none)
    (hfree : cell ∉ nesting.waiting) (hparse : parse body = .ok expr)
    (h : maxResolutionDepth < nesting.spent + (expr.height + 1)) :
    readFormula inner nesting cell body results = (.error Stop.tooDeep, results) := by
  simp [readFormula, hnew, hfree, hparse, h]

theorem readFormula_open {expr : Expr} (hnew : results.get? cell = none)
    (hfree : cell ∉ nesting.waiting) (hparse : parse body = .ok expr)
    (h : ¬ maxResolutionDepth < nesting.spent + (expr.height + 1)) :
    readFormula inner nesting cell body results =
      readExpr (inner (nesting.enter cell (expr.height + 1))) cell expr results := by
  simp [readFormula, hnew, hfree, hparse, h]

end

inductive OfFormula (inner : Nesting → Request → Reading String) (nesting : Nesting)
    (cell body : String) (results : Table String) : Except Stop String × Table String → Prop
  | known {result : String} (held : results.get? cell = some result) :
      OfFormula inner nesting cell body results (.ok result, results)
  | cycle (waits : cell ∈ nesting.waiting) :
      OfFormula inner nesting cell body results (.error (.formula (.cycle cell)), results)
  | unparsed (error : ParseError) :
      OfFormula inner nesting cell body results (.error (.formula (.parse error)), results)
  | deep : OfFormula inner nesting cell body results (.error Stop.tooDeep, results)
  | failed {expr : Expr} {stop : Stop} {after : Table String}
      (fresh : results.get? cell = none) (parses : parse body = .ok expr)
      (evaluates : readAll (inner (nesting.enter cell (expr.height + 1))) (evaluate expr)
        results = (.error stop, after)) :
      OfFormula inner nesting cell body results (.error stop, after)
  | computed {expr : Expr} {literal : Literal} {after : Table String}
      (fresh : results.get? cell = none) (free : cell ∉ nesting.waiting)
      (parses : parse body = .ok expr)
      (evaluates : readAll (inner (nesting.enter cell (expr.height + 1))) (evaluate expr)
        results = (.ok literal, after)) :
      OfFormula inner nesting cell body results
        (.ok literal.text, after.insert cell literal.text)

theorem readFormula_cases (inner : Nesting → Request → Reading String) (nesting : Nesting)
    (cell body : String) (results : Table String) :
    OfFormula inner nesting cell body results
      (readFormula inner nesting cell body results) := by
  cases hresult : results.get? cell with
  | some result =>
      rw [readFormula_known hresult]
      exact .known hresult
  | none =>
      by_cases hwaits : cell ∈ nesting.waiting
      · rw [readFormula_cycle hresult hwaits]
        exact .cycle hwaits
      cases hparse : parse body with
      | error error =>
          rw [readFormula_unparsed hresult hwaits hparse]
          exact .unparsed error
      | ok expr =>
          by_cases hdeep : maxResolutionDepth < nesting.spent + (expr.height + 1)
          · rw [readFormula_deep hresult hwaits hparse hdeep]
            exact .deep
          rw [readFormula_open hresult hwaits hparse hdeep]
          rcases hall : readAll (inner (nesting.enter cell (expr.height + 1))) (evaluate expr)
            results with ⟨stop | literal, after⟩
          · rw [readExpr_error hall]
            exact .failed hresult hparse hall
          · rw [readExpr_ok hall]
            exact .computed hresult hwaits hparse hall

inductive OfCell (page : Page) (inner : Nesting → Request → Reading String)
    (nesting : Nesting) (name : String) (results : Table String) :
    Except Stop String × Table String → Prop
  | missing (absent : page.text? (canonical name) = none) :
      OfCell page inner nesting name results
        (.error (.request (.notFound (Store.cellKey page.sheet (canonical name)))), results)
  | plain {value : String} (holds : page.text? (canonical name) = some value)
      (noFormula : body? value = none) :
      OfCell page inner nesting name results (.ok value, results)
  | formula {value body : String} {reading : Except Stop String × Table String}
      (holds : page.text? (canonical name) = some value) (isFormula : body? value = some body)
      (reads : OfFormula inner nesting (canonical name) body results reading) :
      OfCell page inner nesting name results reading

theorem readWith_cases (page : Page) (inner : Nesting → Request → Reading String) (nesting : Nesting)
    (name : String) (results : Table String) :
    OfCell page inner nesting name results (page.readWith inner nesting name results) := by
  rw [readWith]
  cases hvalue : page.text? (canonical name) with
  | none => exact .missing hvalue
  | some value =>
      dsimp only
      cases hbody : body? value with
      | none => exact .plain hvalue hbody
      | some body => exact .formula hvalue hbody (readFormula_cases _ _ _ _ _)

theorem readWithin_missing {name : String} (h : page.text? (canonical name) = none)
    (levels : Nat) (nesting : Nesting) (results : Table String) :
    page.readWithin levels nesting name results =
      (.error (.request (.notFound (Store.cellKey page.sheet (canonical name)))),
        results) := by
  rw [readWithin_eq, readWith, h]

theorem readWithin_plain {name value : String} (h : page.text? (canonical name) = some value)
    (hplain : body? value = none) (levels : Nat) (nesting : Nesting)
    (results : Table String) :
    page.readWithin levels nesting name results = (.ok value, results) := by
  simp only [readWithin_eq, readWith, h, hplain]

theorem readWithin_formula {name value body : String}
    (h : page.text? (canonical name) = some value) (hbody : body? value = some body)
    (levels : Nat) (nesting : Nesting) (results : Table String) :
    page.readWithin levels nesting name results =
      readFormula (page.answerWithin levels) nesting (canonical name) body results := by
  simp only [readWithin_eq, readWith, h, hbody]

end Page

end LiveSheet
