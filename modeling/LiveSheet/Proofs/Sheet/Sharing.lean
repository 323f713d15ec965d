import LiveSheet.Proofs.Sheet.Depth

namespace LiveSheet.Page

open LiveSheet.Formula

/-! Reading with results at hand comes to the same as reading without, except
that fewer formulas have to nest. -/

inductive Shared : Except Stop α × Table String → Except Stop α × Table String → Prop
  | tooDeep {after : Table String} {reading : Except Stop α × Table String} :
      Shared (.error Stop.tooDeep, after) reading
  | ok {value : α} {fewer more : Table String} (within : fewer.Within more) :
      Shared (.ok value, fewer) (.ok value, more)
  | error {stop : Stop} {fewer more : Table String} :
      Shared (.error stop, fewer) (.error stop, more)

def Shares (page : Page) (nesting : Nesting) (reading : Reading α) : Prop :=
  ∀ fewer more, page.Sound nesting fewer → page.Sound nesting more → fewer.Within more →
    Shared (reading fewer) (reading more)

variable {page : Page} {nesting : Nesting}

theorem readAll_shares {inner : Request → Reading String}
    (hgrows : ∀ request, page.Grows nesting (inner request)
      fun results text => page.settled results request = some text)
    (h : ∀ request, page.Shares nesting (inner request)) (evaluation : Evaluation α) :
    page.Shares nesting (readAll inner evaluation) := by
  induction evaluation with
  | done value => exact fun fewer more _ _ hwithin => .ok hwithin
  | failed error => exact fun fewer more _ _ _ => .error
  | ask request resume ih =>
      intro fewer more hfewer hmore hwithin
      have hrequest := h request fewer more hfewer hmore hwithin
      rcases hfirst : inner request fewer with ⟨first, after⟩
      rcases hsecond : inner request more with ⟨second, next⟩
      rw [hfirst, hsecond] at hrequest
      cases hrequest with
      | tooDeep =>
          rw [readAll_ask_error hfirst]
          exact .tooDeep
      | error =>
          rw [readAll_ask_error hfirst, readAll_ask_error hsecond]
          exact .error
      | @ok text _ _ hafter =>
          rw [readAll_ask_ok hfirst, readAll_ask_ok hsecond]
          exact ih text after next (hgrows request _ _ _ hfewer hfirst).1
            (hgrows request _ _ _ hmore hsecond).1 hafter

theorem readExpr_shares {inner : Request → Reading String} {cell : String} {expr : Expr}
    (hgrows : ∀ request, page.Grows (nesting.enter cell (expr.height + 1)) (inner request)
      fun results text => page.settled results request = some text)
    (h : ∀ request, page.Shares (nesting.enter cell (expr.height + 1)) (inner request))
    {fewer more : Table String} (hfewer : page.Sound nesting fewer)
    (hmore : page.Sound nesting more) (hnew : more.get? cell = none)
    (hwithin : fewer.Within more) :
    Shared (readExpr inner cell expr fewer) (readExpr inner cell expr more) := by
  have hfresh := hwithin.get?_eq_none hnew
  have hall := readAll_shares hgrows h (evaluate expr) fewer more
    (hfewer.enter hfresh _) (hmore.enter hnew _) hwithin
  rcases hfirst : readAll inner (evaluate expr) fewer with ⟨first, after⟩
  rcases hsecond : readAll inner (evaluate expr) more with ⟨second, next⟩
  rw [hfirst, hsecond] at hall
  cases hall with
  | tooDeep =>
      rw [readExpr_error hfirst]
      exact .tooDeep
  | error =>
      rw [readExpr_error hfirst, readExpr_error hsecond]
      exact .error
  | ok hafter =>
      rw [readExpr_ok hfirst, readExpr_ok hsecond]
      refine .ok fun {key value} hheld => ?_
      rw [Table.get?_insert] at hheld ⊢
      split at hheld
      · rename_i hsame
        rw [if_pos hsame, hheld]
      · rename_i hother
        rw [if_neg hother, hafter hheld]

theorem readWithin_shares_known (levels : Nat) {name text : String}
    {fewer more : Table String} (hfewer : page.Sound nesting fewer)
    (hmore : page.Sound nesting more) (hwithin : fewer.Within more)
    (hknown : page.known? more name = some text) :
    Shared (page.readWithin levels nesting name fewer)
      (page.readWithin levels nesting name more) := by
  have hsecond : page.readWithin levels nesting name more = (.ok text, more) := by
    obtain ⟨value, hvalue, -⟩ := Option.bind_eq_some_iff.mp hknown
    cases hbody : body? value with
    | none =>
        rw [known?_of_plain more hvalue hbody] at hknown
        cases hknown
        exact readWithin_plain hvalue hbody levels nesting more
    | some body =>
        rw [known?_of_formula more hvalue hbody] at hknown
        rw [readWithin_formula hvalue hbody, readFormula_known hknown]
  have hfirst := readWithin_keeps levels hmore hknown hfewer fun cell => Iff.rfl
  rcases hread : page.readWithin levels nesting name fewer with ⟨answer, after⟩
  have hafter := (readWithin_grows levels nesting name _ _ _ hfewer hread).1.derived
  rw [hread] at hfirst
  rw [hsecond]
  generalize page.visitWithin levels nesting.spent name fewer.keys = visited at hfirst
  cases hfirst with
  | tooDeep => exact .tooDeep
  | within hmarks horigin =>
      refine .ok fun {key value} hheld => ?_
      have hmem : key ∈ more.keys := by
        rcases horigin key (Table.mem_keys_of_get? hheld) with hmem | hmem
        · obtain ⟨held, hheld⟩ := (Table.mem_keys_iff _ _).mp hmem
          exact Table.mem_keys_of_get? (hwithin hheld)
        · exact hmem
      obtain ⟨held, hsame⟩ := (Table.mem_keys_iff _ _).mp hmem
      rw [hsame, hafter.agree hmore.derived hheld hsame]

theorem readWith_shares (levels : Nat)
    (h : ∀ nesting request, page.Shares nesting (page.answerWithin levels nesting request))
    (nesting : Nesting) (name : String) :
    page.Shares nesting (page.readWithin levels nesting name) := by
  intro fewer more hfewer hmore hwithin
  -- A cell that the second reading knows may still have to be computed by the
  -- first; any other is computed by both.
  cases hknown : page.known? more name with
  | some text => exact readWithin_shares_known levels hfewer hmore hwithin hknown
  | none =>
      cases hvalue : page.text? (canonical name) with
      | none =>
          rw [readWithin_missing hvalue, readWithin_missing hvalue]
          exact .error
      | some value =>
          cases hbody : body? value with
          | none =>
              rw [known?_of_plain more hvalue hbody] at hknown
              cases hknown
          | some body =>
              rw [known?_of_formula more hvalue hbody] at hknown
              have hfresh := hwithin.get?_eq_none hknown
              rw [readWithin_formula hvalue hbody, readWithin_formula hvalue hbody]
              by_cases hwaits : canonical name ∈ nesting.waiting
              · rw [readFormula_cycle hfresh hwaits, readFormula_cycle hknown hwaits]
                exact .error
              cases hparse : parse body with
              | error error =>
                  rw [readFormula_unparsed hfresh hwaits hparse,
                    readFormula_unparsed hknown hwaits hparse]
                  exact .error
              | ok expr =>
                  by_cases hdeep : maxResolutionDepth < nesting.spent + (expr.height + 1)
                  · rw [readFormula_deep hfresh hwaits hparse hdeep]
                    exact .tooDeep
                  · rw [readFormula_open hfresh hwaits hparse hdeep,
                      readFormula_open hknown hwaits hparse hdeep]
                    exact readExpr_shares (answerWithin_grows levels _) (h _) hfewer hmore
                      hknown hwithin

theorem answer_shares {read : String → Reading String}
    (h : ∀ name, page.Shares nesting (read name)) (request : Request) :
    page.Shares nesting (page.answer read request) := by
  intro fewer more hfewer hmore hwithin
  cases request with
  | external locator =>
      change Shared (page.external locator, fewer) (page.external locator, more)
      cases page.external locator with
      | ok text => exact .ok hwithin
      | error stop => exact .error
  | cell name =>
      have hname := h name fewer more hfewer hmore hwithin
      unfold Page.answer
      dsimp only
      generalize read name fewer = first at hname ⊢
      generalize read name more = second at hname ⊢
      cases hname with
      | tooDeep => exact .tooDeep
      | error => exact .error
      | ok hafter => exact .ok hafter

theorem readWithin_shares (levels : Nat) (nesting : Nesting) (name : String) :
    page.Shares nesting (page.readWithin levels nesting name) := by
  induction levels generalizing nesting name with
  | zero =>
      exact readWith_shares 0 (fun _ _ _ _ _ _ _ => .tooDeep) nesting name
  | succ levels ih =>
      exact readWith_shares (levels + 1) (fun inner => answer_shares (ih inner)) nesting name

/-- Read on its own, a cell comes to what it comes to among others, unless it
nests too deep. -/
theorem read_shared {results : Table String} (h : page.Sound Nesting.none results)
    (name : String) :
    Shared (page.read name Table.empty) (page.read name results) :=
  readWithin_shares maxResolutionDepth Nesting.none name Table.empty results
    (sound_empty page Nesting.none) h (Table.empty_within results)

end LiveSheet.Page
