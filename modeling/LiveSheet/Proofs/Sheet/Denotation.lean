import LiveSheet.Proofs.Sheet.Depth

namespace LiveSheet.Page

open LiveSheet.Formula

/-! The plain meaning of a cell.  Nothing is remembered, no formula waits for
another, and none is too deep. -/

/-- What a cell comes to when everything that its formula reads is replaced by
what that comes to. -/
inductive Denotes (page : Page) : String → String → Prop
  | plain {name value : String} (holds : page.text? (canonical name) = some value)
      (noFormula : body? value = none) : Denotes page name value
  | formula {name value body : String} {expr : Expr} {literal : Literal}
      (answer : Request → Option String)
      (holds : page.text? (canonical name) = some value)
      (isFormula : body? value = some body) (parses : parse body = .ok expr)
      (cells : ∀ other text, answer (.cell other) = some text → Denotes page other text)
      (externals : ∀ locator text, answer (.external locator) = some text →
        page.fetch locator = .ok text)
      (settles : (evaluate expr).settle answer = some literal) :
      Denotes page name literal.text

variable {page : Page}

theorem Denotes.unique {name text other : String} (h : page.Denotes name text)
    (hother : page.Denotes name other) : text = other := by
  induction h generalizing other with
  | plain holds noFormula =>
      cases hother with
      | plain same => exact Option.some.inj (holds.symm.trans same)
      | formula _ same isFormula =>
          cases holds.symm.trans same
          rw [noFormula] at isFormula
          cases isFormula
  | formula answer holds isFormula parses cells externals settles ih =>
      cases hother with
      | plain same noFormula =>
          cases holds.symm.trans same
          rw [noFormula] at isFormula
          cases isFormula
      | formula reply same sameBody sameExpr otherCells otherExternals otherSettles =>
          cases holds.symm.trans same
          cases isFormula.symm.trans sameBody
          cases parses.symm.trans sameExpr
          apply congrArg Literal.text
          refine Evaluation.settle_unique ?_ settles otherSettles
          intro request text other htext hother
          cases request with
          | cell name => exact ih name text htext (otherCells name other hother)
          | external locator =>
              exact Except.ok.inj
                ((externals locator text htext).symm.trans (otherExternals locator other hother))

theorem external_toOption {locator text : String}
    (h : (page.external locator).toOption = some text) : page.fetch locator = .ok text := by
  unfold external at h
  split at h
  · rename_i hfetch
    cases h
    exact hfetch
  · cases h
  · cases h

theorem external_of_fetch {locator text : String} (h : page.fetch locator = .ok text) :
    page.external locator = .ok text := by
  rw [external, h]

theorem Computes.denotes {results : Table String} {name text : String}
    (h : page.Computes results (canonical name) text)
    (hknown : ∀ other text, page.known? results other = some text →
      page.Denotes other text) : page.Denotes name text := by
  obtain ⟨expr, literal, hexpr, hsettle, rfl⟩ := h
  obtain ⟨value, body, hvalue, hbody, hparse⟩ := expr?_eq_some.mp hexpr
  exact .formula (page.settled results) hvalue hbody hparse hknown
    (fun locator text => external_toOption) hsettle

theorem Derived.denotes {results : Table String} (h : page.Derived results)
    {name text : String} (hknown : page.known? results name = some text) :
    page.Denotes name text := by
  induction h generalizing name text with
  | empty =>
      obtain ⟨value, hvalue, hknown⟩ := Option.bind_eq_some_iff.mp hknown
      split at hknown
      · cases hknown
      · rename_i hplain
        cases hknown
        exact .plain hvalue (Option.not_isSome_iff_eq_none.mp hplain)
  | @insert results added result earlier fresh computes ih =>
      by_cases hsame : canonical name = added
      · subst hsame
        obtain ⟨expr, literal, hexpr, -⟩ := id computes
        obtain ⟨value, body, hvalue, hbody, -⟩ := expr?_eq_some.mp hexpr
        rw [known?_of_formula _ hvalue hbody, Table.get?_insert_self] at hknown
        cases hknown
        exact computes.denotes fun other text => ih
      · rw [known?, Table.get?_insert_of_ne _ _ hsame] at hknown
        exact ih hknown

theorem Derived.join {first second : Table String} (hfirst : page.Derived first)
    (hsecond : page.Derived second) :
    ∃ both, page.Derived both ∧ first.Within both ∧ second.Within both := by
  induction hsecond with
  | empty => exact ⟨first, hfirst, Table.Within.refl _, Table.empty_within _⟩
  | @insert results added text earlier fresh computes ih =>
      obtain ⟨both, hboth, hwithin, hresults⟩ := ih
      have hcomputes := computes.mono hresults
      cases hheld : both.get? added with
      | none =>
          refine ⟨both.insert added text, hboth.insert hheld hcomputes,
            hwithin.trans (Table.within_insert hheld _), fun {key value} hkey => ?_⟩
          rw [Table.get?_insert] at hkey ⊢
          split at hkey
          · rename_i hsame
            rw [if_pos hsame, hkey]
          · rename_i hother
            rw [if_neg hother, hresults hkey]
      | some held =>
          refine ⟨both, hboth, hwithin, fun {key value} hkey => ?_⟩
          rw [Table.get?_insert] at hkey
          split at hkey
          · rename_i hsame
            cases hkey
            rw [hsame, hheld, hboth.agree (earlier.insert fresh computes) hheld
              (Table.get?_insert_self _ _ _)]
          · exact hresults hkey

theorem derived_of_settle {answer : Request → Option String}
    (h : ∀ request text, answer request = some text →
      ∃ results, page.Derived results ∧ page.settled results request = some text)
    {evaluation : Evaluation α} {value : α} (hsettle : evaluation.settle answer = some value) :
    ∃ results, page.Derived results ∧
      evaluation.settle (page.settled results) = some value := by
  induction evaluation with
  | done result => exact ⟨Table.empty, .empty, hsettle⟩
  | failed error => cases hsettle
  | ask request resume ih =>
      obtain ⟨text, htext, hrest⟩ := Option.bind_eq_some_iff.mp hsettle
      obtain ⟨first, hfirst, hrequest⟩ := h request text htext
      obtain ⟨second, hsecond, hvalue⟩ := ih text hrest
      obtain ⟨both, hboth, hwithin, hresults⟩ := hfirst.join hsecond
      exact ⟨both, hboth, Option.bind_eq_some_iff.mpr
        ⟨text, settled_mono hwithin request text hrequest,
          Evaluation.settle_mono (settled_mono hresults) hvalue⟩⟩

theorem Denotes.derived {name text : String} (h : page.Denotes name text) :
    ∃ results, page.Derived results ∧ page.known? results name = some text := by
  induction h with
  | plain holds noFormula =>
      exact ⟨Table.empty, .empty, known?_of_plain _ holds noFormula⟩
  | @formula name value body expr literal answer holds isFormula parses _ externals
      settles ih =>
      have hrequests : ∀ request text, answer request = some text →
          ∃ results, page.Derived results ∧ page.settled results request = some text := by
        intro request text htext
        cases request with
        | cell other => exact ih other text htext
        | external locator =>
            refine ⟨Table.empty, .empty, ?_⟩
            rw [settled, external_of_fetch (externals locator text htext)]
            rfl
      obtain ⟨results, hresults, hsettle⟩ := derived_of_settle hrequests settles
      have hcomputes : page.Computes results (canonical name) literal.text :=
        ⟨expr, literal, expr?_eq_some.mpr ⟨value, body, holds, isFormula, parses⟩,
          hsettle, rfl⟩
      cases hheld : results.get? (canonical name) with
      | none =>
          refine ⟨_, hresults.insert hheld hcomputes, ?_⟩
          rw [known?_of_formula _ holds isFormula, Table.get?_insert_self]
      | some held =>
          refine ⟨results, hresults, ?_⟩
          rw [known?_of_formula _ holds isFormula, hheld]
          exact congrArg some ((hresults.computes hheld).agree
            (fun hfirst hsecond => hresults.agree hresults hfirst hsecond) hcomputes)

theorem denotes_of_read {name text : String} {results : Table String}
    (hsound : page.Sound Nesting.none results)
    (h : (page.read name results).1 = .ok text) : page.Denotes name text := by
  rcases hread : page.read name results with ⟨reading, after⟩
  rw [hread] at h
  obtain ⟨hafter, -, hknown⟩ := readWithin_grows _ _ name _ _ _ hsound hread
  exact hafter.derived.denotes (hknown text h)

theorem Denotes.read {name text : String} (h : page.Denotes name text)
    {results : Table String} (hsound : page.Sound Nesting.none results) :
    (page.read name results).1 = .ok text ∨
      (page.read name results).1 = .error Stop.tooDeep := by
  obtain ⟨derived, hderived, hknown⟩ := h.derived
  have hfree : page.Sound Nesting.none derived := ⟨hderived, nofun⟩
  have hmarks : Marks results.keys results := fun cell => Iff.rfl
  have hkeeps := readWithin_keeps maxResolutionDepth hfree hknown hsound hmarks
  unfold Page.read
  generalize page.readWithin maxResolutionDepth Nesting.none name results = reading
    at hkeeps ⊢
  generalize page.visitWithin maxResolutionDepth Nesting.none.spent name results.keys =
    visited at hkeeps
  cases hkeeps with
  | within => exact Or.inl rfl
  | tooDeep => exact Or.inr rfl

end LiveSheet.Page
