import LiveSheet.Proofs.Formula.Breaking
import LiveSheet.Proofs.Formula.Operands

namespace LiveSheet.Formula

open LiveSheet.Number
open LiveSheet.Text

namespace Literal

inductive Produced : Literal → Prop where
  | scanned {literal : Literal} {token : Token} (hnumber : literal.token? = some token)
      (halone : token.StandsAlone) : Produced literal
  | classified (text : String) : Produced (ofText text)
  | computed {op : Operator} {left right literal : Literal}
      (h : apply op left right = .ok literal) : Produced literal

theorem Produced.settled {literal : Literal} (h : literal.Produced) : literal.Settled := by
  cases h with
  | scanned hnumber halone => exact settled_of_token? hnumber halone
  | classified text => exact settled_ofText text
  | computed h => exact settled_apply h

structure Measured (literal : Literal) : Prop where
  number : literal.IsNumber
  fits : literal.FitsPower

theorem Produced.measured {literal : Literal} (h : literal.Produced)
    (hnumeric : literal.kind ≠ .string) (hfits : literal.FitsPower) : literal.Measured :=
  ⟨h.settled.isNumber hnumeric, hfits⟩

theorem Measured.decimal_ok {literal : Literal} (h : literal.Measured) :
    ∃ size, literal.decimal = .ok size := by
  obtain ⟨⟨sign, number, hshows⟩, hfits⟩ := h
  obtain ⟨-, size, hsize, -⟩ | ⟨hout, -⟩ := hshows.decimal_eq
  · exact ⟨size, hsize⟩
  · exact absurd hfits hout

end Literal

/-- Whether a literal is ahead of all that stand before it in a list and has none ahead of
it behind. -/
def FirstBy (ahead : ℚ → ℚ → Prop) (values : List Literal) (result : Literal) : Prop :=
  ∃ before after, values = before ++ result :: after ∧
    (∀ value ∈ before, ahead result.exactValue value.exactValue) ∧
    ∀ value ∈ after, ¬ ahead value.exactValue result.exactValue

section

variable {ahead : ℚ → ℚ → Prop} {values others : List Literal} {result other : Literal}

theorem firstBy_singleton (value : Literal) : FirstBy ahead [value] value :=
  ⟨[], [], rfl, List.forall_mem_nil _, List.forall_mem_nil _⟩

theorem FirstBy.mem (h : FirstBy ahead values result) : result ∈ values := by
  obtain ⟨before, after, rfl, -, -⟩ := h
  exact List.mem_append_right _ List.mem_cons_self

theorem FirstBy.stays (h : FirstBy ahead values result)
    (hbehind : ¬ ahead other.exactValue result.exactValue) :
    FirstBy ahead (values ++ [other]) result := by
  obtain ⟨before, after, rfl, hbefore, hafter⟩ := h
  refine ⟨before, after ++ [other], by simp, hbefore, fun value hmem => ?_⟩
  rcases List.mem_append.mp hmem with hmem | hmem
  · exact hafter value hmem
  · rw [List.mem_singleton.mp hmem]
    exact hbehind

variable [IsStrictTotalOrder ℚ ahead]

theorem FirstBy.not_ahead (h : FirstBy ahead values result) {value : Literal}
    (hmem : value ∈ values) : ¬ ahead value.exactValue result.exactValue := by
  obtain ⟨before, after, rfl, hbefore, hafter⟩ := h
  rcases List.mem_append.mp hmem with hmem | hmem
  · exact asymm_of ahead (hbefore value hmem)
  rcases List.mem_cons.mp hmem with rfl | hmem
  · exact irrefl_of ahead _
  · exact hafter value hmem

theorem FirstBy.replaced (h : FirstBy ahead values result)
    (hahead : ahead other.exactValue result.exactValue) :
    FirstBy ahead (values ++ [other]) other := by
  refine ⟨values, [], rfl, fun value hmem => ?_, List.forall_mem_nil _⟩
  rcases trichotomous_of ahead result.exactValue value.exactValue with hless | hsame | hmore
  · exact trans_of ahead hahead hless
  · rwa [← hsame]
  · exact absurd hmore (h.not_ahead hmem)

theorem FirstBy.value_eq (h : FirstBy ahead values result) (hother : FirstBy ahead others other)
    (hperm : others.Perm values) : other.exactValue = result.exactValue := by
  have hresult := hother.not_ahead (hperm.mem_iff.mpr h.mem)
  have hfirst := h.not_ahead (hperm.mem_iff.mp hother.mem)
  exact ((trichotomous_of ahead _ _).resolve_left hfirst).resolve_right hresult

end

namespace Aggregate

section

variable {wins : Ordering} {ahead : ℚ → ℚ → Prop} {best candidate first : Literal}
  {front rest : List Literal} (hwins : ∀ left right, Ord.compare left right = wins ↔ ahead left right)

include hwins

theorem better_cases (hbest : best.Measured) (hcandidate : candidate.Measured) :
    (ahead candidate.exactValue best.exactValue ∧ better wins best candidate = .ok candidate) ∨
      (¬ ahead candidate.exactValue best.exactValue ∧ better wins best candidate = .ok best) := by
  have hcompare := Literal.compareLiterals_eq hcandidate.number hbest.number hcandidate.fits
    hbest.fits
  rw [better, hcompare]
  by_cases hahead : ahead candidate.exactValue best.exactValue
  · exact Or.inl ⟨hahead, congrArg Except.ok (if_pos ((hwins _ _).mpr hahead))⟩
  · exact Or.inr ⟨hahead, congrArg Except.ok (if_neg fun h => hahead ((hwins _ _).mp h))⟩

variable [IsStrictTotalOrder ℚ ahead]

theorem foldlM_better (hbest : FirstBy ahead front best)
    (hmeasured : ∀ value ∈ front ++ rest, value.Measured) :
    ∃ result, rest.foldlM (better wins) best = .ok result ∧ FirstBy ahead (front ++ rest) result := by
  -- The best of what was seen stands for all of `front`.
  induction rest generalizing front best with
  | nil => exact ⟨best, rfl, by rwa [List.append_nil]⟩
  | cons next rest ih =>
      have hnext := hmeasured next (List.mem_append_right _ List.mem_cons_self)
      have hheld := hmeasured best (List.mem_append_left _ hbest.mem)
      rw [List.append_cons] at hmeasured ⊢
      rw [List.foldlM_cons]
      obtain ⟨hahead, hstep⟩ | ⟨hbehind, hstep⟩ := better_cases hwins hheld hnext
      · rw [hstep]
        exact ih (hbest.replaced hahead) hmeasured
      · rw [hstep]
        exact ih (hbest.stays hbehind) hmeasured

theorem extremum_first (hmeasured : ∀ value ∈ first :: rest, value.Measured) :
    ∃ result, extremum wins first rest = .ok result ∧ FirstBy ahead (first :: rest) result := by
  obtain ⟨size, hsize⟩ := (hmeasured first List.mem_cons_self).decimal_ok
  rw [extremum, hsize]
  have hfirst : FirstBy ahead [first] first := firstBy_singleton first
  exact foldlM_better hwins hfirst hmeasured

end

end Aggregate

inductive LooksFor : String → (ℚ → ℚ → Prop) → Prop where
  | min : LooksFor "MIN" (· < ·)
  | max : LooksFor "MAX" (· > ·)

theorem LooksFor.exists_first {name : String} {ahead : ℚ → ℚ → Prop} (h : LooksFor name ahead)
    {values : List Literal} (hsome : values ≠ [])
    (hmeasured : ∀ value ∈ values, value.Measured) :
    ∃ aggregate result, Aggregate.ofName? name = some aggregate ∧
      applyAggregate name aggregate values = .ok result ∧ FirstBy ahead values result := by
  obtain ⟨first, rest, rfl⟩ := List.exists_cons_of_ne_nil hsome
  cases h with
  | min =>
      obtain ⟨result, hresult, hfirst⟩ :=
        Aggregate.extremum_first (fun _ _ => compare_lt_iff_lt) hmeasured
      exact ⟨.min, result, rfl, hresult, hfirst⟩
  | max =>
      obtain ⟨result, hresult, hfirst⟩ :=
        Aggregate.extremum_first (fun _ _ => compare_gt_iff_gt) hmeasured
      exact ⟨.max, result, rfl, hresult, hfirst⟩

theorem LooksFor.value_eq {name : String} {ahead : ℚ → ℚ → Prop} (h : LooksFor name ahead)
    {values others : List Literal} {result other : Literal} (hfirst : FirstBy ahead values result)
    (hother : FirstBy ahead others other) (hperm : others.Perm values) :
    other.exactValue = result.exactValue := by
  cases h with
  | min | max => exact hfirst.value_eq hother hperm

/-- MIN comes to the first of its arguments that no other is below, and MAX to the first
that none is above, as it was written and compared by exact value.  In another order its
value is the same. -/
theorem extremum_is_first {name : String} {ahead : ℚ → ℚ → Prop}
    (hname : LooksFor (uppercase name) ahead) {arguments : List Expr} (hsome : arguments ≠ [])
    (answer : Request → StateM σ (Except ε String)) (fail : EvalError → ε) (state : σ)
    {values : List Literal}
    (hvalues : (((evaluateAll arguments).run answer fail).run state).1 = .ok values)
    (hnumbers : ∀ value ∈ values, value.Produced ∧ value.kind ≠ .string ∧ value.FitsPower) :
    ∃ result, (((evaluate (.call name arguments)).run answer fail).run state).1 = .ok result ∧
      FirstBy ahead values result ∧
      ∀ (reply : Request → StateM σ (Except ε String)) (later : σ) (others : List Expr)
        (permuted : List Literal),
        (((evaluateAll others).run reply fail).run later).1 = .ok permuted →
        permuted.Perm values →
        ∃ other, (((evaluate (.call name others)).run reply fail).run later).1 = .ok other ∧
          other.exactValue = result.exactValue := by
  have hmeasured : ∀ value ∈ values, value.Measured := fun value hmem =>
    have ⟨hproduced, hnumeric, hfits⟩ := hnumbers value hmem
    hproduced.measured hnumeric hfits
  have hlength := (always_length arguments).run hvalues
  have hfull : values ≠ [] := by
    rintro rfl
    exact hsome (List.length_eq_zero_iff.mp hlength.symm)
  obtain ⟨aggregate, result, hfunction, hresult, hfirst⟩ := hname.exists_first hfull hmeasured
  refine ⟨result, ?_, hfirst, fun reply later others permuted hpermuted hperm => ?_⟩
  · rw [run_aggregate hfunction hvalues, hresult]
    rfl
  · have hothers : permuted ≠ [] := by
      rintro rfl
      exact hfull hperm.nil_eq.symm
    obtain ⟨same, other, hagain, hother, hotherFirst⟩ :=
      hname.exists_first hothers fun value hmem => hmeasured value (hperm.mem_iff.mp hmem)
    refine ⟨other, ?_, hname.value_eq hfirst hotherFirst hperm⟩
    rw [run_aggregate hagain hpermuted, hother]
    rfl

def writtenTwice : List Literal := ["1.50", "2E0", "-.5", "2"].map Literal.ofText

theorem extremum_is_first_writtenTwice :
    (((evaluate (.call "Max" (writtenTwice.map .literal))).run counting id).run 0).1 =
        .ok { kind := .float, text := "2E0" } ∧
      FirstBy (· > ·) writtenTwice { kind := .float, text := "2E0" } := by
  have hname : LooksFor (uppercase "Max") (· > ·) := by
    have hupper : uppercase "Max" = "MAX" := by decide +kernel
    rw [hupper]
    exact .max
  have hvalues : (((evaluateAll (writtenTwice.map .literal)).run counting id).run 0).1 =
      .ok writtenTwice := by
    decide +kernel
  have hchecked : ∀ value ∈ writtenTwice, value.kind ≠ .string ∧ value.FitsPower := by
    decide +kernel
  have hnumbers : ∀ value ∈ writtenTwice,
      value.Produced ∧ value.kind ≠ .string ∧ value.FitsPower := by
    intro value hmem
    obtain ⟨text, -, rfl⟩ := List.mem_map.mp hmem
    exact ⟨.classified text, hchecked _ hmem⟩
  have hrun : (((evaluate (.call "Max" (writtenTwice.map .literal))).run counting id).run 0).1 =
      .ok { kind := .float, text := "2E0" } := by
    decide +kernel
  obtain ⟨result, hresult, hfirst, -⟩ :=
    extremum_is_first hname (by decide) counting id 0 hvalues hnumbers
  rw [hrun] at hresult
  cases hresult
  exact ⟨hrun, hfirst⟩

end LiveSheet.Formula
