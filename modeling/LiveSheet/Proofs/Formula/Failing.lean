import LiveSheet.Proofs.Formula.Breaking
import LiveSheet.Proofs.Formula.Operands

namespace LiveSheet.Formula

open LiveSheet.Number
open LiveSheet.Text

namespace Expr

section

variable {name : String} {arguments : List Expr}

theorem WellFormed.of_mem_arguments (h : (Expr.call name arguments).WellFormed)
    (hname : uppercase name ≠ externalFunction) : ∀ argument ∈ arguments, argument.WellFormed := by
  cases h with
  | call _ _ harguments => exact harguments
  | bareExternal _ _ => exact List.forall_mem_nil _
  | external _ hexternal _ => exact absurd (namesExternal_iff.mp hexternal) hname

theorem WellFormed.locator (h : (Expr.call name arguments).WellFormed)
    (hname : uppercase name = externalFunction) :
    arguments = [] ∨ ∃ locator, arguments = [.identifier locator] := by
  cases h with
  | call _ hother _ =>
      rw [namesExternal_iff.mpr hname] at hother
      cases hother
  | bareExternal _ _ => exact Or.inl rfl
  | @external _ locator _ _ _ => exact Or.inr ⟨locator, rfl⟩

end

theorem ComesTo.wellFormed {expr part : Expr} {heard : List Exchange}
    (hcomes : expr.ComesTo heard part) (h : expr.WellFormed) : part.WellFormed := by
  induction hcomes with
  | self _ => exact h
  | operand _ ih =>
      cases h with
      | unary _ hoperand _ => exact ih hoperand
  | left _ ih =>
      cases h with
      | binary hleft _ _ _ => exact ih hleft
  | right _ _ ih =>
      cases h with
      | binary _ hright _ _ => exact ih hright
  | inner _ ih =>
      cases h with
      | paren hinner => exact ih hinner
  | argument hname _ _ ih =>
      refine ih (h.of_mem_arguments (Aggregate.ne_external_of_ofName? hname) _ ?_)
      exact List.mem_append_right _ List.mem_cons_self

theorem WellFormed.settled {expr : Expr} (h : expr.WellFormed) {heard : List Exchange}
    {value : Literal} (hends : (evaluate expr).Ends heard (.ok value)) : value.Settled :=
  h.always_settled.ends hends

theorem settled_of_evaluateAll {arguments : List Expr}
    (h : ∀ argument ∈ arguments, argument.WellFormed) {heard : List Exchange}
    {values : List Literal} (hends : (evaluateAll arguments).Ends heard (.ok values)) :
    ∀ value ∈ values, value.Settled :=
  (always_evaluateAll fun argument hmem => (h argument hmem).always_settled).ends hends

end Expr

namespace Expr

/-- Whether an evaluation that has heard these texts has come to MIN or MAX with this value
among the arguments. -/
def Picks (expr : Expr) (heard : List Exchange) (value : Literal) : Prop :=
  ∃ before own name arguments values, heard = before ++ own ∧
    expr.ComesTo before (.call name arguments) ∧
    (uppercase name = "MIN" ∨ uppercase name = "MAX") ∧
    (evaluateAll arguments).Ends own (.ok values) ∧ value ∈ values

/-- A failure that is left to a tree that was parsed.  A number is found invalid by MIN and
MAX alone, if it is none or its power of ten is out of bounds. -/
structure MayFail (expr : Expr) (heard : List Exchange) (error : EvalError) : Prop where
  valid : error ≠ .invalidNode
  bare : error ≠ .invalidCall .notALocator
  single : ∀ count, error = .invalidCall (.locatorCount count) → count = 0
  unmeasured : ∀ text, error = .invalidNumber text → ∃ value, expr.Picks heard value ∧
    value.text = text ∧ (value.kind = .string ∨ value.IsNumber ∧ ¬ value.FitsPower)

section

variable {expr : Expr} {heard : List Exchange}

theorem mayFail_arithmetic {error : EvalError}
    (h : error = .divisionByZero ∨ error = .overflow) : expr.MayFail heard error := by
  rcases h with rfl | rfl <;> exact ⟨nofun, nofun, nofun, nofun⟩

theorem mayFail_noLocator : expr.MayFail heard (.invalidCall (.locatorCount 0)) where
  valid := nofun
  bare := nofun
  single _ hcount := by
    cases hcount
    rfl
  unmeasured := nofun

end

theorem ofName?_picks {name : String} {aggregate : Aggregate}
    (hname : Aggregate.ofName? name = some aggregate)
    (hpicks : aggregate = .min ∨ aggregate = .max) : name = "MIN" ∨ name = "MAX" := by
  unfold Aggregate.ofName? at hname
  grind

theorem Breaks.mayFail {expr part : Expr} {before own : List Exchange} {error : EvalError}
    (hbreaks : part.Breaks own error) (h : part.WellFormed) (hcomes : expr.ComesTo before part) :
    expr.MayFail (before ++ own) error := by
  cases hbreaks with
  | sign hoperand hfails =>
      cases h with
      | unary _ hwell _ =>
          obtain ⟨-, rfl⟩ | ⟨-, harithmetic⟩ :=
            applySign_refuses (hwell.settled hoperand).readable hfails
          · exact ⟨nofun, nofun, nofun, nofun⟩
          · exact mayFail_arithmetic harithmetic
  | operator hleft hright hfails =>
      cases h with
      | binary hwell hother _ _ =>
          cases apply_refuses (hwell.settled hleft).readable (hother.settled hright).readable
            hfails with
          | left _ | right _ _ => exact ⟨nofun, nofun, nofun, nofun⟩
          | divisionByZero _ _ => exact mayFail_arithmetic (Or.inl rfl)
          | overflow _ _ => exact mayFail_arithmetic (Or.inr rfl)
  | locator hname hfails =>
      obtain rfl | ⟨locator, rfl⟩ := h.locator hname
      · cases hfails
        exact mayFail_noLocator
      · cases hfails
  | unknown _ _ => exact ⟨nofun, nofun, nofun, nofun⟩
  | aggregate hname harguments hfails =>
      have hvalues := settled_of_evaluateAll
        (h.of_mem_arguments (Aggregate.ne_external_of_ofName? hname)) harguments
      cases applyAggregate_refuses hvalues hfails with
      | noArguments _ _ => exact ⟨nofun, nofun, nofun, nofun⟩
      | text _ _ _ => exact ⟨nofun, nofun, nofun, nofun⟩
      | arithmetic _ harithmetic => exact mayFail_arithmetic harithmetic
      | @unmeasured value hpicks hmem hwhy =>
          refine ⟨nofun, nofun, nofun, fun text htext => ?_⟩
          cases htext
          exact ⟨value, ⟨before, own, _, _, _, rfl, hcomes, ofName?_picks hname hpicks,
            harguments, hmem⟩, rfl, hwhy⟩
  | invalid => cases h

end Expr

def DispatchedExternally (name : String) : Prop :=
  ∀ arguments, evaluate (.call name arguments) = askLocator arguments

theorem dispatchedExternally_iff {name : String} :
    DispatchedExternally name ↔ namesExternal name = true := by
  rw [namesExternal_iff]
  refine ⟨fun h => ?_, fun h arguments => evaluate_external h⟩
  by_contra hname
  have hnone := h []
  cases hfunction : Aggregate.ofName? (uppercase name) with
  | none =>
      rw [evaluate_unknown hname hfunction] at hnone
      cases hnone
  | some aggregate =>
      rw [evaluate_aggregate hfunction, evaluateAll] at hnone
      cases hnone

theorem Spells.namesExternal {chars last : List Char} {words : List Word}
    (h : Spells chars words last) {name locator : String}
    (hmem : .external name locator ∈ words) : namesExternal name = true := by
  induction h with
  | done _ => cases hmem
  | token _ _ _ ih =>
      exact ih ((List.mem_cons.mp hmem).resolve_left fun hword => Word.noConfusion hword)
  | external _ hname _ _ ih =>
      rcases List.mem_cons.mp hmem with hword | hmem
      · cases hword
        exact hname
      · exact ih hmem

/-- A call is spelt with its locator as it stands just if it is carried out as one of the
external function, whatever letters its name is written with. -/
theorem words_of_parse {body : String} {expr : Expr} (hparse : parse body = .ok expr) :
    (lexemes body).1.map Lexeme.word = expr.words ∧
      (∀ name locator, .external name locator ∈ expr.words → DispatchedExternally name) ∧
      ∀ name, [.token (.identifier name), .token .openParen] <:+: expr.words →
        ¬ DispatchedExternally name := by
  obtain ⟨-, -, rest, hspells, hrest⟩ := parse_eq_ok_iff.mp hparse
  refine ⟨?_, fun name locator hmem => ?_, fun name hinfix => ?_⟩
  · obtain ⟨read, position, hread, hwords⟩ :=
      hspells.lexemesWithin hrest 0 (Nat.lt_succ_self body.toList.length)
    rw [lexemes, hread, hwords]
  · exact dispatchedExternally_iff.mpr (hspells.namesExternal hmem)
  · obtain ⟨front, back, hwords⟩ := hinfix
    rw [← hwords, List.append_assoc] at hspells
    obtain ⟨behind, hcall⟩ := hspells.exists_behind
    rw [dispatchedExternally_iff, Spells.not_namesExternal hcall]
    exact Bool.false_ne_true

/-- A parsed formula fails as it may, unless a request is refused, and no operand that is a
number is one that an operator cannot read.  The parser and the dispatcher agree on what a
call of the external function is. -/
theorem parsed_fails_only {body : String} {expr : Expr} (hparse : parse body = .ok expr)
    (answer : Request → StateM σ (Except ε String)) (fail : EvalError → ε) (state : σ) :
    (∀ error, (((evaluate expr).run answer fail).run state).1 = .error error →
      (∃ request, ((evaluate expr).exchanges answer state).getLast? =
        some (request, .error error)) ∨
      ∃ heard own, (evaluate expr).exchanges answer state =
          heard.map (Prod.map id Except.ok) ∧
        error = fail own ∧ expr.MayFail heard own) ∧
    (∀ before part own value, expr.ComesTo before part →
      (evaluate part).Ends own (.ok value) → value.Readable) ∧
    (lexemes body).1.map Lexeme.word = expr.words ∧
    (∀ name locator, .external name locator ∈ expr.words → DispatchedExternally name) ∧
    (∀ name, [.token (.identifier name), .token .openParen] <:+: expr.words →
      ¬ DispatchedExternally name) := by
  have hwell := (parse_eq_ok_iff.mp hparse).1
  refine ⟨fun error herror => ?_, fun before part own value hcomes hends => ?_,
    words_of_parse hparse⟩
  · refine (Evaluation.run_fails herror).imp id ?_
    rintro ⟨heard, own, hheard, rfl, hends⟩
    obtain ⟨before, late, part, rfl, hcomes, hbreaks⟩ := hwell.failsWith hends
    exact ⟨before ++ late, own, hheard, rfl,
      hbreaks.mayFail (hcomes.wellFormed hwell) hcomes⟩
  · exact ((hcomes.wellFormed hwell).settled hends).readable

def outOfBounds : Expr :=
  .binary .sub (.call "external_ref" [.identifier "h"])
    (.call "Min" [.literal { kind := .int, text := "2" },
      .literal { kind := .float, text := "1e9223372036854775809" }])

theorem parsed_fails_only_outOfBounds :
    parse "external_ref( h )-Min(2,1e9223372036854775809)" = .ok outOfBounds ∧
      (((evaluate outOfBounds).run counting id).run 0).1 =
        .error (.invalidNumber "1e9223372036854775809") ∧
      ∃ heard value, outOfBounds.Picks heard value ∧ value.text = "1e9223372036854775809" := by
  have hparse : parse "external_ref( h )-Min(2,1e9223372036854775809)" = .ok outOfBounds := rfl
  have herror : (((evaluate outOfBounds).run counting id).run 0).1 =
      .error (.invalidNumber "1e9223372036854775809") := by
    decide +kernel
  have hexchanges : (evaluate outOfBounds).exchanges counting 0 = [(.external "h", .ok "0")] := by
    decide +kernel
  refine ⟨hparse, herror, ?_⟩
  obtain ⟨request, hlast⟩ | ⟨heard, own, -, rfl, hmay⟩ :=
    (parsed_fails_only hparse counting id 0).1 _ herror
  · rw [hexchanges] at hlast
    cases hlast
  · obtain ⟨value, hpicks, htext, -⟩ := hmay.unmeasured _ rfl
    exact ⟨heard, value, hpicks, htext⟩

end LiveSheet.Formula
