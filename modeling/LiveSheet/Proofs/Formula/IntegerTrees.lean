import LiveSheet.Proofs.Formula.Integers
import LiveSheet.Proofs.Formula.TextOperands

namespace LiveSheet.Formula

open LiveSheet.Text

namespace Expr

inductive OfIntegers : Expr → Prop where
  | literal {literal : Literal} (h : literal.kind = .int) : OfIntegers (.literal literal)
  | cell (name : String) : OfIntegers (.identifier name)
  | unary (op : Operator) {operand : Expr} (h : operand.OfIntegers) :
      OfIntegers (.unary op operand)
  | binary {op : Operator} {left right : Expr} (hop : op ≠ .div) (hleft : left.OfIntegers)
      (hright : right.OfIntegers) : OfIntegers (.binary op left right)
  | paren {inner : Expr} (h : inner.OfIntegers) : OfIntegers (.paren inner)
  | call {name : String} {arguments : List Expr} (hname : uppercase name ∈ ["SUM", "MIN", "MAX"])
      (hsome : arguments ≠ []) (h : ∀ argument ∈ arguments, argument.OfIntegers) :
      OfIntegers (.call name arguments)

mutual

/-- The integer that a tree is by the rules of arithmetic, where its cells are the texts
that are heard. -/
inductive Totals : Expr → List Exchange → Int → Prop where
  | literal {literal : Literal} {value : Int} (h : literal.StandsFor value) :
      Totals (.literal literal) [] value
  | cell {name text : String} {value : Int} (h : (Literal.ofText text).StandsFor value) :
      Totals (.identifier name) [(.cell name, text)] value
  | plus {operand : Expr} {heard : List Exchange} {value : Int} (h : Totals operand heard value) :
      Totals (.unary .add operand) heard value
  | minus {operand : Expr} {heard : List Exchange} {value : Int} (h : Totals operand heard value) :
      Totals (.unary .sub operand) heard (-value)
  | sum {left right : Expr} {first second : List Exchange} {m n : Int}
      (hleft : Totals left first m) (hright : Totals right second n) :
      Totals (.binary .add left right) (first ++ second) (m + n)
  | difference {left right : Expr} {first second : List Exchange} {m n : Int}
      (hleft : Totals left first m) (hright : Totals right second n) :
      Totals (.binary .sub left right) (first ++ second) (m - n)
  | product {left right : Expr} {first second : List Exchange} {m n : Int}
      (hleft : Totals left first m) (hright : Totals right second n) :
      Totals (.binary .mul left right) (first ++ second) (m * n)
  | paren {inner : Expr} {heard : List Exchange} {value : Int} (h : Totals inner heard value) :
      Totals (.paren inner) heard value
  | call {name : String} {arguments : List Expr} {heard : List Exchange} {values : List Int}
      {value : Int} (h : TotalsAll arguments heard values)
      (hgathers : gathered? (uppercase name) values = some value) :
      Totals (.call name arguments) heard value

inductive TotalsAll : List Expr → List Exchange → List Int → Prop where
  | nil : TotalsAll [] [] []
  | cons {first : Expr} {rest : List Expr} {heard later : List Exchange} {value : Int}
      {values : List Int} (hfirst : Totals first heard value) (hrest : TotalsAll rest later values) :
      TotalsAll (first :: rest) (heard ++ later) (value :: values)

end

/-- Whether a tree takes the same texts off the front of what is heard, and is the same
integer, however it is reckoned. -/
def IsUnique (expr : Expr) : Prop :=
  ∀ {heard others rest behind : List Exchange} {value other : Int},
    expr.Totals heard value → expr.Totals others other → heard ++ rest = others ++ behind →
      heard = others ∧ rest = behind ∧ other = value

theorem TotalsAll.unique {arguments : List Expr} (h : ∀ argument ∈ arguments, argument.IsUnique)
    {heard others rest behind : List Exchange} {values otherValues : List Int}
    (htotals : TotalsAll arguments heard values) (hother : TotalsAll arguments others otherValues)
    (hheard : heard ++ rest = others ++ behind) :
    heard = others ∧ rest = behind ∧ otherValues = values := by
  induction arguments generalizing heard others values otherValues with
  | nil =>
      cases htotals
      cases hother
      exact ⟨rfl, hheard, rfl⟩
  | cons argument arguments ih =>
      obtain ⟨hargument, harguments⟩ := List.forall_mem_cons.mp h
      cases htotals with
      | cons hfirst hrest =>
          cases hother with
          | cons hotherFirst hotherRest =>
              rw [List.append_assoc, List.append_assoc] at hheard
              obtain ⟨rfl, hlater, rfl⟩ := hargument hfirst hotherFirst hheard
              obtain ⟨rfl, rfl, rfl⟩ := ih harguments hrest hotherRest hlater
              exact ⟨rfl, rfl, rfl⟩

theorem isUnique_unary (op : Operator) {operand : Expr} (h : operand.IsUnique) :
    (Expr.unary op operand).IsUnique := by
  intro heard others rest behind value other htotals hother hheard
  cases htotals with
  | plus hfirst =>
      cases hother with
      | plus hsecond => exact h hfirst hsecond hheard
  | minus hfirst =>
      cases hother with
      | minus hsecond =>
          obtain ⟨hsame, hbehind, rfl⟩ := h hfirst hsecond hheard
          exact ⟨hsame, hbehind, rfl⟩

theorem isUnique_binary (op : Operator) {left right : Expr} (hleft : left.IsUnique)
    (hright : right.IsUnique) : (Expr.binary op left right).IsUnique := by
  -- The left operand takes its texts first, and then the right one is left with the same.
  have hoperands {first second third fourth rest behind : List Exchange} {m n k l : Int}
      (hm : left.Totals first m) (hn : right.Totals second n) (hk : left.Totals third k)
      (hl : right.Totals fourth l) (hheard : first ++ second ++ rest = third ++ fourth ++ behind) :
      first ++ second = third ++ fourth ∧ rest = behind ∧ k = m ∧ l = n := by
    rw [List.append_assoc, List.append_assoc] at hheard
    obtain ⟨rfl, hlater, rfl⟩ := hleft hm hk hheard
    obtain ⟨rfl, rfl, rfl⟩ := hright hn hl hlater
    exact ⟨rfl, rfl, rfl, rfl⟩
  intro heard others rest behind value other htotals hother hheard
  cases htotals with
  | sum hm hn =>
      cases hother with
      | sum hk hl =>
          obtain ⟨hsame, hbehind, rfl, rfl⟩ := hoperands hm hn hk hl hheard
          exact ⟨hsame, hbehind, rfl⟩
  | difference hm hn =>
      cases hother with
      | difference hk hl =>
          obtain ⟨hsame, hbehind, rfl, rfl⟩ := hoperands hm hn hk hl hheard
          exact ⟨hsame, hbehind, rfl⟩
  | product hm hn =>
      cases hother with
      | product hk hl =>
          obtain ⟨hsame, hbehind, rfl, rfl⟩ := hoperands hm hn hk hl hheard
          exact ⟨hsame, hbehind, rfl⟩

theorem OfIntegers.isUnique {expr : Expr} (h : expr.OfIntegers) : expr.IsUnique := by
  induction h with
  | literal _ =>
      intro heard others rest behind value other htotals hother hheard
      cases htotals with
      | literal hstands =>
          cases hother with
          | literal hotherStands => exact ⟨rfl, hheard, hstands.unique hotherStands⟩
  | cell name =>
      intro heard others rest behind value other htotals hother hheard
      cases htotals with
      | cell hstands =>
          cases hother with
          | cell hotherStands =>
              cases hheard
              exact ⟨rfl, rfl, hstands.unique hotherStands⟩
  | unary op _ ih => exact isUnique_unary op ih
  | binary _ _ _ ihLeft ihRight => exact isUnique_binary _ ihLeft ihRight
  | paren _ ih =>
      intro heard others rest behind value other htotals hother hheard
      cases htotals with
      | paren hfirst =>
          cases hother with
          | paren hsecond => exact ih hfirst hsecond hheard
  | call _ _ _ ih =>
      intro heard others rest behind value other htotals hother hheard
      cases htotals with
      | call hfirst hgathers =>
          cases hother with
          | call hsecond hotherGathers =>
              obtain ⟨hsame, hbehind, rfl⟩ := TotalsAll.unique ih hfirst hsecond hheard
              exact ⟨hsame, hbehind, Option.some.inj (hotherGathers.symm.trans hgathers)⟩

theorem OfIntegers.totals_unique {expr : Expr} (h : expr.OfIntegers) {heard : List Exchange}
    {value other : Int} (htotals : expr.Totals heard value) (hother : expr.Totals heard other) :
    other = value := by
  have hsame : heard ++ [] = heard ++ [] := rfl
  exact (h.isUnique htotals hother hsame).2.2

inductive IsReckoned : Expr → Prop where
  | unary (op : Operator) (operand : Expr) : IsReckoned (.unary op operand)
  | binary (op : Operator) (left right : Expr) : IsReckoned (.binary op left right)
  | sum {name : String} (first second : Expr) (rest : List Expr) (hname : uppercase name = "SUM") :
      IsReckoned (.call name (first :: second :: rest))
  | paren {inner : Expr} (h : inner.IsReckoned) : IsReckoned (.paren inner)

theorem IsReckoned.isCanonical {expr : Expr} (h : expr.IsReckoned) {heard : List Exchange}
    {literal : Literal} (hends : (evaluate expr).Ends heard (.ok literal))
    (hkind : literal.kind = .int) : Literal.IsCanonical literal.text := by
  induction h generalizing heard with
  | unary op operand =>
      rw [evaluate] at hends
      obtain ⟨value, first, second, -, -, hlast⟩ := hends.bind_ok
      exact isCanonical_apply (Evaluation.ends_ofExcept hlast).2 hkind
  | binary op left right =>
      rw [evaluate] at hends
      obtain ⟨first, heard, later, -, -, hends⟩ := hends.bind_ok
      obtain ⟨second, third, fourth, -, -, hlast⟩ := hends.bind_ok
      exact isCanonical_apply (Evaluation.ends_ofExcept hlast).2 hkind
  | sum first second rest hname =>
      have hfunction : Aggregate.ofName? (uppercase _) = some .sum := congrArg _ hname
      rw [evaluate_aggregate hfunction] at hends
      obtain ⟨values, heard, later, -, hvalues, hlast⟩ := hends.bind_ok
      have hlength := (always_length _).ends hvalues
      obtain ⟨value, values, rfl⟩ := List.exists_cons_of_length_eq_add_one hlength
      obtain ⟨next, others, rfl⟩ :=
        List.exists_cons_of_length_eq_add_one (Nat.add_right_cancel hlength)
      exact Aggregate.isCanonical_total (Evaluation.ends_ofExcept hlast).2 hkind
  | paren _ ih =>
      rw [evaluate] at hends
      exact ih hends

def HeardIntegers (heard : List Exchange) : Prop :=
  ∀ exchange ∈ heard, (Literal.ofText exchange.2).kind = .int

theorem HeardIntegers.of_append {first second : List Exchange}
    (h : HeardIntegers (first ++ second)) : HeardIntegers first ∧ HeardIntegers second :=
  List.forall_mem_append.mp h

def IsExact (expr : Expr) : Prop :=
  ∀ heard result, (evaluate expr).Ends heard result → HeardIntegers heard →
    ∃ literal value, result = .ok literal ∧ literal.StandsFor value ∧ expr.Totals heard value

section

variable {heard : List Exchange}

theorem IsExact.bind {expr : Expr} (h : expr.IsExact) {next : Literal → Evaluation α}
    {result : Except EvalError α} (hends : (evaluate expr >>= next).Ends heard result)
    (hheard : HeardIntegers heard) :
    ∃ literal value first second, heard = first ++ second ∧ literal.StandsFor value ∧
      expr.Totals first value ∧ (next literal).Ends second result ∧ HeardIntegers second := by
  obtain ⟨error, -, hfails⟩ | ⟨literal, first, second, rfl, hfirst, hsecond⟩ := hends.bind_cases
  · obtain ⟨literal, value, hresult, -⟩ := h _ _ hfails hheard
    cases hresult
  · obtain ⟨hheardFirst, hheardSecond⟩ := hheard.of_append
    obtain ⟨other, value, hresult, hstands, htotals⟩ := h _ _ hfirst hheardFirst
    cases hresult
    exact ⟨literal, value, first, second, rfl, hstands, htotals, hsecond, hheardSecond⟩

theorem totalsAll_of_evaluateAll {arguments : List Expr}
    (h : ∀ argument ∈ arguments, argument.IsExact) {result : Except EvalError (List Literal)}
    (hends : (evaluateAll arguments).Ends heard result) (hheard : HeardIntegers heard) :
    ∃ literals values, result = .ok literals ∧ List.Forall₂ Literal.StandsFor literals values ∧
      TotalsAll arguments heard values := by
  induction arguments generalizing heard result with
  | nil =>
      rw [evaluateAll] at hends
      cases hends
      exact ⟨[], [], rfl, .nil, .nil⟩
  | cons argument rest ih =>
      obtain ⟨hargument, hrest⟩ := List.forall_mem_cons.mp h
      rw [evaluateAll] at hends
      obtain ⟨literal, value, first, second, rfl, hstands, htotals, hends, hheard⟩ :=
        hargument.bind hends hheard
      obtain ⟨error, -, hfails⟩ | ⟨literals, third, fourth, rfl, hliterals, hdone⟩ :=
        hends.bind_cases
      · obtain ⟨literals, values, hresult, -⟩ := ih hrest hfails hheard
        cases hresult
      · cases hdone
        rw [List.append_nil] at hheard ⊢
        obtain ⟨others, values, hresult, hall, htotalsAll⟩ := ih hrest hliterals hheard
        cases hresult
        exact ⟨literal :: literals, value :: values, rfl, .cons hstands hall,
          .cons htotals htotalsAll⟩

end

theorem isExact_unary {op : Operator} {operand : Expr} (hsign : op.isAdditive = true)
    (h : operand.IsExact) : (Expr.unary op operand).IsExact := by
  intro heard result hends hheard
  rw [evaluate] at hends
  obtain ⟨literal, value, first, second, rfl, hstands, htotals, hlast, -⟩ := h.bind hends hheard
  obtain ⟨rfl, rfl⟩ := Evaluation.ends_ofExcept hlast
  rw [List.append_nil]
  cases op with
  | add =>
      refine ⟨_, value, applySign_integer rfl hstands, ?_, .plus htotals⟩
      have hsum := Literal.standsFor_ofInteger (0 + value)
      rwa [Int.zero_add] at hsum ⊢
  | sub =>
      refine ⟨_, -value, applySign_integer rfl hstands, ?_, .minus htotals⟩
      have hdifference := Literal.standsFor_ofInteger (0 - value)
      rwa [Int.zero_sub] at hdifference ⊢
  | mul | div => cases hsign

theorem isExact_binary {op : Operator} {left right : Expr} (hop : op ≠ .div) (hleft : left.IsExact)
    (hright : right.IsExact) : (Expr.binary op left right).IsExact := by
  intro heard result hends hheard
  rw [evaluate] at hends
  obtain ⟨literal, m, first, second, rfl, hstands, htotals, hends, hheard⟩ :=
    hleft.bind hends hheard
  obtain ⟨other, n, third, fourth, rfl, hotherStands, hotherTotals, hlast, -⟩ :=
    hright.bind hends hheard
  obtain ⟨rfl, rfl⟩ := Evaluation.ends_ofExcept hlast
  rw [List.append_nil]
  cases op with
  | add =>
      exact ⟨_, m + n, apply_integers rfl hstands hotherStands, Literal.standsFor_ofInteger _,
        .sum htotals hotherTotals⟩
  | sub =>
      exact ⟨_, m - n, apply_integers rfl hstands hotherStands, Literal.standsFor_ofInteger _,
        .difference htotals hotherTotals⟩
  | mul =>
      exact ⟨_, m * n, apply_integers rfl hstands hotherStands, Literal.standsFor_ofInteger _,
        .product htotals hotherTotals⟩
  | div => exact absurd rfl hop

theorem isExact_call {name : String} {arguments : List Expr}
    (hname : uppercase name ∈ ["SUM", "MIN", "MAX"]) (hsome : arguments ≠ [])
    (h : ∀ argument ∈ arguments, argument.IsExact) : (Expr.call name arguments).IsExact := by
  intro heard result hends hheard
  obtain ⟨aggregate, hfunction⟩ := exists_aggregate hname
  rw [evaluate_aggregate hfunction] at hends
  obtain ⟨error, -, hfails⟩ | ⟨literals, first, second, rfl, hliterals, hlast⟩ := hends.bind_cases
  · obtain ⟨literals, values, hresult, -⟩ := totalsAll_of_evaluateAll h hfails hheard
    cases hresult
  obtain ⟨rfl, rfl⟩ := Evaluation.ends_ofExcept hlast
  rw [List.append_nil] at hheard ⊢
  obtain ⟨same, values, hresult, hall, htotals⟩ := totalsAll_of_evaluateAll h hliterals hheard
  cases hresult
  have hfull : literals ≠ [] := by
    rintro rfl
    exact hsome (List.length_eq_zero_iff.mp ((always_length _).ends hliterals).symm)
  obtain ⟨literal, value, happly, hstands, hgathers⟩ :=
    applyAggregate_integers hall hname hfunction hfull
  exact ⟨literal, value, happly, hstands, .call htotals hgathers⟩

theorem OfIntegers.isExact {expr : Expr} (h : expr.OfIntegers) (hwell : expr.WellFormed) :
    expr.IsExact := by
  induction h with
  | @literal literal hkind =>
      intro heard result hends _
      rw [evaluate] at hends
      cases hends
      obtain ⟨value, hstands⟩ :=
        Literal.Settled.standsFor (hwell.settled (by rw [evaluate]; exact .done literal)) hkind
      exact ⟨literal, value, rfl, hstands, .literal hstands⟩
  | cell name =>
      intro heard result hends hheard
      rw [evaluate] at hends
      cases hends with
      | @ask _ _ text _ _ hdone =>
          cases hdone
          have hkind := List.forall_mem_singleton.mp hheard
          obtain ⟨value, hstands⟩ := (Literal.settled_ofText text).standsFor hkind
          exact ⟨_, value, rfl, hstands, .cell hstands⟩
  | unary op _ ih =>
      cases hwell with
      | unary hsign hoperand _ => exact isExact_unary hsign (ih hoperand)
  | binary hop _ _ ihLeft ihRight =>
      cases hwell with
      | binary hleft hright _ _ => exact isExact_binary hop (ihLeft hleft) (ihRight hright)
  | paren _ ih =>
      cases hwell with
      | paren hinner =>
          intro heard result hends hheard
          rw [evaluate] at hends
          obtain ⟨literal, value, hresult, hstands, htotals⟩ := ih hinner _ _ hends hheard
          exact ⟨literal, value, hresult, hstands, .paren htotals⟩
  | @call name arguments hname hsome _ ih =>
      have hother : uppercase name ≠ externalFunction := by
        intro hexternal
        rw [hexternal] at hname
        exact absurd hname (by decide)
      have harguments := hwell.of_mem_arguments hother
      exact isExact_call hname hsome fun argument hmem =>
        ih argument hmem (harguments argument hmem)

end Expr

/-- A parsed formula of integers comes to the integer that it is by the rules of arithmetic,
whatever the size of the integers, if each answer that it gets is the text of an integer.
The result of an operator or a sum is written without plus, zeros in front or a minus in
front of a zero. -/
theorem integers_are_exact {body : String} {expr : Expr} (hparse : parse body = .ok expr)
    (hintegers : expr.OfIntegers) (answer : Request → StateM σ (Except ε String))
    (fail : EvalError → ε) (state : σ)
    (hanswers : ∀ exchange ∈ (evaluate expr).exchanges answer state,
      ∃ text, exchange.2 = .ok text ∧ (Literal.ofText text).kind = .int) :
    ∃ heard literal value,
      (evaluate expr).exchanges answer state = heard.map (Prod.map id Except.ok) ∧
        (((evaluate expr).run answer fail).run state).1 = .ok literal ∧
        literal.StandsFor value ∧ expr.Totals heard value ∧
        (∀ other, expr.Totals heard other → other = value) ∧
        (expr.IsReckoned → Literal.IsCanonical literal.text) := by
  have hwell := (parse_eq_ok_iff.mp hparse).1
  obtain ⟨request, error, hlast, -⟩ | ⟨heard, result, hheard, hends, hrun⟩ :=
    (evaluate expr).run_cases answer fail state
  · obtain ⟨text, htext, -⟩ := hanswers _ (List.mem_of_getLast? hlast)
    cases htext
  have hheardIntegers : Expr.HeardIntegers heard := by
    rintro ⟨request, text⟩ hmem
    have hexchange : (request, Except.ok text) ∈ (evaluate expr).exchanges answer state := by
      rw [hheard]
      exact List.mem_map_of_mem hmem
    obtain ⟨same, hsame, hkind⟩ := hanswers _ hexchange
    cases hsame
    exact hkind
  obtain ⟨literal, value, rfl, hstands, htotals⟩ :=
    hintegers.isExact hwell heard result hends hheardIntegers
  exact ⟨heard, literal, value, hheard, hrun, hstands, htotals,
    fun other hother => hintegers.totals_unique htotals hother,
    fun hreckoned => hreckoned.isCanonical hends hstands.kind⟩

def wholeNumbers : Expr :=
  .binary .sub
    (.binary .mul (.unary .sub (.unary .add (.literal { kind := .int, text := "2" })))
      (.call "Sum" [.identifier "c", .paren (.literal { kind := .int, text := "03" })]))
    (.call "max" [.call "MIN" [.identifier "c", .literal { kind := .int, text := "1" }]])

theorem ofIntegers_wholeNumbers : wholeNumbers.OfIntegers := by
  have hname : ∀ name ∈ ["Sum", "MIN", "max"], uppercase name ∈ ["SUM", "MIN", "MAX"] := by
    decide +kernel
  have hleft : (Expr.call "Sum" [.identifier "c",
      .paren (.literal { kind := .int, text := "03" })]).OfIntegers := by
    refine .call (hname _ (by decide)) (List.cons_ne_nil _ _) ?_
    exact List.forall_mem_cons.mpr ⟨.cell "c", List.forall_mem_singleton.mpr (.paren (.literal rfl))⟩
  have hright : (Expr.call "MIN" [.identifier "c",
      .literal { kind := .int, text := "1" }]).OfIntegers := by
    refine .call (hname _ (by decide)) (List.cons_ne_nil _ _) ?_
    exact List.forall_mem_cons.mpr ⟨.cell "c", List.forall_mem_singleton.mpr (.literal rfl)⟩
  have hgreatest := Expr.OfIntegers.call (hname "max" (by decide)) (List.cons_ne_nil _ _)
    (List.forall_mem_singleton.mpr hright)
  have hsigned : (Expr.unary .sub (.unary .add
      (.literal { kind := .int, text := "2" }))).OfIntegers :=
    .unary .sub (.unary .add (.literal rfl))
  exact .binary Operator.noConfusion (.binary Operator.noConfusion hsigned hleft) hgreatest

theorem integers_are_exact_wholeNumbers :
    parse "-+2 * Sum(c, (03)) - max(MIN(c, 1))" = .ok wholeNumbers ∧
      (((evaluate wholeNumbers).run (answering "+007") id).run ()).1 =
        .ok { kind := .int, text := "-21" } ∧
      Literal.StandsFor { kind := .int, text := "-21" } (-21) ∧
      Literal.IsCanonical "-21" ∧ ∃ heard, wholeNumbers.Totals heard (-21) := by
  have hparse : parse "-+2 * Sum(c, (03)) - max(MIN(c, 1))" = .ok wholeNumbers := rfl
  have hrun : (((evaluate wholeNumbers).run (answering "+007") id).run ()).1 =
      .ok { kind := .int, text := "-21" } := by
    decide +kernel
  have hexchanges : (evaluate wholeNumbers).exchanges (answering "+007") () =
      [(.cell "c", .ok "+007"), (.cell "c", .ok "+007")] := by
    decide +kernel
  have hkind : (Literal.ofText "+007").kind = .int := by decide +kernel
  have hanswers : ∀ exchange ∈ (evaluate wholeNumbers).exchanges (answering "+007") (),
      ∃ text, exchange.2 = .ok text ∧ (Literal.ofText text).kind = .int := by
    rw [hexchanges]
    exact List.forall_mem_cons.mpr
      ⟨⟨_, rfl, hkind⟩, List.forall_mem_singleton.mpr ⟨_, rfl, hkind⟩⟩
  obtain ⟨heard, literal, value, -, hresult, hstands, htotals, -, hcanonical⟩ :=
    integers_are_exact hparse ofIntegers_wholeNumbers (answering "+007") id () hanswers
  rw [hrun] at hresult
  cases hresult
  have hvalue : Literal.exactValue { kind := .int, text := "-21" } = ((-21 : Int) : ℚ) := by
    decide +kernel
  obtain rfl : value = -21 := Int.cast_injective (hstands.exact.symm.trans hvalue)
  exact ⟨hparse, hrun, hstands, hcanonical (.binary _ _ _), heard, htotals⟩

end LiveSheet.Formula
