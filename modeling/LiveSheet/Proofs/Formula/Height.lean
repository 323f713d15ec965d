import LiveSheet.Proofs.Formula.Acceptance

namespace LiveSheet.Formula

open LiveSheet.Text

/-! The height that the parsers track is that of the tree, but for calls of the external
function with nothing between their parentheses, which are taken for two levels. -/

namespace Expr

inductive StandsAt (part : Expr) : Nat → Expr → Prop where
  | whole : StandsAt part 1 part
  | operand {level : Nat} {op : Operator} {operand : Expr} (h : StandsAt part level operand) :
      StandsAt part (level + 1) (.unary op operand)
  | left {level : Nat} {op : Operator} {left right : Expr} (h : StandsAt part level left) :
      StandsAt part (level + 1) (.binary op left right)
  | right {level : Nat} {op : Operator} {left right : Expr} (h : StandsAt part level right) :
      StandsAt part (level + 1) (.binary op left right)
  | inner {level : Nat} {inner : Expr} (h : StandsAt part level inner) :
      StandsAt part (level + 1) (.paren inner)
  | argument {level : Nat} {name : String} {arguments : List Expr} {argument : Expr}
      (h : StandsAt part level argument) (hmem : argument ∈ arguments) :
      StandsAt part (level + 1) (.call name arguments)

/-- Whether a call of the external function with nothing between its parentheses stands at
the last level of a tree. -/
def EndsBare (expr : Expr) : Prop :=
  ∃ name, namesExternal name = true ∧ (Expr.call name []).StandsAt expr.height expr

theorem height_call (name : String) (arguments : List Expr) :
    (Expr.call name arguments).height = maxHeight arguments + 1 := by
  rw [height]

theorem height_bareCall (name : String) : (Expr.call name []).height = 1 := rfl

theorem height_located (name locator : String) :
    (Expr.call name [.identifier locator]).height = 2 := rfl

section

variable {op : Operator} {left right inner : Expr}

theorem EndsBare.unary (h : inner.EndsBare) : (Expr.unary op inner).EndsBare := by
  obtain ⟨name, hname, hstands⟩ := h
  refine ⟨name, hname, ?_⟩
  rw [height]
  exact hstands.operand

theorem EndsBare.paren (h : inner.EndsBare) : (Expr.paren inner).EndsBare := by
  obtain ⟨name, hname, hstands⟩ := h
  refine ⟨name, hname, ?_⟩
  rw [height]
  exact hstands.inner

theorem EndsBare.binary_left (h : left.EndsBare) (hheight : right.height ≤ left.height) :
    (Expr.binary op left right).EndsBare := by
  obtain ⟨name, hname, hstands⟩ := h
  refine ⟨name, hname, ?_⟩
  rw [height, Nat.max_eq_left hheight]
  exact hstands.left

theorem EndsBare.binary_right (h : right.EndsBare) (hheight : left.height ≤ right.height) :
    (Expr.binary op left right).EndsBare := by
  obtain ⟨name, hname, hstands⟩ := h
  refine ⟨name, hname, ?_⟩
  rw [height, Nat.max_eq_right hheight]
  exact hstands.right

theorem EndsBare.call {name : String} {arguments : List Expr} {argument : Expr}
    (h : argument.EndsBare) (hmem : argument ∈ arguments)
    (hheight : argument.height = maxHeight arguments) :
    (Expr.call name arguments).EndsBare := by
  obtain ⟨bare, hbare, hstands⟩ := h
  refine ⟨bare, hbare, ?_⟩
  rw [height_call, ← hheight]
  exact hstands.argument hmem

end

theorem StandsAt.level_add_nesting_le {part expr : Expr} {level : Nat}
    (h : part.StandsAt level expr) (hwell : expr.WellFormed) :
    level + part.nesting ≤ expr.nesting + 1 := by
  induction h with
  | whole => omega
  | operand _ ih =>
      cases hwell with
      | unary _ hoperand _ =>
          have hlower := ih hoperand
          rw [nesting_unary]
          omega
  | left _ ih =>
      cases hwell with
      | binary hleft _ _ _ =>
          have hlower := ih hleft
          rw [nesting_binary]
          omega
  | right _ ih =>
      cases hwell with
      | binary _ hright _ _ =>
          have hlower := ih hright
          rw [nesting_binary]
          omega
  | inner _ ih =>
      cases hwell with
      | paren hinner =>
          have hlower := ih hinner
          rw [nesting_paren]
          omega
  | argument hstands hmem ih =>
      cases hwell with
      | call _ hname harguments =>
          have hlower := ih (harguments _ hmem)
          have hle := nesting_le_maxArgumentNesting hmem
          rw [nesting_call hname]
          omega
      | bareExternal _ _ => cases hmem
      | external _ hname _ =>
          -- A locator has no parts.
          obtain rfl := List.mem_singleton.mp hmem
          cases hstands
          rw [nesting_external hname, nesting]

/-- The tracked height never falls short, and only exceeds that of the tree by the level that
a bare call is given too much. -/
structure Tracks (expr : Expr) : Prop where
  height_le : expr.height ≤ expr.nesting
  bare : expr.nesting ≠ expr.height → expr.nesting = expr.height + 1 ∧ expr.EndsBare

theorem tracks_arguments {arguments : List Expr} (h : ∀ argument ∈ arguments, argument.Tracks) :
    maxHeight arguments ≤ maxArgumentNesting arguments ∧
      (maxArgumentNesting arguments ≠ maxHeight arguments →
        maxArgumentNesting arguments = maxHeight arguments + 1 ∧
          ∃ argument ∈ arguments, argument.height = maxHeight arguments ∧ argument.EndsBare) := by
  induction arguments with
  | nil => exact ⟨Nat.le_refl _, fun hne => absurd rfl hne⟩
  | cons first rest ih =>
      obtain ⟨hrest, hbareRest⟩ :=
        ih fun argument hmem => h argument (List.mem_cons_of_mem _ hmem)
      obtain ⟨hfirst, hbareFirst⟩ := h first List.mem_cons_self
      rw [maxHeight, maxArgumentNesting]
      refine ⟨by omega, fun hne => ?_⟩
      by_cases htallest : maxHeight rest ≤ first.height ∧ first.nesting ≠ first.height
      · obtain ⟨hnesting, hbare⟩ := hbareFirst htallest.2
        exact ⟨by omega, first, List.mem_cons_self, by omega, hbare⟩
      · obtain ⟨hnesting, argument, hmem, hheight, hbare⟩ := hbareRest (by omega)
        exact ⟨by omega, argument, List.mem_cons_of_mem _ hmem, by omega, hbare⟩

theorem WellFormed.tracks {expr : Expr} (h : expr.WellFormed) : expr.Tracks := by
  induction h with
  | number | identifier => exact ⟨Nat.le_refl _, fun hne => absurd rfl hne⟩
  | @unary op operand _ _ _ ih =>
      have hnesting := nesting_unary op operand
      obtain ⟨hle, hbare⟩ := ih
      refine ⟨by rw [height]; omega, fun hne => ?_⟩
      rw [height] at hne ⊢
      obtain ⟨hlower, hends⟩ := hbare (by omega)
      exact ⟨by omega, hends.unary⟩
  | @binary op left right _ _ _ _ ihLeft ihRight =>
      have hnesting := nesting_binary op left right
      obtain ⟨hleft, hbareLeft⟩ := ihLeft
      obtain ⟨hright, hbareRight⟩ := ihRight
      refine ⟨by rw [height]; omega, fun hne => ?_⟩
      rw [height] at hne ⊢
      by_cases htallest : right.height ≤ left.height ∧ left.nesting ≠ left.height
      · obtain ⟨hlower, hends⟩ := hbareLeft htallest.2
        exact ⟨by omega, hends.binary_left htallest.1⟩
      · obtain ⟨hlower, hends⟩ := hbareRight (by omega)
        exact ⟨by omega, hends.binary_right (by omega)⟩
  | @paren inner _ ih =>
      have hnesting := nesting_paren inner
      obtain ⟨hle, hbare⟩ := ih
      refine ⟨by rw [height]; omega, fun hne => ?_⟩
      rw [height] at hne ⊢
      obtain ⟨hlower, hends⟩ := hbare (by omega)
      exact ⟨by omega, hends.paren⟩
  | @call name arguments _ hname _ ih =>
      obtain ⟨hle, hbare⟩ := tracks_arguments ih
      refine ⟨by rw [height_call, nesting_call hname]; omega, fun hne => ?_⟩
      rw [height_call, nesting_call hname] at hne ⊢
      obtain ⟨hlower, argument, hmem, hheight, hends⟩ := hbare (by omega)
      exact ⟨by omega, hends.call hmem hheight⟩
  | @bareExternal name _ hname =>
      have hnesting := @nesting_external name [] hname
      have hheight := height_bareCall name
      exact ⟨by omega, fun _ => ⟨by omega, name, hname, .whole⟩⟩
  | @external name locator _ hname _ =>
      have hnesting := @nesting_external name [.identifier locator] hname
      have hheight := height_located name locator
      exact ⟨by omega, fun hne => absurd (hnesting.trans hheight.symm) hne⟩

theorem WellFormed.nesting_cases {expr : Expr} (h : expr.WellFormed) :
    expr.nesting = expr.height ∧ ¬expr.EndsBare ∨
      expr.nesting = expr.height + 1 ∧ expr.EndsBare := by
  by_cases hbare : expr.EndsBare
  · obtain ⟨name, hname, hstands⟩ := hbare
    have hlevel := hstands.level_add_nesting_le h
    rw [nesting_external hname] at hlevel
    exact .inr (h.tracks.bare (by omega))
  · refine .inl ⟨by_contra fun hne => hbare (h.tracks.bare hne).2, hbare⟩

end Expr

/-- What the parsers build from a lexeme on, with any depth left, among it what a chain has
after some of its operators. -/
inductive BuiltFrom (ending : Ending) (whole : List Lexeme) : Node → Prop where
  | unary {lexemes rest : List Lexeme} {depth : Nat} {node : Node} (hbehind : lexemes <:+ whole)
      (h : unary ending depth lexemes = .ok (node, rest)) : BuiltFrom ending whole node
  | primary {lexemes rest : List Lexeme} {depth : Nat} {node : Node}
      (hbehind : lexemes <:+ whole)
      (h : primary ending (sum ending (unary ending depth)) lexemes = .ok (node, rest)) :
      BuiltFrom ending whole node
  | call {lexemes rest : List Lexeme} {depth start opening : Nat} {name : String} {node : Node}
      (hbehind : .token start (.identifier name) :: .token opening .openParen :: lexemes <:+ whole)
      (h : call ending (sum ending (unary ending depth)) name lexemes = .ok (node, rest)) :
      BuiltFrom ending whole node
  | product {lexemes behind rest : List Lexeme} {depth bound : Nat} {first node : Node}
      (hbehind : lexemes <:+ whole) (hfirst : unary ending depth lexemes = .ok (first, behind))
      (h : operatorTail ending (unary ending depth) Operator.isMultiplicative bound first behind =
        .ok (node, rest)) : BuiltFrom ending whole node
  | sum {lexemes behind rest : List Lexeme} {depth bound : Nat} {first node : Node}
      (hbehind : lexemes <:+ whole)
      (hfirst : operatorChain ending (unary ending depth) Operator.isMultiplicative lexemes =
        .ok (first, behind))
      (h : operatorTail ending (operatorChain ending (unary ending depth)
        Operator.isMultiplicative) Operator.isAdditive bound first behind = .ok (node, rest)) :
      BuiltFrom ending whole node

def Built (source : String) : Node → Prop :=
  BuiltFrom (lexemes source).2 (lexemes source).1

section

variable {ending : Ending} {level : Nat} {lexemes rest whole : List Lexeme}

theorem Spelt.of_suffix (h : Spelt whole) (hbehind : lexemes <:+ whole) : Spelt lexemes := by
  obtain ⟨front, rfl⟩ := hbehind
  exact h.behind

theorem BuiltFrom.exists_expr {node : Node} (hspelt : Spelt whole)
    (h : BuiltFrom ending whole node) :
    ∃ expr : Expr, node = expr.node ∧ expr.WellFormed ∧ expr.nesting ≤ maxNesting := by
  have hunary := @unary_sound ending
  have hsum depth := sum_sound (hunary depth)
  have hfits : ∀ {level lexemes rest},
      (∃ expr, node = expr.node ∧ Accepts ending level expr lexemes rest) →
        ∃ expr : Expr, node = expr.node ∧ expr.WellFormed ∧ expr.nesting ≤ maxNesting :=
    fun ⟨expr, hnode, haccepts⟩ => ⟨expr, hnode, haccepts.wellFormed, haccepts.bounded⟩
  cases h with
  | unary hbehind h => exact hfits (hunary _ _ _ _ (hspelt.of_suffix hbehind) h)
  | primary hbehind h => exact hfits (primary_sound (hsum _) _ _ _ (hspelt.of_suffix hbehind) h)
  | @call _ _ _ start opening _ _ hbehind h =>
      have hcall := hspelt.of_suffix hbehind
      exact hfits (call_sound (hsum _) hcall.standsAlone hcall.not_namesExternal hcall.tail.tail
        h start opening)
  | product hbehind hfirst h =>
      exact hfits (operatorTail_sound isMultiplicative_iff (hunary _)
        (hspelt.of_suffix hbehind) hfirst h)
  | sum hbehind hfirst h =>
      exact hfits (operatorTail_sound isAdditive_iff
        (operatorChain_sound isMultiplicative_iff (hunary _)) (hspelt.of_suffix hbehind) hfirst h)

end

structure IsTreeOf (source : String) (expr : Expr) : Prop where
  wellFormed : expr.WellFormed
  spells : ∃ rest, Spells source.toList expr.words rest ∧ rest.dropWhile isBlank = []

theorem Expr.WellFormed.isTreeOf_text {expr : Expr} (h : expr.WellFormed) :
    IsTreeOf expr.text expr :=
  ⟨h, [], h.spells_text, rfl⟩

theorem spelt_lexemes (source : String) : Spelt (lexemes source).1 := by
  obtain ⟨rest, hspells, -⟩ := lexemesWithin_spells 0 (Nat.lt_succ_self source.toList.length)
  exact ⟨_, _, hspells⟩

/-- The tracked height decides whether a source is parsed. -/
theorem IsTreeOf.parse_cases {source : String} {expr : Expr} (h : IsTreeOf source expr) :
    expr.nesting ≤ maxNesting ∧ parse source = .ok expr ∨
      maxNesting < expr.nesting ∧ StopsDeep (parse source) := by
  obtain ⟨rest, hspells, hrest⟩ := h.spells
  rcases parse_yields h.wellFormed hspells hrest with hparse | ⟨hdeep, hstops⟩
  · exact .inl ⟨(parse_eq_ok_iff.mp hparse).2.1, hparse⟩
  · exact .inr ⟨Nat.not_le.mp hdeep, hstops⟩

/-- The height that a subtree is tracked with is its own, or one more if it ends with a bare
call of the external function.  A source is parsed to its tree while the height that is
tracked for it is within the limit, and otherwise refused for the limit. -/
theorem height_tracked (source : String) :
    (∀ node, Built source node → node.height ≤ maxNesting ∧
      (node.height = node.expr.height ∧ ¬node.expr.EndsBare ∨
        node.height = node.expr.height + 1 ∧ node.expr.EndsBare)) ∧
    (∀ expr, parse source = .ok expr → expr.height ≤ maxNesting) ∧
    ∀ expr, IsTreeOf source expr →
      (expr.height < maxNesting ∨ expr.height = maxNesting ∧ ¬expr.EndsBare →
        parse source = .ok expr) ∧
      (maxNesting < expr.height ∨ expr.height = maxNesting ∧ expr.EndsBare →
        StopsDeep (parse source)) := by
  refine ⟨fun node hbuilt => ?_, fun expr hparse => ?_, fun expr htree => ?_⟩
  · obtain ⟨expr, rfl, hwell, hbounded⟩ := BuiltFrom.exists_expr (spelt_lexemes source) hbuilt
    exact ⟨hbounded, hwell.nesting_cases⟩
  · obtain ⟨hwell, hbounded, -⟩ := parse_eq_ok_iff.mp hparse
    exact Nat.le_trans hwell.tracks.height_le hbounded
  · have hnesting := htree.wellFormed.nesting_cases
    rcases htree.parse_cases with ⟨hfits, hparse⟩ | ⟨hdeep, hstops⟩
    · exact ⟨fun _ => hparse, by grind⟩
    · exact ⟨by grind, fun _ => hstops⟩

theorem height_tracked_negated :
    (∃ node, Built "-(EXTERNAL_REF()*2)" node ∧ node.height = node.expr.height + 1 ∧
      node.expr.EndsBare) ∧ parse mixedTree.text = .ok mixedTree := by
  refine ⟨⟨{ expr := .unary .sub (.paren (.binary .mul (.call "EXTERNAL_REF" [])
    (.literal { kind := .int, text := "2" }))), height := 5 }, ?_⟩, ?_⟩
  · have hbuilt : Built "-(EXTERNAL_REF()*2)" _ :=
      .unary (List.suffix_refl _) (show unary _ maxNesting _ = _ from rfl)
    have htracked := ((height_tracked _).1 _ hbuilt).2
    exact ⟨hbuilt, htracked.resolve_left fun hequal => absurd hequal.1 (by decide)⟩
  · have htree := mixedTree_wellFormed.isTreeOf_text
    exact ((height_tracked _).2.2 mixedTree htree).1 (.inl (by decide))

def Expr.bracketed (expr : Expr) : Nat → Expr
  | 0 => expr
  | pairs + 1 => .paren (expr.bracketed pairs)

theorem Expr.WellFormed.bracketed {expr : Expr} (h : expr.WellFormed) (pairs : Nat) :
    (expr.bracketed pairs).WellFormed := by
  induction pairs with
  | zero => exact h
  | succ pairs ih => exact .paren ih

theorem Expr.height_bracketed (expr : Expr) (pairs : Nat) :
    (expr.bracketed pairs).height = expr.height + pairs := by
  induction pairs with
  | zero => rfl
  | succ pairs ih => rw [bracketed, height, ih, Nat.add_assoc]

theorem Expr.nesting_bracketed (expr : Expr) (pairs : Nat) :
    (expr.bracketed pairs).nesting = expr.nesting + pairs := by
  induction pairs with
  | zero => rfl
  | succ pairs ih => rw [bracketed, nesting_paren, ih, Nat.add_assoc]

def bareCall : Expr :=
  .call externalFunction []

theorem bareCall_wellFormed : bareCall.WellFormed :=
  @Expr.WellFormed.bareExternal externalFunction rfl (by decide)

theorem bareCall_taller : bareCall.height = 1 ∧
    Built "EXTERNAL_REF()" { expr := bareCall, height := 2 } ∧
    IsTreeOf (bareCall.bracketed 255).text (bareCall.bracketed 255) ∧
    (bareCall.bracketed 255).height = maxNesting ∧
    StopsDeep (parse (bareCall.bracketed 255).text) := by
  have htree := (bareCall_wellFormed.bracketed 255).isTreeOf_text
  have hnesting : (bareCall.bracketed 255).nesting = 257 := by
    rw [Expr.nesting_bracketed]
    decide
  refine ⟨rfl, .unary (List.suffix_refl _) (show unary _ maxNesting _ = _ from rfl), htree,
    by rw [Expr.height_bracketed]; rfl, ?_⟩
  rcases htree.parse_cases with ⟨hfits, -⟩ | ⟨-, hstops⟩
  · exact absurd hfits (by rw [hnesting]; decide)
  · exact hstops

end LiveSheet.Formula
