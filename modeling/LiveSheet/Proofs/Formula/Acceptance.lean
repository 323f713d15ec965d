import LiveSheet.Proofs.Formula.Building
import LiveSheet.Proofs.Formula.Parsing

namespace LiveSheet.Formula

open LiveSheet.Text

/-! What a parser accepts is a tree of its level, spelt by the lexemes that it took. -/

def Spelt (lexemes : List Lexeme) : Prop :=
  ∃ chars last, Spells chars (lexemes.map Lexeme.word) last

theorem Spelt.behind {front rest : List Lexeme} (h : Spelt (front ++ rest)) : Spelt rest := by
  obtain ⟨chars, last, hspells⟩ := h
  rw [List.map_append] at hspells
  obtain ⟨behind, hbehind⟩ := hspells.exists_behind
  exact ⟨behind, last, hbehind⟩

theorem Spelt.tail {lexeme : Lexeme} {rest : List Lexeme} (h : Spelt (lexeme :: rest)) :
    Spelt rest :=
  @Spelt.behind [lexeme] rest h

structure Accepts (ending : Ending) (level : Nat) (expr : Expr) (lexemes rest : List Lexeme) :
    Prop where
  taken : ∃ front, lexemes = front ++ rest ∧ front.map Lexeme.word = expr.words
  wellFormed : expr.WellFormed
  binds : level ≤ expr.precedence
  bounded : expr.nesting ≤ maxNesting
  finishes : Finishes ending rest

def Sound (ending : Ending) (parser : Parser Node) (level : Nat) : Prop :=
  ∀ lexemes node rest, Spelt lexemes → parser lexemes = .ok (node, rest) →
    ∃ expr, node = expr.node ∧ Accepts ending level expr lexemes rest

section

variable {ending : Ending} {level : Nat} {lexemes rest : List Lexeme}

theorem Accepts.spelt {expr : Expr} (h : Accepts ending level expr lexemes rest)
    (hspelt : Spelt lexemes) : Spelt rest := by
  obtain ⟨front, rfl, -⟩ := h.taken
  exact hspelt.behind

theorem Accepts.binary {op : Operator} {left right : Expr} {whole : List Lexeme} {offset : Nat}
    (hleft : Accepts ending level left whole (.token offset (.operator op) :: lexemes))
    (hright : Accepts ending (level + 1) right lexemes rest) (hop : op.precedence = level)
    (hheight : max left.nesting right.nesting + 1 ≤ maxNesting) :
    Accepts ending level (.binary op left right) whole rest where
  taken := by
    obtain ⟨front, rfl, hfront⟩ := hleft.taken
    obtain ⟨after, rfl, hafter⟩ := hright.taken
    refine ⟨front ++ .token offset (.operator op) :: after, by simp, ?_⟩
    rw [List.map_append, List.map_cons, hfront, hafter, Expr.words]
    rfl
  wellFormed := by
    refine .binary hleft.wellFormed hright.wellFormed ?_ ?_
    · rw [hop]
      exact hleft.binds
    · rw [hop]
      exact hright.binds
  binds := hop.ge
  bounded := by rwa [Expr.nesting_binary]
  finishes := hright.finishes

theorem operatorTail_accepts {operand : Parser Node} {accepts : Operator → Bool}
    (haccepts : ∀ op, accepts op = true ↔ op.precedence = level)
    (hoperand : Sound ending operand (level + 1)) {bound : Nat} {left : Expr}
    {node : Node} {whole : List Lexeme} (hspelt : Spelt whole)
    (hleft : Accepts ending level left whole lexemes)
    (h : operatorTail ending operand accepts bound left.node lexemes = .ok (node, rest)) :
    ∃ expr, node = expr.node ∧ Accepts ending level expr whole rest := by
  induction bound generalizing left lexemes with
  | zero =>
      rw [operatorTail] at h
      · cases h
        exact ⟨left, rfl, hleft⟩
      · exact fun _ _ _ _ hbound => absurd hbound (by simp)
  | succ bound ih =>
      unfold operatorTail at h
      split at h
      · rename_i hbound
        cases hbound
        split at h
        · rename_i offset op behind hop
          obtain ⟨advanced, hadvance, hoperands⟩ := bind_ok h
          obtain ⟨⟨second, last⟩, hsecond, hbuild⟩ := bind_ok hoperands
          obtain ⟨folded, hfolded, hfold⟩ := bind_ok hbuild
          obtain ⟨rfl, -⟩ := advance_ok hadvance
          obtain ⟨right, rfl, hright⟩ := hoperand _ _ _ (hleft.spelt hspelt).tail hsecond
          obtain ⟨hbuilt, hheight⟩ := build_ok hfolded
          have hnode : folded = (Expr.binary op left right).node := by
            simp only [hbuilt, Expr.node, Expr.nesting_binary]
          rw [hnode] at hfold
          exact ih (hleft.binary hright ((haccepts op).mp hop) hheight) hfold
        · cases h
          exact ⟨left, rfl, hleft⟩
      · cases h
        exact ⟨left, rfl, hleft⟩

theorem Accepts.mono {expr : Expr} {lower : Nat} (h : Accepts ending level expr lexemes rest)
    (hle : lower ≤ level) : Accepts ending lower expr lexemes rest :=
  { h with binds := Nat.le_trans hle h.binds }

theorem operatorTail_sound {operand : Parser Node} {accepts : Operator → Bool}
    (haccepts : ∀ op, accepts op = true ↔ op.precedence = level)
    (hoperand : Sound ending operand (level + 1)) {behind : List Lexeme} {bound : Nat}
    {first node : Node} (hspelt : Spelt lexemes) (hfirst : operand lexemes = .ok (first, behind))
    (h : operatorTail ending operand accepts bound first behind = .ok (node, rest)) :
    ∃ expr, node = expr.node ∧ Accepts ending level expr lexemes rest := by
  obtain ⟨left, rfl, hleft⟩ := hoperand _ _ _ hspelt hfirst
  exact operatorTail_accepts haccepts hoperand hspelt (hleft.mono (Nat.le_succ level)) h

theorem operatorChain_sound {operand : Parser Node} {accepts : Operator → Bool}
    (haccepts : ∀ op, accepts op = true ↔ op.precedence = level)
    (hoperand : Sound ending operand (level + 1)) :
    Sound ending (operatorChain ending operand accepts) level := by
  intro lexemes node rest hspelt h
  obtain ⟨⟨first, behind⟩, hfirst, h⟩ := bind_ok h
  exact operatorTail_sound haccepts hoperand hspelt hfirst h

theorem sum_sound {unary : Parser Node} (hunary : Sound ending unary operandPrecedence) :
    Sound ending (sum ending unary) 1 :=
  operatorChain_sound isAdditive_iff (operatorChain_sound isMultiplicative_iff hunary)

end

section

variable {ending : Ending} {argument : Parser Node} {lexemes rest : List Lexeme}

structure Lists (ending : Ending) (nodes : List Node) (arguments : List Expr) : Prop where
  nodes : nodes = arguments.map Expr.node
  wellFormed : ∀ argument ∈ arguments, argument.WellFormed

theorem argumentTail_sound (hargument : Sound ending argument 1) {bound : Nat}
    {nodes : List Node} (hspelt : Spelt lexemes)
    (h : argumentTail ending argument bound lexemes = .ok (nodes, rest)) :
    ∃ arguments, Lists ending nodes arguments ∧ ∃ front, lexemes = front ++ rest ∧
      front.map Lexeme.word = Expr.furtherWords arguments := by
  induction bound generalizing nodes lexemes with
  | zero =>
      rw [argumentTail] at h
      · cases h
        exact ⟨[], ⟨rfl, List.forall_mem_nil _⟩, [], rfl, rfl⟩
      · exact fun _ _ _ hbound => absurd hbound (by simp)
  | succ bound ih =>
      unfold argumentTail at h
      split at h
      · rename_i comma _ hbound
        cases hbound
        obtain ⟨advanced, hadvance, h⟩ := bind_ok h
        obtain ⟨⟨node, behind⟩, hfirst, h⟩ := bind_ok h
        obtain ⟨⟨others, last⟩, hothers, h⟩ := bind_ok h
        cases h
        obtain ⟨rfl, -⟩ := advance_ok hadvance
        obtain ⟨first, rfl, haccepts⟩ := hargument _ _ _ hspelt.tail hfirst
        obtain ⟨arguments, hlists, front, rfl, hfront⟩ :=
          ih (haccepts.spelt hspelt.tail) hothers
        obtain ⟨before, rfl, hbefore⟩ := haccepts.taken
        refine ⟨first :: arguments, ⟨by rw [hlists.nodes, List.map_cons], ?_⟩,
          .token comma .comma :: (before ++ front), by simp, ?_⟩
        · exact List.forall_mem_cons.mpr ⟨haccepts.wellFormed, hlists.wellFormed⟩
        · rw [List.map_cons, List.map_append, hbefore, hfront, Expr.furtherWords, Lexeme.word]
      · cases h
        exact ⟨[], ⟨rfl, List.forall_mem_nil _⟩, [], rfl, rfl⟩

theorem arguments_sound (hargument : Sound ending argument 1) {nodes : List Node}
    (hspelt : Spelt lexemes)
    (h : Formula.arguments ending argument lexemes = .ok (nodes, rest)) :
    ∃ arguments, Lists ending nodes arguments ∧ ∃ front, lexemes = front ++ rest ∧
      front.map Lexeme.word = Expr.argumentWords arguments := by
  unfold Formula.arguments at h
  split at h
  · cases h
    exact ⟨[], ⟨rfl, List.forall_mem_nil _⟩, [], rfl, rfl⟩
  · obtain ⟨⟨node, behind⟩, hfirst, h⟩ := bind_ok h
    obtain ⟨⟨others, last⟩, hothers, h⟩ := bind_ok h
    cases h
    obtain ⟨first, rfl, haccepts⟩ := hargument _ _ _ hspelt hfirst
    obtain ⟨arguments, hlists, front, rfl, hfront⟩ :=
      argumentTail_sound hargument (haccepts.spelt hspelt) hothers
    obtain ⟨before, rfl, hbefore⟩ := haccepts.taken
    refine ⟨first :: arguments, ⟨by rw [hlists.nodes, List.map_cons], ?_⟩, before ++ front,
      by simp, ?_⟩
    · exact List.forall_mem_cons.mpr ⟨haccepts.wellFormed, hlists.wellFormed⟩
    · rw [List.map_append, hbefore, hfront, Expr.argumentWords]

theorem call_sound (hargument : Sound ending argument 1) {name : String}
    (halone : (Token.identifier name).StandsAlone) (hname : namesExternal name = false)
    {node : Node} (hspelt : Spelt lexemes)
    (h : Formula.call ending argument name lexemes = .ok (node, rest)) (start opening : Nat) :
    ∃ expr, node = expr.node ∧ Accepts ending operandPrecedence expr
      (.token start (.identifier name) :: .token opening .openParen :: lexemes) rest := by
  obtain ⟨⟨nodes, behind⟩, hnodes, h⟩ := bind_ok h
  obtain ⟨closed, hclosed, h⟩ := bind_ok h
  obtain ⟨built, hbuilt, h⟩ := bind_ok h
  cases h
  obtain ⟨arguments, hlists, front, rfl, hfront⟩ := arguments_sound hargument hspelt hnodes
  obtain ⟨closing, rfl, hfinishes⟩ := closeParen_ok hclosed
  obtain ⟨rfl, hheight⟩ := build_ok hbuilt
  have hexprs : nodes.map Node.expr = arguments := by
    rw [hlists.nodes, List.map_map]
    exact List.map_id arguments
  have hnesting : (Expr.call name arguments).nesting = tallest nodes + 1 := by
    rw [Expr.nesting_call hname, hlists.nodes, tallest_map_node]
  refine ⟨.call name arguments, by rw [hexprs, Expr.node, hnesting], ?_, ?_, Nat.le_refl _,
    ?_, hfinishes⟩
  · refine ⟨.token start (.identifier name) :: .token opening .openParen ::
      (front ++ [.token closing .closeParen]), by simp, ?_⟩
    rw [Expr.words_call hname, ← hfront]
    simp [Lexeme.word]
  · exact .call halone hname hlists.wellFormed
  · rwa [hnesting]

end

section

variable {ending : Ending} {lexemes rest : List Lexeme} {expression : Parser Node}

theorem Spelt.standsAlone {offset : Nat} {token : Token}
    (h : Spelt (.token offset token :: lexemes)) : token.StandsAlone := by
  obtain ⟨chars, last, hspells⟩ := h
  exact hspells.standsAlone

theorem Spelt.not_namesExternal {start opening : Nat} {name : String}
    (h : Spelt (.token start (.identifier name) :: .token opening .openParen :: lexemes)) :
    namesExternal name = false := by
  obtain ⟨chars, last, hspells⟩ := h
  exact hspells.not_namesExternal

theorem accepts_leaf {expr : Expr} {offset : Nat} {token : Token} (h : expr.WellFormed)
    (hwords : expr.words = [.token token]) (hprecedence : expr.precedence = operandPrecedence)
    (hnesting : expr.nesting = 1) (hfinishes : Finishes ending rest) :
    Accepts ending operandPrecedence expr (.token offset token :: rest) rest where
  taken := ⟨[.token offset token], rfl, hwords.symm⟩
  wellFormed := h
  binds := hprecedence.ge
  bounded := by rw [hnesting]; decide
  finishes := hfinishes

theorem Accepts.paren {inner : Expr} {opening closing : Nat}
    (h : Accepts ending 1 inner lexemes (.token closing .closeParen :: rest))
    (hheight : inner.nesting + 1 ≤ maxNesting) (hfinishes : Finishes ending rest) :
    Accepts ending operandPrecedence (.paren inner) (.token opening .openParen :: lexemes)
      rest where
  taken := by
    obtain ⟨front, rfl, hfront⟩ := h.taken
    refine ⟨.token opening .openParen :: (front ++ [.token closing .closeParen]), by simp, ?_⟩
    rw [Expr.words, ← hfront]
    simp [Lexeme.word]
  wellFormed := .paren h.wellFormed
  binds := Nat.le_refl _
  bounded := by rwa [Expr.nesting_paren]
  finishes := hfinishes

theorem Accepts.unary {op : Operator} {operand : Expr} {offset : Nat}
    (h : Accepts ending operandPrecedence operand lexemes rest) (hsign : op.isAdditive = true)
    (hheight : operand.nesting + 1 ≤ maxNesting) :
    Accepts ending operandPrecedence (.unary op operand)
      (.token offset (.operator op) :: lexemes) rest where
  taken := by
    obtain ⟨front, rfl, hfront⟩ := h.taken
    exact ⟨.token offset (.operator op) :: front, rfl, by rw [Expr.words, ← hfront]; rfl⟩
  wellFormed := .unary hsign h.wellFormed (Nat.le_antisymm operand.precedence_le h.binds)
  binds := Nat.le_refl _
  bounded := by rwa [Expr.nesting_unary]
  finishes := h.finishes

theorem externalNode_wellFormed {name locator : String}
    (halone : (Token.identifier name).StandsAlone) (hname : namesExternal name = true)
    (htrimmed : trim locator.toList = locator.toList) (hbalanced : Balanced locator.toList) :
    (externalNode name locator).expr.WellFormed := by
  by_cases hempty : locator = ""
  · subst hempty
    exact .bareExternal halone hname
  · rw [externalNode_eq hempty]
    exact .external halone hname ⟨hempty, htrimmed, hbalanced⟩

theorem words_externalNode {name locator : String} (hname : namesExternal name = true) :
    (externalNode name locator).expr.words =
      [.external name locator, .token .closeParen] := by
  by_cases hempty : locator = ""
  · subst hempty
    exact Expr.words_external hname
  · rw [externalNode_eq hempty]
    exact Expr.words_external hname

theorem externalNode_node {name locator : String} (hname : namesExternal name = true) :
    externalNode name locator = (externalNode name locator).expr.node := by
  rw [externalNode, Expr.node, Expr.nesting_external hname]

theorem external_accepts {name locator : String} {offset closing : Nat}
    (hspelt : Spelt (.external offset name locator :: .token closing .closeParen :: rest))
    (hfinishes : Finishes ending rest) :
    ∃ expr, externalNode name locator = expr.node ∧ Accepts ending operandPrecedence expr
      (.external offset name locator :: .token closing .closeParen :: rest) rest := by
  obtain ⟨chars, last, hspells⟩ := hspelt
  obtain ⟨halone, hname, htrimmed, hbalanced⟩ := hspells.external_closed
  refine ⟨_, externalNode_node hname, ?_, ?_, Nat.le_refl _, ?_, hfinishes⟩
  · exact ⟨[.external offset name locator, .token closing .closeParen], rfl,
      (words_externalNode hname).symm⟩
  · exact externalNode_wellFormed halone hname htrimmed hbalanced
  · rw [externalNode, Expr.nesting_external hname]
    decide

theorem primary_sound (hexpression : Sound ending expression 1) :
    Sound ending (primary ending expression) operandPrecedence := by
  intro lexemes node rest hspelt h
  unfold primary at h
  split at h
  · obtain ⟨advanced, hadvance, h⟩ := bind_ok h
    obtain ⟨closed, hclosed, h⟩ := bind_ok h
    cases h
    obtain ⟨rfl, -⟩ := advance_ok hadvance
    obtain ⟨closing, rfl, hfinishes⟩ := closeParen_ok hclosed
    exact external_accepts hspelt hfinishes
  · obtain ⟨advanced, hadvance, hcall⟩ := bind_ok h
    obtain ⟨rfl, -⟩ := advance_ok hadvance
    exact call_sound hexpression hspelt.standsAlone hspelt.not_namesExternal hspelt.tail.tail
      hcall _ _
  · rename_i name behind _
    obtain ⟨advanced, hadvance, h⟩ := bind_ok h
    cases h
    obtain ⟨rfl, hfinishes⟩ := advance_ok hadvance
    exact ⟨.identifier name, rfl, accepts_leaf (.identifier hspelt.standsAlone) rfl rfl rfl
      hfinishes⟩
  · rename_i text behind
    obtain ⟨advanced, hadvance, h⟩ := bind_ok h
    cases h
    obtain ⟨rfl, hfinishes⟩ := advance_ok hadvance
    exact ⟨.literal { kind := .int, text }, rfl,
      accepts_leaf (.number rfl hspelt.standsAlone) rfl rfl rfl hfinishes⟩
  · rename_i text behind
    obtain ⟨advanced, hadvance, h⟩ := bind_ok h
    cases h
    obtain ⟨rfl, hfinishes⟩ := advance_ok hadvance
    exact ⟨.literal { kind := .float, text }, rfl,
      accepts_leaf (.number rfl hspelt.standsAlone) rfl rfl rfl hfinishes⟩
  · rename_i opening behind
    obtain ⟨advanced, hadvance, hinside⟩ := bind_ok h
    obtain ⟨⟨inside, others⟩, hinner, hclose⟩ := bind_ok hinside
    obtain ⟨closed, hclosed, hbuild⟩ := bind_ok hclose
    obtain ⟨built, hbuilt, hlast⟩ := bind_ok hbuild
    cases hlast
    obtain ⟨rfl, -⟩ := advance_ok hadvance
    obtain ⟨inner, rfl, haccepts⟩ := hexpression _ _ _ hspelt.tail hinner
    obtain ⟨closing, rfl, hfinishes⟩ := closeParen_ok hclosed
    obtain ⟨rfl, hheight⟩ := build_ok hbuilt
    exact ⟨.paren inner, by simp only [Expr.node, Expr.nesting_paren],
      haccepts.paren hheight hfinishes⟩
  · cases h

theorem unary_sound (depth : Nat) : Sound ending (unary ending depth) operandPrecedence := by
  induction depth with
  | zero =>
      intro lexemes node rest _ h
      cases h
  | succ depth ih =>
      intro lexemes node rest hspelt h
      unfold unary at h
      split at h
      · rename_i offset op behind
        split at h
        · rename_i hsign
          obtain ⟨advanced, hadvance, hoperands⟩ := bind_ok h
          obtain ⟨⟨held, others⟩, hheld, hbuild⟩ := bind_ok hoperands
          obtain ⟨built, hbuilt, hlast⟩ := bind_ok hbuild
          cases hlast
          obtain ⟨rfl, -⟩ := advance_ok hadvance
          obtain ⟨operand, rfl, haccepts⟩ := ih _ _ _ hspelt.tail hheld
          obtain ⟨rfl, hheight⟩ := build_ok hbuilt
          exact ⟨.unary op operand, by simp only [Expr.node, Expr.nesting_unary],
            haccepts.unary hsign hheight⟩
        · exact primary_sound (sum_sound ih) _ _ _ hspelt h
      · exact primary_sound (sum_sound ih) _ _ _ hspelt h

end

theorem parseLexemes_accepts {ending : Ending} {lexemes : List Lexeme} {expr : Expr}
    (hspelt : Spelt lexemes) (h : parseLexemes ending lexemes = .ok expr) :
    Accepts ending 1 expr lexemes [] := by
  obtain ⟨advanced, hadvance, hsum⟩ := bind_ok h
  obtain ⟨⟨node, rest⟩, hnode, hlast⟩ := bind_ok hsum
  obtain ⟨rfl, -⟩ := advance_ok hadvance
  obtain ⟨built, rfl, haccepts⟩ := sum_sound (unary_sound maxNesting) _ _ _ hspelt hnode
  cases rest with
  | nil =>
      cases hlast
      exact haccepts
  | cons lexeme rest => cases hlast

/-- A source stands for the well-formed trees whose words it is read as, and for no
others. -/
theorem parse_eq_ok_iff {source : String} {expr : Expr} :
    parse source = .ok expr ↔ expr.WellFormed ∧ expr.nesting ≤ maxNesting ∧
      ∃ rest, Spells source.toList expr.words rest ∧ rest.dropWhile isBlank = [] := by
  constructor
  · intro h
    obtain ⟨rest, hspells, hrest⟩ :=
      lexemesWithin_spells 0 (Nat.lt_succ_self source.toList.length)
    have haccepts := parseLexemes_accepts ⟨_, _, hspells⟩ h
    obtain ⟨front, hlexemes, hfront⟩ := haccepts.taken
    obtain ⟨position, hposition⟩ := haccepts.finishes rfl
    refine ⟨haccepts.wellFormed, haccepts.bounded, rest, ?_, hrest position hposition⟩
    rwa [hlexemes, List.append_nil, hfront] at hspells
  · rintro ⟨hwell, hnesting, rest, hspells, hrest⟩
    exact (parse_yields hwell hspells hrest).eq_ok hnesting

/-- Every well-formed tree that is not too tall is parsed from its own text, and a
tree that a source is parsed to is one of them, with the words of the source. -/
theorem parse_exact (expr : Expr) :
    (expr.WellFormed → expr.nesting ≤ maxNesting → parse expr.text = .ok expr) ∧
      ∀ source, parse source = .ok expr →
        expr.WellFormed ∧ expr.nesting ≤ maxNesting ∧
          (Scanner.start source).Reads expr.words := by
  constructor
  · intro hwell hnesting
    exact parse_eq_ok_iff.mpr ⟨hwell, hnesting, [], hwell.spells_text, rfl⟩
  · intro source h
    obtain ⟨hwell, hnesting, rest, hspells, hrest⟩ := parse_eq_ok_iff.mp h
    exact ⟨hwell, hnesting, hspells.reads hrest 0⟩

def mixedTree : Expr :=
  .binary .mul
    (.call "SUM" [.identifier "a", .unary .sub (.literal { kind := .float, text := "1.5e3" })])
    (.paren (.binary .sub (.call "external_ref" [.identifier "http://h/(x)"])
      (.identifier "B")))

theorem mixedTree_wellFormed : mixedTree.WellFormed := by
  refine .binary (.call rfl (by decide) ?_) (.paren (.binary ?_ (.identifier rfl) ?_ ?_)) ?_ ?_
  · intro argument hmem
    rcases List.mem_cons.mp hmem with rfl | hmem
    · exact .identifier rfl
    · rw [List.mem_singleton.mp hmem]
      exact .unary rfl (.number rfl rfl) rfl
  · exact .external rfl (by decide) ⟨by decide, by decide +kernel, by decide +kernel⟩
  all_goals decide

theorem parse_exact_mixedTree :
    parse "SUM ( a , - 1.5e3 ) * ( external_ref ( http://h/(x) ) - B )" = .ok mixedTree ∧
      (Scanner.start "SUM(a,-1.5e3)*(external_ref( http://h/(x) )-B)").Reads mixedTree.words := by
  have htext : mixedTree.text = "SUM ( a , - 1.5e3 ) * ( external_ref ( http://h/(x) ) - B )" := by
    decide +kernel
  have hparse := (parse_exact mixedTree).1 mixedTree_wellFormed (by decide +kernel)
  rw [htext] at hparse
  exact ⟨hparse, ((parse_exact mixedTree).2 _ rfl).2.2⟩

end LiveSheet.Formula
