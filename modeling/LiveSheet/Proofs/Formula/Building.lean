import LiveSheet.Proofs.Formula.Rendering

namespace LiveSheet.Formula

open LiveSheet.Text

/-! Each parser builds the trees of its level from their words, and stops in front of
what does not belong to them.  Nothing but the limit keeps it from doing so. -/

section

variable {α β : Type} {result : Except ParseError α} {next : α → Except ParseError β}
  {fits : Prop}

def StopsDeep (result : Except ParseError α) : Prop :=
  ∃ position, result = .error { fault := .tooDeep, position }

/-- What is expected comes out, or it does not fit and the parser stops at the limit. -/
def Yields (fits : Prop) (result : Except ParseError α) (expected : α) : Prop :=
  result = .ok expected ∨ ¬fits ∧ StopsDeep result

theorem StopsDeep.bind (h : StopsDeep result) : StopsDeep (result >>= next) := by
  obtain ⟨position, rfl⟩ := h
  exact ⟨position, rfl⟩

theorem Yields.bind {first : α} {last : β} (h : Yields fits result first)
    (hnext : Yields fits (next first) last) : Yields fits (result >>= next) last := by
  rcases h with rfl | ⟨hdeep, hstops⟩
  · exact hnext
  · exact .inr ⟨hdeep, hstops.bind⟩

theorem Yields.of_imp {wider : Prop} {expected : α} (h : Yields fits result expected)
    (himp : wider → fits) : Yields wider result expected :=
  h.imp_right fun hdeep => ⟨fun hwider => hdeep.1 (himp hwider), hdeep.2⟩

theorem Yields.eq_ok {expected : α} (h : Yields fits result expected) (hfits : fits) :
    result = .ok expected :=
  h.resolve_right fun hdeep => hdeep.1 hfits

theorem yields_ok {expected : α} : Yields fits (.ok expected) expected :=
  .inl rfl

end

def Expr.node (expr : Expr) : Node :=
  { expr, height := expr.nesting }

def Ends (level : Nat) (rest : List Lexeme) : Prop :=
  ∀ token ∈ found? rest, token ≠ .openParen ∧
    ∀ op, token = .operator op → op.precedence < level

theorem Ends.mono {level higher : Nat} {rest : List Lexeme} (h : Ends level rest)
    (hle : level ≤ higher) : Ends higher rest :=
  fun token htoken => ⟨(h token htoken).1,
    fun op hop => Nat.lt_of_lt_of_le ((h token htoken).2 op hop) hle⟩

theorem ends_nil (level : Nat) : Ends level [] :=
  fun token htoken => absurd htoken (Option.not_mem_none token)

theorem ends_closeParen (level position : Nat) (rest : List Lexeme) :
    Ends level (.token position .closeParen :: rest) := by
  rintro token ⟨⟩
  exact ⟨by simp [Lexeme.head], by simp [Lexeme.head]⟩

theorem ends_comma (level position : Nat) (rest : List Lexeme) :
    Ends level (.token position .comma :: rest) := by
  rintro token ⟨⟩
  exact ⟨by simp [Lexeme.head], by simp [Lexeme.head]⟩

theorem ends_operator {level : Nat} {op : Operator} (h : op.precedence < level)
    (position : Nat) (rest : List Lexeme) :
    Ends level (.token position (.operator op) :: rest) := by
  rintro token ⟨⟩
  refine ⟨by simp [Lexeme.head], fun other hother => ?_⟩
  cases hother
  exact h

/-- Whether a parser takes the words of a tree and builds it, if it has the depth for it. -/
def Builds (parser : Parser Node) (depth level : Nat) (expr : Expr) : Prop :=
  ∀ front rest, front.map Lexeme.word = expr.words → Ends level rest →
    Yields (expr.nesting ≤ depth) (parser (front ++ rest)) (expr.node, rest)

def BuildsAll (parser : Parser Node) (depth level : Nat) : Prop :=
  ∀ expr : Expr, expr.WellFormed → level ≤ expr.precedence → Builds parser depth level expr

theorem Lexeme.word_eq_token {lexeme : Lexeme} {token : Token}
    (h : lexeme.word = .token token) : ∃ position, lexeme = .token position token := by
  cases lexeme with
  | token position read =>
      cases h
      exact ⟨position, rfl⟩
  | external position name locator => cases h

theorem Lexeme.word_eq_external {lexeme : Lexeme} {name locator : String}
    (h : lexeme.word = .external name locator) :
    ∃ position, lexeme = .external position name locator := by
  cases lexeme with
  | token position read => cases h
  | external position name locator =>
      cases h
      exact ⟨position, rfl⟩

theorem exists_token_of_map_word {front : List Lexeme} {token : Token} {words : List Word}
    (h : front.map Lexeme.word = .token token :: words) :
    ∃ position rest, front = .token position token :: rest ∧ rest.map Lexeme.word = words := by
  obtain ⟨first, rest, rfl, hfirst, hrest⟩ := List.map_eq_cons_iff.mp h
  obtain ⟨position, rfl⟩ := Lexeme.word_eq_token hfirst
  exact ⟨position, rest, rfl, hrest⟩

section

variable (position : Nat) (lexemes : List Lexeme)

@[simp] theorem advance_finished : advance (.finished position) lexemes = .ok lexemes := by
  cases lexemes <;> rfl

theorem closeParen_finished (offset : Nat) :
    closeParen (.finished position) (.token offset .closeParen :: lexemes) = .ok lexemes :=
  advance_finished position lexemes

theorem build_yields (expr : Expr) (height : Nat) :
    Yields (height ≤ maxNesting) (build (.finished position) lexemes expr height)
      { expr, height } := by
  rw [build]
  split
  · rename_i hdeep
    exact .inr ⟨Nat.not_le.mpr hdeep, _, rfl⟩
  · exact yields_ok

end

section

variable {position depth level : Nat} {accepts : Operator → Bool} {operand : Parser Node}

theorem operatorTail_of_ends (haccepts : ∀ op, accepts op = true ↔ op.precedence = level)
    (bound : Nat) (left : Node) {rest : List Lexeme} (hrest : Ends level rest) :
    operatorTail (.finished position) operand accepts bound left rest = .ok (left, rest) := by
  unfold operatorTail
  split
  · rename_i op _
    have hlower := (hrest (.operator op) rfl).2 op rfl
    rw [if_neg]
    rw [haccepts]
    omega
  · rfl

theorem operatorChain_eq_tail (haccepts : ∀ op, accepts op = true ↔ op.precedence = level)
    (hlevel : level < operandPrecedence) (hmax : depth ≤ maxNesting)
    (hoperand : BuildsAll operand depth (level + 1)) {expr : Expr} (h : expr.WellFormed)
    (hprecedence : level ≤ expr.precedence) {front rest : List Lexeme}
    (hfront : front.map Lexeme.word = expr.words) (hrest : Ends (level + 1) rest) :
    (∃ bound, rest.length ≤ bound ∧
      operatorChain (.finished position) operand accepts (front ++ rest) =
        operatorTail (.finished position) operand accepts bound expr.node rest) ∨
    ¬expr.nesting ≤ depth ∧
      StopsDeep (operatorChain (.finished position) operand accepts (front ++ rest)) := by
  -- The induction goes down the left operands, which are of the same level.
  induction hheight : expr.nesting using Nat.strong_induction_on
    generalizing expr front rest with
  | _ height ih =>
      subst hheight
      by_cases htight : level < expr.precedence
      · rcases hoperand expr h htight front rest hfront hrest with hread | ⟨hdeep, hstops⟩
        · refine .inl ⟨rest.length, Nat.le_refl _, ?_⟩
          rw [operatorChain, hread]
          rfl
        · exact .inr ⟨hdeep, hstops.bind⟩
      cases h with
      | @binary op left right hleft hright hbindsLeft hbindsRight =>
          have hop : op.precedence = level := Nat.le_antisymm (Nat.not_lt.mp htight) hprecedence
          have hheight := Expr.nesting_binary op left right
          rw [Expr.words] at hfront
          obtain ⟨before, others, rfl, hbefore, hothers⟩ := List.map_eq_append_iff.mp hfront
          obtain ⟨offset, behind, rfl, hbehind⟩ := exists_token_of_map_word hothers
          have hends : Ends (level + 1) (.token offset (.operator op) :: (behind ++ rest)) :=
            ends_operator (by omega) _ _
          rw [List.append_assoc, List.cons_append]
          rcases ih left.nesting (by omega) hleft (by omega) hbefore hends rfl with
            ⟨bound, hbound, hchain⟩ | ⟨hdeep, hstops⟩
          · rw [List.length_cons, List.length_append] at hbound
            obtain ⟨inner, rfl⟩ := Nat.exists_eq_add_of_le' (show 1 ≤ bound by omega)
            have hread := hoperand right hright (by omega) behind rest hbehind hrest
            have hbuild := build_yields position rest (.binary op left right)
              (max left.nesting right.nesting + 1)
            rw [hchain, operatorTail, if_pos ((haccepts op).mpr hop), advance_finished]
            rcases hread with hread | ⟨hdeep, hstops⟩
            · simp only [bind, Except.bind, hread, Expr.node]
              rcases hbuild with hbuild | ⟨hdeep, hstops⟩
              · refine .inl ⟨inner, by omega, ?_⟩
                simp only [hbuild, hheight]
              · exact .inr ⟨by omega, hstops.bind⟩
            · exact .inr ⟨by omega, hstops.bind⟩
          · exact .inr ⟨by omega, hstops⟩
      | _ => exact absurd hlevel (by simpa [Expr.precedence] using htight)

theorem operatorChain_builds (haccepts : ∀ op, accepts op = true ↔ op.precedence = level)
    (hlevel : level < operandPrecedence) (hmax : depth ≤ maxNesting)
    (hoperand : BuildsAll operand depth (level + 1)) :
    BuildsAll (operatorChain (.finished position) operand accepts) depth level := by
  intro expr h hprecedence front rest hfront hrest
  rcases @operatorChain_eq_tail position _ _ _ _ haccepts hlevel hmax hoperand _ h hprecedence
    _ _ hfront (hrest.mono (Nat.le_succ level)) with ⟨bound, -, hchain⟩ | hdeep
  · rw [hchain, operatorTail_of_ends haccepts bound _ hrest]
    exact yields_ok
  · exact .inr hdeep

theorem isMultiplicative_iff (op : Operator) :
    op.isMultiplicative = true ↔ op.precedence = 2 := by
  cases op <;> decide

theorem isAdditive_iff (op : Operator) : op.isAdditive = true ↔ op.precedence = 1 := by
  cases op <;> decide

theorem sum_builds (hmax : depth ≤ maxNesting)
    (hoperand : BuildsAll operand depth operandPrecedence) :
    BuildsAll (sum (.finished position) operand) depth 1 :=
  operatorChain_builds isAdditive_iff (by decide) hmax
    (operatorChain_builds isMultiplicative_iff (by decide) hmax hoperand)

end

section

variable {position depth : Nat} {argument : Parser Node} {arguments : List Expr}

theorem ends_furtherWords {front : List Lexeme} (offset : Nat) (rest : List Lexeme)
    (h : front.map Lexeme.word = Expr.furtherWords arguments) :
    Ends 1 (front ++ .token offset .closeParen :: rest) := by
  cases arguments with
  | nil =>
      rw [List.map_eq_nil_iff.mp h]
      exact ends_closeParen _ _ _
  | cons first others =>
      obtain ⟨comma, behind, rfl, -⟩ := exists_token_of_map_word h
      exact ends_comma _ _ _

theorem argumentTail_builds (harguments : ∀ expr ∈ arguments, Builds argument depth 1 expr)
    {bound offset : Nat} {front rest : List Lexeme}
    (hfront : front.map Lexeme.word = Expr.furtherWords arguments)
    (hbound : front.length ≤ bound) :
    Yields (Expr.maxArgumentNesting arguments ≤ depth)
      (argumentTail (.finished position) argument bound
        (front ++ .token offset .closeParen :: rest))
      (arguments.map Expr.node, .token offset .closeParen :: rest) := by
  induction arguments generalizing bound front with
  | nil =>
      rw [List.map_eq_nil_iff.mp hfront]
      cases bound <;> exact yields_ok
  | cons first others ih =>
      obtain ⟨comma, behind, rfl, hbehind⟩ := exists_token_of_map_word hfront
      obtain ⟨before, after, rfl, hbefore, hafter⟩ := List.map_eq_append_iff.mp hbehind
      rw [List.length_cons, List.length_append] at hbound
      obtain ⟨inner, rfl⟩ := Nat.exists_eq_add_of_le' (show 1 ≤ bound by omega)
      have hfirst := harguments first List.mem_cons_self before _ hbefore
        (ends_furtherWords offset rest hafter)
      have hothers := ih (fun expr hmem => harguments expr (List.mem_cons_of_mem _ hmem))
        hafter (show after.length ≤ inner by omega)
      rw [List.cons_append, List.append_assoc, argumentTail, advance_finished,
        Expr.maxArgumentNesting]
      exact (hfirst.of_imp (by omega)).bind ((hothers.of_imp (by omega)).bind yields_ok)

theorem arguments_builds (harguments : ∀ expr ∈ arguments, expr.WellFormed ∧
      Builds argument depth 1 expr)
    {offset : Nat} {front rest : List Lexeme}
    (hfront : front.map Lexeme.word = Expr.argumentWords arguments) :
    Yields (Expr.maxArgumentNesting arguments ≤ depth)
      (Formula.arguments (.finished position) argument
        (front ++ .token offset .closeParen :: rest))
      (arguments.map Expr.node, .token offset .closeParen :: rest) := by
  cases arguments with
  | nil =>
      rw [List.map_eq_nil_iff.mp hfront]
      exact yields_ok
  | cons first others =>
      obtain ⟨hwell, hbuilds⟩ := harguments first List.mem_cons_self
      obtain ⟨before, after, rfl, hbefore, hafter⟩ := List.map_eq_append_iff.mp hfront
      obtain ⟨word, words, hwords, hword⟩ := hwell.starts
      have hfirst := hbuilds before _ hbefore (ends_furtherWords offset rest hafter)
      have hothers := @argumentTail_builds position _ _ _
        (fun expr hmem => (harguments expr (List.mem_cons_of_mem _ hmem)).2)
        (after ++ .token offset .closeParen :: rest).length offset after rest hafter
        (by simp)
      rw [List.append_assoc, Formula.arguments, Expr.maxArgumentNesting]
      · exact (hfirst.of_imp (by omega)).bind ((hothers.of_imp (by omega)).bind yields_ok)
      -- No tree starts with the parenthesis that closes the call.
      · intro closing behind hshape
        rw [hwords] at hbefore
        obtain ⟨lexeme, others, rfl, rfl, -⟩ := List.map_eq_cons_iff.mp hbefore
        cases hshape
        exact hword rfl

theorem tallest_map_node (arguments : List Expr) :
    tallest (arguments.map Expr.node) = Expr.maxArgumentNesting arguments := by
  induction arguments with
  | nil => rfl
  | cons first rest ih => rw [Expr.maxArgumentNesting, ← ih]; rfl

theorem call_builds {name : String} (hname : namesExternal name = false)
    (harguments : ∀ expr ∈ arguments, expr.WellFormed ∧ Builds argument depth 1 expr)
    {front rest : List Lexeme}
    (hfront : front.map Lexeme.word =
      Expr.argumentWords arguments ++ [.token .closeParen]) :
    Yields ((Expr.call name arguments).nesting ≤ min (depth + 1) maxNesting)
      (Formula.call (.finished position) argument name (front ++ rest))
      ((Expr.call name arguments).node, rest) := by
  obtain ⟨before, closing, rfl, hbefore, hclosing⟩ := List.map_eq_append_iff.mp hfront
  obtain ⟨offset, behind, rfl, hbehind⟩ := exists_token_of_map_word hclosing
  obtain rfl := List.map_eq_nil_iff.mp hbehind
  have hnodes := @arguments_builds position _ _ _ harguments offset before rest hbefore
  have hexprs : (arguments.map Expr.node).map Node.expr = arguments := by
    rw [List.map_map]
    exact List.map_id arguments
  have hbuild := build_yields position rest (.call name arguments)
    (Expr.maxArgumentNesting arguments + 1)
  rw [List.append_assoc, Formula.call, Expr.node, Expr.nesting_call hname]
  refine (hnodes.of_imp (by omega)).bind ?_
  simp only [closeParen_finished, hexprs, tallest_map_node]
  exact (hbuild.of_imp (by omega)).bind yields_ok

end

section

variable {position depth : Nat} {expression : Parser Node} {expr : Expr}

theorem externalNode_eq {name locator : String} (h : locator ≠ "") :
    externalNode name locator =
      { expr := .call name [.identifier locator], height := 2 } := by
  simp [externalNode, h]

theorem primary_external {name locator : String} {front rest : List Lexeme}
    (hfront : front.map Lexeme.word = [.external name locator, .token .closeParen]) :
    primary (.finished position) expression (front ++ rest) =
      .ok (externalNode name locator, rest) := by
  obtain ⟨first, closing, rfl, hfirst, hclosing⟩ := List.map_eq_cons_iff.mp hfront
  obtain ⟨offset, rfl⟩ := Lexeme.word_eq_external hfirst
  obtain ⟨closed, behind, rfl, hbehind⟩ := exists_token_of_map_word hclosing
  obtain rfl := List.map_eq_nil_iff.mp hbehind
  simp only [List.cons_append, List.nil_append, primary, advance_finished, bind, Except.bind,
    closeParen_finished]

theorem primary_number {literal : Literal} {token : Token}
    (hnumber : literal.token? = some token) (offset : Nat) (rest : List Lexeme) :
    primary (.finished position) expression (.token offset token :: rest) =
      .ok ((Expr.literal literal).node, rest) := by
  rcases literal with ⟨_ | _ | _, text⟩ <;> cases hnumber <;>
    simp only [primary, advance_finished, bind, Except.bind] <;> rfl

theorem primary_identifier (name : String) (offset : Nat) {rest : List Lexeme}
    (hrest : Ends operandPrecedence rest) :
    primary (.finished position) expression (.token offset (.identifier name) :: rest) =
      .ok ((Expr.identifier name).node, rest) := by
  rw [primary]
  · simp only [advance_finished, bind, Except.bind]
    rfl
  · rintro opening behind rfl
    exact (hrest .openParen rfl).1 rfl

theorem primary_paren {inner : Expr} (hinner : Builds expression depth 1 inner)
    {front rest : List Lexeme}
    (hfront : front.map Lexeme.word =
      .token .openParen :: (inner.words ++ [.token .closeParen])) :
    Yields ((Expr.paren inner).nesting ≤ min (depth + 1) maxNesting)
      (primary (.finished position) expression (front ++ rest))
      ((Expr.paren inner).node, rest) := by
  obtain ⟨opening, inside, rfl, hinside⟩ := exists_token_of_map_word hfront
  obtain ⟨before, closing, rfl, hbefore, hclosing⟩ := List.map_eq_append_iff.mp hinside
  obtain ⟨offset, behind, rfl, hbehind⟩ := exists_token_of_map_word hclosing
  obtain rfl := List.map_eq_nil_iff.mp hbehind
  have hread := hinner before (.token offset .closeParen :: rest) hbefore
    (ends_closeParen _ _ _)
  have hbuild := build_yields position rest (.paren inner) (inner.nesting + 1)
  rw [List.cons_append, List.append_assoc, primary, Expr.node, Expr.nesting_paren,
    advance_finished]
  refine Yields.bind yields_ok ((hread.of_imp (by omega)).bind ?_)
  simp only [closeParen_finished]
  exact (hbuild.of_imp (by omega)).bind yields_ok

theorem primary_builds (hexpression : BuildsAll expression depth 1) (h : expr.WellFormed)
    (hprecedence : expr.precedence = operandPrecedence)
    (hsign : ∀ op operand, expr ≠ .unary op operand) (hmax : depth + 1 ≤ maxNesting) :
    Builds (primary (.finished position) expression) (depth + 1) operandPrecedence expr := by
  intro front rest hfront hrest
  cases h with
  | @number literal token hnumber _ =>
      rw [Expr.words, hnumber] at hfront
      obtain ⟨offset, behind, rfl, hbehind⟩ := exists_token_of_map_word hfront
      obtain rfl := List.map_eq_nil_iff.mp hbehind
      exact .inl (primary_number hnumber offset rest)
  | @identifier name _ =>
      rw [Expr.words] at hfront
      obtain ⟨offset, behind, rfl, hbehind⟩ := exists_token_of_map_word hfront
      obtain rfl := List.map_eq_nil_iff.mp hbehind
      exact .inl (primary_identifier name offset hrest)
  | unary _ _ _ => exact absurd rfl (hsign _ _)
  | @binary op _ _ _ _ _ _ => exact absurd hprecedence (Nat.ne_of_lt op.precedence_lt)
  | @paren inner hinner =>
      rw [Expr.words] at hfront
      exact (primary_paren (hexpression inner hinner inner.precedence_pos) hfront).of_imp
        (by omega)
  | @call name arguments _ hname harguments =>
      rw [Expr.words_call hname] at hfront
      obtain ⟨offset, inside, rfl, hinside⟩ := exists_token_of_map_word hfront
      obtain ⟨opening, behind, rfl, hbehind⟩ := exists_token_of_map_word hinside
      have hcall := @call_builds position depth expression arguments name hname
        (fun argument hmem => ⟨harguments argument hmem,
          hexpression argument (harguments argument hmem) argument.precedence_pos⟩)
        behind rest hbehind
      rw [List.cons_append, List.cons_append, primary, advance_finished]
      exact Yields.bind yields_ok (hcall.of_imp (by omega))
  | @bareExternal name _ hname =>
      rw [Expr.words_external hname] at hfront
      rw [primary_external hfront, Expr.node, Expr.nesting_external hname]
      exact yields_ok
  | @external name locator _ hname hlocator =>
      rw [Expr.words_external hname] at hfront
      rw [primary_external hfront, Expr.node, Expr.nesting_external hname]
      exact .inl (congrArg (fun node => Except.ok (node, rest))
        (externalNode_eq hlocator.ne_empty))

theorem unary_of_primary {ending : Ending} {lexemes : List Lexeme} {fits : Prop}
    {expected : Node × List Lexeme}
    (h : Yields fits (primary ending (sum ending (unary ending depth)) lexemes) expected) :
    Yields fits (unary ending (depth + 1) lexemes) expected := by
  unfold unary
  split
  · rcases h with h | ⟨-, position, h⟩ <;> cases h
  · exact h

theorem unary_builds (hmax : depth ≤ maxNesting) :
    BuildsAll (unary (.finished position) depth) depth operandPrecedence := by
  induction depth with
  | zero =>
      intro expr h hprecedence front rest hfront hrest
      exact .inr ⟨Nat.not_le.mpr expr.nesting_pos, _, rfl⟩
  | succ depth ih =>
      intro expr h hprecedence front rest hfront hrest
      have hlower := ih (Nat.le_of_succ_le hmax)
      have hequal := Nat.le_antisymm expr.precedence_le hprecedence
      by_cases hsigned : ∃ op operand, expr = .unary op operand
      · obtain ⟨op, operand, rfl⟩ := hsigned
        cases h with
        | unary hsign hoperand hbinds =>
            rw [Expr.words] at hfront
            obtain ⟨offset, behind, rfl, hbehind⟩ := exists_token_of_map_word hfront
            have hread := hlower operand hoperand hbinds.ge behind rest hbehind hrest
            have hbuild := build_yields position rest (.unary op operand)
              (operand.nesting + 1)
            rw [List.cons_append, unary, if_pos hsign, Expr.node, Expr.nesting_unary,
              advance_finished]
            exact Yields.bind yields_ok ((hread.of_imp (by omega)).bind
              ((hbuild.of_imp (by omega)).bind yields_ok))
      · simp only [not_exists] at hsigned
        have hsum : BuildsAll (sum (.finished position) (unary (.finished position) depth))
            depth 1 := sum_builds (Nat.le_of_succ_le hmax) hlower
        exact unary_of_primary (primary_builds hsum h hequal hsigned hmax front rest hfront hrest)

end

theorem parseLexemes_of_words {position : Nat} {lexemes : List Lexeme} {expr : Expr}
    (h : expr.WellFormed) (hwords : lexemes.map Lexeme.word = expr.words) :
    Yields (expr.nesting ≤ maxNesting) (parseLexemes (.finished position) lexemes) expr := by
  have hsum : BuildsAll (sum (.finished position) (unary (.finished position) maxNesting))
      maxNesting 1 := sum_builds (Nat.le_refl _) (unary_builds (Nat.le_refl _))
  have hread := hsum expr h expr.precedence_pos lexemes [] hwords (ends_nil 1)
  rw [List.append_nil] at hread
  rw [parseLexemes, advance_finished]
  exact Yields.bind yields_ok (hread.bind yields_ok)

/-- Every source that is read as the words of a well-formed tree stands for it. -/
theorem parse_yields {source : String} {rest : List Char} {expr : Expr}
    (h : expr.WellFormed) (hspells : Spells source.toList expr.words rest)
    (hrest : rest.dropWhile isBlank = []) :
    Yields (expr.nesting ≤ maxNesting) (parse source) expr := by
  obtain ⟨lexemes, position, hlexemes, hwords⟩ :=
    hspells.lexemesWithin hrest 0 (Nat.lt_succ_self source.toList.length)
  have hread : Formula.lexemes source = (lexemes, .finished position) := hlexemes
  rw [parse, hread]
  exact parseLexemes_of_words h hwords

end LiveSheet.Formula
