import LiveSheet.Formula.Value
import Mathlib.Data.List.TakeWhile

namespace LiveSheet.Formula

open LiveSheet.Number
open LiveSheet.Text

/-! What a reading takes off the front of a text.  A lexeme never runs over a
slash or a closing parenthesis, so a scan is at a boundary before each of
them. -/

def IsBarrier (char : Char) : Prop :=
  char = '/' ∨ char = ')'

theorem splitSign_append (chars : List Char) :
    (splitSign chars).1 ++ (splitSign chars).2 = chars := by
  unfold splitSign
  split <;> rfl

theorem splitFraction_append (chars : List Char) :
    (splitFraction chars).1 ++ (splitFraction chars).2 = chars := by
  unfold splitFraction
  split
  · simp
  · rfl

theorem splitExponent_append (chars : List Char) :
    (splitExponent chars).1 ++ (splitExponent chars).2 = chars := by
  cases chars with
  | nil => rfl
  | cons mark rest =>
      have hsign := splitSign_append rest
      rcases hsplit : splitSign rest with ⟨sign, digits⟩
      rw [hsplit] at hsign
      simp only [splitExponent, hsplit]
      split
      · split
        · rfl
        · simp only [List.cons_append, List.append_assoc,
            List.takeWhile_append_dropWhile, hsign]
      · rfl

theorem IsBarrier.not_mem_takeWhile_isDigit {char : Char} (h : IsBarrier char)
    (chars : List Char) : char ∉ chars.takeWhile Char.isDigit := by
  intro hmem
  have hdigit := List.mem_takeWhile_imp hmem
  rcases h with rfl | rfl <;> exact absurd hdigit (by decide)

theorem IsBarrier.not_mem_splitSign {char : Char} (h : IsBarrier char)
    (chars : List Char) : char ∉ (splitSign chars).1 := by
  unfold splitSign
  rcases h with rfl | rfl <;> split <;> simp

theorem IsBarrier.not_mem_splitFraction {char : Char} (h : IsBarrier char)
    (chars : List Char) : char ∉ (splitFraction chars).1 := by
  unfold splitFraction
  split
  · rw [List.mem_cons, not_or]
    refine ⟨?_, h.not_mem_takeWhile_isDigit _⟩
    rcases h with rfl | rfl <;> decide
  · exact List.not_mem_nil

theorem IsBarrier.not_mem_splitExponent {char : Char} (h : IsBarrier char)
    (chars : List Char) : char ∉ (splitExponent chars).1 := by
  cases chars with
  | nil => exact List.not_mem_nil
  | cons mark rest =>
      have hsign := h.not_mem_splitSign rest
      rcases hsplit : splitSign rest with ⟨sign, digits⟩
      rw [hsplit] at hsign
      simp only [splitExponent, hsplit]
      split
      · rename_i hmark
        split
        · exact List.not_mem_nil
        · simp only [List.cons_append, List.mem_cons, List.mem_append, not_or]
          refine ⟨?_, hsign, h.not_mem_takeWhile_isDigit _⟩
          rintro rfl
          rcases h with rfl | rfl <;> exact absurd hmark (by decide)
      · exact List.not_mem_nil

/-- What a token has to do with the text it was read from: its lexeme is cut
off the front. -/
structure Cuts (chars : List Char) (token : Token) (lexeme rest : List Char) :
    Prop where
  append : lexeme ++ rest = chars
  ne_nil : lexeme ≠ []
  alone : ∀ char ∈ lexeme, IsBarrier char → lexeme = [char]
  name : ∀ name, token = .identifier name →
    name.toList = lexeme ∧ ∀ char ∈ lexeme, ¬ IsBarrier char

theorem Cuts.length_lt {chars lexeme rest : List Char} {token : Token}
    (h : Cuts chars token lexeme rest) : rest.length < chars.length := by
  have hlength := List.length_pos_iff.mpr h.ne_nil
  rw [← h.append, List.length_append]
  omega

private theorem cuts_single {token : Token} (first : Char) (rest : List Char)
    (h : ∀ name, token ≠ .identifier name) :
    Cuts (first :: rest) token [first] rest where
  append := rfl
  ne_nil := List.cons_ne_nil _ _
  alone := by
    intro char hmem _
    rw [List.mem_singleton.mp hmem]
  name := fun name hname => absurd hname (h name)

private theorem readNumber_eq (chars : List Char) :
    ∃ token, (∀ name, token ≠ .identifier name) ∧
      readNumber chars = .token token
        (chars.takeWhile Char.isDigit ++
          (splitFraction (chars.dropWhile Char.isDigit)).1 ++
          (splitExponent (splitFraction (chars.dropWhile Char.isDigit)).2).1)
        (splitExponent (splitFraction (chars.dropWhile Char.isDigit)).2).2 := by
  rcases hfraction : splitFraction (chars.dropWhile Char.isDigit) with ⟨fraction, tail⟩
  rcases hexponent : splitExponent tail with ⟨exponent, rest⟩
  simp only [readNumber, hfraction, hexponent]
  refine ⟨_, ?_, rfl⟩
  intro name hname
  split at hname <;> cases hname

private theorem readNumber_cuts {first : Char} {tail : List Char}
    (hstart : startsNumber first tail = true) :
    ∃ token lexeme rest, readNumber (first :: tail) = .token token lexeme rest ∧
      Cuts (first :: tail) token lexeme rest := by
  obtain ⟨token, hkind, hread⟩ := readNumber_eq (first :: tail)
  refine ⟨_, _, _, hread, ?_, ?_, ?_, fun name hname => absurd hname (hkind name)⟩
  · rw [List.append_assoc, List.append_assoc, splitExponent_append,
      splitFraction_append, List.takeWhile_append_dropWhile]
  · simp only [startsNumber, Bool.or_eq_true, Bool.and_eq_true, beq_iff_eq] at hstart
    rcases hstart with hdigit | ⟨rfl, -⟩
    · simp [hdigit]
    · have hdot : ('.' : Char).isDigit = false := by decide
      simp [hdot, splitFraction]
  · intro char hmem hbarrier
    simp only [List.mem_append] at hmem
    rcases hmem with (hwhole | hfraction) | hexponent
    · exact absurd hwhole (hbarrier.not_mem_takeWhile_isDigit _)
    · exact absurd hfraction (hbarrier.not_mem_splitFraction _)
    · exact absurd hexponent (hbarrier.not_mem_splitExponent _)

theorem IsBarrier.not_continuesIdentifier {char : Char} (h : IsBarrier char) :
    continuesIdentifier char = false := by
  rcases h with rfl | rfl <;> rfl

private theorem readIdentifier_cuts {first : Char} {tail : List Char}
    (hfirst : ¬ IsBarrier first) :
    ∃ token lexeme rest, readIdentifier first tail = .token token lexeme rest ∧
      Cuts (first :: tail) token lexeme rest := by
  have hnone : ∀ char ∈ first :: tail.takeWhile continuesIdentifier,
      ¬ IsBarrier char := by
    intro char hmem hbarrier
    rcases List.mem_cons.mp hmem with rfl | htail
    · exact hfirst hbarrier
    · have hcontinues := List.mem_takeWhile_imp htail
      rw [hbarrier.not_continuesIdentifier] at hcontinues
      contradiction
  refine ⟨_, _, _, rfl, ?_, List.cons_ne_nil _ _, ?_, ?_⟩
  · rw [List.cons_append, List.takeWhile_append_dropWhile]
  · exact fun char hmem hbarrier => absurd hbarrier (hnone char hmem)
  · intro name hname
    cases hname
    exact ⟨String.toList_ofList, hnone⟩

def markToken? (char : Char) : Option Token :=
  match Operator.ofChar? char with
  | some op => some (.operator op)
  | none =>
      if char = '(' then some .openParen
      else if char = ')' then some .closeParen
      else if char = ',' then some .comma
      else none

theorem readToken_cons (first : Char) (rest : List Char) :
    readToken (first :: rest) =
      match markToken? first with
      | some token => .token token [first] rest
      | none =>
          if startsNumber first rest then readNumber (first :: rest)
          else if startsIdentifier first then readIdentifier first rest
          else .unexpected first rest := by
  rw [readToken, markToken?]
  cases Operator.ofChar? first with
  | some op => rfl
  | none =>
      dsimp only
      split
      · rfl
      split
      · rfl
      split <;> rfl

theorem markToken?_cases {char : Char} {token : Token} (h : markToken? char = some token) :
    (∃ op : Operator, char = op.symbol ∧ token = .operator op) ∨
      (char = '(' ∧ token = .openParen) ∨ (char = ')' ∧ token = .closeParen) ∨
      (char = ',' ∧ token = .comma) := by
  unfold markToken? at h
  split at h
  · rename_i op hop
    cases h
    exact Or.inl ⟨op, (Operator.symbol_of_ofChar? hop).symm, rfl⟩
  split at h
  · cases h
    exact Or.inr (Or.inl ⟨‹_›, rfl⟩)
  split at h
  · cases h
    exact Or.inr (Or.inr (Or.inl ⟨‹_›, rfl⟩))
  split at h
  · cases h
    exact Or.inr (Or.inr (Or.inr ⟨‹_›, rfl⟩))
  · cases h

theorem markToken?_text {char : Char} {token : Token} (h : markToken? char = some token) :
    token.text.toList = [char] := by
  obtain ⟨op, rfl, rfl⟩ | ⟨rfl, rfl⟩ | ⟨rfl, rfl⟩ | ⟨rfl, rfl⟩ := markToken?_cases h
  · exact String.toList_singleton _
  · rfl
  · rfl
  · rfl

theorem markToken?_ne_identifier {char : Char} {token : Token}
    (h : markToken? char = some token) (name : String) : token ≠ .identifier name := by
  obtain ⟨op, -, rfl⟩ | ⟨-, rfl⟩ | ⟨-, rfl⟩ | ⟨-, rfl⟩ := markToken?_cases h <;> nofun

theorem isReserved_of_mark {char : Char} {token : Token} (h : markToken? char = some token) :
    isReserved char = true := by
  obtain ⟨op, rfl, -⟩ | ⟨rfl, -⟩ | ⟨rfl, -⟩ | ⟨rfl, -⟩ := markToken?_cases h
  · cases op <;> decide
  · decide
  · decide
  · decide

theorem IsBarrier.markToken?_ne_none {char : Char} (h : IsBarrier char) :
    markToken? char ≠ none := by
  rcases h with rfl | rfl <;> decide

theorem readToken_cases (chars : List Char) :
    (chars = [] ∧ readToken chars = .finished) ∨
    (∃ char rest, chars = char :: rest ∧ readToken chars = .unexpected char rest) ∨
    (∃ token lexeme rest, readToken chars = .token token lexeme rest ∧
      Cuts chars token lexeme rest) := by
  cases chars with
  | nil => exact Or.inl ⟨rfl, rfl⟩
  | cons first rest =>
      refine Or.inr ?_
      rw [readToken_cons]
      split
      · rename_i token hmark
        exact Or.inr ⟨_, _, _, rfl,
          cuts_single first rest (markToken?_ne_identifier hmark)⟩
      rename_i hmark
      split
      · rename_i hnumber
        exact Or.inr (readNumber_cuts hnumber)
      split
      · exact Or.inr (readIdentifier_cuts fun hbarrier => hbarrier.markToken?_ne_none hmark)
      · exact Or.inl ⟨first, rest, rfl, rfl⟩

theorem cuts_of_readToken {chars lexeme rest : List Char} {token : Token}
    (h : readToken chars = .token token lexeme rest) : Cuts chars token lexeme rest := by
  rcases readToken_cases chars with ⟨-, hread⟩ | ⟨_, _, -, hread⟩ | ⟨_, _, _, hread, hcuts⟩
  · cases hread.symm.trans h
  · cases hread.symm.trans h
  · cases hread.symm.trans h
    exact hcuts

theorem readToken_identifier {chars lexeme rest : List Char} {name : String}
    (h : readToken chars = .token (.identifier name) lexeme rest) :
    ∃ first tail, chars = first :: tail ∧ name.toList = lexeme ∧
      lexeme = first :: tail.takeWhile continuesIdentifier ∧
      rest = tail.dropWhile continuesIdentifier := by
  cases chars with
  | nil => cases h
  | cons first tail =>
      rw [readToken_cons] at h
      split at h
      · rename_i hmark
        cases h
        exact absurd rfl (markToken?_ne_identifier hmark name)
      split at h
      · obtain ⟨token, hkind, hread⟩ := readNumber_eq (first :: tail)
        rw [hread] at h
        cases h
        exact absurd rfl (hkind name)
      split at h
      · cases h
        exact ⟨first, tail, rfl, String.toList_ofList, rfl, rfl⟩
      · cases h

structure EndsLexeme (char : Char) : Prop where
  digit : char.isDigit = false
  point : char ≠ '.'
  mark : isExponentMark char = false
  sign : char ≠ '+' ∧ char ≠ '-'
  name : continuesIdentifier char = false

theorem IsBarrier.endsLexeme {char : Char} (h : IsBarrier char) : EndsLexeme char where
  digit := by rcases h with rfl | rfl <;> decide
  point := by rcases h with rfl | rfl <;> decide
  mark := by rcases h with rfl | rfl <;> decide
  sign := by rcases h with rfl | rfl <;> decide
  name := h.not_continuesIdentifier

def Reading.extend (tail : List Char) : Reading → Reading
  | .finished => .finished
  | .token read lexeme rest => .token read lexeme (rest ++ tail)
  | .unexpected char rest => .unexpected char (rest ++ tail)

section

variable {keeps : Char → Bool} {tail : List Char}

theorem takeWhile_append_of_stops (chars : List Char)
    (htail : ∀ char ∈ tail.head?, keeps char = false) :
    (chars ++ tail).takeWhile keeps = chars.takeWhile keeps := by
  have hnone : tail.takeWhile keeps = [] := by
    cases tail with
    | nil => rfl
    | cons first rest => exact List.takeWhile_cons_of_neg (by simp [htail first rfl])
  rw [List.takeWhile_append, hnone, List.append_nil]
  split
  · rename_i hall
    exact ((List.takeWhile_prefix keeps).eq_of_length hall).symm
  · rfl

theorem dropWhile_append_of_stops (chars : List Char)
    (htail : ∀ char ∈ tail.head?, keeps char = false) :
    (chars ++ tail).dropWhile keeps = chars.dropWhile keeps ++ tail := by
  have hsplit := List.takeWhile_append_dropWhile (p := keeps) (l := chars ++ tail)
  rw [takeWhile_append_of_stops chars htail] at hsplit
  rw [← List.append_cancel_left_eq (chars.takeWhile keeps), hsplit, ← List.append_assoc,
    List.takeWhile_append_dropWhile]

end

section

variable {tail : List Char} (htail : ∀ char ∈ tail.head?, EndsLexeme char)

include htail

theorem splitSign_append_tail (chars : List Char) :
    splitSign (chars ++ tail) = ((splitSign chars).1, (splitSign chars).2 ++ tail) := by
  have hunsigned (first : Char) (rest : List Char) (hplus : first ≠ '+') (hminus : first ≠ '-') :
      splitSign (first :: rest) = ([], first :: rest) := by
    rw [splitSign.eq_def]
    split
    · rename_i heq
      exact absurd (List.cons.inj heq).1 hplus
    · rename_i heq
      exact absurd (List.cons.inj heq).1 hminus
    · rfl
  cases chars with
  | nil =>
      cases tail with
      | nil => rfl
      | cons first rest =>
          obtain ⟨hplus, hminus⟩ := (htail first rfl).sign
          exact hunsigned first rest hplus hminus
  | cons first rest =>
      by_cases hplus : first = '+'
      · rw [hplus]
        rfl
      by_cases hminus : first = '-'
      · rw [hminus]
        rfl
      · rw [List.cons_append, hunsigned _ _ hplus hminus, hunsigned _ _ hplus hminus]
        rfl

theorem splitFraction_append_tail (chars : List Char) :
    splitFraction (chars ++ tail) =
      ((splitFraction chars).1, (splitFraction chars).2 ++ tail) := by
  have hwhole (first : Char) (rest : List Char) (hpoint : first ≠ '.') :
      splitFraction (first :: rest) = ([], first :: rest) := by
    rw [splitFraction.eq_def]
    split
    · rename_i heq
      exact absurd (List.cons.inj heq).1 hpoint
    · rfl
  have hdigit : ∀ char ∈ tail.head?, char.isDigit = false :=
    fun char hchar => (htail char hchar).digit
  cases chars with
  | nil =>
      cases tail with
      | nil => rfl
      | cons first rest => exact hwhole first rest (htail first rfl).point
  | cons first rest =>
      by_cases hpoint : first = '.'
      · rw [hpoint, List.cons_append, splitFraction, splitFraction,
          takeWhile_append_of_stops rest hdigit, dropWhile_append_of_stops rest hdigit]
      · rw [List.cons_append, hwhole _ _ hpoint, hwhole _ _ hpoint]
        rfl

theorem splitExponent_append_tail (chars : List Char) :
    splitExponent (chars ++ tail) =
      ((splitExponent chars).1, (splitExponent chars).2 ++ tail) := by
  have hdigit : ∀ char ∈ tail.head?, char.isDigit = false :=
    fun char hchar => (htail char hchar).digit
  cases chars with
  | nil =>
      cases tail with
      | nil => rfl
      | cons first rest =>
          simp [splitExponent, (htail first rfl).mark]
  | cons first rest =>
      have hsign := splitSign_append_tail htail rest
      rcases hsplit : splitSign rest with ⟨sign, digits⟩
      rw [hsplit] at hsign
      simp only [List.cons_append, splitExponent, hsplit, hsign,
        takeWhile_append_of_stops digits hdigit, dropWhile_append_of_stops digits hdigit]
      split
      · split <;> rfl
      · rfl

theorem readNumber_append_tail (chars : List Char) :
    readNumber (chars ++ tail) = (readNumber chars).extend tail := by
  have hdigit : ∀ char ∈ tail.head?, char.isDigit = false :=
    fun char hchar => (htail char hchar).digit
  have hfraction := splitFraction_append_tail htail (chars.dropWhile Char.isDigit)
  rcases hsplit : splitFraction (chars.dropWhile Char.isDigit) with ⟨fraction, after⟩
  rw [hsplit] at hfraction
  have hexponent := splitExponent_append_tail htail after
  simp only [readNumber, takeWhile_append_of_stops chars hdigit,
    dropWhile_append_of_stops chars hdigit, hsplit, hfraction, hexponent, Reading.extend]

/-- What is found at the front of a text is found there whatever follows, unless
the lexeme could go on. -/
theorem readToken_append_tail {chars : List Char} (hchars : chars ≠ []) :
    readToken (chars ++ tail) = (readToken chars).extend tail := by
  obtain ⟨first, rest, rfl⟩ := List.exists_cons_of_ne_nil hchars
  have hstarts : startsNumber first (rest ++ tail) = startsNumber first rest := by
    cases rest with
    | cons second rest => rfl
    | nil =>
        cases tail with
        | nil => rfl
        | cons second others => simp [startsNumber, (htail second rfl).digit]
  have hname : ∀ char ∈ tail.head?, continuesIdentifier char = false :=
    fun char hchar => (htail char hchar).name
  rw [List.cons_append, readToken_cons, readToken_cons, hstarts]
  split
  · rfl
  split
  · exact readNumber_append_tail htail (first :: rest)
  split
  · simp only [readIdentifier, takeWhile_append_of_stops rest hname,
      dropWhile_append_of_stops rest hname, Reading.extend]
  · rfl

end

end LiveSheet.Formula
