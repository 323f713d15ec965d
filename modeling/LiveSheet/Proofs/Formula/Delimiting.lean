import LiveSheet.Proofs.Formula.Grammar
import LiveSheet.Proofs.Formula.Identifier

namespace LiveSheet.Formula

open LiveSheet.Number
open LiveSheet.Text

/-! White space ends a token, and so does the end of the text.  A token is read
from its own text as it was read from a longer one. -/

def Apart (tail : List Char) : Prop :=
  ∀ char ∈ tail.head?, isBlank char = true

theorem apart_nil : Apart [] :=
  fun char hchar => absurd hchar (Option.not_mem_none char)

theorem apart_space (tail : List Char) : Apart (' ' :: tail) := by
  intro char hchar
  cases hchar
  decide

theorem endsNumber_of_isBlank {char : Char} (h : isBlank char = true) :
    char.isDigit = false ∧ char ≠ '.' ∧ isExponentMark char = false := by
  refine ⟨Bool.eq_false_iff.mpr fun hdigit => ?_, ?_, Bool.eq_false_iff.mpr fun hmark => ?_⟩
  · have hcode : 48 ≤ char.toNat ∧ char.toNat ≤ 57 := by
      simpa [Char.isDigit, UInt32.le_iff_toNat_le] using hdigit
    obtain ⟨range, hrange, hlow, hhigh⟩ := (CodeRanges.contains_iff _ _).mp h
    simp only [blank, List.mem_cons, List.not_mem_nil, or_false] at hrange
    rcases hrange with rfl | rfl | rfl | rfl | rfl | rfl | rfl | rfl | rfl | rfl <;>
      dsimp only at hlow hhigh <;> omega
  · rintro rfl
    exact absurd h (by decide)
  · simp only [isExponentMark, Bool.or_eq_true, beq_iff_eq] at hmark
    rcases hmark with rfl | rfl <;> exact absurd h (by decide)

theorem not_continuesIdentifier_of_isBlank {char : Char} (h : isBlank char = true) :
    continuesIdentifier char = false := by
  simp [continuesIdentifier, h]

theorem endsLexeme_of_isBlank {char : Char} (h : isBlank char = true) : EndsLexeme char where
  digit := (endsNumber_of_isBlank h).1
  point := (endsNumber_of_isBlank h).2.1
  mark := (endsNumber_of_isBlank h).2.2
  sign := by constructor <;> rintro rfl <;> exact absurd h (by decide)
  name := not_continuesIdentifier_of_isBlank h

section

variable {keeps : Char → Bool} {tail : List Char}

theorem takeWhile_append_of_all {front : List Char} (h : ∀ char ∈ front, keeps char = true)
    (htail : ∀ char ∈ tail.head?, keeps char = false) :
    (front ++ tail).takeWhile keeps = front := by
  rw [takeWhile_append_of_stops front htail, List.takeWhile_eq_self_iff.mpr h]

theorem dropWhile_append_of_all {front : List Char} (h : ∀ char ∈ front, keeps char = true)
    (htail : ∀ char ∈ tail.head?, keeps char = false) :
    (front ++ tail).dropWhile keeps = tail := by
  rw [dropWhile_append_of_stops front htail, List.dropWhile_eq_nil_iff.mpr h, List.nil_append]

theorem takeWhile_append_stop (chars : List Char)
    (htail : ∀ char ∈ tail.head?, keeps char = false) :
    (chars.takeWhile keeps ++ tail).takeWhile keeps = chars.takeWhile keeps :=
  takeWhile_append_of_all (fun _ hmem => List.mem_takeWhile_imp hmem) htail

theorem dropWhile_append_stop (chars : List Char)
    (htail : ∀ char ∈ tail.head?, keeps char = false) :
    (chars.takeWhile keeps ++ tail).dropWhile keeps = tail :=
  dropWhile_append_of_all (fun _ hmem => List.mem_takeWhile_imp hmem) htail

theorem mem_head?_append {front : List Char} {char : Char}
    (h : char ∈ (front ++ tail).head?) : char ∈ front.head? ∨ char ∈ tail.head? := by
  cases front with
  | nil => exact Or.inr h
  | cons first rest => exact Or.inl h

end

section

variable {tail : List Char}

theorem splitSign_append_stop (chars : List Char)
    (htail : ∀ char ∈ tail.head?, char.isDigit = true) :
    splitSign ((splitSign chars).1 ++ tail) = ((splitSign chars).1, tail) := by
  have hnone : splitSign tail = ([], tail) := by
    unfold splitSign
    split
    · exact absurd (htail '+' rfl) (by decide)
    · exact absurd (htail '-' rfl) (by decide)
    · rfl
  rw [splitSign.eq_def chars]
  split
  · rfl
  · rfl
  · exact hnone

theorem splitFraction_append_stop (chars : List Char)
    (htail : ∀ char ∈ tail.head?, char.isDigit = false ∧ char ≠ '.') :
    splitFraction ((splitFraction chars).1 ++ tail) = ((splitFraction chars).1, tail) := by
  have hnone : splitFraction tail = ([], tail) := by
    unfold splitFraction
    split
    · exact absurd rfl (htail '.' rfl).2
    · rfl
  have hstop : ∀ char ∈ tail.head?, char.isDigit = false :=
    fun char hchar => (htail char hchar).1
  rw [splitFraction.eq_def chars]
  split
  · rw [List.cons_append, splitFraction, takeWhile_append_stop _ hstop,
      dropWhile_append_stop _ hstop]
  · exact hnone

theorem splitExponent_append_stop (chars : List Char)
    (htail : ∀ char ∈ tail.head?, char.isDigit = false ∧ isExponentMark char = false) :
    splitExponent ((splitExponent chars).1 ++ tail) = ((splitExponent chars).1, tail) := by
  have hnone : splitExponent tail = ([], tail) := by
    cases tail with
    | nil => rfl
    | cons first rest => simp [splitExponent, (htail first rfl).2]
  rcases chars with _ | ⟨mark, rest⟩
  · exact hnone
  rcases hsign : splitSign rest with ⟨sign, behind⟩
  by_cases hmark : isExponentMark mark = true
  · by_cases hempty : (behind.takeWhile Char.isDigit).isEmpty = true
    · simp only [splitExponent, hsign, if_pos hmark, if_pos hempty]
      exact hnone
    · have hstop : ∀ char ∈ tail.head?, char.isDigit = false :=
        fun char hchar => (htail char hchar).1
      have hfirst : ∀ char ∈ (behind.takeWhile Char.isDigit ++ tail).head?,
          char.isDigit = true := by
        cases hdigits : behind.takeWhile Char.isDigit with
        | nil => exact absurd (congrArg List.isEmpty hdigits) hempty
        | cons first others =>
            rintro char ⟨⟩
            exact List.mem_takeWhile_imp (hdigits ▸ List.mem_cons_self)
      have hagain := splitSign_append_stop rest hfirst
      rw [hsign] at hagain
      simp only [splitExponent, hsign, if_pos hmark, if_neg hempty, List.cons_append,
        List.append_assoc, hagain, takeWhile_append_stop behind hstop,
        dropWhile_append_stop behind hstop]
  · simp only [splitExponent, hsign, if_neg hmark]
    exact hnone

theorem not_isDigit_of_mem_splitExponent {chars : List Char} {char : Char}
    (h : char ∈ (splitExponent chars).1.head?) : char.isDigit = false ∧ char ≠ '.' := by
  rcases chars with _ | ⟨mark, rest⟩
  · cases h
  rcases hsign : splitSign rest with ⟨sign, behind⟩
  simp only [splitExponent, hsign] at h
  split at h
  · rename_i hmark
    split at h
    · cases h
    · cases h
      simp only [isExponentMark, Bool.or_eq_true, beq_iff_eq] at hmark
      rcases hmark with rfl | rfl <;> decide
  · cases h

theorem not_isDigit_of_mem_splitFraction {chars : List Char} {char : Char}
    (h : char ∈ (splitFraction chars).1.head?) : char.isDigit = false := by
  unfold splitFraction at h
  split at h
  · cases h
    decide
  · cases h

end

theorem readNumber_append_stop {chars lexeme rest tail : List Char} {token : Token}
    (h : readNumber chars = .token token lexeme rest) (htail : Apart tail) :
    readNumber (lexeme ++ tail) = .token token lexeme tail := by
  rcases hfraction : splitFraction (chars.dropWhile Char.isDigit) with ⟨fraction, after⟩
  rcases hexponent : splitExponent after with ⟨exponent, behind⟩
  have hafterExponent : ∀ char ∈ tail.head?,
      char.isDigit = false ∧ isExponentMark char = false := by
    intro char hchar
    obtain ⟨hdigit, -, hmark⟩ := endsNumber_of_isBlank (htail char hchar)
    exact ⟨hdigit, hmark⟩
  have hafterFraction : ∀ char ∈ (exponent ++ tail).head?,
      char.isDigit = false ∧ char ≠ '.' := by
    intro char hchar
    rcases mem_head?_append hchar with hmark | hblank
    · exact not_isDigit_of_mem_splitExponent (by rwa [hexponent])
    · obtain ⟨hdigit, hdot, -⟩ := endsNumber_of_isBlank (htail char hblank)
      exact ⟨hdigit, hdot⟩
  have hafterWhole : ∀ char ∈ (fraction ++ (exponent ++ tail)).head?,
      char.isDigit = false := by
    intro char hchar
    rcases mem_head?_append hchar with hdot | hpower
    · exact not_isDigit_of_mem_splitFraction (by rwa [hfraction])
    · exact (hafterFraction char hpower).1
  have hcutFraction := splitFraction_append_stop (chars.dropWhile Char.isDigit) hafterFraction
  have hcutExponent := splitExponent_append_stop after hafterExponent
  rw [hfraction] at hcutFraction
  rw [hexponent] at hcutExponent
  simp only [readNumber, hfraction, hexponent] at h
  cases h
  simp only [readNumber, List.append_assoc, takeWhile_append_stop chars hafterWhole,
    dropWhile_append_stop chars hafterWhole, hcutFraction, hcutExponent]

theorem readNumber_text {chars lexeme rest : List Char} {token : Token}
    (h : readNumber chars = .token token lexeme rest) : token.text.toList = lexeme := by
  rcases hfraction : splitFraction (chars.dropWhile Char.isDigit) with ⟨fraction, after⟩
  rcases hexponent : splitExponent after with ⟨exponent, behind⟩
  simp only [readNumber, hfraction, hexponent] at h
  cases h
  split <;> exact String.toList_ofList

theorem readNumber_starts {first : Char} {behind lexeme rest : List Char} {token : Token}
    (hstart : startsNumber first behind = true)
    (h : readNumber (first :: behind) = .token token lexeme rest) (tail : List Char) :
    ∃ digits, lexeme = first :: digits ∧ startsNumber first (digits ++ tail) = true := by
  rcases hfraction : splitFraction ((first :: behind).dropWhile Char.isDigit) with
    ⟨fraction, after⟩
  rcases hexponent : splitExponent after with ⟨exponent, remaining⟩
  simp only [readNumber, hfraction, hexponent] at h
  cases h
  simp only [startsNumber, Bool.or_eq_true, Bool.and_eq_true, beq_iff_eq] at hstart ⊢
  rcases hstart with hdigit | ⟨rfl, hnext⟩
  · simp only [List.takeWhile_cons, hdigit, if_true, List.cons_append]
    exact ⟨_, rfl, Or.inl trivial⟩
  · have hdot : ('.' : Char).isDigit = false := by decide
    cases behind with
    | nil => cases hnext
    | cons digit others =>
        have hdigit : digit.isDigit = true := hnext
        simp only [List.dropWhile_cons, hdot, Bool.false_eq_true, if_false, splitFraction,
          List.takeWhile_cons, hdigit, if_true, Prod.mk.injEq] at hfraction
        obtain ⟨rfl, -⟩ := hfraction
        simp only [List.takeWhile_cons, hdot, Bool.false_eq_true, if_false, List.nil_append,
          List.cons_append]
        exact ⟨_, rfl, Or.inr ⟨trivial, by simp [hdigit]⟩⟩

theorem startsNumber_of_letter {first : Char} (h : startsIdentifier first = true)
    (behind tail : List Char) : startsNumber first behind = startsNumber first tail := by
  have hdot : (first == '.') = false := by
    rw [beq_eq_false_iff_ne]
    rintro rfl
    exact absurd h (by decide +kernel)
  rw [startsNumber, startsNumber, hdot, Bool.false_and, Bool.false_and]

theorem readToken_text {chars lexeme rest : List Char} {token : Token}
    (h : readToken chars = .token token lexeme rest) : token.text.toList = lexeme := by
  cases chars with
  | nil => cases h
  | cons first behind =>
      rw [readToken_cons] at h
      split at h
      · rename_i hmark
        cases h
        exact markToken?_text hmark
      split at h
      · exact readNumber_text h
      split at h
      · cases h
        exact String.toList_ofList
      · cases h

/-- A token is read again from its characters in front of any text that its pieces do
not go on into. -/
theorem readToken_again {chars lexeme rest tail : List Char} {token : Token}
    (h : readToken chars = .token token lexeme rest)
    (hnumber : readNumber chars = .token token lexeme rest →
      readNumber (lexeme ++ tail) = .token token lexeme tail)
    (hname : ∀ name, token = .identifier name →
      ∀ char ∈ tail.head?, continuesIdentifier char = false) :
    readToken (lexeme ++ tail) = .token token lexeme tail := by
  cases chars with
  | nil => cases h
  | cons first behind =>
      rw [readToken_cons] at h
      split at h
      · rename_i hmark
        cases h
        simp only [List.singleton_append, readToken_cons, hmark]
      rename_i hmark
      split at h
      · rename_i hstart
        obtain ⟨digits, rfl, hstarts⟩ := readNumber_starts hstart h tail
        have hagain := hnumber h
        rw [List.cons_append, readToken_cons]
        simp only [hmark, if_pos hstarts]
        exact hagain
      rename_i hstart
      split at h
      · rename_i hletter
        cases h
        have hstop := hname _ rfl
        rw [startsNumber_of_letter hletter behind
          (behind.takeWhile continuesIdentifier ++ tail)] at hstart
        rw [List.cons_append, readToken_cons]
        simp only [hmark, if_neg hstart, if_pos hletter, readIdentifier,
          takeWhile_append_stop behind hstop, dropWhile_append_stop behind hstop]
      · cases h

theorem readToken_append_stop {chars lexeme rest : List Char} {token : Token}
    (h : readToken chars = .token token lexeme rest) :
    token.text.toList = lexeme ∧
      ∀ tail, Apart tail → readToken (lexeme ++ tail) = .token token lexeme tail := by
  refine ⟨readToken_text h, fun tail htail => readToken_again h ?_ ?_⟩
  · exact fun hread => readNumber_append_stop hread htail
  · exact fun name _ char hchar => not_continuesIdentifier_of_isBlank (htail char hchar)

theorem Token.StandsAlone.starts {token : Token} (h : token.StandsAlone) :
    token.text.toList ≠ [] ∧ token.text.toList.dropWhile isBlank = token.text.toList ∧
      ∀ tail, Apart tail →
        readToken (token.text.toList ++ tail) = .token token token.text.toList tail := by
  obtain ⟨lexeme, rest, hread, -⟩ := readToken_of_tokenize h
  have hcuts := cuts_of_readToken hread
  obtain ⟨rfl, hagain⟩ := readToken_append_stop hread
  have hlength := congrArg List.length hcuts.append
  rw [List.length_append] at hlength
  exact ⟨hcuts.ne_nil, (List.dropWhile_suffix isBlank).eq_of_length_le (by omega), hagain⟩

theorem Token.StandsAlone.reads {token : Token} (h : token.StandsAlone) {tail : List Char}
    (htail : Apart tail) :
    readToken ((token.text.toList ++ tail).dropWhile isBlank) =
      .token token token.text.toList tail := by
  obtain ⟨hsome, hstart, hagain⟩ := h.starts
  rw [List.dropWhile_append, hstart, if_neg (by simpa using hsome)]
  exact hagain tail htail

theorem tokenize_of_readToken {source : String} {token : Token}
    (hstart : source.toList.dropWhile isBlank = source.toList)
    (h : readToken source.toList = .token token source.toList []) :
    tokenize source = .ok [token] := by
  have hlength : source.toList.length ≠ 0 := by
    intro hempty
    rw [List.eq_nil_of_length_eq_zero hempty] at h
    cases h
  obtain ⟨bound, hbound⟩ := Nat.exists_eq_succ_of_ne_zero hlength
  have hbehind (offset : Nat) : piecesWithin bound offset [] = [] := by
    cases bound <;> rfl
  rw [tokenize, pieces, hbound]
  simp only [piecesWithin, hstart, h, hbehind]
  rfl

theorem standsAlone_of_readToken {chars lexeme rest : List Char} {token : Token}
    (h : readToken (chars.dropWhile isBlank) = .token token lexeme rest) :
    token.StandsAlone := by
  obtain ⟨rfl, hagain⟩ := readToken_append_stop h
  have halone := hagain [] apart_nil
  rw [List.append_nil] at halone
  refine tokenize_of_readToken ?_ halone
  have hcuts := cuts_of_readToken h
  have hhead := List.head?_dropWhile_not isBlank chars
  obtain ⟨first, behind, hfirst⟩ := List.exists_cons_of_ne_nil hcuts.ne_nil
  rw [← hcuts.append, hfirst, List.cons_append, List.head?_cons] at hhead
  rw [hfirst, List.dropWhile_cons_of_neg (by simpa using hhead)]

end LiveSheet.Formula
