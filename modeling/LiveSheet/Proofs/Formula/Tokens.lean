import LiveSheet.Proofs.Formula.Spelling

namespace LiveSheet.Formula

open LiveSheet.Number
open LiveSheet.Text

/-! A text that is cut short behind a lexeme is read as the whole text up to the cut,
also where the lexeme only ends because of what follows it. -/

section

variable {rest tail : List Char}

theorem head?_of_dropWhile {keeps : Char → Bool} {chars : List Char}
    (h : chars.dropWhile keeps = rest ++ tail) : ∀ char ∈ rest.head?, keeps char = false := by
  intro char hchar
  have hhead := List.head?_dropWhile_not keeps chars
  cases rest with
  | nil => cases hchar
  | cons first others =>
      cases hchar
      rw [h, List.cons_append, List.head?_cons] at hhead
      simpa using hhead

theorem takeWhile_cut {keeps : Char → Bool} {chars : List Char}
    (h : chars.dropWhile keeps = rest ++ tail) :
    (chars.takeWhile keeps ++ rest).takeWhile keeps = chars.takeWhile keeps :=
  takeWhile_append_stop chars (head?_of_dropWhile h)

theorem dropWhile_cut {keeps : Char → Bool} {chars : List Char}
    (h : chars.dropWhile keeps = rest ++ tail) :
    (chars.takeWhile keeps ++ rest).dropWhile keeps = rest :=
  dropWhile_append_stop chars (head?_of_dropWhile h)

theorem splitFraction_cut {chars : List Char} (h : (splitFraction chars).2 = rest ++ tail) :
    splitFraction ((splitFraction chars).1 ++ rest) = ((splitFraction chars).1, rest) := by
  rw [splitFraction.eq_def chars] at h ⊢
  split at h
  · simp only [List.cons_append, splitFraction]
    rw [takeWhile_cut h, dropWhile_cut h]
  · rename_i hpoint
    rw [List.nil_append, splitFraction.eq_def]
    split
    · rename_i behind
      exact absurd h (hpoint (behind ++ tail))
    · rfl

theorem splitSign_cons_append (first : Char) (others tail : List Char) :
    splitSign (first :: others ++ tail) =
      ((splitSign (first :: others)).1, (splitSign (first :: others)).2 ++ tail) := by
  rw [List.cons_append, splitSign.eq_def (first :: others), splitSign.eq_def]
  split <;> split <;> simp_all

theorem takeWhile_eq_nil_of_append {keeps : Char → Bool}
    (h : (rest ++ tail).takeWhile keeps = []) : rest.takeWhile keeps = [] := by
  cases rest with
  | nil => rfl
  | cons first others =>
      rw [List.cons_append, List.takeWhile_cons] at h
      rw [List.takeWhile_cons]
      split at h
      · cases h
      · rename_i hfirst
        rw [if_neg hfirst]

theorem splitExponent_of_append (h : (splitExponent (rest ++ tail)).1 = []) :
    splitExponent rest = ([], rest) := by
  rcases rest with _ | ⟨mark, behind⟩
  · rfl
  by_cases hmark : isExponentMark mark = true
  · rcases behind with _ | ⟨first, others⟩
    · simp [splitExponent, splitSign]
    · have hsign := splitSign_cons_append first others tail
      rcases hsplit : splitSign (first :: others) with ⟨sign, digits⟩
      rw [hsplit] at hsign
      change (splitExponent (mark :: (first :: others ++ tail))).1 = [] at h
      simp only [splitExponent, hsign, hmark, if_true] at h
      simp only [splitExponent, hsplit, hmark, if_true]
      split at h
      · rename_i hempty
        rw [List.isEmpty_iff] at hempty
        rw [takeWhile_eq_nil_of_append hempty]
        rfl
      · cases h
  · simp only [splitExponent, if_neg hmark]

theorem splitExponent_cut {chars : List Char} (h : (splitExponent chars).2 = rest ++ tail) :
    splitExponent ((splitExponent chars).1 ++ rest) = ((splitExponent chars).1, rest) := by
  have hall := splitExponent_append chars
  by_cases hnone : (splitExponent chars).1 = []
  · rw [hnone, List.nil_append, h] at hall
    rw [hnone, List.nil_append]
    exact splitExponent_of_append (hall.symm ▸ hnone)
  rcases chars with _ | ⟨mark, behind⟩
  · exact absurd rfl hnone
  rcases hsign : splitSign behind with ⟨sign, digits⟩
  by_cases hmark : isExponentMark mark = true
  · by_cases hempty : (digits.takeWhile Char.isDigit).isEmpty = true
    · simp only [splitExponent, hsign, if_pos hmark, if_pos hempty, not_true_eq_false] at hnone
    · simp only [splitExponent, hsign, if_pos hmark, if_neg hempty] at h ⊢
      have hfirst : ∀ char ∈ (digits.takeWhile Char.isDigit ++ rest).head?,
          char.isDigit = true := by
        cases hdigits : digits.takeWhile Char.isDigit with
        | nil => exact absurd (congrArg List.isEmpty hdigits) hempty
        | cons first others =>
            rintro char ⟨⟩
            exact List.mem_takeWhile_imp (hdigits ▸ List.mem_cons_self)
      have hagain := splitSign_append_stop behind hfirst
      rw [hsign] at hagain
      simp only [List.cons_append, List.append_assoc, hagain, if_pos hmark, takeWhile_cut h,
        dropWhile_cut h, if_neg hempty]
  · simp only [splitExponent, if_neg hmark, not_true_eq_false] at hnone

theorem readNumber_cut {chars lexeme : List Char} {token : Token}
    (h : readNumber chars = .token token lexeme (rest ++ tail)) :
    readNumber (lexeme ++ rest) = .token token lexeme rest := by
  have hfraction := splitFraction_append (chars.dropWhile Char.isDigit)
  have hexponent := splitExponent_append (splitFraction (chars.dropWhile Char.isDigit)).2
  rcases hpoint : splitFraction (chars.dropWhile Char.isDigit) with ⟨fraction, after⟩
  rcases hmark : splitExponent after with ⟨exponent, behind⟩
  rw [hpoint] at hfraction hexponent
  rw [hmark] at hexponent
  simp only [readNumber, hpoint, hmark] at h
  cases h
  have hwhole : chars.dropWhile Char.isDigit = (fraction ++ (exponent ++ rest)) ++ tail := by
    rw [← hfraction, ← hexponent]
    simp only [List.append_assoc]
  have hbehind : (splitFraction (chars.dropWhile Char.isDigit)).2 = (exponent ++ rest) ++ tail := by
    rw [hpoint, ← hexponent, List.append_assoc]
  have hlast : (splitExponent after).2 = rest ++ tail := by rw [hmark]
  have hcutFraction := splitFraction_cut hbehind
  have hcutExponent := splitExponent_cut hlast
  rw [hpoint] at hcutFraction
  rw [hmark] at hcutExponent
  simp only [readNumber, List.append_assoc, takeWhile_cut hwhole, dropWhile_cut hwhole,
    hcutFraction, hcutExponent]

theorem readToken_cut {chars lexeme : List Char} {token : Token}
    (h : readToken chars = .token token lexeme (rest ++ tail)) :
    readToken (lexeme ++ rest) = .token token lexeme rest := by
  refine readToken_again h readNumber_cut ?_
  rintro name rfl
  obtain ⟨first, behind, -, -, -, hrest⟩ := readToken_identifier h
  exact head?_of_dropWhile hrest.symm

end

inductive Scans : List Char → List Token → List Char → Prop where
  | done (chars : List Char) : Scans chars [] chars
  | token {chars lexeme rest last : List Char} {token : Token} {tokens : List Token}
      (hread : readToken (chars.dropWhile isBlank) = .token token lexeme rest)
      (hrest : Scans rest tokens last) : Scans chars (token :: tokens) last

namespace Scans

variable {chars last : List Char} {tokens : List Token}

/-- A text is cut short behind its tokens without a change to any of them. -/
theorem cut {tail : List Char} (h : Scans chars tokens (last ++ tail)) :
    ∃ front, chars = front ++ tail ∧ Scans front tokens last := by
  generalize hbehind : last ++ tail = behind at h
  induction h with
  | done chars => exact ⟨last, hbehind.symm, .done last⟩
  | @token chars lexeme rest _ token tokens hread hrest ih =>
      obtain ⟨front, rfl, hfront⟩ := ih hbehind
      -- The first lexeme starts with no white space, so what stands in front of it stays.
      have hcuts := cuts_of_readToken hread
      have hhead := List.head?_dropWhile_not isBlank chars
      obtain ⟨first, others, rfl⟩ := List.exists_cons_of_ne_nil hcuts.ne_nil
      rw [← hcuts.append, List.cons_append, List.head?_cons] at hhead
      have hstart : ∀ char ∈ (first :: others ++ front).head?, isBlank char = false := by
        rintro char ⟨⟩
        simpa using hhead
      have hfirst : readToken ((chars.takeWhile isBlank ++ (first :: others ++ front)).dropWhile
          isBlank) = .token token (first :: others) front := by
        rw [dropWhile_append_stop chars hstart]
        exact readToken_cut hread
      refine ⟨chars.takeWhile isBlank ++ (first :: others ++ front), ?_, .token hfirst hfront⟩
      rw [List.append_assoc, List.append_assoc, hcuts.append, List.takeWhile_append_dropWhile]

theorem pieces (h : Scans chars tokens last) (hlast : last.dropWhile isBlank = []) {bound : Nat}
    (hbound : chars.length ≤ bound) (offset : Nat) :
    piecesWithin bound offset chars = tokens.map .token := by
  induction h generalizing bound offset with
  | done chars =>
      have hread : readToken (chars.dropWhile isBlank) = .finished := by rw [hlast]; rfl
      cases bound with
      | zero => rfl
      | succ bound => simp only [piecesWithin, hread, List.map_nil]
  | @token chars lexeme rest _ token tokens hread _ ih =>
      have hlength := length_lt_of_readToken hread
      obtain ⟨bound, rfl⟩ : ∃ smaller, bound = smaller + 1 := ⟨bound - 1, by omega⟩
      simp only [piecesWithin, hread, List.map_cons]
      rw [ih hlast (by omega)]

end Scans

theorem mapM_token?_map_token (tokens : List Token) :
    (tokens.map Piece.token).mapM Piece.token? = .ok tokens := by
  induction tokens with
  | nil => rfl
  | cons token tokens ih =>
      rw [List.map_cons, List.mapM_cons, ih]
      rfl

theorem Scans.tokenize {source : String} {tokens : List Token} {last : List Char}
    (h : Scans source.toList tokens last) (hlast : last.dropWhile isBlank = []) :
    tokenize source = .ok tokens := by
  rw [Formula.tokenize, Formula.pieces, h.pieces hlast (Nat.le_refl _),
    mapM_token?_map_token]

/-- How the reading of a text ends: behind the last of its tokens, or in front of the
first character that starts none. -/
inductive ScanResult (chars : List Char) (offset : Nat) : Except ScanError (List Token) → Prop where
  | finished {tokens : List Token} {last : List Char} (hscans : Scans chars tokens last)
      (hlast : last.dropWhile isBlank = []) : ScanResult chars offset (.ok tokens)
  | unexpected {tokens : List Token} {last behind : List Char} {error : ScanError}
      (hscans : Scans chars tokens last)
      (hread : readToken (last.dropWhile isBlank) = .unexpected error.char behind)
      (hposition : error.position + byteLength (error.char :: behind) =
        offset + byteLength chars) : ScanResult chars offset (.error error)

theorem byteLength_dropWhile (chars : List Char) :
    byteLength (chars.takeWhile isBlank) + byteLength (chars.dropWhile isBlank) =
      byteLength chars := by
  rw [← byteLength_append, List.takeWhile_append_dropWhile]

theorem piecesWithin_result {bound : Nat} (offset : Nat) {chars : List Char}
    (hbound : chars.length ≤ bound) :
    ScanResult chars offset ((piecesWithin bound offset chars).mapM Piece.token?) := by
  induction bound generalizing offset chars with
  | zero =>
      obtain rfl := List.eq_nil_of_length_eq_zero (Nat.le_zero.mp hbound)
      exact .finished (.done []) rfl
  | succ bound ih =>
      have hblank := byteLength_dropWhile chars
      simp only [piecesWithin]
      rcases readToken_cases (chars.dropWhile isBlank) with
        ⟨hchars, hread⟩ | ⟨char, behind, hchars, hread⟩ | ⟨token, lexeme, rest, hread, hcuts⟩
      · simp only [hread]
        exact .finished (.done chars) hchars
      · simp only [hread, List.mapM_cons]
        refine .unexpected (.done chars) hread ?_
        rw [hchars] at hblank
        rw [Nat.add_assoc, hblank]
      · have hlength := length_lt_of_readToken hread
        have hlexeme := congrArg byteLength hcuts.append
        rw [byteLength_append] at hlexeme
        simp only [hread, List.mapM_cons]
        have hrest := ih (offset + byteLength (chars.takeWhile isBlank) + byteLength lexeme)
          (show rest.length ≤ bound by omega)
        generalize (piecesWithin bound (offset + byteLength (chars.takeWhile isBlank) +
          byteLength lexeme) rest).mapM Piece.token? = result at hrest ⊢
        cases hrest with
        | finished hscans hlast => exact .finished (.token hread hscans) hlast
        | unexpected hscans hunexpected hposition =>
            exact .unexpected (.token hread hscans) hunexpected (by omega)

theorem tokenize_result (source : String) : ScanResult source.toList 0 (tokenize source) :=
  piecesWithin_result 0 (Nat.le_refl _)

end LiveSheet.Formula
