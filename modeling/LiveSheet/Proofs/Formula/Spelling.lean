import LiveSheet.Proofs.Formula.Delimiting
import LiveSheet.Proofs.Text.Blank

namespace LiveSheet.Formula

open LiveSheet.Text

def OpensNoExternal (token : Token) (rest : List Char) : Prop :=
  ∀ name, token = .identifier name → namesExternal name = true → afterOpening? rest = none

inductive Spells : List Char → List Word → List Char → Prop where
  | done (chars : List Char) : Spells chars [] chars
  | token {chars lexeme rest last : List Char} {token : Token} {words : List Word}
      (hread : readToken (chars.dropWhile isBlank) = .token token lexeme rest)
      (hopening : OpensNoExternal token rest)
      (hrest : Spells rest words last) : Spells chars (.token token :: words) last
  | external {chars lexeme rest inner last : List Char} {name : String} {words : List Word}
      (hread : readToken (chars.dropWhile isBlank) = .token (.identifier name) lexeme rest)
      (hname : namesExternal name = true) (hopening : afterOpening? rest = some inner)
      (hrest : Spells (splitRaw 0 inner).2 words last) :
      Spells chars (.external name (String.ofList (trim (splitRaw 0 inner).1)) :: words) last

section

variable {offset : Nat} {token : Token} {rest : List Char}

theorem readLexeme_token (h : OpensNoExternal token rest) :
    readLexeme offset token rest = (.token offset token, [], rest) := by
  cases token with
  | identifier name =>
      simp only [readLexeme, readName]
      split
      · rename_i hname
        rw [h name rfl hname]
      · rfl
  | _ => rfl

theorem readLexeme_external {name : String} {inner : List Char}
    (hname : namesExternal name = true) (hopening : afterOpening? rest = some inner) :
    readLexeme offset (.identifier name) rest =
      (.external offset name (String.ofList (trim (splitRaw 0 inner).1)),
        rest.takeWhile isBlank ++ '(' :: (splitRaw 0 inner).1, (splitRaw 0 inner).2) := by
  simp only [readLexeme, readName, if_pos hname, hopening]

end

theorem splitRaw_rest (depth : Nat) (chars : List Char) :
    ∀ char ∈ (splitRaw depth chars).2.head?, IsBarrier char := by
  induction chars generalizing depth with
  | nil => simp [splitRaw]
  | cons first rest ih =>
      unfold splitRaw
      split
      · exact ih (depth + 1)
      · split
        · rename_i hclose
          split
          · intro char hchar
            cases hchar
            exact Or.inr hclose
          · exact ih _
        · exact ih depth

theorem length_splitRaw_le (depth : Nat) (chars : List Char) :
    (splitRaw depth chars).2.length ≤ chars.length := by
  have happend := congrArg List.length (splitRaw_append depth chars)
  rw [List.length_append] at happend
  omega

theorem length_afterOpening?_lt {chars inner : List Char}
    (h : afterOpening? chars = some inner) : inner.length < chars.length := by
  have hlength := length_dropWhile_le chars
  rw [afterOpening?_eq_some h, List.length_cons] at hlength
  omega

theorem length_lt_of_readToken {chars lexeme rest : List Char} {token : Token}
    (h : readToken (chars.dropWhile isBlank) = .token token lexeme rest) :
    rest.length < chars.length := by
  exact Nat.lt_of_lt_of_le (cuts_of_readToken h).length_lt (length_dropWhile_le chars)

theorem lexemesWithin_spells {bound : Nat} (offset : Nat) {chars : List Char}
    (hbound : chars.length < bound) :
    ∃ rest, Spells chars ((lexemesWithin bound offset chars).1.map Lexeme.word) rest ∧
      ∀ position, (lexemesWithin bound offset chars).2 = .finished position →
        rest.dropWhile isBlank = [] := by
  induction bound generalizing offset chars with
  | zero => omega
  | succ bound ih =>
      simp only [lexemesWithin]
      rcases readToken_cases (chars.dropWhile isBlank) with
        ⟨hblank, hread⟩ | ⟨char, rest, -, hread⟩ | ⟨token, lexeme, rest, hread, -⟩
      · simp only [hread]
        exact ⟨chars, .done chars, fun _ _ => hblank⟩
      · simp only [hread]
        exact ⟨chars, .done chars, fun _ hfinished => Ending.noConfusion hfinished⟩
      · have hlength := length_lt_of_readToken hread
        simp only [hread]
        by_cases hopening : OpensNoExternal token rest
        · rw [readLexeme_token hopening]
          obtain ⟨last, hrest, hlast⟩ := ih (offset + byteLength (chars.takeWhile isBlank) +
            byteLength lexeme + byteLength []) (show rest.length < bound by omega)
          exact ⟨last, .token hread hopening hrest, hlast⟩
        · simp only [OpensNoExternal, not_forall] at hopening
          obtain ⟨name, rfl, hname, hopen⟩ := hopening
          obtain ⟨inner, hinner⟩ := Option.ne_none_iff_exists'.mp hopen
          have hinside := length_afterOpening?_lt hinner
          have htail := length_splitRaw_le 0 inner
          rw [readLexeme_external hname hinner]
          obtain ⟨last, hrest, hlast⟩ := ih (offset + byteLength (chars.takeWhile isBlank) +
            byteLength lexeme +
            byteLength (rest.takeWhile isBlank ++ '(' :: (splitRaw 0 inner).1))
            (show (splitRaw 0 inner).2.length < bound by omega)
          exact ⟨last, .external hread hname hinner hrest, hlast⟩

theorem Spells.lexemesWithin {chars rest : List Char} {words : List Word}
    (h : Spells chars words rest) (hrest : rest.dropWhile isBlank = []) {bound : Nat}
    (offset : Nat) (hbound : chars.length < bound) :
    ∃ lexemes position, lexemesWithin bound offset chars = (lexemes, .finished position) ∧
      lexemes.map Lexeme.word = words := by
  induction h generalizing bound offset with
  | done chars =>
      have hread : readToken (chars.dropWhile isBlank) = .finished := by rw [hrest]; rfl
      cases bound with
      | zero => omega
      | succ bound => exact ⟨[], offset, by simp only [Formula.lexemesWithin, hread], rfl⟩
  | @token chars lexeme rest _ token words hread hopening _ ih =>
      have hlength := length_lt_of_readToken hread
      cases bound with
      | zero => omega
      | succ bound =>
          obtain ⟨others, position, hothers, hwords⟩ := @ih hrest bound
            (offset + byteLength (chars.takeWhile isBlank) + byteLength lexeme +
              byteLength []) (by omega)
          refine ⟨.token offset token :: others, position, ?_, ?_⟩
          · simp only [Formula.lexemesWithin, hread, readLexeme_token hopening, hothers]
          · rw [List.map_cons, hwords, Lexeme.word]
  | @external chars lexeme rest inner _ name words hread hname hopening _ ih =>
      have hlength := length_lt_of_readToken hread
      have hinside := length_afterOpening?_lt hopening
      have htail := length_splitRaw_le 0 inner
      cases bound with
      | zero => omega
      | succ bound =>
          obtain ⟨others, position, hothers, hwords⟩ := @ih hrest bound
            (offset + byteLength (chars.takeWhile isBlank) + byteLength lexeme +
              byteLength (rest.takeWhile isBlank ++ '(' :: (splitRaw 0 inner).1)) (by omega)
          refine ⟨.external offset name (String.ofList (trim (splitRaw 0 inner).1)) :: others,
            position, ?_, ?_⟩
          · simp only [Formula.lexemesWithin, hread, readLexeme_external hname hopening, hothers]
          · rw [List.map_cons, hwords, Lexeme.word]

theorem readToken_opening (rest : List Char) :
    readToken ('(' :: rest) = .token .openParen ['('] rest := rfl

theorem Spells.reads {chars rest : List Char} {words : List Word}
    (h : Spells chars words rest) (hrest : rest.dropWhile isBlank = []) (offset : Nat) :
    ({ rest := chars, offset, failure := none } : Scanner).Reads words := by
  induction h generalizing offset with
  | done chars =>
      have hread : readToken (chars.dropWhile isBlank) = .finished := by rw [hrest]; rfl
      simp only [Scanner.Reads, Scanner.next, hread]
  | token hread _ _ ih =>
      simp only [Scanner.Reads, Scanner.next, hread]
      exact ⟨trivial, ih hrest _⟩
  | external hread _ hopening _ ih =>
      simp only [Scanner.Reads, Scanner.next, hread, afterOpening?_eq_some hopening,
        readToken_opening, Scanner.nextRaw]
      exact ⟨trivial, trivial, trivial, ih hrest _⟩

theorem splitRaw_of_balanced {chars : List Char} {depth : Nat} (rest : List Char)
    (h : chars.foldlM nest depth = some 0) :
    splitRaw depth (chars ++ ')' :: rest) = (chars, ')' :: rest) := by
  induction chars generalizing depth with
  | nil =>
      cases h
      rfl
  | cons char chars ih =>
      rw [List.foldlM_cons] at h
      rw [List.cons_append, splitRaw.eq_def]
      by_cases hopen : char = '('
      · simp only [nest, if_pos hopen, Option.bind_eq_bind, Option.bind_some] at h
        simp only [if_pos hopen, ih h]
      by_cases hclose : char = ')'
      · simp only [nest, if_neg hopen, if_pos hclose] at h
        cases depth with
        | zero => cases h
        | succ outer => simp only [if_neg hopen, if_pos hclose, ih h]
      · simp only [nest, if_neg hopen, if_neg hclose, Option.bind_eq_bind,
          Option.bind_some] at h
        simp only [if_neg hopen, if_neg hclose, ih h]

theorem balanced_of_splitRaw {chars : List Char} {depth : Nat}
    (h : (splitRaw depth chars).2 ≠ []) :
    (splitRaw depth chars).1.foldlM nest depth = some 0 := by
  induction chars generalizing depth with
  | nil => exact absurd rfl h
  | cons char chars ih =>
      unfold splitRaw at h ⊢
      by_cases hopen : char = '('
      · simp only [if_pos hopen] at h ⊢
        simp only [List.foldlM_cons, nest, if_pos hopen]
        exact ih h
      by_cases hclose : char = ')'
      · cases depth with
        | zero => simp only [if_neg hopen, if_pos hclose, List.foldlM_nil]; rfl
        | succ outer =>
            simp only [if_neg hopen, if_pos hclose] at h ⊢
            simp only [List.foldlM_cons, nest, if_neg hopen, if_pos hclose]
            exact ih h
      · simp only [if_neg hopen, if_neg hclose] at h ⊢
        simp only [List.foldlM_cons, nest, if_neg hopen, if_neg hclose]
        exact ih h

theorem foldlM_nest_of_isBlank {chars : List Char}
    (h : ∀ char ∈ chars, isBlank char = true) (depth : Nat) :
    chars.foldlM nest depth = some depth := by
  induction chars with
  | nil => rfl
  | cons char chars ih =>
      have hopen : char ≠ '(' := by
        rintro rfl
        exact absurd (h _ List.mem_cons_self) (by decide)
      have hclose : char ≠ ')' := by
        rintro rfl
        exact absurd (h _ List.mem_cons_self) (by decide)
      rw [List.foldlM_cons, nest.eq_def, if_neg hopen, if_neg hclose]
      exact ih fun other hother => h other (List.mem_cons_of_mem _ hother)

theorem foldlM_nest_trim (chars : List Char) (depth : Nat) :
    (trim chars).foldlM nest depth = chars.foldlM nest depth := by
  obtain ⟨front, back, hchars, hfront, hback⟩ := exists_blank_around chars
  calc (trim chars).foldlM nest depth
      = (front ++ trim chars ++ back).foldlM nest depth := by
        simp only [List.foldlM_append, foldlM_nest_of_isBlank hfront,
          foldlM_nest_of_isBlank hback, Option.bind_eq_bind, Option.bind_some,
          Option.bind_fun_some]
    _ = chars.foldlM nest depth := by rw [← hchars]

namespace Spells

variable {chars last : List Char} {words : List Word}

theorem standsAlone {token : Token} (h : Spells chars (.token token :: words) last) :
    token.StandsAlone := by
  cases h with
  | token hread _ _ => exact standsAlone_of_readToken hread

theorem not_namesExternal {name : String}
    (h : Spells chars (.token (.identifier name) :: .token .openParen :: words) last) :
    namesExternal name = false := by
  cases h with
  | token hread hopening hrest =>
      cases hrest with
      | @token rest lexeme behind _ _ _ hparen _ _ =>
          by_contra hname
          have hnone := hopening name rfl (by simpa using hname)
          have hchars := (cuts_of_readToken hparen).append
          rw [← (readToken_append_stop hparen).1] at hchars
          change '(' :: behind = _ at hchars
          rw [afterOpening?, ← hchars] at hnone
          cases hnone

theorem external_closed {name locator : String}
    (h : Spells chars (.external name locator :: .token .closeParen :: words) last) :
    (Token.identifier name).StandsAlone ∧ namesExternal name = true ∧
      trim locator.toList = locator.toList ∧ Balanced locator.toList := by
  cases h with
  | @external _ _ _ inner _ _ _ hread hname _ hrest =>
      have hclosed : (splitRaw 0 inner).2 ≠ [] := by
        intro hempty
        rw [hempty] at hrest
        cases hrest with
        | token hparen _ _ => cases hparen
      refine ⟨standsAlone_of_readToken hread, hname, ?_, ?_⟩
      · rw [String.toList_ofList, trim_trim]
      · rw [String.toList_ofList, Balanced, foldlM_nest_trim]
        exact balanced_of_splitRaw hclosed

theorem exists_behind {front : List Word} (h : Spells chars (front ++ words) last) :
    ∃ behind, Spells behind words last := by
  induction front generalizing chars with
  | nil => exact ⟨chars, h⟩
  | cons word front ih =>
      cases h with
      | token _ _ hrest => exact ih hrest
      | external _ _ _ hrest => exact ih hrest

end Spells

end LiveSheet.Formula
