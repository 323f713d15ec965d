import LiveSheet.Proofs.Formula.Tokens

namespace LiveSheet.Formula

open LiveSheet.Text

inductive Weaves : List Char → List Token → Prop where
  | done {gap : List Char} (hgap : ∀ char ∈ gap, isBlank char = true) : Weaves gap []
  | token {gap rest : List Char} {token : Token} {tokens : List Token}
      (hgap : ∀ char ∈ gap, isBlank char = true) (hrest : Weaves rest tokens) :
      Weaves (gap ++ token.text.toList ++ rest) (token :: tokens)

namespace Scans

variable {chars last : List Char} {tokens : List Token}

theorem weaves (h : Scans chars tokens last) (hlast : last.dropWhile isBlank = []) :
    Weaves chars tokens := by
  induction h with
  | done chars => exact .done (List.dropWhile_eq_nil_iff.mp hlast)
  | @token chars lexeme rest _ token tokens hread _ ih =>
      have hgap : ∀ char ∈ chars.takeWhile isBlank, isBlank char = true :=
        fun char hmem => List.mem_takeWhile_imp hmem
      have hchars : chars.takeWhile isBlank ++ token.text.toList ++ rest = chars := by
        rw [readToken_text hread, List.append_assoc, (cuts_of_readToken hread).append,
          List.takeWhile_append_dropWhile]
      exact hchars ▸ Weaves.token hgap (ih hlast)

theorem standsAlone (h : Scans chars tokens last) : ∀ token ∈ tokens, token.StandsAlone := by
  induction h with
  | done chars => exact List.forall_mem_nil _
  | token hread _ ih => exact List.forall_mem_cons.mpr ⟨standsAlone_of_readToken hread, ih⟩

theorem space {token : Token} (h : Scans chars (token :: tokens) last) :
    Scans (' ' :: chars) (token :: tokens) last := by
  cases h with
  | token hread hrest =>
      rw [← List.dropWhile_cons_of_pos (p := isBlank) (a := ' ') (by decide)] at hread
      exact .token hread hrest

end Scans

def spaced (tokens : List Token) : String :=
  " ".intercalate (tokens.map Token.text)

theorem toList_spaced_singleton (token : Token) :
    (spaced [token]).toList = token.text.toList := by
  rw [spaced, String.toList_intercalate, List.map_singleton, List.map_singleton,
    List.intercalate_singleton]

theorem toList_spaced_cons_cons (token second : Token) (others : List Token) :
    (spaced (token :: second :: others)).toList =
      token.text.toList ++ ' ' :: (spaced (second :: others)).toList := by
  simp only [spaced, String.toList_intercalate, List.map_cons, List.intercalate_cons_cons,
    List.append_assoc]
  rfl

theorem scans_spaced {tokens : List Token} (h : ∀ token ∈ tokens, token.StandsAlone) :
    Scans (spaced tokens).toList tokens [] := by
  induction tokens with
  | nil => exact .done []
  | cons token tokens ih =>
      have halone := h token List.mem_cons_self
      have hothers := ih fun other hmem => h other (List.mem_cons_of_mem _ hmem)
      cases tokens with
      | nil =>
          rw [toList_spaced_singleton, ← List.append_nil token.text.toList]
          exact .token (halone.reads apart_nil) (.done [])
      | cons second others =>
          rw [toList_spaced_cons_cons]
          exact .token (halone.reads (apart_space _)) hothers.space

theorem startsNumber_append {first : Char} {rest tail : List Char}
    (h : startsNumber first rest = true) : startsNumber first (rest ++ tail) = true := by
  cases rest with
  | cons second others => exact h
  | nil =>
      have hdigit : first.isDigit = true := by simpa [startsNumber] using h
      rw [startsNumber, hdigit, Bool.true_or]

theorem readToken_unexpected_cut {first : Char} {rest tail behind : List Char}
    (h : readToken (first :: (rest ++ tail)) = .unexpected first behind) :
    readToken (first :: rest) = .unexpected first rest := by
  have hnumber : ¬ readNumber (first :: (rest ++ tail)) = .unexpected first behind := nofun
  rw [readToken_cons] at h ⊢
  split at h
  · cases h
  split at h
  · exact absurd h hnumber
  rename_i hstart
  split at h
  · cases h
  rename_i hletter
  simp only [if_neg (mt startsNumber_append hstart), if_neg hletter]

theorem not_prefix_of_unexpected {chars behind : List Char} {char : Char}
    (h : readToken chars = .unexpected char behind) {token : Token}
    (halone : token.StandsAlone) : ¬ token.text.toList <+: chars := by
  rintro ⟨tail, rfl⟩
  obtain ⟨hsome, -, hagain⟩ := halone.starts
  have hread := hagain [] apart_nil
  obtain ⟨first, rest, htext⟩ := List.exists_cons_of_ne_nil hsome
  rw [List.append_nil, htext] at hread
  rw [htext, List.cons_append] at h
  obtain ⟨other, others, hchars, hagain⟩ | ⟨_, _, _, hagain, -⟩ :=
    (readToken_cases (first :: (rest ++ tail))).resolve_left (fun hnil => nomatch hnil.1)
  · cases hchars
    cases h.symm.trans hagain
    cases hread.symm.trans (readToken_unexpected_cut h)
  · cases h.symm.trans hagain

namespace Scanner

inductive Request where
  | token
  | raw

def answer (scanner : Scanner) : Request → Scanner
  | .token => scanner.next.2
  | .raw => scanner.nextRaw.2

def after (scanner : Scanner) (requests : List Request) : Scanner :=
  requests.foldl answer scanner

/-- Whether one scanner stands where another one has taken characters off its front. -/
def Moves (before after : Scanner) : Prop :=
  ∃ taken, before.rest = taken ++ after.rest ∧
    after.offset = before.offset + byteLength taken

theorem Moves.refl (scanner : Scanner) : scanner.Moves scanner :=
  ⟨[], rfl, rfl⟩

theorem Moves.trans {first second third : Scanner} (hfirst : first.Moves second)
    (hsecond : second.Moves third) : first.Moves third := by
  obtain ⟨front, hfront, hoffset⟩ := hfirst
  obtain ⟨behind, hbehind, hlast⟩ := hsecond
  refine ⟨front ++ behind, ?_, ?_⟩
  · rw [hfront, hbehind, List.append_assoc]
  · rw [hlast, hoffset, byteLength_append, Nat.add_assoc]

theorem moves_next (scanner : Scanner) : scanner.Moves scanner.next.2 := by
  obtain ⟨chars, offset, failure⟩ := scanner
  cases failure with
  | some error => exact .refl _
  | none =>
      have hblank := List.takeWhile_append_dropWhile (p := isBlank) (l := chars)
      rcases readToken_cases (chars.dropWhile isBlank) with
        ⟨hchars, hread⟩ | ⟨char, behind, hchars, hread⟩ | ⟨token, lexeme, rest, hread, hcuts⟩
      · simp only [next, hread]
        rw [hchars] at hblank
        exact ⟨chars.takeWhile isBlank, hblank.symm, rfl⟩
      · simp only [next, hread]
        rw [hchars] at hblank
        refine ⟨chars.takeWhile isBlank ++ [char], ?_, ?_⟩
        · rw [List.append_assoc]
          exact hblank.symm
        · simp [Nat.add_assoc]
      · simp only [next, hread]
        rw [← hcuts.append] at hblank
        refine ⟨chars.takeWhile isBlank ++ lexeme, ?_, ?_⟩
        · rw [List.append_assoc]
          exact hblank.symm
        · simp [Nat.add_assoc]

theorem moves_nextRaw (scanner : Scanner) : scanner.Moves scanner.nextRaw.2 :=
  ⟨(splitRaw 0 scanner.rest).1, (splitRaw_append 0 scanner.rest).symm, rfl⟩

theorem moves_answer (scanner : Scanner) (request : Request) :
    scanner.Moves (scanner.answer request) := by
  cases request with
  | token => exact scanner.moves_next
  | raw => exact scanner.moves_nextRaw

theorem moves_after (scanner : Scanner) (requests : List Request) :
    scanner.Moves (scanner.after requests) := by
  induction requests generalizing scanner with
  | nil => exact .refl scanner
  | cons request requests ih =>
      exact (scanner.moves_answer request).trans (ih (scanner.answer request))

theorem after_append (scanner : Scanner) (requests others : List Request) :
    scanner.after (requests ++ others) = (scanner.after requests).after others :=
  List.foldl_append

theorem Moves.offset_le {before after : Scanner} (h : before.Moves after) :
    before.offset ≤ after.offset := by
  obtain ⟨taken, -, hoffset⟩ := h
  exact hoffset ▸ Nat.le_add_right _ _

end Scanner

theorem byteLength_eq_utf8ByteSize (chars : List Char) :
    byteLength chars = (String.ofList chars).utf8ByteSize := by
  induction chars with
  | nil => rfl
  | cons char chars ih =>
      rw [byteLength_cons, ih, ← List.singleton_append, String.ofList_append,
        String.utf8ByteSize_append, ← String.singleton_eq_ofList, String.utf8ByteSize_singleton]

theorem isValid_of_append {source : String} {front behind : List Char}
    (h : source.toList = front ++ behind) :
    (⟨byteLength front⟩ : String.Pos.Raw).IsValid source := by
  rw [String.Pos.Raw.isValid_iff_exists_append]
  refine ⟨String.ofList front, String.ofList behind, ?_, ?_⟩
  · rw [← String.ofList_append, ← h, String.ofList_toList]
  · rw [byteLength_eq_utf8ByteSize]
    rfl

theorem Scanner.Moves.isValid {source : String} {after : Scanner}
    (h : (Scanner.start source).Moves after) :
    (⟨after.offset⟩ : String.Pos.Raw).IsValid source := by
  obtain ⟨taken, hsource, hoffset⟩ := h
  rw [hoffset, start, Nat.zero_add]
  exact isValid_of_append hsource

/-- What stands where a source fails to be read, and in front of it. -/
theorem tokenize_error {source : String} {error : ScanError}
    (h : tokenize source = .error error) :
    ∃ front behind, source.toList = front ++ error.char :: behind ∧
      error.position = byteLength front ∧
      (∃ tokens, tokenize (String.ofList front) = .ok tokens) ∧
      isBlank error.char = false ∧
      ∀ token : Token, token.StandsAlone →
        ¬ token.text.toList <+: error.char :: behind := by
  have hresult := h ▸ tokenize_result source
  cases hresult with
  | @unexpected tokens last behind _ hscans hread hposition =>
      obtain ⟨char, rest, hlast, hagain⟩ | ⟨_, _, _, hagain, -⟩ :=
        (readToken_cases (last.dropWhile isBlank)).resolve_left
          (fun hnone => nomatch hread.symm.trans hnone.2)
      swap
      · cases hread.symm.trans hagain
      cases hread.symm.trans hagain
      have hgap : (last.takeWhile isBlank).dropWhile isBlank = [] :=
        List.dropWhile_eq_nil_iff.mpr fun char hmem => List.mem_takeWhile_imp hmem
      have hsplit : last = last.takeWhile isBlank ++ error.char :: behind := by
        rw [← hlast, List.takeWhile_append_dropWhile]
      rw [hsplit] at hscans
      obtain ⟨front, hsource, hfront⟩ := hscans.cut
      have hblank := List.head?_dropWhile_not isBlank last
      rw [hlast, List.head?_cons] at hblank
      refine ⟨front, behind, hsource, ?_, ⟨tokens, ?_⟩, by simpa using hblank, ?_⟩
      · rw [hsource, byteLength_append] at hposition
        omega
      · rw [← String.toList_ofList (l := front)] at hfront
        exact hfront.tokenize hgap
      · intro token halone
        rw [← hlast]
        exact not_prefix_of_unexpected hread halone

/-- What is read from a source is all of it but white space, and is read again from
the texts with single spaces between them.  A source that is not read to its end is
read up to a character that no token starts with.  A scanner goes forward from one
character boundary to another, whatever is asked of it. -/
theorem tokenize_lossless (source : String) :
    (∀ tokens, tokenize source = .ok tokens →
      Weaves source.toList tokens ∧ tokenize (spaced tokens) = .ok tokens) ∧
    (∀ error, tokenize source = .error error →
      ∃ front behind, source.toList = front ++ error.char :: behind ∧
        error.position = byteLength front ∧
        (∃ tokens, tokenize (String.ofList front) = .ok tokens) ∧
        isBlank error.char = false ∧
        ∀ token : Token, token.StandsAlone →
          ¬ token.text.toList <+: error.char :: behind) ∧
    ∀ requests : List Scanner.Request,
      (⟨((Scanner.start source).after requests).offset⟩ : String.Pos.Raw).IsValid source ∧
      ∀ others, ((Scanner.start source).after requests).offset ≤
        ((Scanner.start source).after (requests ++ others)).offset := by
  refine ⟨fun tokens h => ?_, fun error h => tokenize_error h, fun requests => ⟨?_, ?_⟩⟩
  · have hresult := h ▸ tokenize_result source
    cases hresult with
    | finished hscans hlast =>
        exact ⟨hscans.weaves hlast, (scans_spaced hscans.standsAlone).tokenize rfl⟩
  · exact ((Scanner.start source).moves_after requests).isValid
  · intro others
    rw [Scanner.after_append]
    exact (((Scanner.start source).after requests).moves_after others).offset_le

theorem tokenize_lossless_multibyte :
    (tokenize "é+1.5e" = .ok [.identifier "é", .operator .add, .float "1.5", .identifier "e"] ∧
      Weaves "é+1.5e".toList [.identifier "é", .operator .add, .float "1.5", .identifier "e"] ∧
      tokenize (spaced [.identifier "é", .operator .add, .float "1.5", .identifier "e"]) =
        .ok [.identifier "é", .operator .add, .float "1.5", .identifier "e"]) ∧
    tokenize "é .x" = .error ⟨'.', 3⟩ ∧
      ∃ front behind, "é .x".toList = front ++ '.' :: behind ∧ 3 = byteLength front ∧
        (∃ tokens, tokenize (String.ofList front) = .ok tokens) ∧ isBlank '.' = false ∧
        ∀ token : Token, token.StandsAlone → ¬ token.text.toList <+: '.' :: behind := by
  have hread : tokenize "é+1.5e" =
      .ok [.identifier "é", .operator .add, .float "1.5", .identifier "e"] := by decide +kernel
  have hfails : tokenize "é .x" = .error ⟨'.', 3⟩ := by decide +kernel
  exact ⟨⟨hread, (tokenize_lossless "é+1.5e").1 _ hread⟩, hfails,
    (tokenize_lossless "é .x").2.1 _ hfails⟩

end LiveSheet.Formula
