import LiveSheet.Proofs.Formula.Names
import LiveSheet.Formula.Parser

namespace LiveSheet.Formula

open LiveSheet.Text

/-! What a text that is accepted as a cell id reads as.  The scanner skips white
space, so the check sees the name alone and lets the white space around it
through, while a formula keeps the name and loses the white space. -/

def bareName (id : String) : String :=
  String.ofList (trim id.toList)

/-- A text that holds one name, with white space alone in front of it and
behind. -/
structure Frames (chars : List Char) (name : String) (rest : List Char) : Prop where
  reads : readToken (chars.dropWhile isBlank) = .token (.identifier name) name.toList rest
  blank : rest.dropWhile isBlank = []

theorem dropWhile_isBlank_eq_self {chars : List Char}
    (h : ∀ char ∈ chars, isBlank char = false) : chars.dropWhile isBlank = chars := by
  rw [List.dropWhile_eq_self_iff]
  intro hlength hfirst
  exact Bool.false_ne_true ((h _ (List.getElem_mem hlength)).symm.trans hfirst)

theorem dropWhile_isBlank_of_pieces {bound offset : Nat} {chars : List Char}
    (hbound : chars.length ≤ bound) (h : piecesWithin bound offset chars = []) :
    chars.dropWhile isBlank = [] := by
  cases bound with
  | zero => rw [List.eq_nil_of_length_eq_zero (Nat.le_zero.mp hbound), List.dropWhile_nil]
  | succ bound =>
      simp only [piecesWithin] at h
      rcases readToken_cases (chars.dropWhile isBlank) with
        ⟨hchars, -⟩ | ⟨char, rest, -, hread⟩ | ⟨token, lexeme, rest, hread, -⟩
      · exact hchars
      · simp [hread] at h
      · simp [hread] at h

theorem readToken_of_tokenize {source : String} {token : Token}
    (h : tokenize source = .ok [token]) :
    ∃ lexeme rest, readToken (source.toList.dropWhile isBlank) = .token token lexeme rest ∧
      rest.dropWhile isBlank = [] := by
  unfold tokenize pieces at h
  have hdrop := length_dropWhile_le source.toList
  generalize hbound : source.toList.length = bound at h hdrop
  cases bound with
  | zero => cases h
  | succ bound =>
      simp only [piecesWithin] at h
      rcases readToken_cases (source.toList.dropWhile isBlank) with
        ⟨-, hread⟩ | ⟨char, rest, -, hread⟩ | ⟨first, lexeme, rest, hread, hcuts⟩
      · simp only [hread] at h
        cases h
      · simp only [hread, List.mapM_cons] at h
        cases h
      · have hlength := hcuts.length_lt
        simp only [hread, List.mapM_cons] at h
        generalize hpieces : piecesWithin bound _ rest = behind at h
        cases behind with
        | nil =>
            cases h
            exact ⟨lexeme, rest, hread, dropWhile_isBlank_of_pieces (by omega) hpieces⟩
        | cons piece behind =>
            rw [List.mapM_cons] at h
            cases hpiece : piece.token? with
            | error error => rw [hpiece] at h; cases h
            | ok second =>
                cases hothers : behind.mapM Piece.token? with
                | error error => rw [hpiece, hothers] at h; cases h
                | ok others => rw [hpiece, hothers] at h; cases h

theorem frames_of_isCellIdentifier {id : String} (h : isCellIdentifier id = true) :
    ∃ name rest, Frames id.toList name rest := by
  unfold isCellIdentifier at h
  split at h
  · rename_i name htokens
    obtain ⟨lexeme, rest, hread, hblank⟩ := readToken_of_tokenize htokens
    obtain ⟨-, -, -, hlexeme, -, -⟩ := readToken_identifier hread
    exact ⟨name, rest, hlexeme ▸ hread, hblank⟩
  · contradiction

namespace Frames

variable {chars rest : List Char} {name : String}

theorem dropWhile_eq (h : Frames chars name rest) :
    chars.dropWhile isBlank = name.toList ++ rest :=
  (cuts_of_readToken h.reads).append.symm

theorem not_isBlank (h : Frames chars name rest) : ∀ char ∈ name.toList, isBlank char = false := by
  obtain ⟨first, tail, hchars, -, hlexeme, -⟩ := readToken_identifier h.reads
  have hhead := List.head?_dropWhile_not isBlank chars
  rw [hchars, List.head?_cons] at hhead
  intro char hmem
  rw [hlexeme] at hmem
  rcases List.mem_cons.mp hmem with rfl | htail
  · simpa using hhead
  · have hcontinues := List.mem_takeWhile_imp htail
    simp only [continuesIdentifier, Bool.and_eq_true, Bool.not_eq_true'] at hcontinues
    exact hcontinues.1.1.2

theorem ne_nil (h : Frames chars name rest) : name.toList ≠ [] := by
  obtain ⟨first, tail, -, -, hlexeme, -⟩ := readToken_identifier h.reads
  rw [hlexeme]
  exact List.cons_ne_nil _ _

theorem trim_eq (h : Frames chars name rest) : trim chars = name.toList := by
  have hrest : ∀ char ∈ rest.reverse, isBlank char = true := by
    intro char hmem
    exact List.dropWhile_eq_nil_iff.mp h.blank char (List.mem_reverse.mp hmem)
  have hname : name.toList.reverse.dropWhile isBlank = name.toList.reverse :=
    dropWhile_isBlank_eq_self fun char hmem => h.not_isBlank char (List.mem_reverse.mp hmem)
  rw [trim, trimStart, h.dropWhile_eq, trimEnd, List.reverse_append,
    List.dropWhile_append_of_pos hrest, hname, List.reverse_reverse]

theorem name_eq_iff (h : Frames chars name rest) :
    name.toList = chars ↔ chars.any isBlank = false := by
  constructor
  · intro heq
    rw [List.any_eq_false, ← heq]
    exact fun char hmem => by simp [h.not_isBlank char hmem]
  · intro hfree
    have hnone : ∀ char ∈ chars, isBlank char = false := by simpa using hfree
    have hbehind : ∀ char ∈ chars.reverse, isBlank char = false :=
      fun char hmem => hnone char (List.mem_reverse.mp hmem)
    rw [← h.trim_eq, trim, trimStart, trimEnd, dropWhile_isBlank_eq_self hnone,
      dropWhile_isBlank_eq_self hbehind, List.reverse_reverse]

theorem readName_eq (h : Frames chars name rest) (offset : Nat) :
    readName offset name rest = (.token offset (.identifier name), [], rest) := by
  have hopening : afterOpening? rest = none := by rw [afterOpening?, h.blank]
  unfold readName
  split
  · simp only [hopening]
  · rfl

theorem lexemesWithin_eq (h : Frames chars name rest) (bound offset : Nat) :
    ∃ position, lexemesWithin (bound + 2) offset chars =
      ([.token offset (.identifier name)], .finished position) := by
  have hfinished : readToken (rest.dropWhile isBlank) = .finished := by rw [h.blank]; rfl
  rw [lexemesWithin]
  simp only [h.reads, readLexeme, h.readName_eq]
  rw [lexemesWithin]
  simp only [hfinished]
  exact ⟨_, rfl⟩

theorem namesIn_eq (h : Frames chars name rest) : namesIn chars = [name] := by
  rw [namesIn_token h.reads, namesIn_of_isBlank h.blank]
  rfl

end Frames

section

variable {id : String}

theorem frames_bareName (h : isCellIdentifier id = true) :
    ∃ rest, Frames id.toList (bareName id) rest := by
  obtain ⟨name, rest, hframes⟩ := frames_of_isCellIdentifier h
  rw [bareName, hframes.trim_eq, String.ofList_toList]
  exact ⟨rest, hframes⟩

theorem bareName_eq_iff (h : isCellIdentifier id = true) :
    bareName id = id ↔ id.toList.any isBlank = false := by
  obtain ⟨rest, hframes⟩ := frames_bareName h
  rw [← hframes.name_eq_iff, String.toList_inj]

theorem canonical_bareName_eq_iff (h : isCellIdentifier id = true) :
    canonical (bareName id) = canonical id ↔ id.toList.any isBlank = false := by
  obtain ⟨rest, hframes⟩ := frames_bareName h
  constructor
  · intro heq
    have hname : (bareName id).toList.any isBlank = false := by
      rw [List.any_eq_false]
      exact fun char hmem => by simp [hframes.not_isBlank char hmem]
    rw [← any_isBlank_lowercase id, ← canonical, ← heq, canonical, any_isBlank_lowercase, hname]
  · intro hfree
    rw [(bareName_eq_iff h).mpr hfree]

theorem ne_empty_of_isCellIdentifier (h : isCellIdentifier id = true) : id ≠ "" := by
  rintro rfl
  exact absurd h (by decide)

theorem parseLexemes_identifier (position offset : Nat) (name : String) :
    parseLexemes (.finished position) [.token offset (.identifier name)] =
      .ok (.identifier name) := rfl

theorem parse_cellIdentifier (h : isCellIdentifier id = true) :
    parse id = .ok (.identifier (bareName id)) := by
  obtain ⟨rest, hframes⟩ := frames_bareName h
  have hlength : id.toList.length ≠ 0 := by
    intro hnil
    have hname := hframes.trim_eq
    rw [List.eq_nil_of_length_eq_zero hnil] at hname
    exact hframes.ne_nil hname.symm
  obtain ⟨bound, hbound⟩ := Nat.exists_eq_succ_of_ne_zero hlength
  obtain ⟨position, hlexemes⟩ := hframes.lexemesWithin_eq bound 0
  rw [parse, lexemes, hbound]
  simp only [Nat.succ_eq_add_one, hlexemes, parseLexemes_identifier]

theorem identifiers_cellIdentifier (h : isCellIdentifier id = true) :
    identifiers id = [bareName id] := by
  obtain ⟨rest, hframes⟩ := frames_bareName h
  exact hframes.namesIn_eq

@[simp] theorem body?_marked (body : String) : body? ("=" ++ body) = some body := by
  simp [body?, String.toList_append]

theorem references_cellIdentifier (h : isCellIdentifier id = true) {cell : String}
    (hother : canonical (bareName id) ≠ canonical cell) :
    (references cell ("=" ++ id)).toList = [canonical (bareName id)] := by
  rw [references, body?_marked]
  simp only [identifiers_cellIdentifier h, List.map_cons, List.map_nil, List.filter_cons,
    List.filter_nil, bne_iff_ne, if_pos hother]
  rfl

theorem references_eq_iff (h : isCellIdentifier id = true) {cell : String}
    (hother : canonical cell ≠ canonical id) :
    (references cell ("=" ++ id)).toList = [canonical id] ↔ id.toList.any isBlank = false := by
  rw [← canonical_bareName_eq_iff h]
  constructor
  · intro hreferences
    have hmem : canonical id ∈ (references cell ("=" ++ id)).toList := by
      rw [hreferences]
      exact List.mem_singleton_self _
    obtain ⟨body, hbody, -, name, hname, hsame⟩ := mem_references.mp hmem
    cases hbody.symm.trans (body?_marked id)
    rw [identifiers_cellIdentifier h, List.mem_singleton] at hname
    rw [← hname, hsame]
  · intro hname
    have hmentioned : canonical (bareName id) ≠ canonical cell := by
      rw [hname]
      exact hother.symm
    rw [references_cellIdentifier h hmentioned, hname]

end

end LiveSheet.Formula
