import LiveSheet.Proofs.Formula.Scanning
import LiveSheet.Proofs.Table
import LiveSheet.Proofs.Text.Casing

namespace LiveSheet

open LiveSheet.Text

@[simp] theorem canonical_canonical (id : String) :
    canonical (canonical id) = canonical id :=
  lowercase_lowercase id

theorem slash_not_mem_canonical {id : String} (h : '/' ∉ id.toList) :
    '/' ∉ (canonical id).toList :=
  slash_not_mem_lowercase h

namespace Formula

def namesWithin (bound offset : Nat) (chars : List Char) : List String :=
  (piecesWithin bound offset chars).filterMap Piece.identifier?

def namesIn (chars : List Char) : List String :=
  namesWithin chars.length 0 chars

theorem length_dropWhile_le (chars : List Char) :
    (chars.dropWhile isBlank).length ≤ chars.length :=
  (List.dropWhile_suffix isBlank).length_le

theorem namesWithin_eq {bound other : Nat} {chars : List Char} (offset start : Nat)
    (hbound : chars.length ≤ bound) (hother : chars.length ≤ other) :
    namesWithin bound offset chars = namesWithin other start chars := by
  induction bound generalizing chars other offset start with
  | zero =>
      obtain rfl := List.eq_nil_of_length_eq_zero (Nat.le_zero.mp hbound)
      cases other <;> rfl
  | succ bound ih =>
      cases other with
      | zero =>
          obtain rfl := List.eq_nil_of_length_eq_zero (Nat.le_zero.mp hother)
          rfl
      | succ other =>
          have hdrop := length_dropWhile_le chars
          simp only [namesWithin, piecesWithin]
          rcases readToken_cases (chars.dropWhile isBlank) with
            ⟨-, hread⟩ | ⟨char, rest, hchars, hread⟩ | ⟨token, lexeme, rest, hread, hcuts⟩
          · simp only [hread, List.filterMap_nil]
          · have hlength := congrArg List.length hchars
            rw [List.length_cons] at hlength
            simp only [hread, List.filterMap_cons, Piece.identifier?]
            exact ih _ _ (by omega) (by omega)
          · have hlength := hcuts.length_lt
            simp only [hread, List.filterMap_cons]
            have hrest (offset start : Nat) :
                namesWithin bound offset rest = namesWithin other start rest :=
              ih offset start (by omega) (by omega)
            simp only [namesWithin] at hrest
            rw [hrest]

theorem namesIn_eq {chars : List Char} {bound : Nat} (offset : Nat)
    (h : chars.length ≤ bound) : namesWithin bound offset chars = namesIn chars :=
  namesWithin_eq offset 0 h (Nat.le_refl _)

theorem namesIn_step (chars : List Char) :
    namesIn chars =
      match readToken (chars.dropWhile isBlank) with
      | .finished => []
      | .token token _ rest => (Piece.token token).identifier?.toList ++ namesIn rest
      | .unexpected _ rest => namesIn rest := by
  have hlonger : chars.length ≤ chars.length + 1 := by omega
  have hdrop := length_dropWhile_le chars
  rw [← namesIn_eq 0 hlonger]
  simp only [namesWithin, piecesWithin]
  rcases readToken_cases (chars.dropWhile isBlank) with
    ⟨-, hread⟩ | ⟨char, rest, hchars, hread⟩ | ⟨token, lexeme, rest, hread, hcuts⟩
  · simp only [hread, List.filterMap_nil]
  · have hlength := congrArg List.length hchars
    rw [List.length_cons] at hlength
    simp only [hread, List.filterMap_cons, Piece.identifier?]
    exact namesIn_eq _ (by omega)
  · have hlength := hcuts.length_lt
    have hrest (offset : Nat) : namesWithin chars.length offset rest = namesIn rest :=
      namesIn_eq offset (by omega)
    simp only [namesWithin] at hrest
    simp only [hread, List.filterMap_cons, hrest]
    cases (Piece.token token).identifier? <;> rfl

theorem namesIn_congr {chars others : List Char}
    (h : chars.dropWhile isBlank = others.dropWhile isBlank) :
    namesIn chars = namesIn others := by
  rw [namesIn_step, namesIn_step others, h]

theorem namesIn_of_isBlank {chars : List Char} (h : chars.dropWhile isBlank = []) :
    namesIn chars = [] := by
  rw [namesIn_step, h]
  rfl

theorem namesIn_token {chars lexeme rest : List Char} {token : Token}
    (h : readToken (chars.dropWhile isBlank) = .token token lexeme rest) :
    namesIn chars = (Piece.token token).identifier?.toList ++ namesIn rest := by
  rw [namesIn_step, h]

/-- The names of a text are those of its parts, wherever no lexeme runs over the cut. -/
theorem namesIn_append {tail : List Char} (htail : ∀ char ∈ tail.head?, EndsLexeme char)
    (front : List Char) : namesIn (front ++ tail) = namesIn front ++ namesIn tail := by
  induction hlength : front.length using Nat.strong_induction_on generalizing front with
  | _ count ih =>
      subst hlength
      have hdrop := length_dropWhile_le front
      have hsplit := @List.dropWhile_append _ isBlank front tail
      by_cases hfront : front.dropWhile isBlank = []
      · rw [hfront, List.isEmpty_nil, if_pos rfl] at hsplit
        rw [namesIn_congr hsplit, namesIn_step front, hfront]
        rfl
      rw [if_neg (by simpa using hfront)] at hsplit
      have hread := readToken_append_tail htail hfront
      rw [← hsplit] at hread
      rw [namesIn_step front, namesIn_step (front ++ tail), hread]
      rcases readToken_cases (front.dropWhile isBlank) with
        ⟨hchars, -⟩ | ⟨char, rest, hchars, hfirst⟩ | ⟨token, lexeme, rest, hfirst, hcuts⟩
      · exact absurd hchars hfront
      · have hlonger := congrArg List.length hchars
        rw [List.length_cons] at hlonger
        rw [hfirst]
        exact ih rest.length (by omega) rest rfl
      · have hlonger := hcuts.length_lt
        rw [hfirst]
        simp only [Reading.extend, List.append_assoc]
        rw [ih rest.length (by omega) rest rfl]

theorem not_isBarrier_of_mem_namesIn {chars : List Char} {name : String}
    (h : name ∈ namesIn chars) : ∀ char ∈ name.toList, ¬ IsBarrier char := by
  induction hlength : chars.length using Nat.strong_induction_on
    generalizing chars with
  | _ count ih =>
      subst hlength
      have hdrop := length_dropWhile_le chars
      rw [namesIn_step] at h
      rcases readToken_cases (chars.dropWhile isBlank) with
        ⟨-, hread⟩ | ⟨char, rest, hchars, hread⟩ | ⟨token, lexeme, rest, hread, hcuts⟩
      · simp [hread] at h
      · have hlonger := congrArg List.length hchars
        rw [List.length_cons] at hlonger
        simp only [hread] at h
        exact ih rest.length (by omega) h rfl
      · have hlonger := hcuts.length_lt
        simp only [hread] at h
        rcases List.mem_append.mp h with hfirst | hrest
        · cases token with
          | identifier first =>
              simp only [Piece.identifier?, Option.toList_some, List.mem_singleton] at hfirst
              subst hfirst
              obtain ⟨htext, hnone⟩ := hcuts.name name rfl
              rw [htext]
              exact hnone
          | _ => simp [Piece.identifier?] at hfirst
        · exact ih rest.length (by omega) hrest rfl

theorem slash_not_mem_of_mem_identifiers {source name : String}
    (h : name ∈ identifiers source) : '/' ∉ name.toList :=
  fun hslash => not_isBarrier_of_mem_namesIn h '/' hslash (Or.inl rfl)

private theorem mem_of_mapM_ok {f : α → Except ε β} {items : List α} {results : List β}
    (h : items.mapM f = .ok results) : ∀ item ∈ items, ∃ result ∈ results,
      f item = .ok result := by
  induction items generalizing results with
  | nil => simp
  | cons item items ih =>
      rw [List.mapM_cons] at h
      cases hfirst : f item with
      | error error => rw [hfirst] at h; cases h
      | ok first =>
          cases hothers : items.mapM f with
          | error error => rw [hfirst, hothers] at h; cases h
          | ok others =>
              rw [hfirst, hothers] at h
              cases h
              intro other hmem
              rcases List.mem_cons.mp hmem with rfl | hrest
              · exact ⟨first, List.mem_cons_self, hfirst⟩
              · obtain ⟨result, hresult, heq⟩ := ih hothers other hrest
                exact ⟨result, List.mem_cons_of_mem _ hresult, heq⟩

private theorem not_isBarrier_of_pieces {bound : Nat} {chars : List Char}
    (offset : Nat) (hbound : chars.length ≤ bound)
    (h : ∀ piece ∈ piecesWithin bound offset chars,
      ∃ name, piece = .token (.identifier name)) :
    ∀ char ∈ chars, ¬ IsBarrier char := by
  induction bound generalizing offset chars with
  | zero =>
      obtain rfl := List.eq_nil_of_length_eq_zero (Nat.le_zero.mp hbound)
      exact fun char hmem => absurd hmem List.not_mem_nil
  | succ bound ih =>
      have hdrop := length_dropWhile_le chars
      intro char hmem
      rw [← List.takeWhile_append_dropWhile (p := isBlank) (l := chars)] at hmem
      simp only [piecesWithin] at h
      rcases List.mem_append.mp hmem with hblank | hkept
      · rintro (rfl | rfl) <;>
          exact absurd (List.mem_takeWhile_imp hblank) (by decide)
      · rcases readToken_cases (chars.dropWhile isBlank) with
          ⟨hchars, -⟩ | ⟨first, rest, -, hread⟩ | ⟨token, lexeme, rest, hread, hcuts⟩
        · rw [hchars] at hkept
          exact absurd hkept List.not_mem_nil
        · simp only [hread] at h
          obtain ⟨name, hname⟩ := h _ List.mem_cons_self
          cases hname
        · have hshorter := hcuts.length_lt
          simp only [hread] at h
          obtain ⟨name, hname⟩ := h _ List.mem_cons_self
          cases hname
          rw [← hcuts.append] at hkept
          rcases List.mem_append.mp hkept with hlexeme | hrest
          · exact (hcuts.name name rfl).2 char hlexeme
          · exact ih _ (by omega)
              (fun piece hpiece => h piece (List.mem_cons_of_mem _ hpiece)) char hrest

theorem slash_not_mem_of_isCellIdentifier {text : String}
    (h : isCellIdentifier text = true) : '/' ∉ text.toList := by
  intro hslash
  unfold isCellIdentifier at h
  split at h
  · rename_i name htokens
    refine not_isBarrier_of_pieces 0 (Nat.le_refl _) ?_ '/' hslash (Or.inl rfl)
    intro piece hpiece
    obtain ⟨token, htoken, hread⟩ := mem_of_mapM_ok htokens piece hpiece
    obtain rfl := List.mem_singleton.mp htoken
    cases piece with
    | token read => cases hread; exact ⟨name, rfl⟩
    | unexpected error => cases hread
  · contradiction

theorem mem_references {cell value id : String} :
    id ∈ (references cell value).toList ↔
      ∃ body, body? value = some body ∧ id ≠ canonical cell ∧
        ∃ name ∈ identifiers body, canonical name = id := by
  unfold references
  cases body? value with
  | none => simp
  | some body =>
      rw [IdSet.mem_toList_ofList, List.mem_filter, List.mem_map, bne_iff_ne]
      simp only [Option.some.injEq, exists_eq_left']
      exact And.comm

theorem slash_not_mem_of_mem_references {cell value id : String}
    (h : id ∈ (references cell value).toList) : '/' ∉ id.toList := by
  obtain ⟨body, -, -, name, hname, rfl⟩ := mem_references.mp h
  exact slash_not_mem_canonical (slash_not_mem_of_mem_identifiers hname)

theorem canonical_of_mem_references {cell value id : String}
    (h : id ∈ (references cell value).toList) : canonical id = id := by
  obtain ⟨body, -, -, name, -, rfl⟩ := mem_references.mp h
  exact canonical_canonical name

end Formula

end LiveSheet
