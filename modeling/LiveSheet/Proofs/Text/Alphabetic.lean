import LiveSheet.Text.Alphabetic
import LiveSheet.Text.Control
import LiveSheet.Proofs.Text.Casing

namespace LiveSheet.Text

/-! Letters are apart from all characters that leave no mark, and lower case turns letters
into letters. -/

namespace CodeRanges

/-- Whether no interval of one set meets one of the other. -/
def isApart (ranges others : CodeRanges) : Bool :=
  ranges.all fun range => others.all fun other =>
    Nat.blt range.2 other.1 || Nat.blt other.2 range.1

variable {ranges others : CodeRanges} {char : Char}

theorem not_contains_of_isApart (h : ranges.isApart others = true)
    (hchar : ranges.contains char = true) : others.contains char = false := by
  obtain ⟨range, hrange, hfirst, hlast⟩ := (contains_iff ranges char).mp hchar
  rw [Bool.eq_false_iff, ne_eq, contains_iff]
  rintro ⟨other, hother, hfrom, hto⟩
  have hapart := List.all_eq_true.mp (List.all_eq_true.mp h range hrange) other hother
  simp only [Bool.or_eq_true, Nat.blt_eq] at hapart
  omega

def isInPlanes (ranges : CodeRanges) : Bool :=
  ranges.all fun range =>
    Nat.blt 0x40 range.1 && Nat.beq (range.1 / 0x10000) (range.2 / 0x10000) &&
      Nat.blt (range.2 % 0x10000) 0xFFFE

end CodeRanges

def CaseRun.isOnto (run : CaseRun) (ranges : CodeRanges) : Bool :=
  ranges.any fun range =>
    Nat.ble range.1 run.image && Nat.ble (run.image + (run.last - run.first)) range.2

/-- What the table of letters has to do with the other tables.  All is checked at once. -/
private theorem alphabetic_checked :
    (alphabetic.isApart blank = true ∧ alphabetic.isApart control = true ∧
      alphabetic.isApart unseen = true) ∧
    alphabetic.isInPlanes = true ∧ (lowerRuns.all (·.isOnto alphabetic)) = true := by
  decide +kernel

section

variable {char : Char} (h : isAlphabetic char = true)

include h

theorem not_isBlank_of_isAlphabetic : isBlank char = false :=
  CodeRanges.not_contains_of_isApart alphabetic_checked.1.1 h

theorem not_isControl_of_isAlphabetic : isControl char = false :=
  CodeRanges.not_contains_of_isApart alphabetic_checked.1.2.1 h

theorem inPlane_of_isAlphabetic : 0x40 < char.toNat ∧ endsPlane char = false := by
  obtain ⟨range, hrange, hfirst, hlast⟩ := (CodeRanges.contains_iff alphabetic char).mp h
  have hplane := List.all_eq_true.mp alphabetic_checked.2.1 range hrange
  simp only [Bool.and_eq_true, Nat.blt_eq, Nat.beq_eq] at hplane
  refine ⟨by omega, ?_⟩
  rw [endsPlane, decide_eq_false_iff_not]
  omega

theorem not_isInvisible_of_isAlphabetic : isInvisible char = false := by
  rw [isInvisible, (inPlane_of_isAlphabetic h).2, Bool.false_or]
  exact CodeRanges.not_contains_of_isApart alphabetic_checked.1.2.2 h

end

theorem CaseRun.isAlphabetic_move {run : CaseRun} {code : Nat} (hrun : run ∈ lowerRuns)
    (hcovers : run.covers code = true) : isAlphabetic (Char.ofNat (run.move code)) = true := by
  obtain ⟨hvalid, -, -⟩ := isValidChar_move hrun hcovers
  have hcode : (Char.ofNat (run.move code)).toNat = run.move code := by
    rw [Char.ofNat, dif_pos hvalid]
    rfl
  obtain ⟨range, hrange, honto⟩ :=
    List.any_eq_true.mp (List.all_eq_true.mp alphabetic_checked.2.2 run hrun)
  simp only [covers, Bool.and_eq_true, Nat.ble_eq, decide_eq_true_eq, beq_iff_eq]
    at honto hcovers
  refine (CodeRanges.contains_iff _ _).mpr ⟨range, hrange, ?_⟩
  rw [hcode, move]
  omega

def lowerings (char : Char) : List (List Char) :=
  if char = 'Σ' then [['σ'], ['ς']] else [lowerChar char]

inductive Lowers : List Char → List Char → Prop where
  | nil : Lowers [] []
  | cons {char : Char} {chars piece rest : List Char} (hpiece : piece ∈ lowerings char)
      (hrest : Lowers chars rest) : Lowers (char :: chars) (piece ++ rest)

theorem lowers_lowercaseAfter (before chars : List Char) :
    Lowers chars (lowercaseAfter before chars) := by
  induction chars generalizing before with
  | nil => exact .nil
  | cons char chars ih =>
      rw [lowercaseAfter]
      refine .cons ?_ (ih _)
      by_cases hsigma : char = 'Σ'
      · rw [lowerings, if_pos hsigma, if_pos hsigma]
        split <;> simp
      · rw [lowerings, if_neg hsigma, if_neg hsigma]
        exact List.mem_singleton_self _

theorem lowers_lowercase (text : String) : Lowers text.toList (lowercase text).toList := by
  rw [lowercase, String.toList_ofList]
  exact lowers_lowercaseAfter [] text.toList

theorem piece_cases {char : Char} {piece : List Char} (h : piece ∈ lowerings char) :
    piece = [char] ∨ (∃ letter, piece = [letter] ∧ isAlphabetic letter = true) ∨
      char = 'İ' ∧ piece = ['i', Char.ofNat 0x307] := by
  by_cases hsigma : char = 'Σ'
  · rw [lowerings, if_pos hsigma, List.mem_cons, List.mem_singleton] at h
    rcases h with rfl | rfl
    · exact .inr (.inl ⟨'σ', rfl, by decide⟩)
    · exact .inr (.inl ⟨'ς', rfl, by decide⟩)
  rw [lowerings, if_neg hsigma, List.mem_singleton] at h
  subst h
  by_cases hdotted : char = 'İ'
  · exact .inr (.inr ⟨hdotted, by rw [lowerChar, if_pos hdotted]⟩)
  rw [lowerChar, if_neg hdotted]
  rcases moveBy_eq_or_mem lowerRuns char.toNat with hfixed | ⟨run, hrun, hcovers, hmoved⟩
  · rw [hfixed, Char.ofNat_toNat]
    exact .inl rfl
  · rw [hmoved]
    exact .inr (.inl ⟨_, rfl, CaseRun.isAlphabetic_move hrun hcovers⟩)

theorem piece_of_isBlank {char : Char} {piece : List Char} (hblank : isBlank char = true)
    (h : piece ∈ lowerings char) : piece = [char] := by
  have hne {other : Char} (hother : isBlank other = false) : char ≠ other := by
    rintro rfl
    rw [hblank] at hother
    cases hother
  rw [lowerings, if_neg (hne (by decide)), List.mem_singleton] at h
  subst h
  rw [lowerChar, if_neg (hne (by decide))]
  rcases moveBy_eq_or_mem lowerRuns char.toNat with hfixed | ⟨run, hrun, hcovers, -⟩
  · rw [hfixed, Char.ofNat_toNat]
  · rw [(CaseRun.not_blank hrun hcovers).1] at hblank
    cases hblank

theorem piece_of_isAlphabetic {char : Char} {piece : List Char}
    (halphabetic : isAlphabetic char = true) (h : piece ∈ lowerings char) :
    ∃ letter rest, piece = letter :: rest ∧ isAlphabetic letter = true := by
  rcases piece_cases h with rfl | ⟨letter, rfl, hletter⟩ | ⟨-, rfl⟩
  · exact ⟨char, [], rfl, halphabetic⟩
  · exact ⟨letter, [], rfl, hletter⟩
  · exact ⟨'i', _, rfl, by decide⟩

namespace Lowers

variable {chars first last lowered : List Char}

theorem append_cases (h : Lowers (first ++ last) lowered) :
    ∃ front back, lowered = front ++ back ∧ Lowers first front ∧ Lowers last back := by
  induction first generalizing lowered with
  | nil => exact ⟨[], lowered, rfl, .nil, h⟩
  | cons char first ih =>
      cases h with
      | cons hpiece hrest =>
          obtain ⟨front, back, rfl, hfront, hback⟩ := ih hrest
          exact ⟨_, back, (List.append_assoc _ _ _).symm, .cons hpiece hfront, hback⟩

theorem forall_mem {kind : Char → Prop}
    (hkind : ∀ char piece, kind char → piece ∈ lowerings char → ∀ image ∈ piece, kind image)
    (h : Lowers chars lowered) (hchars : ∀ char ∈ chars, kind char) :
    ∀ image ∈ lowered, kind image := by
  induction h with
  | nil => exact hchars
  | cons hpiece _ ih =>
      obtain ⟨hfirst, hrest⟩ := List.forall_mem_cons.mp hchars
      exact List.forall_mem_append.mpr ⟨hkind _ _ hfirst hpiece, ih hrest⟩

theorem forall_isBlank (h : Lowers chars lowered)
    (hchars : ∀ char ∈ chars, isBlank char = true) : ∀ image ∈ lowered, isBlank image = true := by
  refine h.forall_mem (fun char piece hblank hpiece image himage => ?_) hchars
  rw [piece_of_isBlank hblank hpiece, List.mem_singleton] at himage
  rwa [himage]

end Lowers

end LiveSheet.Text
