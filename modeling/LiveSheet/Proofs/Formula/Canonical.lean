import LiveSheet.Proofs.Formula.Tokens
import LiveSheet.Proofs.Text.Alphabetic

namespace LiveSheet.Formula

open LiveSheet.Text

inductive IsName : List Char → Prop where
  | mk {first : Char} {rest : List Char} (hfirst : isAlphabetic first = true)
      (hrest : ∀ char ∈ rest, continuesIdentifier char = true) : IsName (first :: rest)

section

variable {first : Char} (h : isAlphabetic first = true)

include h

theorem continuesIdentifier_of_isAlphabetic : continuesIdentifier first = true := by
  have hreserved : isReserved first = false := by
    have hcode := (inPlane_of_isAlphabetic h).1
    rw [Bool.eq_false_iff]
    intro hmem
    simp only [isReserved, List.contains_eq_mem, decide_eq_true_eq, List.mem_cons,
      List.not_mem_nil, or_false] at hmem
    rcases hmem with rfl | rfl | rfl | rfl | rfl | rfl | rfl <;> exact absurd hcode (by decide)
  rw [continuesIdentifier, hreserved, not_isBlank_of_isAlphabetic h,
    not_isControl_of_isAlphabetic h, not_isInvisible_of_isAlphabetic h]
  rfl

theorem markToken?_of_isAlphabetic : markToken? first = none := by
  cases hmark : markToken? first with
  | none => rfl
  | some token =>
      have hcontinues := continuesIdentifier_of_isAlphabetic h
      rw [continuesIdentifier, isReserved_of_mark hmark] at hcontinues
      cases hcontinues

theorem startsNumber_of_isAlphabetic (rest : List Char) : startsNumber first rest = false := by
  have hcode := (inPlane_of_isAlphabetic h).1
  have hdigit : first.isDigit = false := by
    rw [Bool.eq_false_iff]
    intro hdigit
    have hrange : 48 ≤ first.toNat ∧ first.toNat ≤ 57 := by
      simpa [Char.isDigit, UInt32.le_iff_toNat_le] using hdigit
    omega
  have hpoint : (first == '.') = false := by
    rw [beq_eq_false_iff_ne]
    rintro rfl
    exact absurd hcode (by decide)
  rw [startsNumber, hdigit, hpoint]
  rfl

end

theorem IsName.readToken {name : List Char} (h : IsName name) {tail : List Char}
    (htail : Apart tail) :
    readToken (name ++ tail) = .token (.identifier (String.ofList name)) name tail := by
  cases h with
  | mk hfirst hrest =>
      have hstop : ∀ char ∈ tail.head?, continuesIdentifier char = false :=
        fun char hchar => not_continuesIdentifier_of_isBlank (htail char hchar)
      rw [List.cons_append, readToken_cons, markToken?_of_isAlphabetic hfirst]
      simp only [startsNumber_of_isAlphabetic hfirst, Bool.false_eq_true, if_false,
        startsIdentifier, hfirst, if_true, readIdentifier, takeWhile_append_of_all hrest hstop,
        dropWhile_append_of_all hrest hstop]

theorem isName_of_readToken {chars lexeme rest : List Char} {name : String}
    (h : readToken chars = .token (.identifier name) lexeme rest) : IsName lexeme := by
  obtain ⟨first, tail, rfl, -, rfl, -⟩ := readToken_identifier h
  refine .mk ?_ fun char hmem => List.mem_takeWhile_imp hmem
  rw [readToken_cons] at h
  split at h
  · rename_i hmark
    exact absurd (Reading.token.inj h).1 (markToken?_ne_identifier hmark name)
  split at h
  · simp only [readNumber, Reading.token.injEq] at h
    obtain ⟨hnumber, -⟩ := h
    split at hnumber <;> cases hnumber
  split at h
  · assumption
  · cases h

/-- A cell id is a name with white space around it. -/
theorem isCellIdentifier_iff {id : String} :
    isCellIdentifier id = true ↔
      ∃ front name back, id.toList = front ++ (name ++ back) ∧
        (∀ char ∈ front, isBlank char = true) ∧ IsName name ∧
        ∀ char ∈ back, isBlank char = true := by
  constructor
  · intro h
    obtain ⟨name, rest, hframes⟩ := frames_of_isCellIdentifier h
    refine ⟨id.toList.takeWhile isBlank, name.toList, rest, ?_,
      fun char hmem => List.mem_takeWhile_imp hmem, isName_of_readToken hframes.reads,
      List.dropWhile_eq_nil_iff.mp hframes.blank⟩
    rw [← hframes.dropWhile_eq, List.takeWhile_append_dropWhile]
  · rintro ⟨front, name, back, hid, hfront, hname, hback⟩
    have hapart : Apart back := fun char hchar => hback char (List.mem_of_head? hchar)
    have hstart : ∀ char ∈ (name ++ back).head?, isBlank char = false := by
      cases hname with
      | mk hfirst _ =>
          rintro char ⟨⟩
          exact not_isBlank_of_isAlphabetic hfirst
    have hread : readToken (id.toList.dropWhile isBlank) =
        .token (.identifier (String.ofList name)) name back := by
      rw [hid, dropWhile_append_of_all hfront hstart]
      exact hname.readToken hapart
    rw [isCellIdentifier,
      (Scans.token hread (.done back)).tokenize (List.dropWhile_eq_nil_iff.mpr hback)]

theorem continuesIdentifier_of_mem_piece {char image : Char} {piece : List Char}
    (h : continuesIdentifier char = true) (hpiece : piece ∈ lowerings char)
    (himage : image ∈ piece) : continuesIdentifier image = true := by
  rcases piece_cases hpiece with rfl | ⟨letter, rfl, hletter⟩ | ⟨-, rfl⟩
  · rwa [List.mem_singleton.mp himage]
  · rw [List.mem_singleton.mp himage]
    exact continuesIdentifier_of_isAlphabetic hletter
  · rcases List.mem_pair.mp himage with rfl | rfl <;> decide

theorem IsName.lowers {name lowered : List Char} (h : IsName name) (hlowers : Lowers name lowered) :
    IsName lowered := by
  have hcontinues : ∀ char ∈ name, continuesIdentifier char = true := by
    cases h with
    | mk hfirst hrest =>
        exact List.forall_mem_cons.mpr ⟨continuesIdentifier_of_isAlphabetic hfirst, hrest⟩
  have hall := hlowers.forall_mem
    (fun _ _ hchar hpiece _ => continuesIdentifier_of_mem_piece hchar hpiece) hcontinues
  cases h with
  | mk hfirst hrest =>
      cases hlowers with
      | cons hpiece _ =>
          obtain ⟨letter, others, rfl, hletter⟩ := piece_of_isAlphabetic hfirst hpiece
          exact .mk hletter (List.forall_mem_cons.mp hall).2

theorem isCellIdentifier_canonical {id : String} (h : isCellIdentifier id = true) :
    isCellIdentifier (canonical id) = true := by
  obtain ⟨front, name, back, hid, hfront, hname, hback⟩ := isCellIdentifier_iff.mp h
  have hlowers := lowers_lowercase id
  rw [hid] at hlowers
  obtain ⟨before, rest, hcanonical, hbefore, hrest⟩ := hlowers.append_cases
  obtain ⟨lowered, behind, rfl, hlowered, hbehind⟩ := hrest.append_cases
  exact isCellIdentifier_iff.mpr ⟨before, lowered, behind, hcanonical,
    hbefore.forall_isBlank hfront, hname.lowers hlowered, hbehind.forall_isBlank hback⟩

end LiveSheet.Formula
