import LiveSheet.Wire.Text

namespace LiveSheet.Wire

open LiveSheet.Text

theorem escapedChar_cons (char : Char) :
    ∃ first rest, escapedChar char = first :: rest ∧ first ≠ '"' := by
  unfold escapedChar
  repeat' split
  all_goals first
    | exact ⟨_, _, rfl, by decide⟩
    | exact ⟨_, _, rfl, by assumption⟩

theorem codeEscape?_hexPair {char : Char} (h : char.toNat < 0x20) (rest : List Char) :
    codeEscape? ('0' :: '0' :: hexPair char.toNat ++ rest) = some (char, rest) := by
  have hzero : hexDigit? '0' = some 0 := by decide
  have hhigh := hexDigit?_digitChar (show char.toNat / 16 < 16 by omega)
  have hlow := hexDigit?_digitChar (show char.toNat % 16 < 16 by omega)
  have hunit : unit? ('0' :: '0' :: hexPair char.toNat ++ rest) = some (char.toNat, rest) := by
    simp only [hexPair, List.cons_append, List.nil_append, unit?, hzero, hhigh, hlow,
      Option.bind_eq_bind, Option.bind_some, Option.some.injEq, Prod.mk.injEq, and_true]
    omega
  have hsurrogate : isLowSurrogate char.toNat = false ∧ isHighSurrogate char.toNat = false := by
    simp only [isLowSurrogate, isHighSurrogate, Bool.and_eq_false_iff, decide_eq_false_iff_not]
    omega
  rw [codeEscape?, hunit]
  simp [hsurrogate]

theorem character?_escapedChar (char : Char) (rest : List Char) :
    character? (escapedChar char ++ rest) = some (char, rest) := by
  unfold escapedChar
  -- The seven characters that are written with a mark.
  iterate 7
    split
    · rename_i hsame
      subst hsame
      rfl
  split
  · rename_i hcontrol
    exact codeEscape?_hexPair hcontrol rest
  · rename_i hbackslash _ _ _ _ _ hplain
    simp [character?, hbackslash, hplain]

theorem stringWithin_cons {first char : Char} {rest behind : List Char} (h : first ≠ '"')
    (hread : character? (first :: rest) = some (char, behind)) (bound : Nat) :
    stringWithin (bound + 1) (first :: rest) =
      (stringWithin bound behind).map fun text => (char :: text.1, text.2) := by
  rw [stringWithin, hread]
  · cases hbehind : stringWithin bound behind <;> simp [hbehind]
  · rintro others heq
    exact h (List.cons.inj heq).1

theorem stringWithin_escaped {bound : Nat} {chars : List Char} (rest : List Char)
    (h : chars.length < bound) :
    stringWithin bound (chars.flatMap escapedChar ++ '"' :: rest) = some (chars, rest) := by
  induction chars generalizing bound with
  | nil =>
      obtain ⟨bound, rfl⟩ := Nat.exists_eq_succ_of_ne_zero (Nat.ne_of_gt h)
      rfl
  | cons char chars ih =>
      obtain ⟨bound, rfl⟩ := Nat.exists_eq_succ_of_ne_zero (Nat.ne_of_gt (Nat.zero_lt_of_lt h))
      obtain ⟨first, tail, hescaped, hfirst⟩ := escapedChar_cons char
      have hread := character?_escapedChar char (chars.flatMap escapedChar ++ '"' :: rest)
      rw [hescaped, List.cons_append] at hread
      rw [List.flatMap_cons, hescaped, List.append_assoc, List.cons_append,
        stringWithin_cons hfirst hread, ih (by simpa using h), Option.map_some]

theorem length_le_escaped (chars : List Char) :
    chars.length ≤ (chars.flatMap escapedChar).length := by
  induction chars with
  | nil => exact Nat.le_refl _
  | cons char chars ih =>
      obtain ⟨first, tail, hescaped, -⟩ := escapedChar_cons char
      rw [List.flatMap_cons, hescaped]
      simp only [List.length_append, List.length_cons]
      omega

theorem string?_escaped (text : String) (rest : List Char) :
    string? (text.toList.flatMap escapedChar ++ '"' :: rest) = some (text, rest) := by
  have hlength := length_le_escaped text.toList
  rw [string?, stringWithin_escaped rest]
  · simp
  · rw [List.length_append, List.length_cons]
    omega

end LiveSheet.Wire
