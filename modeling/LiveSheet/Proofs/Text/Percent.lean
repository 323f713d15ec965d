import LiveSheet.Text.Percent

namespace LiveSheet.Text.Percent

def isUnreserved (char : Char) : Bool :=
  char.isAlphanum || ['-', '.', '_', '~'].contains char

def escapeByte (byte : UInt8) : List Char :=
  ['%', Nat.digitChar (byte.toNat / 16), Nat.digitChar (byte.toNat % 16)]

def escapeChar (char : Char) : List Char :=
  if isUnreserved char then [char]
  else (String.utf8EncodeChar char).flatMap escapeByte

def encode (text : String) : String :=
  String.ofList (text.toList.flatMap escapeChar)

theorem bytes_cons {char : Char} (h : char ≠ '%') (rest : List Char) :
    bytes (char :: rest) = String.utf8EncodeChar char ++ bytes rest := by
  rw [bytes]
  rintro high low others rfl
  exact absurd rfl h

theorem bytes_escapeByte (byte : UInt8) (rest : List Char) :
    bytes (escapeByte byte ++ rest) = byte :: bytes rest := by
  have hbyte := byte.toNat_lt
  have hhigh := hexDigit?_digitChar (show byte.toNat / 16 < 16 by omega)
  have hlow := hexDigit?_digitChar (show byte.toNat % 16 < 16 by omega)
  have hjoin : byte.toNat / 16 * 16 + byte.toNat % 16 = byte.toNat := by omega
  have hread : byte? (Nat.digitChar (byte.toNat / 16)) (Nat.digitChar (byte.toNat % 16)) =
      some byte := by
    simp only [byte?, hhigh, hlow, Option.bind_eq_bind, Option.bind_some, hjoin,
      UInt8.ofNat_toNat]
  simp only [escapeByte, List.cons_append, List.nil_append, bytes, hread]

theorem bytes_escapeBytes (escaped : List UInt8) (rest : List Char) :
    bytes (escaped.flatMap escapeByte ++ rest) = escaped ++ bytes rest := by
  induction escaped with
  | nil => rfl
  | cons byte escaped ih =>
      rw [List.flatMap_cons, List.append_assoc, bytes_escapeByte, ih, List.cons_append]

theorem bytes_escapeChar (char : Char) (rest : List Char) :
    bytes (escapeChar char ++ rest) = String.utf8EncodeChar char ++ bytes rest := by
  unfold escapeChar
  split
  · rename_i hkept
    apply bytes_cons
    rintro rfl
    exact absurd hkept (by decide)
  · exact bytes_escapeBytes _ _

theorem bytes_escaped (chars : List Char) :
    bytes (chars.flatMap escapeChar) = chars.flatMap String.utf8EncodeChar := by
  induction chars with
  | nil => rfl
  | cons char chars ih => rw [List.flatMap_cons, bytes_escapeChar, ih, List.flatMap_cons]

@[simp] theorem decode?_encode (text : String) : decode? (encode text) = some text := by
  have hbytes : (text.toList.flatMap String.utf8EncodeChar).toByteArray = text.toByteArray := by
    conv => rhs; rw [← String.ofList_toList (s := text)]
    rfl
  rw [decode?, encode, String.toList_ofList, bytes_escaped, hbytes]
  exact dif_pos text.isValidUTF8

theorem isUnreserved_of_mem_encode {text : String} {char : Char}
    (h : char ∈ (encode text).toList) : isUnreserved char = true ∨ char = '%' := by
  have hdigit : ∀ digit < 16, isUnreserved (Nat.digitChar digit) = true := by decide
  rw [encode, String.toList_ofList, List.mem_flatMap] at h
  obtain ⟨held, -, hchar⟩ := h
  unfold escapeChar at hchar
  split at hchar
  · rename_i hkept
    rw [List.mem_singleton.mp hchar]
    exact Or.inl hkept
  · obtain ⟨byte, -, hescape⟩ := List.mem_flatMap.mp hchar
    have hbyte := byte.toNat_lt
    simp only [escapeByte, List.mem_cons, List.not_mem_nil, or_false] at hescape
    rcases hescape with rfl | rfl | rfl
    · exact Or.inr rfl
    · exact Or.inl (hdigit _ (by omega))
    · exact Or.inl (hdigit _ (by omega))

end LiveSheet.Text.Percent
