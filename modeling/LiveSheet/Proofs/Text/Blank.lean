import LiveSheet.Text.Blank
import Mathlib.Data.List.TakeWhile

namespace LiveSheet.Text

theorem exists_blank_around (chars : List Char) :
    ∃ front back, chars = front ++ trim chars ++ back ∧
      (∀ char ∈ front, isBlank char = true) ∧ ∀ char ∈ back, isBlank char = true := by
  refine ⟨chars.takeWhile isBlank, ((trimStart chars).reverse.takeWhile isBlank).reverse,
    ?_, fun char hmem => List.mem_takeWhile_imp hmem,
    fun char hmem => List.mem_takeWhile_imp (List.mem_reverse.mp hmem)⟩
  rw [trim, trimEnd, List.append_assoc, ← List.reverse_append,
    List.takeWhile_append_dropWhile, List.reverse_reverse, trimStart,
    List.takeWhile_append_dropWhile]

theorem trim_of_blank_around {front chars back : List Char}
    (hfront : ∀ char ∈ front, isBlank char = true)
    (hback : ∀ char ∈ back, isBlank char = true) :
    trim (front ++ chars ++ back) = trim chars := by
  have hend : ∀ char ∈ back.reverse, isBlank char = true :=
    fun char hmem => hback char (List.mem_reverse.mp hmem)
  rw [trim, trim, trimStart, List.append_assoc, List.dropWhile_append_of_pos hfront,
    List.dropWhile_append]
  split
  · rename_i hempty
    rw [trimStart, List.isEmpty_iff.mp hempty, List.dropWhile_eq_nil_iff.mpr hback]
  · rw [trimEnd, List.reverse_append, List.dropWhile_append_of_pos hend]
    rfl

@[simp] theorem trim_trim (chars : List Char) : trim (trim chars) = trim chars := by
  obtain ⟨front, back, hchars, hfront, hback⟩ := exists_blank_around chars
  rw [← trim_of_blank_around hfront hback, ← hchars]

end LiveSheet.Text
