import LiveSheet.Text.Blank
import LiveSheet.Text.Casing
import Mathlib.Data.List.Infix

namespace LiveSheet.Text

/-! Lower case is stable: a text in lower case is its own lower case.  No run of
the table moves a code point onto one that another run covers. -/

/-- Whether no image of `run` is covered by `other`: the two lie apart, or they
interleave. -/
def CaseRun.misses (run other : CaseRun) : Bool :=
  Nat.blt other.last run.image ||
    Nat.blt (run.image + (run.last - run.first)) other.first ||
    (Nat.beq other.stride 2 && (Nat.beq run.stride 2 || Nat.beq run.first run.last) &&
      Nat.beq ((run.image + other.first) % 2) 1)

def CaseRun.isPlain (run : CaseRun) : Bool :=
  Nat.blt 0x2F run.image &&
    (Nat.blt (run.image + (run.last - run.first)) 0x130 ||
      Nat.blt 0x130 run.image && Nat.blt (run.image + (run.last - run.first)) 0xD800 ||
      Nat.blt 0xDFFF run.image &&
        Nat.blt (run.image + (run.last - run.first)) 0x110000)

private theorem lowerRuns_miss :
    (lowerRuns.all fun run => lowerRuns.all run.misses) = true := by
  decide +kernel

private theorem lowerRuns_plain : lowerRuns.all CaseRun.isPlain = true := by
  decide +kernel

theorem CaseRun.not_covers_move {run other : CaseRun} {code : Nat}
    (hmisses : run.misses other = true) (hcovers : run.covers code = true) :
    other.covers (run.move code) = false := by
  rw [Bool.eq_false_iff]
  intro hother
  simp only [misses, covers, Bool.or_eq_true, Bool.and_eq_true, Nat.blt_eq,
    Nat.beq_eq, decide_eq_true_eq, beq_iff_eq] at hmisses hcovers hother
  rw [move] at hother
  obtain ⟨⟨hfirst, hlast⟩, hstride⟩ := hcovers
  obtain ⟨⟨hafter, hbefore⟩, hstep⟩ := hother
  rcases hmisses with (hbelow | habove) | ⟨⟨htwo, hsteps⟩, hodd⟩
  · omega
  · omega
  · rw [htwo] at hstep
    rcases hsteps with hrun | hsingle
    · rw [hrun] at hstride
      omega
    · omega

theorem moveBy_of_not_covers {runs : List CaseRun} {code : Nat}
    (h : ∀ run ∈ runs, run.covers code = false) : moveBy runs code = code := by
  induction runs with
  | nil => rfl
  | cons run runs ih =>
      rw [moveBy, h run List.mem_cons_self]
      exact ih fun other hmem => h other (List.mem_cons_of_mem _ hmem)

theorem moveBy_move {run : CaseRun} {code : Nat} (hrun : run ∈ lowerRuns)
    (hcovers : run.covers code = true) :
    moveBy lowerRuns (run.move code) = run.move code := by
  apply moveBy_of_not_covers
  intro other hother
  have hmisses := List.all_eq_true.mp
    (List.all_eq_true.mp lowerRuns_miss run hrun) other hother
  exact CaseRun.not_covers_move hmisses hcovers

theorem isValidChar_move {run : CaseRun} {code : Nat} (hrun : run ∈ lowerRuns)
    (hcovers : run.covers code = true) :
    (run.move code).isValidChar ∧ run.move code ≠ 0x2F ∧ run.move code ≠ 0x130 := by
  have hplain := List.all_eq_true.mp lowerRuns_plain run hrun
  simp only [CaseRun.isPlain, CaseRun.covers, CaseRun.move, Bool.or_eq_true,
    Bool.and_eq_true, Nat.blt_eq, decide_eq_true_eq, beq_iff_eq, Nat.isValidChar]
    at hplain hcovers ⊢
  omega

theorem moveBy_eq_or_mem (runs : List CaseRun) (code : Nat) :
    moveBy runs code = code ∨
      ∃ run ∈ runs, run.covers code = true ∧ moveBy runs code = run.move code := by
  induction runs with
  | nil => exact Or.inl rfl
  | cons run runs ih =>
      unfold moveBy
      split
      · rename_i hcovers
        exact Or.inr ⟨run, List.mem_cons_self, hcovers, rfl⟩
      · rcases ih with hfixed | ⟨other, hmem, hmoved⟩
        · exact Or.inl hfixed
        · exact Or.inr ⟨other, List.mem_cons_of_mem _ hmem, hmoved⟩

def IsLower (char : Char) : Prop :=
  lowerChar char = [char] ∧ char ≠ 'Σ'

private theorem lowerChar_of_fixed {char : Char} (hdotted : char ≠ 'İ')
    (hfixed : moveBy lowerRuns char.toNat = char.toNat) :
    lowerChar char = [char] := by
  rw [lowerChar, if_neg hdotted, hfixed, Char.ofNat_toNat]

theorem isLower_ofNat_move {run : CaseRun} {code : Nat} (hrun : run ∈ lowerRuns)
    (hcovers : run.covers code = true) :
    IsLower (Char.ofNat (run.move code)) ∧ Char.ofNat (run.move code) ≠ '/' := by
  obtain ⟨hvalid, hslash, hdotted⟩ := isValidChar_move hrun hcovers
  have hcode : (Char.ofNat (run.move code)).toNat = run.move code := by
    rw [Char.ofNat, dif_pos hvalid]
    rfl
  have hfixed := moveBy_move hrun hcovers
  have hne : ∀ {other : Char}, run.move code ≠ other.toNat →
      Char.ofNat (run.move code) ≠ other := by
    intro other hother heq
    exact hother (by rw [← heq, hcode])
  refine ⟨⟨lowerChar_of_fixed (hne hdotted) (by rw [hcode, hfixed]), hne ?_⟩,
    hne hslash⟩
  intro hsigma
  rw [hsigma] at hfixed
  exact absurd hfixed (by decide)

theorem isLower_of_mem_lowerChar {char image : Char} (hsigma : char ≠ 'Σ')
    (himage : image ∈ lowerChar char) :
    IsLower image ∧ (image = '/' → char = '/') := by
  by_cases hdotted : char = 'İ'
  · subst hdotted
    have hcases : image = 'i' ∨ image = Char.ofNat 0x307 := by
      simpa [lowerChar] using himage
    rcases hcases with rfl | rfl
    · exact ⟨⟨by decide, by decide⟩, fun h => absurd h (by decide)⟩
    · exact ⟨⟨by decide, by decide⟩, fun h => absurd h (by decide)⟩
  · rw [lowerChar, if_neg hdotted, List.mem_singleton] at himage
    subst himage
    rcases moveBy_eq_or_mem lowerRuns char.toNat with
      hfixed | ⟨run, hrun, hcovers, hmoved⟩
    · rw [hfixed, Char.ofNat_toNat]
      exact ⟨⟨lowerChar_of_fixed hdotted hfixed, hsigma⟩, id⟩
    · rw [hmoved]
      obtain ⟨hlower, hslash⟩ := isLower_ofNat_move hrun hcovers
      exact ⟨hlower, fun h => absurd h hslash⟩

theorem isLower_of_mem_lowercaseAfter {image : Char} {chars : List Char}
    {before : List Char} (himage : image ∈ lowercaseAfter before chars) :
    IsLower image ∧ (image = '/' → '/' ∈ chars) := by
  induction chars generalizing before with
  | nil => simp [lowercaseAfter] at himage
  | cons char rest ih =>
      rw [lowercaseAfter] at himage
      rcases List.mem_append.mp himage with hhead | htail
      · split at hhead
        · have hcases : image = 'ς' ∨ image = 'σ' := by
            split at hhead <;> simp_all
          rcases hcases with rfl | rfl
          · exact ⟨⟨by decide, by decide⟩, fun h => absurd h (by decide)⟩
          · exact ⟨⟨by decide, by decide⟩, fun h => absurd h (by decide)⟩
        · rename_i hsigma
          obtain ⟨hlower, hslash⟩ := isLower_of_mem_lowerChar hsigma hhead
          exact ⟨hlower, fun h => hslash h ▸ List.mem_cons_self⟩
      · obtain ⟨hlower, hslash⟩ := ih htail
        exact ⟨hlower, fun h => List.mem_cons_of_mem _ (hslash h)⟩

theorem lowercaseAfter_of_isLower {chars : List Char} (before : List Char)
    (h : ∀ char ∈ chars, IsLower char) : lowercaseAfter before chars = chars := by
  induction chars generalizing before with
  | nil => rfl
  | cons char rest ih =>
      obtain ⟨hfixed, hsigma⟩ := h char List.mem_cons_self
      rw [lowercaseAfter, if_neg hsigma, hfixed,
        ih _ fun other hmem => h other (List.mem_cons_of_mem _ hmem)]
      rfl

@[simp] theorem lowercase_lowercase (text : String) :
    lowercase (lowercase text) = lowercase text := by
  unfold lowercase
  rw [String.toList_ofList, lowercaseAfter_of_isLower]
  exact fun char hmem => (isLower_of_mem_lowercaseAfter hmem).1

theorem slash_not_mem_lowercase {text : String} (h : '/' ∉ text.toList) :
    '/' ∉ (lowercase text).toList := by
  intro hmem
  rw [lowercase, String.toList_ofList] at hmem
  exact h ((isLower_of_mem_lowercaseAfter hmem).2 rfl)

def CaseRun.clears (run : CaseRun) (range : Nat × Nat) : Bool :=
  (Nat.blt run.last range.1 || Nat.blt range.2 run.first) &&
    (Nat.blt (run.image + (run.last - run.first)) range.1 || Nat.blt range.2 run.image)

private theorem lowerRuns_clear_blank :
    (lowerRuns.all fun run => blank.all run.clears) = true := by
  decide +kernel

theorem CaseRun.not_blank {run : CaseRun} {char : Char} (hrun : run ∈ lowerRuns)
    (hcovers : run.covers char.toNat = true) :
    isBlank char = false ∧ isBlank (Char.ofNat (run.move char.toNat)) = false := by
  obtain ⟨hvalid, -, -⟩ := isValidChar_move hrun hcovers
  have hcode : (Char.ofNat (run.move char.toNat)).toNat = run.move char.toNat := by
    rw [Char.ofNat, dif_pos hvalid]
    rfl
  have hclear (range : Nat × Nat) (hrange : range ∈ blank) :
      (char.toNat < range.1 ∨ range.2 < char.toNat) ∧
        (run.move char.toNat < range.1 ∨ range.2 < run.move char.toNat) := by
    have hclears := List.all_eq_true.mp
      (List.all_eq_true.mp lowerRuns_clear_blank run hrun) range hrange
    simp only [clears, covers, move, Bool.and_eq_true, Bool.or_eq_true, Nat.blt_eq,
      decide_eq_true_eq, beq_iff_eq] at hclears hcovers ⊢
    omega
  simp only [isBlank, Bool.eq_false_iff, ne_eq, CodeRanges.contains_iff, hcode]
  constructor
  · rintro ⟨range, hrange, hfirst, hlast⟩
    have := (hclear range hrange).1
    omega
  · rintro ⟨range, hrange, hfirst, hlast⟩
    have := (hclear range hrange).2
    omega

theorem any_isBlank_lowerChar (char : Char) : (lowerChar char).any isBlank = isBlank char := by
  by_cases hdotted : char = 'İ'
  · subst hdotted
    decide
  · rw [lowerChar, if_neg hdotted, List.any_cons, List.any_nil, Bool.or_false]
    rcases moveBy_eq_or_mem lowerRuns char.toNat with
      hfixed | ⟨run, hrun, hcovers, hmoved⟩
    · rw [hfixed, Char.ofNat_toNat]
    · obtain ⟨hchar, himage⟩ := CaseRun.not_blank hrun hcovers
      rw [hmoved, hchar, himage]

theorem any_isBlank_lowercase (text : String) :
    (lowercase text).toList.any isBlank = text.toList.any isBlank := by
  have hafter (before chars : List Char) :
      (lowercaseAfter before chars).any isBlank = chars.any isBlank := by
    induction chars generalizing before with
    | nil => rfl
    | cons char rest ih =>
        rw [lowercaseAfter, List.any_append, List.any_cons, ih]
        congr 1
        split
        · rename_i hsigma
          subst hsigma
          split <;> decide
        · exact any_isBlank_lowerChar char
  rw [lowercase, String.toList_ofList, hafter]

private theorem upperChar_toLower_capital :
    ((List.range 26).all fun index =>
      upperChar (Char.ofNat (0x41 + index)).toLower ==
        upperChar (Char.ofNat (0x41 + index))) = true := by
  decide +kernel

theorem upperChar_toLower (char : Char) : upperChar char.toLower = upperChar char := by
  by_cases hcapital : 0x41 ≤ char.toNat ∧ char.toNat ≤ 0x5A
  · have hcode : 0x41 + (char.toNat - 0x41) = char.toNat := by omega
    have hindex := beq_iff_eq.mp (List.all_eq_true.mp upperChar_toLower_capital
      (char.toNat - 0x41) (List.mem_range.mpr (by omega)))
    rwa [hcode, Char.ofNat_toNat] at hindex
  · have hother : ¬ (char.val ≥ 'A'.val ∧ char.val ≤ 'Z'.val) := hcapital
    delta Char.toLower
    rw [dif_neg hother]

theorem uppercase_eq_of_sameAsciiCase {left right : String}
    (h : sameAsciiCase left right = true) : uppercase left = uppercase right := by
  have hchars := congrArg (List.flatMap upperChar) (beq_iff_eq.mp h)
  simp only [List.flatMap_map, upperChar_toLower] at hchars
  exact congrArg String.ofList hchars

def CaseRun.lowers (run : CaseRun) (letter : Char) : Bool :=
  Nat.blt letter.toNat run.image ||
    !run.covers (run.first + (letter.toNat - run.image)) ||
    (Char.ofNat (run.first + (letter.toNat - run.image))).toLower == letter.toLower

def isAsciiUpper (letters : List Char) : Bool :=
  (upperExpansions.all fun expansion =>
    !decide (expansion.2.map Char.ofNat <:+: letters)) &&
  letters.all fun letter =>
    letter != Char.ofNat 0 && upperRuns.all fun run => run.lowers letter

theorem ofNat_eq_iff {code : Nat} {char : Char} (hchar : char ≠ Char.ofNat 0) :
    Char.ofNat code = char ↔ code = char.toNat := by
  constructor
  · rintro rfl
    by_cases hvalid : code.isValidChar
    · rw [Char.ofNat, dif_pos hvalid]
      rfl
    · exact absurd (by rw [Char.ofNat, dif_neg hvalid]; rfl) hchar
  · rintro rfl
    exact Char.ofNat_toNat char

theorem toLower_of_upper {letters : List Char} (h : isAsciiUpper letters = true)
    {char letter : Char} (hletter : letter ∈ letters)
    (hupper : Char.ofNat (moveBy upperRuns char.toNat) = letter) :
    char.toLower = letter.toLower := by
  simp only [isAsciiUpper, Bool.and_eq_true, List.all_eq_true, bne_iff_ne] at h
  obtain ⟨hnonzero, hruns⟩ := h.2 letter hletter
  rcases moveBy_eq_or_mem upperRuns char.toNat with hfixed | ⟨run, hrun, hcovers, hmoved⟩
  · rw [← hupper, hfixed, Char.ofNat_toNat]
  · rw [hmoved, ofNat_eq_iff hnonzero, CaseRun.move] at hupper
    have hlowers := hruns run hrun
    simp only [CaseRun.covers, Bool.and_eq_true, decide_eq_true_eq] at hcovers
    have hcode : run.first + (letter.toNat - run.image) = char.toNat := by omega
    have himage : Nat.blt letter.toNat run.image = false := by
      rw [Bool.eq_false_iff, ne_eq, Nat.blt_eq]
      omega
    have hcovers' : run.covers char.toNat = true := by
      simpa [CaseRun.covers] using hcovers
    simpa [CaseRun.lowers, hcode, himage, hcovers', Char.ofNat_toNat] using hlowers

theorem upperChar_cases (char : Char) :
    (∃ expansion ∈ upperExpansions, upperChar char = expansion.2.map Char.ofNat) ∨
      upperChar char = [Char.ofNat (moveBy upperRuns char.toNat)] := by
  rw [upperChar]
  split
  · rename_i codes hlookup
    obtain ⟨before, after, hentry, -⟩ := List.lookup_eq_some_iff.mp hlookup
    refine Or.inl ⟨(char.toNat, codes), ?_, rfl⟩
    rw [hentry]
    exact List.mem_append_right _ List.mem_cons_self
  · exact Or.inr rfl

theorem toLower_of_flatMap_upperChar {letters : List Char} (h : isAsciiUpper letters = true)
    {chars suffix : List Char} (hsuffix : suffix <:+ letters)
    (hupper : chars.flatMap upperChar = suffix) :
    chars.map Char.toLower = suffix.map Char.toLower := by
  induction chars generalizing suffix with
  | nil =>
      subst hupper
      rfl
  | cons char chars ih =>
      rw [List.flatMap_cons] at hupper
      rcases upperChar_cases char with ⟨expansion, hmem, hexpands⟩ | hsingle
      · have hinside : upperChar char <:+: letters :=
          (List.IsPrefix.isInfix ⟨_, hupper⟩).trans hsuffix.isInfix
        simp only [isAsciiUpper, Bool.and_eq_true, List.all_eq_true, Bool.not_eq_true',
          decide_eq_false_iff_not] at h
        rw [hexpands] at hinside
        exact absurd hinside (h.1 expansion hmem)
      · rw [hsingle, List.singleton_append] at hupper
        subst hupper
        rw [List.map_cons, List.map_cons, ih ((List.suffix_cons _ _).trans hsuffix) rfl,
          toLower_of_upper h (hsuffix.mem List.mem_cons_self) rfl]

/-- The letters that no other character has in its upper case give away the ASCII
letters they are the upper case of. -/
theorem sameAsciiCase_of_uppercase_eq {left right : String}
    (hright : isAsciiUpper right.toList = true) (h : uppercase left = right) :
    sameAsciiCase left right = true := by
  have hchars : left.toList.flatMap upperChar = right.toList := by
    rw [← h, uppercase, String.toList_ofList]
  exact beq_iff_eq.mpr (toLower_of_flatMap_upperChar hright List.suffix_rfl hchars)

end LiveSheet.Text
