import LiveSheet.Formula.Literal
import LiveSheet.Proofs.Formula.Lossless

namespace LiveSheet.Formula

open LiveSheet.Number
open LiveSheet.Text

structure Digits (chars : List Char) : Prop where
  ne_nil : chars ≠ []
  digit : ∀ char ∈ chars, char.isDigit = true

inductive Mantissa : List Char → Prop where
  | whole {digits : List Char} (hdigits : Digits digits) : Mantissa digits
  | pointed {digits fraction : List Char} (hdigits : Digits digits)
      (hfraction : ∀ char ∈ fraction, char.isDigit = true) :
      Mantissa (digits ++ '.' :: fraction)
  | leading {fraction : List Char} (hfraction : Digits fraction) : Mantissa ('.' :: fraction)

inductive Exponent : List Char → Prop where
  | absent : Exponent []
  | marked {mark : Char} {sign digits : List Char} (hmark : mark = 'e' ∨ mark = 'E')
      (hsign : sign = [] ∨ sign = ['+'] ∨ sign = ['-']) (hdigits : Digits digits) :
      Exponent (mark :: (sign ++ digits))

inductive Numeral : List Char → Prop where
  | intro {mantissa exponent : List Char} (hmantissa : Mantissa mantissa)
      (hexponent : Exponent exponent) : Numeral (mantissa ++ exponent)

def numberToken (number : List Char) : Token :=
  if number.all Char.isDigit then .int (String.ofList number) else .float (String.ofList number)

theorem Digits.head {digits : List Char} (h : Digits digits) :
    ∀ char ∈ digits.head?, char.isDigit = true := by
  obtain ⟨first, rest, rfl⟩ := List.exists_cons_of_ne_nil h.ne_nil
  rintro char ⟨⟩
  exact h.digit first List.mem_cons_self

theorem splitSign_of_sign {sign digits : List Char}
    (hsign : sign = [] ∨ sign = ['+'] ∨ sign = ['-']) (hdigits : Digits digits) :
    splitSign (sign ++ digits) = (sign, digits) := by
  rcases hsign with rfl | rfl | rfl
  · exact splitSign_append_stop [] hdigits.head
  · rfl
  · rfl

theorem isExponentMark_iff (char : Char) :
    isExponentMark char = true ↔ char = 'e' ∨ char = 'E' := by
  simp [isExponentMark]

theorem splitExponent_of_exponent {chars : List Char} (h : Exponent chars) :
    splitExponent chars = (chars, []) := by
  cases h with
  | absent => rfl
  | @marked mark sign digits hmark hsign hdigits =>
      have hall : digits.takeWhile Char.isDigit = digits :=
        List.takeWhile_eq_self_iff.mpr hdigits.digit
      have hnone : digits.dropWhile Char.isDigit = [] :=
        List.dropWhile_eq_nil_iff.mpr hdigits.digit
      simp only [splitExponent, if_pos ((isExponentMark_iff mark).mpr hmark),
        splitSign_of_sign hsign hdigits, hall, hnone, List.isEmpty_iff, if_neg hdigits.ne_nil,
        List.cons_append]

theorem Exponent.head {chars : List Char} (h : Exponent chars) :
    ∀ char ∈ chars.head?, char.isDigit = false ∧ char ≠ '.' := by
  cases h with
  | absent => exact fun char hmem => absurd hmem (Option.not_mem_none char)
  | marked hmark _ _ =>
      rintro char ⟨⟩
      rcases hmark with rfl | rfl <;> decide

theorem Exponent.not_digit {chars : List Char} (h : Exponent chars) :
    ∀ char ∈ chars.head?, char.isDigit = false :=
  fun char hchar => (h.head char hchar).1

theorem splitFraction_of_exponent {chars : List Char} (h : Exponent chars) :
    splitFraction chars = ([], chars) := by
  have hpoint := h.head
  unfold splitFraction
  split
  · exact absurd rfl (hpoint '.' rfl).2
  · rfl

theorem numberToken_append {digits tail : List Char} (h : ∀ char ∈ digits, char.isDigit = true)
    (htail : ∀ char ∈ tail.head?, char.isDigit = false) :
    numberToken (digits ++ tail) = if tail.isEmpty then .int (String.ofList (digits ++ tail))
      else .float (String.ofList (digits ++ tail)) := by
  have hall : (digits ++ tail).all Char.isDigit = tail.isEmpty := by
    rw [List.all_append, List.all_eq_true.mpr h, Bool.true_and]
    cases tail with
    | nil => rfl
    | cons first rest => simp [htail first rfl]
  rw [numberToken, hall]

theorem readNumber_whole {digits exponent : List Char}
    (h : ∀ char ∈ digits, char.isDigit = true) (hexponent : Exponent exponent) :
    readNumber (digits ++ exponent) =
      .token (numberToken (digits ++ exponent)) (digits ++ exponent) [] := by
  simp only [readNumber, takeWhile_append_of_all h hexponent.not_digit,
    dropWhile_append_of_all h hexponent.not_digit, splitFraction_of_exponent hexponent,
    splitExponent_of_exponent hexponent, List.append_nil, List.isEmpty_nil, Bool.true_and,
    numberToken_append h hexponent.not_digit]

theorem readNumber_pointed {digits fraction exponent : List Char}
    (h : ∀ char ∈ digits, char.isDigit = true)
    (hfraction : ∀ char ∈ fraction, char.isDigit = true) (hexponent : Exponent exponent) :
    readNumber (digits ++ '.' :: fraction ++ exponent) =
      .token (numberToken (digits ++ '.' :: fraction ++ exponent))
        (digits ++ '.' :: fraction ++ exponent) [] := by
  have hpoint : ∀ char ∈ ('.' :: (fraction ++ exponent)).head?, char.isDigit = false := by
    rintro char ⟨⟩
    decide
  rw [List.append_assoc, List.cons_append]
  simp only [readNumber, takeWhile_append_of_all h hpoint, dropWhile_append_of_all h hpoint,
    splitFraction, takeWhile_append_of_all hfraction hexponent.not_digit,
    dropWhile_append_of_all hfraction hexponent.not_digit, splitExponent_of_exponent hexponent,
    List.isEmpty_cons, Bool.false_and, numberToken_append h hpoint, List.append_assoc,
    List.cons_append]

theorem Numeral.starts {number : List Char} (h : Numeral number) :
    ∃ first rest, number = first :: rest ∧ startsNumber first rest = true := by
  obtain ⟨hmantissa, -⟩ := h
  rename_i mantissa exponent
  have hdigits {digits tail : List Char} (hdigits : Digits digits) :
      ∃ first rest, digits ++ tail = first :: rest ∧ startsNumber first rest = true := by
    obtain ⟨first, rest, rfl⟩ := List.exists_cons_of_ne_nil hdigits.ne_nil
    refine ⟨first, rest ++ tail, rfl, ?_⟩
    rw [startsNumber, hdigits.digit first List.mem_cons_self, Bool.true_or]
  cases hmantissa with
  | whole hwhole => exact hdigits hwhole
  | pointed hwhole _ =>
      rw [List.append_assoc]
      exact hdigits hwhole
  | @leading fraction hfraction =>
      obtain ⟨first, rest, rfl⟩ := List.exists_cons_of_ne_nil hfraction.ne_nil
      refine ⟨'.', first :: rest ++ exponent, rfl, ?_⟩
      simp [startsNumber, hfraction.digit first List.mem_cons_self]

theorem digit_or_point_of_startsNumber {first : Char} {rest : List Char}
    (h : startsNumber first rest = true) : first.isDigit = true ∨ first = '.' := by
  simp only [startsNumber, Bool.or_eq_true, Bool.and_eq_true, beq_iff_eq] at h
  exact h.imp_right And.left

theorem not_startsNumber_of_mark {first : Char} {token : Token}
    (h : markToken? first = some token) (rest : List Char) :
    ¬ startsNumber first rest = true := by
  intro hstart
  have hdigit := digit_or_point_of_startsNumber hstart
  have hreserved := isReserved_of_mark h
  simp only [isReserved, List.contains_eq_mem, List.mem_cons, List.not_mem_nil, or_false,
    decide_eq_true_eq] at hreserved
  rcases hreserved with rfl | rfl | rfl | rfl | rfl | rfl | rfl <;>
    exact absurd hdigit (by decide)

theorem readToken_of_startsNumber {first : Char} {rest : List Char}
    (h : startsNumber first rest = true) :
    readToken (first :: rest) = readNumber (first :: rest) := by
  rw [readToken_cons]
  split
  · rename_i hmark
    exact absurd h (not_startsNumber_of_mark hmark rest)
  · rw [if_pos h]

theorem Numeral.readToken {number : List Char} (h : Numeral number) :
    readToken number = .token (numberToken number) number [] := by
  obtain ⟨first, rest, hnumber, hstart⟩ := h.starts
  have hread : readNumber number = .token (numberToken number) number [] := by
    cases h with
    | intro hmantissa hexponent =>
        cases hmantissa with
        | whole hdigits => exact readNumber_whole hdigits.digit hexponent
        | pointed hdigits hfraction => exact readNumber_pointed hdigits.digit hfraction hexponent
        | leading hfraction =>
            exact readNumber_pointed (List.forall_mem_nil _) hfraction.digit hexponent
  rw [hnumber, readToken_of_startsNumber hstart, ← hnumber, hread]

def Token.IsNumber : Token → Prop
  | .int _ | .float _ => True
  | _ => False

theorem digits_takeWhile {chars : List Char} (h : ∃ char ∈ chars.head?, char.isDigit = true) :
    Digits (chars.takeWhile Char.isDigit) := by
  obtain ⟨first, hfirst, hdigit⟩ := h
  obtain ⟨rest, rfl⟩ := List.head?_eq_some_iff.mp hfirst
  refine ⟨?_, fun char hmem => List.mem_takeWhile_imp hmem⟩
  rw [List.takeWhile_cons_of_pos hdigit]
  exact List.cons_ne_nil _ _

theorem exponent_splitExponent (chars : List Char) : Exponent (splitExponent chars).1 := by
  rcases chars with _ | ⟨mark, rest⟩
  · exact .absent
  rcases hsign : splitSign rest with ⟨sign, behind⟩
  have hshape : sign = [] ∨ sign = ['+'] ∨ sign = ['-'] := by
    unfold splitSign at hsign
    split at hsign <;> cases hsign <;> simp
  simp only [splitExponent, hsign]
  split
  · rename_i hmark
    split
    · exact .absent
    · rename_i hdigits
      rw [List.isEmpty_iff] at hdigits
      exact .marked ((isExponentMark_iff mark).mp hmark) hshape
        ⟨hdigits, fun char hmem => List.mem_takeWhile_imp hmem⟩
  · exact .absent

theorem numeral_of_readNumber {first : Char} {behind lexeme rest : List Char} {token : Token}
    (hstart : startsNumber first behind = true)
    (h : readNumber (first :: behind) = .token token lexeme rest) : Numeral lexeme := by
  rcases hfraction : splitFraction ((first :: behind).dropWhile Char.isDigit) with
    ⟨fraction, after⟩
  have hexponent := exponent_splitExponent after
  rcases hsplit : splitExponent after with ⟨exponent, remaining⟩
  rw [hsplit] at hexponent
  simp only [readNumber, hfraction, hsplit] at h
  cases h
  refine .intro ?_ hexponent
  by_cases hdigit : first.isDigit = true
  · have hwhole : Digits ((first :: behind).takeWhile Char.isDigit) :=
      digits_takeWhile ⟨first, rfl, hdigit⟩
    unfold splitFraction at hfraction
    split at hfraction
    · cases hfraction
      exact .pointed hwhole fun char hmem => List.mem_takeWhile_imp hmem
    · cases hfraction
      rw [List.append_nil]
      exact .whole hwhole
  · have hpoint := (digit_or_point_of_startsNumber hstart).resolve_left hdigit
    subst hpoint
    have hnext : ∃ char ∈ behind.head?, char.isDigit = true := by
      cases behind with
      | nil => simp [startsNumber, hdigit] at hstart
      | cons second others => exact ⟨second, rfl, by simpa [startsNumber, hdigit] using hstart⟩
    rw [List.dropWhile_cons_of_neg hdigit, splitFraction] at hfraction
    cases hfraction
    rw [List.takeWhile_cons_of_neg hdigit, List.nil_append]
    exact .leading (digits_takeWhile hnext)

theorem numeral_of_readToken {chars lexeme rest : List Char} {token : Token}
    (h : readToken chars = .token token lexeme rest) (hnumber : token.IsNumber) :
    Numeral lexeme ∧ token = numberToken lexeme := by
  have hnumeral : Numeral lexeme := by
    cases chars with
    | nil => cases h
    | cons first behind =>
        rw [readToken_cons] at h
        split at h
        · rename_i hmark
          cases h
          obtain ⟨op, -, rfl⟩ | ⟨-, rfl⟩ | ⟨-, rfl⟩ | ⟨-, rfl⟩ := markToken?_cases hmark <;>
            exact hnumber.elim
        split at h
        · rename_i hstart
          exact numeral_of_readNumber hstart h
        split at h
        · cases h
          exact hnumber.elim
        · cases h
  -- Read on its own, the lexeme gives the token again and the one of its characters.
  have hagain := (readToken_append_stop h).2 [] apart_nil
  rw [List.append_nil, hnumeral.readToken] at hagain
  cases hagain
  exact ⟨hnumeral, rfl⟩

inductive Sign where
  | absent
  | plus
  | minus
  deriving DecidableEq

namespace Sign

def chars : Sign → List Char
  | .absent => []
  | .plus => ['+']
  | .minus => ['-']

def kept : Sign → String
  | .minus => "-"
  | .absent | .plus => ""

def tokens : Sign → List Token
  | .absent => []
  | .plus => [.operator .add]
  | .minus => [.operator .sub]

end Sign

structure Writes (chars : List Char) (sign : Sign) (number : List Char) : Prop where
  numeral : Numeral number
  framed : ∃ front between behind,
    chars = front ++ sign.chars ++ between ++ number ++ behind ∧
      (∀ char ∈ front, isBlank char = true) ∧ (∀ char ∈ between, isBlank char = true) ∧
      ∀ char ∈ behind, isBlank char = true

theorem Numeral.not_blank {number tail : List Char} (h : Numeral number) :
    ∀ char ∈ (number ++ tail).head?, isBlank char = false := by
  obtain ⟨first, rest, rfl, hstart⟩ := h.starts
  rintro char ⟨⟩
  refine Bool.eq_false_iff.mpr fun hblank => ?_
  obtain ⟨hdigit, hpoint, -⟩ := endsNumber_of_isBlank hblank
  rcases digit_or_point_of_startsNumber hstart with hfirst | hfirst
  · exact absurd hfirst (hdigit ▸ Bool.false_ne_true)
  · exact hpoint hfirst

theorem apart_of_blank {gap : List Char} (h : ∀ char ∈ gap, isBlank char = true) :
    Apart gap :=
  fun char hchar => h char (List.mem_of_mem_head? hchar)

theorem scans_number {gap number behind : List Char} (h : Numeral number)
    (hgap : ∀ char ∈ gap, isBlank char = true)
    (hbehind : ∀ char ∈ behind, isBlank char = true) :
    Scans (gap ++ (number ++ behind)) [numberToken number] behind := by
  have hread : readToken ((gap ++ (number ++ behind)).dropWhile isBlank) =
      .token (numberToken number) number behind := by
    rw [dropWhile_append_of_all hgap h.not_blank]
    exact (readToken_append_stop h.readToken).2 behind (apart_of_blank hbehind)
  exact .token hread (.done behind)

theorem scans_operator {gap rest last : List Char} {tokens : List Token} (op : Operator)
    (hgap : ∀ char ∈ gap, isBlank char = true) (h : Scans rest tokens last) :
    Scans (gap ++ ([op.symbol] ++ rest)) (.operator op :: tokens) last := by
  have hsymbol : ∀ char ∈ ([op.symbol] ++ rest).head?, isBlank char = false := by
    rintro char ⟨⟩
    cases op <;> decide
  have hread : readToken ((gap ++ ([op.symbol] ++ rest)).dropWhile isBlank) =
      .token (.operator op) [op.symbol] rest := by
    rw [dropWhile_append_of_all hgap hsymbol, List.singleton_append, readToken]
    simp only [Operator.ofChar?_symbol]
  exact .token hread h

theorem Sign.chars_cases (sign : Sign) :
    (sign.chars = [] ∧ sign.tokens = []) ∨
      ∃ op : Operator, sign.chars = [op.symbol] ∧ sign.tokens = [.operator op] := by
  cases sign with
  | absent => exact Or.inl ⟨rfl, rfl⟩
  | plus => exact Or.inr ⟨.add, rfl, rfl⟩
  | minus => exact Or.inr ⟨.sub, rfl, rfl⟩

theorem tokenize_of_writes {text : String} {sign : Sign} {number : List Char}
    (h : Writes text.toList sign number) :
    tokenize text = .ok (sign.tokens ++ [numberToken number]) := by
  obtain ⟨hnumber, front, between, behind, htext, hfront, hbetween, hbehind⟩ := h
  have hscans : Scans text.toList (sign.tokens ++ [numberToken number]) behind := by
    rw [htext, List.append_assoc, List.append_assoc, List.append_assoc]
    obtain ⟨hchars, htokens⟩ | ⟨op, hchars, htokens⟩ := sign.chars_cases
    · have hgap : ∀ char ∈ front ++ between, isBlank char = true := fun char hmem =>
        (List.mem_append.mp hmem).elim (hfront char) (hbetween char)
      rw [hchars, htokens, List.nil_append, List.nil_append, ← List.append_assoc]
      exact scans_number hnumber hgap hbehind
    · rw [hchars, htokens]
      exact scans_operator op hfront (scans_number hnumber hbetween hbehind)
  exact hscans.tokenize (List.dropWhile_eq_nil_iff.mpr hbehind)

theorem Weaves.single {chars : List Char} {token : Token} (h : Weaves chars [token]) :
    ∃ gap behind, chars = gap ++ token.text.toList ++ behind ∧
      (∀ char ∈ gap, isBlank char = true) ∧ ∀ char ∈ behind, isBlank char = true := by
  cases h with
  | token hgap hrest =>
      cases hrest with
      | done hbehind => exact ⟨_, _, rfl, hgap, hbehind⟩

theorem writes_of_weaves {chars : List Char} {sign : Sign} {token : Token}
    (h : Weaves chars (sign.tokens ++ [token])) (hnumber : Numeral token.text.toList) :
    Writes chars sign token.text.toList := by
  refine ⟨hnumber, ?_⟩
  obtain ⟨hchars, htokens⟩ | ⟨op, hchars, htokens⟩ := sign.chars_cases
  · rw [htokens] at h
    obtain ⟨gap, behind, rfl, hgap, hbehind⟩ := h.single
    refine ⟨gap, [], behind, ?_, hgap, List.forall_mem_nil _, hbehind⟩
    rw [hchars, List.append_nil, List.append_nil]
  · rw [htokens] at h
    cases h with
    | @token front rest _ _ hfront hrest =>
        obtain ⟨between, behind, rfl, hbetween, hbehind⟩ := hrest.single
        have hsymbol : (Token.operator op).text.toList = [op.symbol] := String.toList_singleton _
        refine ⟨front, between, behind, ?_, hfront, hbetween, hbehind⟩
        rw [hchars, hsymbol]
        simp only [List.append_assoc]

theorem writes_of_tokenize {text : String} {sign : Sign} {token : Token}
    (h : tokenize text = .ok (sign.tokens ++ [token])) (hnumber : token.IsNumber) :
    ∃ number, Writes text.toList sign number ∧ token = numberToken number := by
  have hresult := h ▸ tokenize_result text
  cases hresult with
  | finished hscans hlast =>
      obtain ⟨-, -, hreads⟩ :=
        (hscans.standsAlone token (List.mem_append_right _ List.mem_cons_self)).starts
      obtain ⟨hnumeral, htoken⟩ := numeral_of_readToken (hreads [] apart_nil) hnumber
      exact ⟨_, writes_of_weaves (hscans.weaves hlast) hnumeral, htoken⟩

namespace Literal

theorem ofTokens?_eq (sign : Sign) (token : Token) :
    ofTokens? (sign.tokens ++ [token]) = ofNumber? sign.kept token := by
  cases sign with
  | absent => rfl
  | plus => rfl
  | minus => rfl

theorem ofTokens?_eq_some {tokens : List Token} {literal : Literal}
    (h : ofTokens? tokens = some literal) :
    ∃ sign : Sign, ∃ token : Token, tokens = sign.tokens ++ [token] ∧ token.IsNumber := by
  have hkind {kept : String} {token : Token} (hsome : ofNumber? kept token = some literal) :
      token.IsNumber := by
    cases token with
    | int text => trivial
    | float text => trivial
    | _ => cases hsome
  unfold ofTokens? at h
  split at h
  · exact ⟨.absent, _, rfl, hkind h⟩
  · exact ⟨.plus, _, rfl, hkind h⟩
  · exact ⟨.minus, _, rfl, hkind h⟩
  · cases h

theorem ofNumber?_numberToken (kept : String) (number : List Char) :
    ofNumber? kept (numberToken number) =
      some { kind := if number.all Char.isDigit then .int else .float,
             text := kept ++ String.ofList number } := by
  unfold numberToken
  split <;> rfl

theorem ofText_of_writes {text : String} {sign : Sign} {number : List Char}
    (h : Writes text.toList sign number) :
    ofText text = { kind := if number.all Char.isDigit then .int else .float,
                    text := sign.kept ++ String.ofList number } := by
  rw [ofText, tokenize_of_writes h]
  simp only [ofTokens?_eq, ofNumber?_numberToken, Option.getD_some]

theorem ofText_cases (text : String) :
    (∃ sign number, Writes text.toList sign number) ∨
      ofText text = { kind := .string, text } := by
  rw [ofText]
  cases hread : tokenize text with
  | error error => exact Or.inr rfl
  | ok tokens =>
      cases hvalue : ofTokens? tokens with
      | none => exact Or.inr (by simp only [hvalue, Option.getD_none])
      | some literal =>
          obtain ⟨sign, token, rfl, hnumber⟩ := ofTokens?_eq_some hvalue
          obtain ⟨number, hwrites, -⟩ := writes_of_tokenize hread hnumber
          exact Or.inl ⟨sign, number, hwrites⟩

theorem isNumeric_of_writes {text : String} {sign : Sign} {number : List Char}
    (h : Writes text.toList sign number) : (ofText text).isNumeric = true := by
  rw [ofText_of_writes h, isNumeric]
  split <;> rfl

/-- The value of a text is the number that is written in it, with its sign if that is
a minus, and the text itself when no number is. -/
theorem ofText_classifies (text : String) :
    ((ofText text).isNumeric = true ↔ ∃ sign number, Writes text.toList sign number) ∧
    (∀ sign number, Writes text.toList sign number →
      ofText text = { kind := if number.all Char.isDigit then .int else .float,
                      text := sign.kept ++ String.ofList number }) ∧
    ((ofText text).isNumeric = false → ofText text = { kind := .string, text }) := by
  refine ⟨⟨fun hnumeric => ?_, ?_⟩, fun sign number => ofText_of_writes, fun hnumeric => ?_⟩
  · refine (ofText_cases text).resolve_right fun hstring => ?_
    rw [hstring] at hnumeric
    cases hnumeric
  · rintro ⟨sign, number, hwrites⟩
    exact isNumeric_of_writes hwrites
  · refine (ofText_cases text).resolve_left ?_
    rintro ⟨sign, number, hwrites⟩
    exact absurd (isNumeric_of_writes hwrites) (hnumeric ▸ Bool.false_ne_true)

theorem ofText_classifies_signed :
    (Writes " - 1.5e+3".toList .minus "1.5e+3".toList ∧
      ofText " - 1.5e+3" = { kind := .float, text := "-1.5e+3" }) ∧
    (ofText "1.5e").isNumeric = false ∧ ofText "1.5e" = { kind := .string, text := "1.5e" } := by
  have hdigits (digit : Char) (h : digit.isDigit = true) : Digits [digit] :=
    ⟨List.cons_ne_nil _ _, List.forall_mem_singleton.mpr h⟩
  have hnumeral : Numeral (['1'] ++ '.' :: ['5'] ++ ('e' :: (['+'] ++ ['3']))) :=
    .intro (.pointed (hdigits '1' rfl) (hdigits '5' rfl).digit)
      (.marked (Or.inl rfl) (Or.inr (Or.inl rfl)) (hdigits '3' rfl))
  have hblank : ∀ char ∈ [' '], isBlank char = true := List.forall_mem_singleton.mpr rfl
  have hwrites : Writes " - 1.5e+3".toList .minus "1.5e+3".toList :=
    ⟨hnumeral, [' '], [' '], [], rfl, hblank, hblank, List.forall_mem_nil _⟩
  have hstring : (ofText "1.5e").isNumeric = false := by decide +kernel
  exact ⟨⟨hwrites, (ofText_classifies " - 1.5e+3").2.1 _ _ hwrites⟩, hstring,
    (ofText_classifies "1.5e").2.2 hstring⟩

end Literal

end LiveSheet.Formula
