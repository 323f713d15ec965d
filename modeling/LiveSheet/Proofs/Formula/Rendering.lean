import LiveSheet.Proofs.Formula.Spelling

namespace LiveSheet.Formula

open LiveSheet.Text

def Word.chars (word : Word) : List Char :=
  word.texts.flatMap fun text => ' ' :: text.toList

def spelling (words : List Word) : List Char :=
  words.flatMap Word.chars

@[simp] theorem spelling_nil : spelling [] = [] := rfl

@[simp] theorem spelling_append (first second : List Word) :
    spelling (first ++ second) = spelling first ++ spelling second :=
  List.flatMap_append

@[simp] theorem spelling_cons_token (token : Token) (words : List Word) :
    spelling (.token token :: words) = ' ' :: (token.text.toList ++ spelling words) := by
  simp [spelling, Word.chars, Word.texts]

theorem dropWhile_isBlank_space (chars : List Char) :
    (' ' :: chars).dropWhile isBlank = chars.dropWhile isBlank :=
  List.dropWhile_cons_of_pos (by decide)

theorem apart_spelling {tail : List Char} (words : List Word) (htail : Apart tail) :
    Apart (spelling words ++ tail) := by
  rcases words with _ | ⟨read | ⟨name, locator⟩, words⟩
  · exact htail
  · rw [spelling_cons_token]
    exact apart_space _
  · exact apart_space _

structure Follows (tail : List Char) : Prop where
  apart : Apart tail
  unopened : afterOpening? tail = none

theorem follows_nil : Follows [] :=
  ⟨apart_nil, rfl⟩

section

variable {tail chars last : List Char} {word : Word} {words : List Word}

theorem spells_space_iff :
    Spells (' ' :: chars) (word :: words) last ↔ Spells chars (word :: words) last := by
  constructor
  · intro h
    cases h with
    | token hread hopening hrest =>
        rw [dropWhile_isBlank_space] at hread
        exact .token hread hopening hrest
    | external hread hname hopening hrest =>
        rw [dropWhile_isBlank_space] at hread
        exact .external hread hname hopening hrest
  · intro h
    cases h with
    | token hread hopening hrest =>
        rw [← dropWhile_isBlank_space] at hread
        exact .token hread hopening hrest
    | external hread hname hopening hrest =>
        rw [← dropWhile_isBlank_space] at hread
        exact .external hread hname hopening hrest

theorem Token.StandsAlone.spells {token : Token} (h : token.StandsAlone) (hapart : Apart tail)
    (hopening : OpensNoExternal token tail)
    (htail : Spells tail words last) :
    Spells (' ' :: (token.text.toList ++ tail)) (.token token :: words) last :=
  spells_space_iff.mpr (.token (h.reads hapart) hopening htail)

def Token.Separates : Token → Prop
  | .operator _ | .closeParen | .comma => True
  | _ => False

theorem standsAlone_openParen : Token.openParen.StandsAlone := rfl

theorem opensNoExternal_openParen (rest : List Char) : OpensNoExternal .openParen rest := by
  rintro name ⟨⟩

namespace Token.Separates

variable {token : Token}

theorem standsAlone (h : token.Separates) : token.StandsAlone := by
  cases token with
  | operator op => cases op <;> rfl
  | closeParen | comma => rfl
  | identifier name | int text | float text | openParen => exact h.elim

theorem follows (h : token.Separates) (tail : List Char) :
    Follows (' ' :: (token.text.toList ++ tail)) where
  apart := apart_space _
  unopened := by
    cases token with
    | operator op => cases op <;> rfl
    | closeParen | comma => rfl
    | identifier name | int text | float text | openParen => exact h.elim

theorem spells (h : token.Separates) (hapart : Apart tail) (htail : Spells tail words last) :
    Spells (' ' :: (token.text.toList ++ tail)) (.token token :: words) last := by
  refine h.standsAlone.spells hapart ?_ htail
  rintro name rfl
  exact h.elim

end Token.Separates

end

def Expr.Renders (expr : Expr) : Prop :=
  ∀ tail words last, Follows tail → Spells tail words last →
    Spells (spelling expr.words ++ tail) (expr.words ++ words) last

section

variable {tail last : List Char} {words : List Word} {arguments : List Expr}

theorem follows_furtherWords (arguments : List Expr) (htail : Follows tail) :
    Follows (spelling (Expr.furtherWords arguments) ++ tail) := by
  cases arguments with
  | nil => exact htail
  | cons first rest =>
      rw [Expr.furtherWords, spelling_cons_token, List.cons_append, List.append_assoc]
      exact (show Token.comma.Separates from trivial).follows _

theorem renders_furtherWords (harguments : ∀ argument ∈ arguments, argument.Renders)
    (hfollows : Follows tail) (htail : Spells tail words last) :
    Spells (spelling (Expr.furtherWords arguments) ++ tail)
      (Expr.furtherWords arguments ++ words) last := by
  induction arguments with
  | nil => exact htail
  | cons first rest ih =>
      have hrest := ih fun argument hmem => harguments argument (List.mem_cons_of_mem _ hmem)
      have hfirst := harguments first List.mem_cons_self _ _ _
        (follows_furtherWords rest hfollows) hrest
      have hcomma : Token.comma.Separates := trivial
      simp only [Expr.furtherWords, spelling_cons_token, spelling_append, List.cons_append,
        List.append_assoc]
      exact hcomma.spells (apart_spelling _ (follows_furtherWords rest hfollows).apart) hfirst

theorem renders_argumentWords (harguments : ∀ argument ∈ arguments, argument.Renders)
    (hfollows : Follows tail) (htail : Spells tail words last) :
    Spells (spelling (Expr.argumentWords arguments) ++ tail)
      (Expr.argumentWords arguments ++ words) last := by
  cases arguments with
  | nil => exact htail
  | cons first rest =>
      have hrest := renders_furtherWords
        (fun argument hmem => harguments argument (List.mem_cons_of_mem _ hmem)) hfollows htail
      have hfirst := harguments first List.mem_cons_self _ _ _
        (follows_furtherWords rest hfollows) hrest
      simpa only [Expr.argumentWords, spelling_append, List.append_assoc] using hfirst

theorem spells_external {name locator : String}
    (halone : (Token.identifier name).StandsAlone) (hname : namesExternal name = true)
    (htrimmed : trim locator.toList = locator.toList) (hbalanced : Balanced locator.toList)
    (hapart : Apart tail) (htail : Spells tail words last) :
    Spells (spelling [.external name locator, .token .closeParen] ++ tail)
      (.external name locator :: .token .closeParen :: words) last := by
  have hclose : Token.closeParen.Separates := trivial
  have hspace : ∀ char ∈ [' '], isBlank char = true :=
    List.forall_mem_singleton.mpr (by decide)
  obtain ⟨pad, hpad, hchars⟩ : ∃ pad : List Char, (∀ char ∈ pad, isBlank char = true) ∧
      (Word.external name locator).chars =
        ' ' :: (name.toList ++ ' ' :: '(' :: (pad ++ locator.toList)) := by
    by_cases hempty : locator = ""
    · exact ⟨[], List.forall_mem_nil _, by subst hempty; simp [Word.chars, Word.texts, Token.text]⟩
    · exact ⟨[' '], hspace, by simp [Word.chars, Word.texts, Token.text, hempty]⟩
  have htrim : trim (pad ++ locator.toList ++ [' ']) = locator.toList :=
    (trim_of_blank_around hpad hspace).trans htrimmed
  have hinner : (pad ++ locator.toList ++ [' ']).foldlM nest 0 = some 0 := by
    rw [← foldlM_nest_trim, htrim]
    exact hbalanced
  have hsplit := splitRaw_of_balanced tail hinner
  have hclosed : Spells (splitRaw 0 (pad ++ locator.toList ++ [' '] ++ ')' :: tail)).2
      (.token .closeParen :: words) last := by
    rw [hsplit]
    exact spells_space_iff.mp (hclose.spells hapart htail)
  have hexternal := Spells.external
    (halone.reads (apart_space ('(' :: (pad ++ locator.toList ++ [' '] ++ ')' :: tail))))
    hname rfl hclosed
  rw [hsplit, htrim, String.ofList_toList] at hexternal
  rw [spelling, List.flatMap_cons, hchars]
  simpa [Word.chars, Word.texts, Token.text] using spells_space_iff.mpr hexternal

end

theorem Literal.token?_ne_identifier (literal : Literal) (name : String) :
    literal.token? ≠ some (.identifier name) := by
  rcases literal with ⟨_ | _ | _, text⟩ <;> simp [Literal.token?]

theorem Expr.WellFormed.renders {expr : Expr} (h : expr.WellFormed) : expr.Renders := by
  induction h with
  | @number literal token hnumber halone =>
      intro tail words last hfollows htail
      have hname : OpensNoExternal token tail := by
        rintro name rfl
        exact absurd hnumber (literal.token?_ne_identifier name)
      simpa [Expr.words, hnumber] using halone.spells hfollows.apart hname htail
  | identifier halone =>
      intro tail words last hfollows htail
      simp only [Expr.words, spelling_cons_token, spelling_nil, List.append_nil,
        List.cons_append, List.nil_append]
      exact halone.spells hfollows.apart (fun _ _ _ => hfollows.unopened) htail
  | @unary op operand _ _ _ ih =>
      intro tail words last hfollows htail
      have hop : (Token.operator op).Separates := trivial
      simp only [Expr.words, spelling_cons_token, List.cons_append, List.append_assoc]
      exact hop.spells (apart_spelling _ hfollows.apart) (ih _ _ _ hfollows htail)
  | @binary op left right _ _ _ _ ihleft ihright =>
      intro tail words last hfollows htail
      have hop : (Token.operator op).Separates := trivial
      simp only [Expr.words, spelling_append, spelling_cons_token, List.cons_append,
        List.append_assoc]
      exact ihleft _ _ _ (hop.follows _)
        (hop.spells (apart_spelling _ hfollows.apart) (ihright _ _ _ hfollows htail))
  | paren _ ih =>
      intro tail words last hfollows htail
      have hclose : Token.closeParen.Separates := trivial
      have hinner := ih _ _ _ (hclose.follows tail) (hclose.spells hfollows.apart htail)
      simp only [Expr.words, spelling_append, spelling_cons_token, spelling_nil,
        List.cons_append, List.append_assoc, List.nil_append]
      exact standsAlone_openParen.spells (apart_spelling _ (hclose.follows _).apart)
        (opensNoExternal_openParen _) hinner
  | @call name arguments halone hname _ ih =>
      intro tail words last hfollows htail
      have hclose : Token.closeParen.Separates := trivial
      have harguments := renders_argumentWords ih (hclose.follows tail)
        (hclose.spells hfollows.apart htail)
      have hopen := standsAlone_openParen.spells
        (apart_spelling _ (hclose.follows _).apart) (opensNoExternal_openParen _) harguments
      have hopening (chars : List Char) : OpensNoExternal (.identifier name) chars := by
        rintro other ⟨rfl⟩ hother
        exact absurd hother (by simp [hname])
      simpa [Expr.words_call hname] using halone.spells (apart_space _) (hopening _) hopen
  | bareExternal halone hname =>
      intro tail words last hfollows htail
      have hexternal := @spells_external _ _ _ _ "" halone hname rfl rfl hfollows.apart htail
      simpa [Expr.words_external hname, Expr.locator] using hexternal
  | external halone hname hlocator =>
      intro tail words last hfollows htail
      have hexternal := spells_external halone hname hlocator.trimmed hlocator.balanced
        hfollows.apart htail
      simpa [Expr.words_external hname, Expr.locator] using hexternal

theorem space_cons_intercalate {texts : List String} (h : texts ≠ []) :
    ' ' :: (" ".intercalate texts).toList = texts.flatMap fun text => ' ' :: text.toList := by
  induction texts with
  | nil => exact absurd rfl h
  | cons first rest ih =>
      cases rest with
      | nil => simp
      | cons second rest =>
          rw [String.intercalate_cons_cons, String.toList_append, String.toList_append,
            List.flatMap_cons, ← ih (List.cons_ne_nil _ _)]
          simp

theorem Word.texts_ne_nil (word : Word) : word.texts ≠ [] := by
  cases word <;> exact List.cons_ne_nil _ _

theorem Expr.WellFormed.starts {expr : Expr} (h : expr.WellFormed) :
    ∃ word words, expr.words = word :: words ∧ word ≠ .token .closeParen := by
  induction h with
  | @number literal token hnumber _ =>
      refine ⟨.token token, [], by simp [Expr.words, hnumber], ?_⟩
      rintro ⟨⟩
      rcases literal with ⟨_ | _ | _, text⟩ <;> cases hnumber
  | identifier _ => exact ⟨_, _, rfl, by simp⟩
  | unary _ _ _ _ => exact ⟨_, _, rfl, by simp⟩
  | binary _ _ _ _ ih _ =>
      obtain ⟨word, words, hwords, hword⟩ := ih
      exact ⟨word, _, by rw [Expr.words, hwords, List.cons_append], hword⟩
  | paren _ _ => exact ⟨_, _, rfl, by simp⟩
  | call _ hname _ _ => exact ⟨_, _, Expr.words_call hname, by simp⟩
  | bareExternal _ hname | external _ hname _ => exact ⟨_, _, Expr.words_external hname, by simp⟩

theorem Expr.WellFormed.spells_text {expr : Expr} (h : expr.WellFormed) :
    Spells expr.text.toList expr.words [] := by
  obtain ⟨word, words, hwords, -⟩ := h.starts
  have htexts : expr.words.flatMap Word.texts ≠ [] := by
    rw [hwords, List.flatMap_cons]
    exact List.append_ne_nil_of_left_ne_nil word.texts_ne_nil _
  have hspelling : ' ' :: expr.text.toList = spelling expr.words := by
    rw [Expr.text, space_cons_intercalate htexts, spelling, List.flatMap_assoc]
    rfl
  have hspells := h.renders [] [] [] follows_nil (.done [])
  rw [List.append_nil, List.append_nil, ← hspelling, hwords] at hspells
  rw [hwords]
  exact spells_space_iff.mp hspells

end LiveSheet.Formula
