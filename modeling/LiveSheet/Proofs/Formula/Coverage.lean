import LiveSheet.Proofs.Formula.Acceptance
import LiveSheet.Proofs.Formula.Requests

namespace LiveSheet.Formula

open LiveSheet.Text

/-! The lexical scan of a formula against its tree.  The scan reads the argument of
an external call too, and is back in step with the words behind it. -/

theorem namesExternal_iff {name : String} :
    namesExternal name = true ↔ uppercase name = externalFunction := by
  constructor
  · intro h
    exact (uppercase_eq_of_sameAsciiCase h).trans (by decide +kernel)
  · exact sameAsciiCase_of_uppercase_eq (by decide +kernel)

theorem identifiers_eq (source : String) : identifiers source = namesIn source.toList := rfl

theorem namesIn_trim (chars : List Char) : namesIn (trim chars) = namesIn chars := by
  obtain ⟨front, back, hchars, hfront, hback⟩ := exists_blank_around chars
  have hends : ∀ char ∈ back.head?, EndsLexeme char :=
    fun char hchar => endsLexeme_of_isBlank (hback char (List.mem_of_mem_head? hchar))
  have hstart : (front ++ (trim chars ++ back)).dropWhile isBlank =
      (trim chars ++ back).dropWhile isBlank := List.dropWhile_append_of_pos hfront
  calc namesIn (trim chars)
      = namesIn (trim chars) ++ namesIn back := by
        rw [namesIn_of_isBlank (List.dropWhile_eq_nil_iff.mpr hback), List.append_nil]
    _ = namesIn (front ++ (trim chars ++ back)) := by
        rw [namesIn_congr hstart, namesIn_append hends]
    _ = namesIn chars := by rw [← List.append_assoc, ← hchars]

theorem namesIn_afterOpening {chars inner : List Char} (h : afterOpening? chars = some inner) :
    namesIn chars =
      identifiers (String.ofList (trim (splitRaw 0 inner).1)) ++
        namesIn (splitRaw 0 inner).2 := by
  have hopening := afterOpening?_eq_some h
  have hread : readToken (chars.dropWhile isBlank) = .token .openParen ['('] inner := by
    rw [hopening, readToken_opening]
  have hends : ∀ char ∈ (splitRaw 0 inner).2.head?, EndsLexeme char :=
    fun char hchar => (splitRaw_rest 0 inner char hchar).endsLexeme
  calc namesIn chars
      = namesIn ((splitRaw 0 inner).1 ++ (splitRaw 0 inner).2) := by
        rw [namesIn_token hread, splitRaw_append]
        rfl
    _ = namesIn (trim (splitRaw 0 inner).1) ++ namesIn (splitRaw 0 inner).2 := by
        rw [namesIn_append hends, namesIn_trim]
    _ = _ := by
        rw [identifiers_eq, String.toList_ofList]

def Word.names : Word → List String
  | .token read => (Piece.token read).identifier?.toList
  | .external name locator => name :: identifiers locator

theorem Spells.namesIn_eq {chars rest : List Char} {words : List Word}
    (h : Spells chars words rest) (hrest : rest.dropWhile isBlank = []) :
    namesIn chars = words.flatMap Word.names := by
  induction h with
  | done chars => exact namesIn_of_isBlank hrest
  | token hread _ _ ih =>
      rw [namesIn_token hread, ih hrest]
      rfl
  | external hread _ hopening _ ih =>
      rw [namesIn_token hread, namesIn_afterOpening hopening, ih hrest]
      rfl

theorem identifiers_of_parse {body : String} {expr : Expr} (h : parse body = .ok expr) :
    identifiers body = expr.words.flatMap Word.names := by
  obtain ⟨-, -, rest, hspells, hrest⟩ := parse_eq_ok_iff.mp h
  rw [identifiers_eq, hspells.namesIn_eq hrest]

mutual

def Expr.functions : Expr → List String
  | .literal _ | .identifier _ | .invalid => []
  | .unary _ operand => operand.functions
  | .binary _ left right => left.functions ++ right.functions
  | .paren inner => inner.functions
  | .call name arguments => name :: Expr.allFunctions arguments

def Expr.allFunctions : List Expr → List String
  | [] => []
  | first :: rest => first.functions ++ Expr.allFunctions rest

end

/-- A name stands in an expression for a cell that it asks for or for a function, or
it stands in a locator. -/
def Expr.Names (expr : Expr) (name : String) : Prop :=
  .cell name ∈ expr.requests ∨ name ∈ expr.functions ∨
    ∃ locator, .external locator ∈ expr.requests ∧ name ∈ identifiers locator

theorem mem_allRequests {request : Request} {arguments : List Expr} :
    request ∈ Expr.allRequests arguments ↔
      ∃ argument ∈ arguments, request ∈ argument.requests := by
  induction arguments with
  | nil => simp [Expr.allRequests]
  | cons first rest ih => rw [Expr.allRequests, List.mem_append, ih, List.exists_mem_cons_iff]

theorem mem_allFunctions {name : String} {arguments : List Expr} :
    name ∈ Expr.allFunctions arguments ↔ ∃ argument ∈ arguments, name ∈ argument.functions := by
  induction arguments with
  | nil => simp [Expr.allFunctions]
  | cons first rest ih => rw [Expr.allFunctions, List.mem_append, ih, List.exists_mem_cons_iff]

theorem mem_flatMap_argumentWords {name : String} {arguments : List Expr} :
    name ∈ (Expr.argumentWords arguments).flatMap Word.names ↔
      ∃ argument ∈ arguments, name ∈ argument.words.flatMap Word.names := by
  have hfurther (rest : List Expr) :
      name ∈ (Expr.furtherWords rest).flatMap Word.names ↔
        ∃ argument ∈ rest, name ∈ argument.words.flatMap Word.names := by
    induction rest with
    | nil => simp [Expr.furtherWords]
    | cons first rest ih =>
        rw [Expr.furtherWords, List.flatMap_cons, List.flatMap_append, List.mem_append,
          List.mem_append, ih, List.exists_mem_cons_iff]
        simp [Word.names, Piece.identifier?]
  cases arguments with
  | nil => simp [Expr.argumentWords]
  | cons first rest =>
      rw [Expr.argumentWords, List.flatMap_append, List.mem_append, hfurther,
        List.exists_mem_cons_iff]

namespace Expr

variable {name : String}

theorem names_binary {op : Operator} {left right : Expr} :
    (Expr.binary op left right).Names name ↔ left.Names name ∨ right.Names name := by
  simp only [Names, requests, functions, List.mem_append, or_and_right, exists_or]
  grind

theorem names_call {function : String} {arguments : List Expr}
    (h : uppercase function ≠ externalFunction) :
    (Expr.call function arguments).Names name ↔
      name = function ∨ ∃ argument ∈ arguments, argument.Names name := by
  simp only [Names, requests, functions, if_neg h, List.mem_cons, mem_allRequests,
    mem_allFunctions]
  grind

theorem names_external {function : String} {arguments : List Expr}
    (hfunction : uppercase function = externalFunction)
    (harguments : allFunctions arguments = []) :
    (Expr.call function arguments).Names name ↔
      name = function ∨ ∃ locator, .external locator ∈ locatorRequests arguments ∧
        name ∈ identifiers locator := by
  have hcell : .cell name ∉ locatorRequests arguments := by
    unfold locatorRequests
    split <;> simp
  simp only [Names, requests, functions, if_pos hfunction, harguments, List.mem_singleton,
    hcell, false_or]

theorem WellFormed.mem_names_iff {expr : Expr} (h : expr.WellFormed) :
    name ∈ expr.words.flatMap Word.names ↔ expr.Names name := by
  induction h with
  | @number literal token hnumber _ =>
      have hnone : (Piece.token token).identifier? = none := by
        rcases literal with ⟨_ | _ | _, text⟩ <;> cases hnumber <;> rfl
      simp [words, hnumber, Word.names, hnone, Names, requests, functions]
  | identifier _ => simp [words, Word.names, Piece.identifier?, Names, requests, functions, eq_comm]
  | unary _ _ _ ih =>
      rw [words, List.flatMap_cons, List.mem_append, ih]
      simp [Word.names, Piece.identifier?, Names, requests, functions]
  | binary _ _ _ _ ihLeft ihRight =>
      rw [words, List.flatMap_append, List.flatMap_cons, List.mem_append, List.mem_append,
        ihLeft, ihRight, names_binary]
      simp [Word.names, Piece.identifier?]
  | paren _ ih =>
      rw [words, List.flatMap_cons, List.flatMap_append, List.mem_append, List.mem_append, ih]
      simp [Word.names, Piece.identifier?, Names, requests, functions]
  | @call function arguments _ hname _ ih =>
      have hother : uppercase function ≠ externalFunction := by
        rw [ne_eq, ← namesExternal_iff, hname]
        exact Bool.false_ne_true
      rw [words_call hname, names_call hother]
      have hwords : name ∈ (argumentWords arguments).flatMap Word.names ↔
          ∃ argument ∈ arguments, argument.Names name :=
        mem_flatMap_argumentWords.trans
          (exists_congr fun argument => and_congr_right (ih argument))
      simp only [List.flatMap_cons, List.flatMap_append, List.mem_append, hwords]
      simp [Word.names, Piece.identifier?]
  | bareExternal _ hname =>
      rw [words_external hname, names_external (namesExternal_iff.mp hname) rfl]
      have hempty : identifiers "" = [] := rfl
      simp [Word.names, Piece.identifier?, locatorRequests, locator, hempty]
  | external _ hname _ =>
      rw [words_external hname, names_external (namesExternal_iff.mp hname) rfl]
      simp [Word.names, Piece.identifier?, locatorRequests, locator]

end Expr

/-- The lexical scan of a formula finds the names in its tree. -/
theorem mem_identifiers_iff {body name : String} {expr : Expr} (h : parse body = .ok expr) :
    name ∈ identifiers body ↔ expr.Names name := by
  rw [identifiers_of_parse h]
  exact (parse_eq_ok_iff.mp h).1.mem_names_iff

/-- A formula only asks for the cells that its text mentions and for its own. -/
theorem mem_references_of_mem_requests {cell value body name : String} {expr : Expr}
    (hbody : body? value = some body) (hparse : parse body = .ok expr)
    (hname : .cell name ∈ expr.requests) (hother : canonical name ≠ canonical cell) :
    canonical name ∈ (references cell value).toList :=
  mem_references.mpr ⟨body, hbody, hother, name,
    (mem_identifiers_iff hparse).mpr (Or.inl hname), rfl⟩

end LiveSheet.Formula
