import LiveSheet.Formula.Parser

namespace LiveSheet.Formula

theorem bind_ok {result : Except ε α} {next : α → Except ε β} {last : β}
    (h : (result >>= next) = .ok last) :
    ∃ first, result = .ok first ∧ next first = .ok last := by
  cases result with
  | error error => cases h
  | ok first => exact ⟨first, rfl, h⟩

def Finishes (ending : Ending) (rest : List Lexeme) : Prop :=
  rest = [] → ∃ position, ending = .finished position

section

variable {ending : Ending} {lexemes rest : List Lexeme}

theorem advance_ok (h : advance ending lexemes = .ok rest) :
    rest = lexemes ∧ Finishes ending rest := by
  unfold advance at h
  split at h
  · cases h
  · rename_i hshape
    cases h
    refine ⟨rfl, fun hempty => ?_⟩
    cases ending with
    | finished position => exact ⟨position, rfl⟩
    | unexpected error => exact absurd rfl (hshape error hempty)

theorem build_ok {expr : Expr} {height : Nat} {node : Node}
    (h : build ending lexemes expr height = .ok node) :
    node = { expr, height } ∧ height ≤ maxNesting := by
  unfold build at h
  split at h
  · cases h
  · cases h
    exact ⟨rfl, by omega⟩

theorem closeParen_ok (h : closeParen ending lexemes = .ok rest) :
    ∃ position, lexemes = .token position .closeParen :: rest ∧ Finishes ending rest := by
  unfold closeParen at h
  split at h
  · obtain ⟨rfl, hfinishes⟩ := advance_ok h
    exact ⟨_, rfl, hfinishes⟩
  · cases h

end

end LiveSheet.Formula
