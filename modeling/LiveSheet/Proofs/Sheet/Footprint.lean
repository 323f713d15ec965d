import LiveSheet.Proofs.Formula.Coverage
import LiveSheet.Proofs.Sheet.Answers
import Mathlib.Logic.Relation

namespace LiveSheet

open LiveSheet.Formula

/-! What a read of a cell depends on: the texts of the cell and of whatever can
be reached from it through the names in formulas, and no other text. -/

namespace Store

def Mentions (store : Store) (sheet cell other : String) : Prop :=
  other ∈ (store.mentioned sheet cell).toList

/-- A cell that the text of another leads to, from one mention to the next. -/
def Reaches (store : Store) (sheet : String) : String → String → Prop :=
  Relation.ReflTransGen (store.Mentions sheet)

variable {store other : Store} {sheet start : String}

theorem Reaches.canonical {cell : String} (hstart : LiveSheet.canonical start = start)
    (h : store.Reaches sheet start cell) : LiveSheet.canonical cell = cell := by
  induction h with
  | refl => exact hstart
  | tail _ hmentions _ =>
      obtain ⟨value, -, hmentioned⟩ := mem_mentioned.mp hmentions
      exact canonical_of_mem_references hmentioned

/-- The scan of a text finds whatever its formula asks for, so no formula within
reach asks for a cell out of reach. -/
theorem Reaches.request {cell name : String} {expr : Expr}
    (hstart : LiveSheet.canonical start = start)
    (h : store.Reaches sheet start cell) (engine : Engine)
    (hexpr : (engine.page store sheet).expr? cell = some expr)
    (hname : .cell name ∈ expr.requests) :
    store.Reaches sheet start (LiveSheet.canonical name) := by
  obtain ⟨value, body, hvalue, hbody, hparse⟩ := Page.expr?_eq_some.mp hexpr
  -- A formula may name its own cell, which is not counted as a mention.
  by_cases hself : LiveSheet.canonical name = LiveSheet.canonical cell
  · rw [hself, h.canonical hstart]
    exact h
  · exact h.tail (mem_mentioned.mpr
      ⟨value, hvalue, mem_references_of_mem_requests hbody hparse hname hself⟩)

theorem agreeOn_reaches (hstart : LiveSheet.canonical start = start) (engine : Engine)
    (hsame : ∀ cell, store.Reaches sheet start cell →
      store.cell? sheet cell = other.cell? sheet cell) :
    Page.AgreeOn (store.Reaches sheet start) (engine.page store sheet)
      (engine.page other sheet) where
  sheet := rfl
  fetch := rfl
  text := fun {cell} => hsame cell
  closed := fun hcell hexpr hname => hcell.request hstart engine hexpr hname

end Store

namespace Engine

/-- Two stores answer a request for a cell alike when they hold the same texts
wherever the mentions lead from there. -/
theorem getCell_of_reaches (engine : Engine) {world other : World Unit}
    (hfired : world.fired = []) (hother : other.fired = []) (sheet cell : String)
    (hsame : ∀ id, world.store.Reaches (canonical sheet) (canonical cell) id →
      world.store.cell? (canonical sheet) id = other.store.cell? (canonical sheet) id) :
    (engine.getCell sheet cell).answer world = (engine.getCell sheet cell).answer other := by
  have hfirst := engine.getCell_yields world.store sheet cell
  have hsecond := engine.getCell_yields other.store sheet cell
  have hagree := Store.agreeOn_reaches (canonical_canonical cell) engine hsame
  rw [hfirst.answer ⟨rfl, hfired⟩, hsecond.answer ⟨rfl, hother⟩]
  exact hagree.response .refl

def apart (text : String) : World Unit :=
  { store :=
      ((Store.empty.setCell "s" "a" "1").setCell "s" "b" "=A+sum(a)").setCell "s" "c" text
    calls := []
    fired := []
    conditions := () }

theorem getCell_of_reaches_apart :
    (getCell { fetch := Fetch.disabled, token := 0 } "S" "B").answer (apart "=b") =
        (getCell { fetch := Fetch.disabled, token := 0 } "S" "B").answer (apart "=c/0") ∧
      (getCell { fetch := Fetch.disabled, token := 0 } "S" "B").answer (apart "=b") =
        .ok { value := "=A+sum(a)", result := "2", error := none } := by
  have hb : ((apart "=b").store.mentioned "s" "b").toList = ["a", "sum"] := by decide +kernel
  have ha : ((apart "=b").store.mentioned "s" "a").toList = [] := by decide +kernel
  have hsum : ((apart "=b").store.mentioned "s" "sum").toList = [] := by decide +kernel
  have hreached {id : String} (h : (apart "=b").store.Reaches "s" "b" id) :
      id ∈ ["b", "a", "sum"] := by
    induction h with
    | refl => decide
    | tail _ hmentions ih =>
        rw [Store.Mentions] at hmentions
        simp only [List.mem_cons, List.not_mem_nil, or_false] at ih
        rcases ih with rfl | rfl | rfl
        · rw [hb] at hmentions
          exact List.mem_cons_of_mem _ hmentions
        · rw [ha] at hmentions
          exact absurd hmentions List.not_mem_nil
        · rw [hsum] at hmentions
          exact absurd hmentions List.not_mem_nil
  have hsame : ∀ id ∈ ["b", "a", "sum"],
      (apart "=b").store.cell? "s" id = (apart "=c/0").store.cell? "s" id := by
    decide +kernel
  have hids : canonical "S" = "s" ∧ canonical "B" = "b" := by decide +kernel
  refine ⟨getCell_of_reaches _ rfl rfl "S" "B" fun id hid => ?_, by decide +kernel⟩
  rw [hids.1, hids.2] at hid
  rw [hids.1]
  exact hsame id (hreached hid)

end Engine

end LiveSheet
