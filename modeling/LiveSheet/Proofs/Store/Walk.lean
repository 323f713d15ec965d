import LiveSheet.Proofs.Store.Edges
import Mathlib.Algebra.GroupWithZero.Nat

namespace LiveSheet.Store

/-! Walks along the edges of a sheet.  A walk has a bound of one step for each
edge that can still put a cell on its stack. -/

/-- The number of edges that lead away from cells not visited yet. -/
def outstanding (store : Store) (sheet : String) (visited : IdSet) : Nat :=
  (store.dependents.entries.map fun entry =>
    if visited.toList.any (cellKey sheet · == entry.1) then 0
    else entry.2.toList.length).sum

theorem foldl_add_eq_sum (weight : α → Nat) (items : List α) (start : Nat) :
    items.foldl (fun count item => count + weight item) start =
      start + (items.map weight).sum := by
  induction items generalizing start with
  | nil => rfl
  | cons item items ih =>
      rw [List.foldl_cons, ih, List.map_cons, List.sum_cons, Nat.add_assoc]

theorem outstanding_empty (store : Store) (sheet : String) :
    store.outstanding sheet Table.empty = store.edgeCount := by
  rw [edgeCount, foldl_add_eq_sum fun entry : String × IdSet => entry.2.entries.length,
    Nat.zero_add]
  apply congrArg List.sum
  apply List.map_congr_left
  intro entry _
  exact List.length_map Prod.fst

private theorem sum_leaving_out {entries : List (String × IdSet)}
    (hascending : entries.Pairwise fun left right => left.1 < right.1)
    (leftOut : String → Bool) {key : String} (hkey : leftOut key = false) :
    (entries.map fun entry =>
        if (key == entry.1 || leftOut entry.1) then 0 else entry.2.toList.length).sum +
      ((Table.findIn key entries).getD Table.empty).toList.length =
    (entries.map fun entry =>
        if leftOut entry.1 then 0 else entry.2.toList.length).sum := by
  induction entries with
  | nil => rfl
  | cons head rest ih =>
      obtain ⟨other, held⟩ := head
      obtain ⟨habove, hrest⟩ := List.pairwise_cons.mp hascending
      have ih := ih hrest
      simp only [List.map_cons, List.sum_cons, Table.findIn]
      by_cases hsame : key = other
      · subst hsame
        have habsent : Table.findIn key rest = none := by
          apply Table.findIn_eq_none
          rintro entry hmem rfl
          exact String.lt_irrefl _ (habove entry hmem)
        rw [habsent, Option.getD_none] at ih
        have hzero : IdSet.toList (Table.empty : IdSet) = [] := rfl
        rw [hzero, List.length_nil, Nat.add_zero] at ih
        simp only [beq_self_eq_true, Bool.true_or, if_true, hkey, Bool.false_eq_true,
          if_false, Option.getD_some, ih]
        omega
      · have hdiffer : (key == other) = false := beq_false_of_ne hsame
        simp only [hsame, if_false, hdiffer, Bool.false_or]
        omega

theorem outstanding_insert (store : Store) (sheet : String) {cell : String}
    {visited : IdSet} (h : cell ∉ visited.toList) :
    store.outstanding sheet (visited.insert cell) +
        (store.dependentsOf sheet cell).toList.length =
      store.outstanding sheet visited := by
  have hnew : visited.toList.any (cellKey sheet · == cellKey sheet cell) = false := by
    rw [List.any_eq_false]
    intro id hid hkey
    exact h (cellKey_left_inj.mp (beq_iff_eq.mp hkey) ▸ hid)
  have hinsert (key : String) : (visited.insert cell).toList.any (cellKey sheet · == key) =
      (cellKey sheet cell == key || visited.toList.any (cellKey sheet · == key)) := by
    rw [Bool.eq_iff_iff]
    simp
  have hsum := sum_leaving_out store.dependents.ascending
    (fun key => visited.toList.any (cellKey sheet · == key)) hnew
  simp only [outstanding, hinsert]
  exact hsum

def Closed (store : Store) (sheet : String) (visited : IdSet) : Prop :=
  ∀ id ∈ visited.toList, ∀ dependent ∈ (store.dependentsOf sheet id).toList,
    dependent ∈ visited.toList

end LiveSheet.Store
