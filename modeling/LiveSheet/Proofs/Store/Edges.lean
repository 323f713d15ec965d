import LiveSheet.Proofs.Formula.Names
import LiveSheet.Store.State

namespace LiveSheet.Store

open LiveSheet.Formula

private theorem chars_of_joined {left middle rest cell other : List Char}
    (hleft : left = middle ++ rest) (hcells : '/' :: other = rest ++ '/' :: cell)
    (hplain : '/' ∉ other) : left = middle ∧ other = cell := by
  cases rest with
  | nil => exact ⟨by rw [hleft, List.append_nil], (List.cons.inj hcells).2⟩
  | cons char rest =>
      rw [(List.cons.inj hcells).2] at hplain
      exact absurd (List.mem_append_right _ List.mem_cons_self) hplain

theorem cellKey_inj {sheet otherSheet cell otherCell : String}
    (hcell : '/' ∉ cell.toList) (hother : '/' ∉ otherCell.toList) :
    cellKey sheet cell = cellKey otherSheet otherCell ↔
      sheet = otherSheet ∧ cell = otherCell := by
  constructor
  · intro hkey
    have hchars : sheet.toList ++ '/' :: cell.toList =
        otherSheet.toList ++ '/' :: otherCell.toList := by
      simpa [cellKey, String.toList_append] using congrArg String.toList hkey
    rcases List.append_eq_append_iff.mp hchars with
      ⟨middle, hsheet, htail⟩ | ⟨middle, hsheet, htail⟩
    · obtain ⟨hsheets, hcells⟩ := chars_of_joined hsheet htail hcell
      exact ⟨String.toList_inj.mp hsheets.symm, String.toList_inj.mp hcells⟩
    · obtain ⟨hsheets, hcells⟩ := chars_of_joined hsheet htail hother
      exact ⟨String.toList_inj.mp hsheets, String.toList_inj.mp hcells.symm⟩
  · rintro ⟨rfl, rfl⟩
    rfl

theorem cellKey_left_inj {sheet cell other : String} :
    cellKey sheet cell = cellKey sheet other ↔ cell = other := by
  simp [cellKey, ← String.toList_inj]

theorem cell?_setCell (store : Store) (sheet cell value otherSheet other : String) :
    (store.setCell sheet cell value).cell? otherSheet other =
      if otherSheet = sheet ∧ other = cell then some value
      else store.cell? otherSheet other := by
  simp only [cell?, cells, setCell, Table.get?_insert]
  by_cases hsheet : otherSheet = sheet
  · subst hsheet
    simp only [if_true, Option.getD_some, Table.get?_insert, true_and]
  · simp only [hsheet, if_false, false_and]

@[simp] theorem dependentsOf_setCell (store : Store)
    (sheet cell value otherSheet other : String) :
    (store.setCell sheet cell value).dependentsOf otherSheet other =
      store.dependentsOf otherSheet other := rfl

@[simp] theorem cell?_addDependents (store : Store) (sheet cell : String)
    (ids : List String) (otherSheet other : String) :
    (store.addDependents sheet cell ids).cell? otherSheet other =
      store.cell? otherSheet other := by
  unfold addDependents
  split <;> rfl

@[simp] theorem cell?_removeDependents (store : Store) (sheet cell : String)
    (ids : List String) (otherSheet other : String) :
    (store.removeDependents sheet cell ids).cell? otherSheet other =
      store.cell? otherSheet other := by
  unfold removeDependents
  dsimp only
  split <;> rfl

theorem mem_dependentsOf_addDependents (store : Store) (sheet cell : String)
    (ids : List String) (otherSheet other id : String) :
    id ∈ ((store.addDependents sheet cell ids).dependentsOf otherSheet other).toList ↔
      (cellKey otherSheet other = cellKey sheet cell ∧ id ∈ ids) ∨
        id ∈ (store.dependentsOf otherSheet other).toList := by
  unfold addDependents
  split
  · rename_i hempty
    simp [List.isEmpty_iff.mp hempty]
  · rw [dependentsOf, Table.get?_insert]
    split
    · rename_i hkey
      have hheld : store.dependentsOf otherSheet other = store.dependentsOf sheet cell := by
        rw [dependentsOf, dependentsOf, hkey]
      rw [Option.getD_some, IdSet.mem_toList_foldl_insert, hheld]
      simp only [hkey, true_and]
    · rename_i hkey
      simp only [hkey, false_and, false_or]
      rfl

theorem mem_dependentsOf_removeDependents (store : Store) (sheet cell : String)
    (ids : List String) (otherSheet other id : String) :
    id ∈ ((store.removeDependents sheet cell ids).dependentsOf otherSheet other).toList ↔
      id ∈ (store.dependentsOf otherSheet other).toList ∧
        ¬ (cellKey otherSheet other = cellKey sheet cell ∧ id ∈ ids) := by
  unfold removeDependents
  dsimp only
  split
  · rename_i hnone
    constructor
    · refine fun hmem => ⟨hmem, fun ⟨hkey, _⟩ => ?_⟩
      rw [dependentsOf, hkey, hnone] at hmem
      exact IdSet.not_mem_toList_empty id hmem
    · exact And.left
  · rename_i held hheld
    by_cases hkey : cellKey otherSheet other = cellKey sheet cell
    · have hleft := IdSet.mem_toList_foldl_erase ids held id
      have hdependents : store.dependentsOf otherSheet other = held := by
        rw [dependentsOf, hkey, hheld, Option.getD_some]
      rw [hdependents]
      simp only [hkey, true_and, ← hleft]
      rw [dependentsOf]
      dsimp only
      split
      · rename_i hempty
        rw [Table.get?_erase, if_pos hkey, Option.getD_none]
        rw [(IdSet.isEmpty_eq_true_iff _).mp hempty]
        rfl
      · rw [Table.get?_insert, if_pos hkey, Option.getD_some]
    · simp only [hkey, false_and, not_false_iff, and_true]
      rw [dependentsOf, dependentsOf]
      dsimp only
      split
      · rw [Table.get?_erase, if_neg hkey]
      · rw [Table.get?_insert, if_neg hkey]

def addEdges (store : Store) (sheet cell : String) (ids : List String) : Store :=
  ids.foldl (fun store id => store.addDependents sheet id [cell]) store

def removeEdges (store : Store) (sheet cell : String) (ids : List String) : Store :=
  ids.foldl (fun store id => store.removeDependents sheet id [cell]) store

@[simp] theorem cell?_addEdges (store : Store) (sheet cell : String)
    (ids : List String) (otherSheet other : String) :
    (store.addEdges sheet cell ids).cell? otherSheet other =
      store.cell? otherSheet other := by
  induction ids generalizing store with
  | nil => rfl
  | cons id ids ih =>
      rw [addEdges, List.foldl_cons]
      exact (ih _).trans (cell?_addDependents store sheet id [cell] otherSheet other)

@[simp] theorem cell?_removeEdges (store : Store) (sheet cell : String)
    (ids : List String) (otherSheet other : String) :
    (store.removeEdges sheet cell ids).cell? otherSheet other =
      store.cell? otherSheet other := by
  induction ids generalizing store with
  | nil => rfl
  | cons id ids ih =>
      rw [removeEdges, List.foldl_cons]
      exact (ih _).trans (cell?_removeDependents store sheet id [cell] otherSheet other)

theorem mem_dependentsOf_addEdges {ids : List String} {other : String}
    (hids : ∀ id ∈ ids, '/' ∉ id.toList) (hother : '/' ∉ other.toList) (store : Store)
    (sheet cell otherSheet dependent : String) :
    dependent ∈ ((store.addEdges sheet cell ids).dependentsOf otherSheet other).toList ↔
      (otherSheet = sheet ∧ dependent = cell ∧ other ∈ ids) ∨
        dependent ∈ (store.dependentsOf otherSheet other).toList := by
  induction ids generalizing store with
  | nil => simp [addEdges]
  | cons id ids ih =>
      have hkey := @cellKey_inj otherSheet sheet other id hother (hids id List.mem_cons_self)
      have hrest := ih (fun next hmem => hids next (List.mem_cons_of_mem _ hmem))
        (store.addDependents sheet id [cell])
      rw [mem_dependentsOf_addDependents, hkey, List.mem_singleton] at hrest
      rw [addEdges, List.foldl_cons, List.mem_cons]
      refine hrest.trans ?_
      grind

theorem mem_dependentsOf_removeEdges {ids : List String} {other : String}
    (hids : ∀ id ∈ ids, '/' ∉ id.toList) (hother : '/' ∉ other.toList) (store : Store)
    (sheet cell otherSheet dependent : String) :
    dependent ∈ ((store.removeEdges sheet cell ids).dependentsOf otherSheet other).toList ↔
      dependent ∈ (store.dependentsOf otherSheet other).toList ∧
        ¬ (otherSheet = sheet ∧ dependent = cell ∧ other ∈ ids) := by
  induction ids generalizing store with
  | nil => simp [removeEdges]
  | cons id ids ih =>
      have hkey := @cellKey_inj otherSheet sheet other id hother (hids id List.mem_cons_self)
      have hrest := ih (fun next hmem => hids next (List.mem_cons_of_mem _ hmem))
        (store.removeDependents sheet id [cell])
      rw [mem_dependentsOf_removeDependents, hkey, List.mem_singleton] at hrest
      rw [removeEdges, List.foldl_cons, List.mem_cons]
      refine hrest.trans ?_
      grind

def mentioned (store : Store) (sheet cell : String) : IdSet :=
  (store.cell? sheet cell).elim Table.empty (references cell)

def commit (store : Store) (sheet cell value : String) : Store :=
  ((store.setCell sheet cell value).removeEdges sheet cell
      ((store.mentioned sheet cell).without (references cell value))).addEdges sheet cell
    (references cell value).toList

theorem addEdges_touches (store : Store) (sheet cell : String) (ids : List String) :
    ∃ dependents, store.addEdges sheet cell ids = { store with dependents } := by
  induction ids generalizing store with
  | nil => exact ⟨_, rfl⟩
  | cons id ids ih =>
      obtain ⟨dependents, heq⟩ := ih (store.addDependents sheet id [cell])
      refine ⟨dependents, heq.trans ?_⟩
      unfold addDependents
      split <;> rfl

theorem removeEdges_touches (store : Store) (sheet cell : String) (ids : List String) :
    ∃ dependents, store.removeEdges sheet cell ids = { store with dependents } := by
  induction ids generalizing store with
  | nil => exact ⟨_, rfl⟩
  | cons id ids ih =>
      obtain ⟨dependents, heq⟩ := ih (store.removeDependents sheet id [cell])
      refine ⟨dependents, heq.trans ?_⟩
      unfold removeDependents
      dsimp only
      split <;> rfl

/-- A commit touches cells and edges, and nothing else of a store. -/
theorem commit_touches (store : Store) (sheet cell value : String) :
    ∃ sheets dependents, store.commit sheet cell value = { store with sheets, dependents } := by
  unfold commit
  generalize (store.mentioned sheet cell).without (references cell value) = dropped
  obtain ⟨fewer, hfewer⟩ := (store.setCell sheet cell value).removeEdges_touches sheet cell dropped
  obtain ⟨more, hmore⟩ := ((store.setCell sheet cell value).removeEdges sheet cell
    dropped).addEdges_touches sheet cell (references cell value).toList
  rw [hmore, hfewer]
  exact ⟨_, more, rfl⟩

theorem cell?_commit (store : Store) (sheet cell value otherSheet other : String) :
    (store.commit sheet cell value).cell? otherSheet other =
      if otherSheet = sheet ∧ other = cell then some value
      else store.cell? otherSheet other := by
  rw [commit, cell?_addEdges, cell?_removeEdges, cell?_setCell]

theorem mem_mentioned {store : Store} {sheet cell id : String} :
    id ∈ (store.mentioned sheet cell).toList ↔
      ∃ value, store.cell? sheet cell = some value ∧
        id ∈ (references cell value).toList := by
  unfold mentioned
  cases store.cell? sheet cell <;> simp

theorem mem_dependentsOf_commit {other : String} (hother : '/' ∉ other.toList)
    (store : Store) (sheet cell value otherSheet dependent : String) :
    dependent ∈ ((store.commit sheet cell value).dependentsOf otherSheet other).toList ↔
      (otherSheet = sheet ∧ dependent = cell ∧ other ∈ (references cell value).toList) ∨
        (dependent ∈ (store.dependentsOf otherSheet other).toList ∧
          ¬ (otherSheet = sheet ∧ dependent = cell ∧
            other ∈ (store.mentioned sheet cell).toList)) := by
  have hmentioned : ∀ id ∈ (references cell value).toList, '/' ∉ id.toList :=
    fun id hmem => slash_not_mem_of_mem_references hmem
  have hbefore : ∀ id ∈ (store.mentioned sheet cell).without (references cell value),
      '/' ∉ id.toList := by
    intro id hmem
    obtain ⟨held, -, hheld⟩ := mem_mentioned.mp ((IdSet.mem_without _ _ id).mp hmem).1
    exact slash_not_mem_of_mem_references hheld
  rw [commit, mem_dependentsOf_addEdges hmentioned hother,
    mem_dependentsOf_removeEdges hbefore hother, IdSet.mem_without, dependentsOf_setCell]
  grind

section

variable {sheet cell id : String} (h : id ≠ cell)
include h

theorem mem_dependentsOf_addEdges_of_ne (store : Store) (ids : List String)
    (otherSheet other : String) :
    id ∈ ((store.addEdges sheet cell ids).dependentsOf otherSheet other).toList ↔
      id ∈ (store.dependentsOf otherSheet other).toList := by
  induction ids generalizing store with
  | nil => rfl
  | cons next ids ih =>
      rw [addEdges, List.foldl_cons]
      refine (ih _).trans ?_
      simp [mem_dependentsOf_addDependents, h]

theorem mem_dependentsOf_removeEdges_of_ne (store : Store) (ids : List String)
    (otherSheet other : String) :
    id ∈ ((store.removeEdges sheet cell ids).dependentsOf otherSheet other).toList ↔
      id ∈ (store.dependentsOf otherSheet other).toList := by
  induction ids generalizing store with
  | nil => rfl
  | cons next ids ih =>
      rw [removeEdges, List.foldl_cons]
      refine (ih _).trans ?_
      simp [mem_dependentsOf_removeDependents, h]

end

theorem erase_dependentsOf_commit (store : Store) (sheet cell value otherSheet other : String) :
    Table.erase ((store.commit sheet cell value).dependentsOf otherSheet other) cell =
      Table.erase (store.dependentsOf otherSheet other) cell := by
  refine IdSet.eq_of_mem_iff fun id => ?_
  rw [IdSet.toList, IdSet.toList, Table.mem_keys_erase, Table.mem_keys_erase]
  refine and_congr_left fun hother => ?_
  exact (mem_dependentsOf_addEdges_of_ne hother _ _ _ _).trans
    (mem_dependentsOf_removeEdges_of_ne hother _ _ _ _)

theorem setCell_eq_self {store : Store} {sheet cell value : String}
    (h : store.cell? sheet cell = some value) : store.setCell sheet cell value = store := by
  have hheld : store.sheets.get? sheet = some (store.cells sheet) := by
    rw [cell?] at h
    unfold cells at h ⊢
    cases hsheet : store.sheets.get? sheet with
    | none =>
        rw [hsheet] at h
        cases h
    | some held => rfl
  rw [setCell, Table.insert_eq_self h, Table.insert_eq_self hheld]

theorem addDependents_eq_self {store : Store} {sheet cell id : String}
    (h : cell ∈ (store.dependentsOf sheet id).toList) :
    store.addDependents sheet id [cell] = store := by
  have hheld : store.dependents.get? (cellKey sheet id) = some (store.dependentsOf sheet id) := by
    unfold dependentsOf at h ⊢
    cases hkey : store.dependents.get? (cellKey sheet id) with
    | none =>
        rw [hkey] at h
        exact absurd h (IdSet.not_mem_toList_empty cell)
    | some held => rfl
  rw [addDependents, List.foldl_cons, List.foldl_nil, IdSet.insert_eq_self h,
    Table.insert_eq_self hheld]
  rfl

theorem addEdges_eq_self {store : Store} {sheet cell : String} {ids : List String}
    (h : ∀ id ∈ ids, cell ∈ (store.dependentsOf sheet id).toList) :
    store.addEdges sheet cell ids = store := by
  induction ids with
  | nil => rfl
  | cons id ids ih =>
      obtain ⟨hid, hids⟩ := List.forall_mem_cons.mp h
      rw [addEdges, List.foldl_cons, addDependents_eq_self hid]
      exact ih hids

theorem commit_eq_self {store : Store} {sheet cell value : String}
    (hcell : store.cell? sheet cell = some value)
    (hedges : ∀ id ∈ (references cell value).toList,
      cell ∈ (store.dependentsOf sheet id).toList) :
    store.commit sheet cell value = store := by
  have hmentioned : store.mentioned sheet cell = references cell value := by
    rw [mentioned, hcell]
    rfl
  have hgone : (references cell value).without (references cell value) = [] := by
    rw [List.eq_nil_iff_forall_not_mem]
    intro id hid
    obtain ⟨hmem, hnot⟩ := (IdSet.mem_without _ _ id).mp hid
    exact hnot hmem
  rw [commit, setCell_eq_self hcell, hmentioned, hgone, removeEdges, List.foldl_nil]
  exact addEdges_eq_self hedges

/-! A store is coherent when its ids are canonical, its cells have names without
a slash, and its edges are those of the texts it holds. -/

structure Coherent (store : Store) : Prop where
  sheet : ∀ {sheet cell value}, store.cell? sheet cell = some value →
    canonical sheet = sheet
  cell : ∀ {sheet cell value}, store.cell? sheet cell = some value →
    canonical cell = cell ∧ '/' ∉ cell.toList
  edges : ∀ {id}, '/' ∉ id.toList → ∀ sheet dependent,
    dependent ∈ (store.dependentsOf sheet id).toList ↔
      id ∈ (store.mentioned sheet dependent).toList

theorem empty_coherent : Store.empty.Coherent where
  sheet := nofun
  cell := nofun
  edges := by
    intro id _ sheet dependent
    simp [dependentsOf, empty, mentioned, cell?, cells]

theorem mentioned_commit (store : Store) (sheet cell value otherSheet other : String) :
    (store.commit sheet cell value).mentioned otherSheet other =
      if otherSheet = sheet ∧ other = cell then references cell value
      else store.mentioned otherSheet other := by
  rw [mentioned, cell?_commit]
  split
  · rename_i h
    rw [h.2]
    rfl
  · rfl

theorem Coherent.commit {store : Store} (h : store.Coherent) {sheet cell : String}
    (hsheet : canonical sheet = sheet) (hcell : canonical cell = cell)
    (hplain : '/' ∉ cell.toList) (value : String) :
    (store.commit sheet cell value).Coherent where
  sheet := by
    intro otherSheet other held hheld
    rw [cell?_commit] at hheld
    split at hheld
    · rename_i hsame
      rw [hsame.1, hsheet]
    · exact h.sheet hheld
  cell := by
    intro otherSheet other held hheld
    rw [cell?_commit] at hheld
    split at hheld
    · rename_i hsame
      rw [hsame.2]
      exact ⟨hcell, hplain⟩
    · exact h.cell hheld
  edges := by
    intro id hid otherSheet dependent
    rw [mem_dependentsOf_commit hid, h.edges hid, mentioned_commit]
    by_cases hsame : otherSheet = sheet ∧ dependent = cell
    · obtain ⟨rfl, rfl⟩ := hsame
      simp
    · rw [if_neg hsame]
      grind

end LiveSheet.Store
