namespace LiveSheet

/-! Tables keyed by text.  The entries stand in ascending order of their keys,
so a table is determined by what it holds. -/

structure Table (α : Type) where
  entries : List (String × α)
  ascending : entries.Pairwise fun left right => left.1 < right.1

namespace Table

def findIn (key : String) : List (String × α) → Option α
  | [] => none
  | (other, value) :: rest => if key = other then some value else findIn key rest

def insertIn (key : String) (value : α) :
    List (String × α) → List (String × α)
  | [] => [(key, value)]
  | (other, held) :: rest =>
      if key = other then (key, value) :: rest
      else if key < other then (key, value) :: (other, held) :: rest
      else (other, held) :: insertIn key value rest

theorem mem_insertIn {key : String} {value : α} {entries : List (String × α)}
    {entry : String × α} (h : entry ∈ insertIn key value entries) :
    entry = (key, value) ∨ entry ∈ entries := by
  induction entries with
  | nil => exact Or.inl (List.mem_singleton.mp h)
  | cons head rest ih =>
      obtain ⟨other, held⟩ := head
      unfold insertIn at h
      split at h
      · rcases List.mem_cons.mp h with heq | hrest
        · exact Or.inl heq
        · exact Or.inr (List.mem_cons_of_mem _ hrest)
      · split at h
        · exact (List.mem_cons.mp h).imp id id
        · rcases List.mem_cons.mp h with heq | hrest
          · exact Or.inr (heq ▸ List.mem_cons_self)
          · exact (ih hrest).imp id (List.mem_cons_of_mem _)

theorem ascending_insertIn (key : String) (value : α)
    {entries : List (String × α)}
    (h : entries.Pairwise fun left right => left.1 < right.1) :
    (insertIn key value entries).Pairwise fun left right => left.1 < right.1 := by
  induction entries with
  | nil => exact List.pairwise_singleton _ _
  | cons head rest ih =>
      obtain ⟨other, held⟩ := head
      obtain ⟨habove, hrest⟩ := List.pairwise_cons.mp h
      unfold insertIn
      split
      · rename_i heq
        subst heq
        exact List.pairwise_cons.mpr ⟨habove, hrest⟩
      · rename_i hne
        split
        · rename_i hlt
          refine List.pairwise_cons.mpr ⟨?_, h⟩
          intro entry hentry
          rcases List.mem_cons.mp hentry with heq | hmem
          · exact heq ▸ hlt
          · exact String.lt_trans hlt (habove entry hmem)
        · rename_i hnot
          refine List.pairwise_cons.mpr ⟨?_, ih hrest⟩
          intro entry hentry
          rcases mem_insertIn hentry with heq | hmem
          · subst heq
            grind
          · exact habove entry hmem

theorem findIn_insertIn (key : String) (value : α) (entries : List (String × α))
    (other : String) :
    findIn other (insertIn key value entries) =
      if other = key then some value else findIn other entries := by
  induction entries with
  | nil => rfl
  | cons head rest ih =>
      obtain ⟨held, content⟩ := head
      unfold insertIn
      split
      · rename_i heq
        subst heq
        simp only [findIn]
        split <;> rfl
      · split
        · simp only [findIn]
        · simp only [findIn, ih]
          split <;> split <;> simp_all

theorem findIn_eq_none {key : String} {entries : List (String × α)}
    (h : ∀ entry ∈ entries, entry.1 ≠ key) : findIn key entries = none := by
  induction entries with
  | nil => rfl
  | cons head rest ih =>
      obtain ⟨other, held⟩ := head
      have hne : key ≠ other := fun heq => h _ List.mem_cons_self heq.symm
      simp only [findIn, hne, if_false]
      exact ih fun entry hmem => h entry (List.mem_cons_of_mem _ hmem)

theorem findIn_eq_some_iff {entries : List (String × α)}
    (hascending : entries.Pairwise fun left right => left.1 < right.1)
    (key : String) (value : α) :
    findIn key entries = some value ↔ (key, value) ∈ entries := by
  induction entries with
  | nil => simp [findIn]
  | cons head rest ih =>
      obtain ⟨other, held⟩ := head
      obtain ⟨habove, hrest⟩ := List.pairwise_cons.mp hascending
      by_cases heq : key = other
      · subst heq
        constructor
        · intro h
          simp only [findIn, if_true, Option.some.injEq] at h
          exact h ▸ List.mem_cons_self
        · intro h
          rcases List.mem_cons.mp h with hhead | hmem
          · simp only [findIn, if_true]
            exact congrArg some (Prod.mk.inj hhead).2.symm
          · exact absurd (habove _ hmem) (String.lt_irrefl _)
      · have hne : (key, value) ≠ (other, held) :=
          fun h => heq (Prod.mk.inj h).1
        simp only [findIn, heq, if_false, List.mem_cons, hne, false_or]
        exact ih hrest

theorem findIn_map (change : α → β) (key : String) (entries : List (String × α)) :
    findIn key (entries.map fun entry => (entry.1, change entry.2)) =
      (findIn key entries).map change := by
  induction entries with
  | nil => rfl
  | cons head rest ih =>
      simp only [List.map_cons, findIn, ih]
      split <;> rfl

def empty : Table α :=
  { entries := [], ascending := List.Pairwise.nil }

def get? (table : Table α) (key : String) : Option α :=
  findIn key table.entries

def contains (table : Table α) (key : String) : Bool :=
  (table.get? key).isSome

def keys (table : Table α) : List String :=
  table.entries.map Prod.fst

def isEmpty (table : Table α) : Bool :=
  table.entries.isEmpty

def insert (table : Table α) (key : String) (value : α) : Table α :=
  { entries := insertIn key value table.entries
    ascending := ascending_insertIn key value table.ascending }

def erase (table : Table α) (key : String) : Table α :=
  { entries := table.entries.filter fun entry => entry.1 != key
    ascending := table.ascending.filter _ }

def filter (keeps : α → Bool) (table : Table α) : Table α :=
  { entries := table.entries.filter fun entry => keeps entry.2
    ascending := table.ascending.filter _ }

def map (change : α → β) (table : Table α) : Table β :=
  { entries := table.entries.map fun entry => (entry.1, change entry.2)
    ascending := List.pairwise_map.mpr table.ascending }

def insertNew (table : Table α) (key : String) (value : α) : Table α :=
  if table.contains key then table else table.insert key value

def ofList (entries : List (String × α)) : Table α :=
  entries.foldl (fun table entry => table.insert entry.1 entry.2) empty

@[simp] theorem get?_empty (key : String) :
    (empty : Table α).get? key = none := rfl

theorem get?_insert (table : Table α) (key : String) (value : α) (other : String) :
    (table.insert key value).get? other =
      if other = key then some value else table.get? other :=
  findIn_insertIn key value table.entries other

@[simp] theorem get?_insert_self (table : Table α) (key : String) (value : α) :
    (table.insert key value).get? key = some value := by
  rw [get?_insert, if_pos rfl]

theorem get?_insert_of_ne (table : Table α) {key other : String} (value : α)
    (h : other ≠ key) :
    (table.insert key value).get? other = table.get? other := by
  rw [get?_insert, if_neg h]

theorem get?_eq_some_iff (table : Table α) (key : String) (value : α) :
    table.get? key = some value ↔ (key, value) ∈ table.entries :=
  findIn_eq_some_iff table.ascending key value

theorem get?_erase (table : Table α) (key other : String) :
    (table.erase key).get? other =
      if other = key then none else table.get? other := by
  by_cases heq : other = key
  · subst heq
    rw [if_pos rfl]
    apply findIn_eq_none
    intro entry hmem hkey
    have hkept := (List.mem_filter.mp hmem).2
    simp [hkey] at hkept
  · rw [if_neg heq]
    apply Option.ext
    intro value
    rw [get?_eq_some_iff, get?_eq_some_iff]
    simp [erase, heq]

theorem get?_filter (keeps : α → Bool) (table : Table α) (key : String) :
    (table.filter keeps).get? key = (table.get? key).filter keeps := by
  apply Option.ext
  intro value
  rw [Option.filter_eq_some_iff, get?_eq_some_iff, get?_eq_some_iff]
  exact List.mem_filter

theorem get?_map (change : α → β) (table : Table α) (key : String) :
    (table.map change).get? key = (table.get? key).map change :=
  findIn_map change key table.entries

theorem contains_eq_true_iff (table : Table α) (key : String) :
    table.contains key = true ↔ key ∈ table.keys := by
  simp only [contains, Option.isSome_iff_exists, get?_eq_some_iff, keys,
    List.mem_map]
  constructor
  · rintro ⟨value, hmem⟩
    exact ⟨(key, value), hmem, rfl⟩
  · rintro ⟨⟨other, value⟩, hmem, rfl⟩
    exact ⟨value, hmem⟩

theorem ascending_keys (table : Table α) :
    table.keys.Pairwise fun left right => left < right :=
  List.pairwise_map.mpr table.ascending

end Table

abbrev IdSet := Table Unit

namespace IdSet

def insert (ids : IdSet) (id : String) : IdSet :=
  Table.insert ids id ()

def ofList (ids : List String) : IdSet :=
  ids.foldl insert Table.empty

def toList (ids : IdSet) : List String :=
  ids.keys

def without (ids others : IdSet) : List String :=
  ids.toList.filter fun id => !others.contains id

end IdSet

end LiveSheet
