import LiveSheet.Table

namespace LiveSheet

namespace Table

theorem mem_keys_iff (table : Table α) (key : String) :
    key ∈ table.keys ↔ ∃ value, table.get? key = some value := by
  rw [← contains_eq_true_iff, contains, Option.isSome_iff_exists]

theorem not_mem_keys_iff (table : Table α) (key : String) :
    key ∉ table.keys ↔ table.get? key = none := by
  rw [mem_keys_iff, Option.eq_none_iff_forall_ne_some, not_exists]

theorem mem_keys_of_get? {table : Table α} {key : String} {value : α}
    (h : table.get? key = some value) : key ∈ table.keys :=
  (table.mem_keys_iff key).mpr ⟨value, h⟩

@[simp] theorem not_mem_keys_empty (key : String) :
    key ∉ (empty : Table α).keys :=
  List.not_mem_nil

@[simp] theorem mem_keys_insert (table : Table α) (key : String) (value : α)
    (other : String) :
    other ∈ (table.insert key value).keys ↔ other = key ∨ other ∈ table.keys := by
  rw [mem_keys_iff, mem_keys_iff, get?_insert]
  split <;> simp [*]

@[simp] theorem mem_keys_erase (table : Table α) (key other : String) :
    other ∈ (table.erase key).keys ↔ other ∈ table.keys ∧ other ≠ key := by
  rw [mem_keys_iff, mem_keys_iff, get?_erase]
  split <;> simp [*]

theorem contains_eq_false_iff (table : Table α) (key : String) :
    table.contains key = false ↔ key ∉ table.keys := by
  rw [← contains_eq_true_iff, Bool.not_eq_true]

theorem isEmpty_eq_true_iff (table : Table α) :
    table.isEmpty = true ↔ table.keys = [] := by
  rw [isEmpty, keys, List.isEmpty_iff, List.map_eq_nil_iff]

theorem get?_insertNew (table : Table α) (key : String) (value : α)
    (other : String) :
    (table.insertNew key value).get? other =
      if other = key then some ((table.get? key).getD value)
      else table.get? other := by
  unfold insertNew
  split
  · rename_i hheld
    obtain ⟨held, hheld⟩ := Option.isSome_iff_exists.mp hheld
    split
    · rename_i heq
      rw [heq, hheld, Option.getD_some]
    · rfl
  · rename_i hnew
    have hnone : table.get? key = none := by
      simpa [contains] using hnew
    rw [get?_insert, hnone, Option.getD_none]

theorem mem_keys_insertNew (table : Table α) (key : String) (value : α) (other : String) :
    other ∈ (table.insertNew key value).keys ↔ other = key ∨ other ∈ table.keys := by
  rw [mem_keys_iff, mem_keys_iff, get?_insertNew]
  split <;> simp [*]

def Within (table other : Table α) : Prop :=
  ∀ {key value}, table.get? key = some value → other.get? key = some value

theorem Within.refl (table : Table α) : table.Within table :=
  fun h => h

theorem Within.trans {first second third : Table α} (hfirst : first.Within second)
    (hsecond : second.Within third) : first.Within third :=
  fun h => hsecond (hfirst h)

theorem Within.get?_eq_none {table other : Table α} (h : table.Within other) {key : String}
    (hnone : other.get? key = none) : table.get? key = none := by
  rw [Option.eq_none_iff_forall_ne_some]
  intro value hvalue
  rw [h hvalue] at hnone
  cases hnone

theorem empty_within (table : Table α) : empty.Within table :=
  fun h => absurd h (by simp)

theorem within_insert {table : Table α} {key : String} (h : table.get? key = none)
    (value : α) : table.Within (table.insert key value) := by
  intro other held hheld
  rw [get?_insert_of_ne, hheld]
  rintro rfl
  rw [h] at hheld
  cases hheld

theorem keys_erase (table : Table α) (key : String) :
    (table.erase key).keys = table.keys.filter (· != key) := by
  rw [keys, keys, List.filter_map]
  rfl

theorem nodup_keys (table : Table α) : table.keys.Nodup := by
  refine table.ascending_keys.imp ?_
  rintro key _ hless rfl
  exact String.lt_irrefl key hless

/-- As the entries stand in order, tables that hold the same are the same. -/
theorem eq_of_get?_eq {table other : Table α} (h : ∀ key, table.get? key = other.get? key) :
    table = other := by
  have hnodup (table : Table α) : table.entries.Nodup :=
    (List.pairwise_map.mp table.nodup_keys).imp fun hkey hsame => hkey (congrArg Prod.fst hsame)
  have hentries : table.entries = other.entries := by
    refine List.Perm.eq_of_pairwise ?_ table.ascending other.ascending
      ((List.perm_ext_iff_of_nodup (hnodup table) (hnodup other)).mpr ?_)
    · intro first second _ _ hless hmore
      exact absurd (String.lt_trans hless hmore) (String.lt_irrefl _)
    · rintro ⟨key, value⟩
      rw [← get?_eq_some_iff, ← get?_eq_some_iff, h]
  obtain ⟨entries, _⟩ := table
  obtain rfl : entries = other.entries := hentries
  rfl

theorem insert_eq_self {table : Table α} {key : String} {value : α}
    (h : table.get? key = some value) : table.insert key value = table := by
  refine eq_of_get?_eq fun other => ?_
  rw [get?_insert]
  split
  · rename_i hsame
    rw [hsame, h]
  · rfl

end Table

namespace IdSet

@[simp] theorem not_mem_toList_empty (id : String) :
    id ∉ toList (Table.empty : IdSet) :=
  List.not_mem_nil

@[simp] theorem mem_toList_insert (ids : IdSet) (id other : String) :
    other ∈ (ids.insert id).toList ↔ other = id ∨ other ∈ ids.toList :=
  ids.mem_keys_insert id () other

theorem mem_toList_foldl_insert (added : List String) (ids : IdSet) (id : String) :
    id ∈ toList (added.foldl insert ids) ↔ id ∈ added ∨ id ∈ ids.toList := by
  induction added generalizing ids with
  | nil => simp
  | cons first added ih =>
      rw [List.foldl_cons, ih, mem_toList_insert, List.mem_cons]
      grind

theorem mem_toList_foldl_erase (removed : List String) (ids : IdSet) (id : String) :
    id ∈ toList (removed.foldl Table.erase ids) ↔ id ∈ ids.toList ∧ id ∉ removed := by
  induction removed generalizing ids with
  | nil => simp
  | cons first removed ih =>
      rw [List.foldl_cons, ih, List.mem_cons]
      simp only [toList, Table.mem_keys_erase]
      grind

@[simp] theorem mem_toList_ofList (listed : List String) (id : String) :
    id ∈ (ofList listed).toList ↔ id ∈ listed := by
  simp [ofList, mem_toList_foldl_insert]

theorem mem_without (ids others : IdSet) (id : String) :
    id ∈ ids.without others ↔ id ∈ ids.toList ∧ id ∉ others.toList := by
  rw [without, List.mem_filter, Bool.not_eq_true', Table.contains_eq_false_iff]
  rfl

theorem isEmpty_eq_true_iff (ids : IdSet) :
    ids.isEmpty = true ↔ ids.toList = [] :=
  Table.isEmpty_eq_true_iff ids

theorem eq_of_mem_iff {ids others : IdSet}
    (h : ∀ id, id ∈ ids.toList ↔ id ∈ others.toList) : ids = others := by
  refine Table.eq_of_get?_eq fun id => Option.ext fun _ => ?_
  have hid := h id
  rw [toList, toList, Table.mem_keys_iff, Table.mem_keys_iff] at hid
  constructor
  · intro hheld
    obtain ⟨_, hother⟩ := hid.mp ⟨_, hheld⟩
    exact hother
  · intro hheld
    obtain ⟨_, hother⟩ := hid.mpr ⟨_, hheld⟩
    exact hother

theorem insert_eq_self {ids : IdSet} {id : String} (h : id ∈ ids.toList) :
    ids.insert id = ids := by
  obtain ⟨_, hheld⟩ := (Table.mem_keys_iff _ _).mp h
  exact Table.insert_eq_self hheld

end IdSet

end LiveSheet
