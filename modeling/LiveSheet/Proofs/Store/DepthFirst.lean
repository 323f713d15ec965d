import LiveSheet.Proofs.Store.Walk
import Mathlib.Data.Set.Insert
import Mathlib.Logic.Relation

namespace LiveSheet

open Relation

/-! The order in which a depth-first walk comes by the nodes of a graph.  The walk
is told as a recursion; that a stack leads to the same order is shown of it. -/

/-- The walk from a list of nodes, where `next` lists what a node leads to.  A node
that was seen before is passed by; a new one comes first, then all that it leads to,
and then the nodes after it. -/
inductive DepthFirst (next : String → List String) :
    (seen : Set String) → (nodes order : List String) → Prop
  | done (seen : Set String) : DepthFirst next seen [] []
  | pass {seen : Set String} {node : String} {nodes order : List String}
      (old : node ∈ seen) (rest : DepthFirst next seen nodes order) :
      DepthFirst next seen (node :: nodes) order
  | visit {seen : Set String} {node : String} {nodes below order : List String}
      (new : node ∉ seen) (down : DepthFirst next (insert node seen) (next node) below)
      (rest : DepthFirst next (insert node seen ∪ {id | id ∈ below}) nodes order) :
      DepthFirst next seen (node :: nodes) (node :: (below ++ order))

namespace DepthFirst

variable {next : String → List String} {seen : Set String} {node : String}
  {nodes others order more : List String}

theorem seen_after_visit (node : String) (seen : Set String) (below order : List String) :
    seen ∪ {id | id ∈ node :: (below ++ order)} =
      insert node seen ∪ {id | id ∈ below} ∪ {id | id ∈ order} := by
  ext id
  simp only [Set.mem_union, Set.mem_insert_iff, Set.mem_ofPred_eq, List.mem_cons,
    List.mem_append]
  grind

theorem unique (h : DepthFirst next seen nodes order) (hmore : DepthFirst next seen nodes more) :
    order = more := by
  induction h generalizing more with
  | done => cases hmore; rfl
  | pass old _ ih =>
      cases hmore with
      | pass _ rest => exact ih rest
      | visit new _ _ => exact absurd old new
  | visit new _ _ ihdown ihrest =>
      cases hmore with
      | pass old _ => exact absurd old new
      | visit _ down rest =>
          obtain rfl := ihdown down
          rw [ihrest rest]

theorem append (h : DepthFirst next seen nodes order)
    (hmore : DepthFirst next (seen ∪ {id | id ∈ order}) others more) :
    DepthFirst next seen (nodes ++ others) (order ++ more) := by
  induction h with
  | done seen =>
      rw [show seen ∪ {id | id ∈ ([] : List String)} = seen by simp] at hmore
      exact hmore
  | pass old _ ih => exact .pass old (ih hmore)
  | @visit seen node nodes below order new down _ _ ihrest =>
      rw [seen_after_visit] at hmore
      rw [List.cons_append, List.cons_append, List.append_assoc]
      exact .visit new down (ihrest hmore)

theorem split (h : DepthFirst next seen (nodes ++ others) order) :
    ∃ first last, order = first ++ last ∧ DepthFirst next seen nodes first ∧
      DepthFirst next (seen ∪ {id | id ∈ first}) others last := by
  induction nodes generalizing seen order with
  | nil =>
      refine ⟨[], order, rfl, .done seen, ?_⟩
      rw [show seen ∪ {id | id ∈ ([] : List String)} = seen by simp]
      exact h
  | cons node nodes ih =>
      cases h with
      | pass old rest =>
          obtain ⟨first, last, hsplit, hfirst, hlast⟩ := ih rest
          exact ⟨first, last, hsplit, .pass old hfirst, hlast⟩
      | @visit _ _ _ below order new down rest =>
          obtain ⟨first, last, rfl, hfirst, hlast⟩ := ih rest
          refine ⟨node :: (below ++ first), last, ?_, .visit new down hfirst, ?_⟩
          · rw [List.cons_append, List.append_assoc]
          · rw [seen_after_visit]
            exact hlast

theorem push (hnew : node ∉ seen)
    (h : DepthFirst next (insert node seen) (next node ++ nodes) order) :
    DepthFirst next seen (node :: nodes) (node :: order) := by
  obtain ⟨below, rest, rfl, hdown, hrest⟩ := h.split
  exact .visit hnew hdown hrest

theorem pop (h : DepthFirst next seen (node :: nodes) order) (hnew : node ∉ seen) :
    ∃ rest, order = node :: rest ∧
      DepthFirst next (insert node seen) (next node ++ nodes) rest := by
  cases h with
  | pass old _ => exact absurd old hnew
  | visit _ down rest => exact ⟨_, rfl, down.append rest⟩

theorem skip (h : DepthFirst next seen (node :: nodes) order) (hold : node ∈ seen) :
    DepthFirst next seen nodes order := by
  cases h with
  | pass _ rest => exact rest
  | visit new _ _ => exact absurd hold new

theorem not_mem_of_mem_seen (h : DepthFirst next seen nodes order) {id : String}
    (hseen : id ∈ seen) : id ∉ order := by
  induction h with
  | done => exact List.not_mem_nil
  | pass _ _ ih => exact ih hseen
  | visit new _ _ ihdown ihrest =>
      have hbelow := ihdown (Set.mem_insert_of_mem _ hseen)
      have horder := ihrest (Set.mem_union_left _ (Set.mem_insert_of_mem _ hseen))
      rw [List.mem_cons, List.mem_append]
      rintro (rfl | hmem | hmem)
      · exact new hseen
      · exact hbelow hmem
      · exact horder hmem

theorem nodup (h : DepthFirst next seen nodes order) : order.Nodup := by
  induction h with
  | done => exact List.nodup_nil
  | pass _ _ ih => exact ih
  | @visit seen node nodes below order _ down rest ihdown ihrest =>
      have hbelow : node ∉ below := down.not_mem_of_mem_seen (Set.mem_insert _ _)
      have horder : node ∉ order :=
        rest.not_mem_of_mem_seen (Set.mem_union_left _ (Set.mem_insert _ _))
      refine List.nodup_cons.mpr ⟨?_, List.nodup_append.mpr ⟨ihdown, ihrest, ?_⟩⟩
      · rw [List.mem_append]
        exact not_or_intro hbelow horder
      · rintro id hid _ hrest rfl
        exact rest.not_mem_of_mem_seen (Set.mem_union_right _ hid) hrest

theorem covers (h : DepthFirst next seen nodes order) {id : String} (hid : id ∈ nodes) :
    id ∈ seen ∨ id ∈ order := by
  induction h with
  | done => cases hid
  | pass old _ ih =>
      rcases List.mem_cons.mp hid with rfl | hid
      · exact Or.inl old
      · exact ih hid
  | @visit seen node nodes below order _ _ _ _ ihrest =>
      rcases List.mem_cons.mp hid with rfl | hid
      · exact Or.inr List.mem_cons_self
      · have hrest := ihrest hid
        simp only [Set.mem_union, Set.mem_insert_iff, Set.mem_ofPred_eq] at hrest
        rw [List.mem_cons, List.mem_append]
        grind

theorem closed (h : DepthFirst next seen nodes order) {id dependent : String}
    (hid : id ∈ order) (hnext : dependent ∈ next id) : dependent ∈ seen ∨ dependent ∈ order := by
  induction h with
  | done => cases hid
  | pass _ _ ih => exact ih hid
  | @visit seen node nodes below order _ down _ ihdown ihrest =>
      have hfound : (dependent = node ∨ dependent ∈ seen) ∨ dependent ∈ below ∨
          dependent ∈ order := by
        rcases List.mem_cons.mp hid with rfl | hid
        · have hdown := down.covers hnext
          rw [Set.mem_insert_iff] at hdown
          grind
        rcases List.mem_append.mp hid with hid | hid
        · have hdown := ihdown hid
          rw [Set.mem_insert_iff] at hdown
          grind
        · have hrest := ihrest hid
          simp only [Set.mem_union, Set.mem_insert_iff, Set.mem_ofPred_eq] at hrest
          grind
      rw [List.mem_cons, List.mem_append]
      grind

theorem along (h : DepthFirst next seen nodes order) (holds : String → Prop)
    (hnodes : ∀ id ∈ nodes, holds id)
    (hstep : ∀ id, holds id → ∀ dependent ∈ next id, holds dependent) :
    ∀ id ∈ order, holds id := by
  induction h with
  | done => exact nofun
  | pass _ _ ih => exact ih (List.forall_mem_cons.mp hnodes).2
  | visit _ _ _ ihdown ihrest =>
      obtain ⟨hnode, hrest⟩ := List.forall_mem_cons.mp hnodes
      exact List.forall_mem_cons.mpr
        ⟨hnode, List.forall_mem_append.mpr ⟨ihdown (hstep _ hnode), ihrest hrest⟩⟩

/-- From a single node, the walk comes by what can be reached from there. -/
theorem mem_iff_of_root (h : DepthFirst next ∅ [node] order) (id : String) :
    id ∈ order ↔ ReflTransGen (fun id dependent => dependent ∈ next id) node id := by
  constructor
  · refine h.along (ReflTransGen _ node) (fun other hother => ?_)
      (fun other hreach dependent hnext => ?_) id
    · rw [List.mem_singleton.mp hother]
    · exact hreach.tail hnext
  · intro hreach
    induction hreach with
    | refl => exact (h.covers List.mem_cons_self).resolve_left (Set.notMem_empty _)
    | tail _ hnext ih => exact (h.closed ih hnext).resolve_left (Set.notMem_empty _)

theorem mem_iff_around (h : DepthFirst next {node} nodes order)
    (hnodes : ∀ id ∈ next node, id ∈ nodes) (id : String) :
    id ∈ order ↔ id ≠ node ∧
      ∃ first ∈ nodes, ReflTransGen (fun id dependent => dependent ∈ next id) first id := by
  constructor
  · intro hid
    refine ⟨fun hsame => h.not_mem_of_mem_seen (Set.mem_singleton node) (hsame ▸ hid), ?_⟩
    refine h.along (fun id => ∃ first ∈ nodes, ReflTransGen _ first id)
      (fun other hother => ⟨other, hother, .refl⟩) ?_ id hid
    rintro other ⟨first, hfirst, hreach⟩ dependent hnext
    exact ⟨first, hfirst, hreach.tail hnext⟩
  · rintro ⟨hother, first, hfirst, hreach⟩
    have hcovers : id = node ∨ id ∈ order := by
      clear hother
      induction hreach with
      | refl => exact h.covers hfirst
      | tail _ hnext ih =>
          rcases ih with rfl | hmem
          · exact h.covers (hnodes _ hnext)
          · exact h.closed hmem hnext
    exact hcovers.resolve_left hother

theorem without (h : DepthFirst next seen nodes order) (hseen : node ∈ seen) :
    DepthFirst (fun id => (next id).filter (· != node)) seen (nodes.filter (· != node)) order := by
  induction h with
  | done seen => exact .done seen
  | @pass seen other nodes order old _ ih =>
      rw [List.filter_cons]
      split
      · exact .pass old (ih hseen)
      · exact ih hseen
  | @visit seen other nodes below order new _ _ ihdown ihrest =>
      have hother : other ≠ node := fun hsame => new (hsame ▸ hseen)
      rw [List.filter_cons, if_pos (bne_iff_ne.mpr hother)]
      exact .visit new (ihdown (Set.mem_insert_of_mem _ hseen))
        (ihrest (Set.mem_union_left _ (Set.mem_insert_of_mem _ hseen)))

end DepthFirst

def IdSet.members (ids : IdSet) : Set String :=
  {id | id ∈ ids.toList}

theorem IdSet.members_insert (ids : IdSet) (id : String) :
    (ids.insert id).members = Insert.insert id ids.members := by
  ext other
  exact ids.mem_toList_insert id other

theorem IdSet.members_empty : IdSet.members Table.empty = ∅ := by
  ext other
  exact iff_of_false (not_mem_toList_empty other) (Set.notMem_empty other)

namespace Store

def Informs (store : Store) (sheet cell dependent : String) : Prop :=
  dependent ∈ (store.dependentsOf sheet cell).toList

def dependentIds (store : Store) (sheet cell : String) : List String :=
  (store.dependentsOf sheet cell).toList

theorem exists_depthFirst_within (store : Store) (sheet : String)
    {next : String → List String}
    (hnext : ∀ id, (next id).length ≤ (store.dependentIds sheet id).length)
    {bound : Nat} {visited : IdSet} {stack : List String}
    (hbound : stack.length + store.outstanding sheet visited ≤ bound) :
    ∃ order, DepthFirst next visited.members stack order := by
  induction bound generalizing visited stack with
  | zero =>
      obtain rfl : stack = [] := List.eq_nil_of_length_eq_zero (by omega)
      exact ⟨[], .done _⟩
  | succ bound ih =>
      cases stack with
      | nil => exact ⟨[], .done _⟩
      | cons cell stack =>
          rw [List.length_cons] at hbound
          by_cases hvisited : cell ∈ visited.toList
          · have hrest : stack.length + store.outstanding sheet visited ≤ bound := by omega
            obtain ⟨order, horder⟩ := ih hrest
            exact ⟨order, .pass hvisited horder⟩
          · have hcount := store.outstanding_insert sheet hvisited
            have hless : (next cell).length ≤ (store.dependentsOf sheet cell).toList.length :=
              hnext cell
            have hrest : (next cell ++ stack).length +
                store.outstanding sheet (visited.insert cell) ≤ bound := by
              rw [List.length_append]
              omega
            obtain ⟨order, horder⟩ := ih hrest
            rw [IdSet.members_insert] at horder
            exact ⟨cell :: order, .push hvisited horder⟩

/-- A walk that is led on to no more than the dependents of each cell comes to an end. -/
theorem exists_depthFirst (store : Store) (sheet : String) {next : String → List String}
    (hnext : ∀ id, (next id).length ≤ (store.dependentIds sheet id).length)
    (visited : IdSet) (stack : List String) :
    ∃ order, DepthFirst next visited.members stack order :=
  store.exists_depthFirst_within sheet hnext le_rfl

end Store

end LiveSheet
