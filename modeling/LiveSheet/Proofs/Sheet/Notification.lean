import LiveSheet.Proofs.Store.DepthFirst
import LiveSheet.Proofs.Store.Quiet

namespace LiveSheet

open LiveSheet.Formula
open Relation

namespace Store

def announce (store : Store) (sheet : String) (cells : List String) : Store :=
  cells.foldl (fun store cell => store.publish (topic sheet cell) cell) store

theorem sheets_announce (store : Store) (sheet : String) (cells : List String) :
    (store.announce sheet cells).sheets = store.sheets := by
  induction cells generalizing store with
  | nil => rfl
  | cons cell cells ih => exact ih (store.publish (topic sheet cell) cell)

theorem dependents_announce (store : Store) (sheet : String) (cells : List String) :
    (store.announce sheet cells).dependents = store.dependents := by
  induction cells generalizing store with
  | nil => rfl
  | cons cell cells ih => exact ih (store.publish (topic sheet cell) cell)

theorem announce_cons (store : Store) (sheet cell : String) (cells : List String) :
    store.announce sheet (cell :: cells) =
      (store.publish (topic sheet cell) cell).announce sheet cells := rfl

@[simp] theorem cell?_announce (store : Store) (sheet : String) (cells : List String)
    (otherSheet other : String) :
    (store.announce sheet cells).cell? otherSheet other = store.cell? otherSheet other := by
  rw [cell?, Store.cells, sheets_announce]
  rfl

@[simp] theorem dependentsOf_announce (store : Store) (sheet : String)
    (cells : List String) (otherSheet other : String) :
    (store.announce sheet cells).dependentsOf otherSheet other =
      store.dependentsOf otherSheet other := by
  rw [dependentsOf, dependents_announce]
  rfl

@[simp] theorem dependentIds_announce (store : Store) (sheet : String) (cells : List String)
    (otherSheet : String) :
    (store.announce sheet cells).dependentIds otherSheet = store.dependentIds otherSheet := by
  funext other
  rw [dependentIds, dependentsOf_announce, dependentIds]

theorem mentioned_announce (store : Store) (sheet : String) (cells : List String)
    (otherSheet other : String) :
    (store.announce sheet cells).mentioned otherSheet other =
      store.mentioned otherSheet other := by
  rw [mentioned, mentioned, cell?_announce]

theorem Coherent.announce {store : Store} (h : store.Coherent) (sheet : String)
    (cells : List String) : (store.announce sheet cells).Coherent where
  sheet := fun {otherSheet cell value} hcell =>
    h.sheet ((cell?_announce store sheet cells otherSheet cell).symm.trans hcell)
  cell := fun {otherSheet cell value} hcell =>
    h.cell ((cell?_announce store sheet cells otherSheet cell).symm.trans hcell)
  edges := by
    intro id hid otherSheet dependent
    rw [dependentsOf_announce, mentioned_announce]
    exact h.edges hid otherSheet dependent

end Store

/-- The message that a call sends, with its topic. -/
def Call.news : Call → Option (String × String)
  | .publish topic message => some (topic, message)
  | _ => none

def World.published (world : World σ) : List (String × String) :=
  world.calls.reverse.filterMap Call.news

theorem World.published_of_calls {before after : World σ} {made : List Call}
    (h : after.calls = made.reverse ++ before.calls) :
    after.published = before.published ++ made.filterMap Call.news := by
  simp [published, h]

namespace Edges

open Access Relation

variable {store : Store} {visited : IdSet} {stack order : List String}

/-- The calls of a notification at one of its cells. -/
def notices (edges : Edges) (cell : String) : List Call :=
  [.publish (Store.topic edges.sheet cell) cell, .getDependents edges.sheet cell]

theorem news_notices (edges : Edges) (order : List String) :
    (order.flatMap edges.notices).filterMap Call.news =
      order.map fun id => (Store.topic edges.sheet id, id) := by
  induction order with
  | nil => rfl
  | cons cell order ih =>
      rw [List.flatMap_cons, List.filterMap_append, ih]
      rfl

theorem notifyStack_performs (edges : Edges) {bound : Nat}
    (hbound : stack.length + store.outstanding edges.sheet visited ≤ bound)
    (h : DepthFirst (store.dependentIds edges.sheet) visited.members stack order) :
    (edges.notifyStack bound visited stack : Access Unit IdSet).Performs edges.token store
      (order.flatMap edges.notices) (.ok (order.foldl IdSet.insert visited))
      (store.announce edges.sheet order) := by
  induction bound generalizing store visited stack order with
  | zero =>
      obtain rfl : stack = [] := List.eq_nil_of_length_eq_zero (by omega)
      cases h
      exact performs_pure edges.token visited store
  | succ bound ih =>
      cases stack with
      | nil =>
          cases h
          exact performs_pure edges.token visited store
      | cons cell stack =>
          simp only [notifyStack]
          rw [List.length_cons] at hbound
          by_cases hvisited : visited.contains cell = true
          · simp only [hvisited, if_true]
            have hseen : cell ∈ visited.members := (visited.contains_eq_true_iff cell).mp hvisited
            exact ih (by omega) (h.skip hseen)
          · simp only [hvisited]
            have hnew : cell ∉ visited.members :=
              fun hmem => hvisited ((visited.contains_eq_true_iff cell).mpr hmem)
            obtain ⟨rest, rfl, hrest⟩ := h.pop hnew
            rw [← IdSet.members_insert] at hrest
            have hcount := store.outstanding_insert edges.sheet hnew
            have hleft : (store.dependentIds edges.sheet cell ++ stack).length +
                (store.publish (Store.topic edges.sheet cell) cell).outstanding edges.sheet
                  (visited.insert cell) ≤ bound := by
              rw [List.length_append]
              change (store.dependentsOf edges.sheet cell).toList.length + stack.length +
                store.outstanding edges.sheet (visited.insert cell) ≤ bound
              omega
            exact (request_performs edges.token (.publish _ cell) store).bind
              ((request_performs edges.token (.getDependents _ cell) _).bind (ih hleft hrest))

theorem length_foldl_insert (h : order.Nodup) :
    (order.foldl IdSet.insert Table.empty).toList.length = order.length := by
  have hnodup : (order.foldl IdSet.insert Table.empty).toList.Nodup := Table.nodup_keys _
  refine ((List.perm_ext_iff_of_nodup hnodup h).mpr fun id => ?_).length_eq
  simp [IdSet.mem_toList_foldl_insert]

theorem notify_performs (edges : Edges) {cell : String}
    (h : DepthFirst (store.dependentIds edges.sheet) ∅ [cell] order) :
    (edges.notify cell : Access Unit Nat).Performs edges.token store
      (order.flatMap edges.notices) (.ok order.length) (store.announce edges.sheet order) := by
  have hbound : [cell].length + store.outstanding edges.sheet Table.empty ≤
      store.edgeCount + 1 := by
    rw [Store.outstanding_empty, List.length_singleton]
    omega
  rw [← IdSet.members_empty] at h
  intro world hstore hfired
  have hstack := edges.notifyStack_performs hbound h world hstore hfired
  rw [notify, bind_get, hstore, bind_of_ok hstack, length_foldl_insert h.nodup]
  rfl

/-- What a notification of a change of a cell does to a world, where `order` lists the
cells that it tells of. -/
structure Notifies (edges : Edges) (cell : String) (order : List String)
    (before after : World Unit) : Prop where
  depthFirst : DepthFirst (before.store.dependentIds edges.sheet) ∅ [cell] order
  reached : ∀ id, id ∈ order ↔ ReflTransGen (before.store.Informs edges.sheet) cell id
  once : (order.map (Store.topic edges.sheet)).Nodup
  published : after.published =
    before.published ++ order.map fun id => (Store.topic edges.sheet id, id)
  calls : after.calls = (order.flatMap edges.notices).reverse ++ before.calls
  store : after.store = before.store.announce edges.sheet order

/-- A notification tells once of each cell that the edges lead to, in the order of a
depth-first walk, whatever the shape of the graph, and counts them. -/
theorem notify_notifies (edges : Edges) (cell : String) {world : World Unit}
    (hfired : world.isFired edges.token = false) :
    ∃ order after, edges.notify cell world = .ok order.length after ∧
      edges.Notifies cell order world after := by
  obtain ⟨order, horder⟩ := world.store.exists_depthFirst edges.sheet
    (fun _ => le_rfl) Table.empty [cell]
  rw [IdSet.members_empty] at horder
  refine ⟨order, _, edges.notify_performs horder world rfl hfired, ?_⟩
  exact
    { depthFirst := horder
      reached := horder.mem_iff_of_root
      once := List.pairwise_map.mpr (horder.nodup.imp fun hother htopic => hother (by
        simpa [Store.topic, Store.cellKey_left_inj] using htopic))
      published := by
        rw [World.published_of_calls rfl, news_notices]
      calls := rfl
      store := rfl }

def ringWorld : World Unit :=
  { World.start () with
    store :=
      (Store.empty.addDependents "s" "a" ["b", "c"]).addDependents "s" "b" ["a", "c"] }

theorem notify_notifies_ring :
    ringWorld.isFired 0 = false ∧
      ∃ order after,
        Edges.notify { sheet := "s", token := 0 } "a" ringWorld = .ok order.length after ∧
        Notifies { sheet := "s", token := 0 } "a" order ringWorld after ∧
        after.published =
          [("pubsub:s/a", "a"), ("pubsub:s/b", "b"), ("pubsub:s/c", "c")] := by
  have hfired : ringWorld.isFired 0 = false := rfl
  obtain ⟨order, after, hrun, hnotifies⟩ :=
    notify_notifies { sheet := "s", token := 0 } "a" hfired
  have hpublished : (match Edges.notify { sheet := "s", token := 0 } "a" ringWorld with
      | .ok _ after | .error _ after => after.published) =
        [("pubsub:s/a", "a"), ("pubsub:s/b", "b"), ("pubsub:s/c", "c")] := by
    decide +kernel
  rw [hrun] at hpublished
  exact ⟨hfired, order, after, hrun, hnotifies, hpublished⟩

end Edges

theorem Solve.store_performs (edges : Edges) (cell value : String) {store : Store}
    {order : List String}
    (h : DepthFirst ((store.commit edges.sheet cell value).dependentIds edges.sheet) ∅ [cell]
      order) :
    (Solve.store edges cell value : Access Unit Unit).Performs edges.token store
      (store.commitCalls edges.sheet cell value ++ order.flatMap edges.notices) (.ok ())
      ((store.commit edges.sheet cell value).announce edges.sheet order) := by
  refine (edges.commit_performs cell value store).bind fun world hstore hfired => ?_
  exact tryCatch_of_ok (bind_of_ok (edges.notify_performs h world hstore hfired))

/-- Storing a value tells of the cells that can be reached along the edges that it leaves. -/
theorem Solve.store_announces (edges : Edges) (cell value : String) (store : Store) :
    ∃ told,
      (∀ id, id ∈ told ↔
        ReflTransGen ((store.commit edges.sheet cell value).Informs edges.sheet) cell id) ∧
      (Solve.store edges cell value : Access Unit Unit).Yields store (.ok ())
        ((store.commit edges.sheet cell value).announce edges.sheet told) := by
  obtain ⟨told, htold⟩ := (store.commit edges.sheet cell value).exists_depthFirst edges.sheet
    (fun _ => le_rfl) Table.empty [cell]
  rw [IdSet.members_empty] at htold
  exact ⟨told, htold.mem_iff_of_root, (store_performs edges cell value htold).yields⟩

/-- What storing a value leaves behind: the value with its edges, and the news of
its cell and of all that depends on it in the queues of those who listen. -/
structure Stored (store : Store) (sheet cell value : String) (told : List String)
    (after : Store) : Prop where
  store_eq : after = (store.commit sheet cell value).announce sheet told
  mem_told : cell ∈ told
  closed : ∀ id ∈ told,
    ∀ dependent ∈ ((store.commit sheet cell value).dependentsOf sheet id).toList,
      dependent ∈ told
  exist : ∀ id ∈ told, (store.commit sheet cell value).cell? sheet id ≠ none

theorem stored_of_reached {store : Store} {sheet cell value : String} (hcell : '/' ∉ cell.toList)
    (hcommit : (store.commit sheet cell value).Coherent) {told : List String}
    (htold : ∀ id, id ∈ told ↔
      ReflTransGen ((store.commit sheet cell value).Informs sheet) cell id) :
    Stored store sheet cell value told
      ((store.commit sheet cell value).announce sheet told) := by
  have hexist : ∀ id, ReflTransGen ((store.commit sheet cell value).Informs sheet) cell id →
      '/' ∉ id.toList ∧ (store.commit sheet cell value).cell? sheet id ≠ none := by
    intro id hreach
    induction hreach with
    | refl =>
        rw [Store.cell?_commit, if_pos ⟨rfl, rfl⟩]
        exact ⟨hcell, Option.some_ne_none _⟩
    | tail _ hinforms ih =>
        obtain ⟨held, hheld, -⟩ := Store.mem_mentioned.mp
          ((hcommit.edges ih.1 sheet _).mp hinforms)
        rw [hheld]
        exact ⟨(hcommit.cell hheld).2, Option.some_ne_none _⟩
  refine ⟨rfl, (htold cell).mpr .refl, fun id hid dependent hdependent => ?_,
    fun id hid => (hexist id ((htold id).mp hid)).2⟩
  exact (htold dependent).mpr (((htold id).mp hid).tail hdependent)

end LiveSheet
