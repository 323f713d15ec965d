import LiveSheet.Proofs.Sheet.Notification
import LiveSheet.Proofs.Store.Channels

namespace LiveSheet

namespace Listener

theorem waiting_receive_pos (listener : Listener) (message : String) :
    0 < (listener.receive message).waiting := by
  unfold receive
  dsimp only
  split
  · simp only [waiting, List.length_append, List.length_singleton]
    omega
  · simp only [waiting, if_true]
    omega

theorem next?_eq_none {listener : Listener} (h : listener.waiting = 0) :
    listener.next? = none := by
  unfold waiting at h
  obtain ⟨hpending, hmissed⟩ := Nat.add_eq_zero_iff.mp h
  have hkept : listener.missed = false := by
    by_contra hne
    simp [hne] at hmissed
  simp [next?, hkept, List.eq_nil_of_length_eq_zero hpending]

theorem next?_eq_some {listener : Listener} {count : Nat}
    (h : listener.waiting = count + 1) :
    ∃ message after, listener.next? = some (message, after) ∧
      after.topic = listener.topic ∧ after.waiting = count := by
  cases hnext : listener.next? with
  | none =>
      unfold next? at hnext
      split at hnext
      · cases hnext
      · rename_i hkept
        split at hnext
        · rename_i hpending
          simp [waiting, hkept, hpending] at h
        · cases hnext
  | some pair =>
      obtain ⟨message, after⟩ := pair
      have hcount := waiting_next? hnext
      exact ⟨message, after, rfl, (next?_same hnext).2, by omega⟩

end Listener

namespace Store

variable {store : Store} {id : Nat} {listener : Listener}

theorem Connects.announce (sheet : String) (cells : List String)
    (h : store.Connects id listener) :
    ∃ after, (store.announce sheet cells).Connects id after ∧
      after.topic = listener.topic ∧
      (0 < after.waiting ↔
        0 < listener.waiting ∨ ∃ cell ∈ cells, topic sheet cell = listener.topic) := by
  induction cells generalizing store listener with
  | nil => exact ⟨listener, h, rfl, by simp⟩
  | cons cell cells ih =>
      obtain ⟨after, hafter, htopic, hwaiting⟩ := ih (h.publish (topic sheet cell) cell)
      refine ⟨after, hafter, ?_, hwaiting.trans ?_⟩
      · rw [htopic]
        split
        · exact listener.topic_receive cell
        · rfl
      · have hpos := listener.waiting_receive_pos cell
        split
        · rename_i hsame
          simp [hpos, hsame]
        · rename_i hother
          simp [Ne.symm hother]

theorem topic_inj {sheet otherSheet cell otherCell : String}
    (hcell : '/' ∉ cell.toList) (hother : '/' ∉ otherCell.toList) :
    topic sheet cell = topic otherSheet otherCell ↔
      sheet = otherSheet ∧ cell = otherCell := by
  rw [← cellKey_inj hcell hother]
  simp [topic, ← String.toList_inj]

theorem Connects.commit (h : store.Connects id listener) (sheet cell value : String) :
    (store.commit sheet cell value).Connects id listener := by
  obtain ⟨sheets, dependents, heq⟩ := store.commit_touches sheet cell value
  rw [heq]
  exact ⟨h.found, h.connected⟩

@[simp] theorem subscription?_commit (store : Store) (sheet cell value id : String) :
    (store.commit sheet cell value).subscription? id = store.subscription? id := by
  obtain ⟨sheets, dependents, heq⟩ := store.commit_touches sheet cell value
  rw [heq]
  rfl

@[simp] theorem subscription?_announce (store : Store) (sheet : String) (cells : List String)
    (id : String) : (store.announce sheet cells).subscription? id = store.subscription? id := by
  induction cells generalizing store with
  | nil => rfl
  | cons cell cells ih =>
      rw [announce_cons, ih]
      rfl

structure Keeps (store after : Store) : Prop where
  sheets : after.sheets = store.sheets
  dependents : after.dependents = store.dependents

theorem Keeps.refl (store : Store) : store.Keeps store :=
  ⟨rfl, rfl⟩

theorem Keeps.trans {middle after : Store} (h : store.Keeps middle)
    (hnext : middle.Keeps after) : store.Keeps after :=
  ⟨hnext.sheets.trans h.sheets, hnext.dependents.trans h.dependents⟩

theorem Keeps.cell? {after : Store} (h : store.Keeps after) (sheet cell : String) :
    after.cell? sheet cell = store.cell? sheet cell := by
  rw [Store.cell?, Store.cell?, cells, cells, h.sheets]

theorem Keeps.dependentsOf {after : Store} (h : store.Keeps after) (sheet cell : String) :
    after.dependentsOf sheet cell = store.dependentsOf sheet cell := by
  rw [Store.dependentsOf, Store.dependentsOf, h.dependents]

theorem Keeps.coherent {after : Store} (h : store.Keeps after) (hstore : store.Coherent) :
    after.Coherent where
  sheet := fun {sheet cell value} hcell => hstore.sheet ((h.cell? sheet cell).symm.trans hcell)
  cell := fun {sheet cell value} hcell => hstore.cell ((h.cell? sheet cell).symm.trans hcell)
  edges := by
    intro id hid sheet dependent
    rw [h.dependentsOf, mentioned, h.cell?]
    exact hstore.edges hid sheet dependent

theorem nextMessage?_eq_none (h : store.Connects id listener)
    (hwaiting : listener.waiting = 0) : store.nextMessage? id = none :=
  h.nextMessage?_none (Listener.next?_eq_none hwaiting)

theorem nextMessage?_keeps {answer : Except StoreError String} {after : Store}
    (h : store.nextMessage? id = some (answer, after)) : store.Keeps after := by
  simp only [nextMessage?, Option.bind_eq_bind, Option.bind_eq_some_iff] at h
  obtain ⟨listener, -, h⟩ := h
  split at h
  · cases h
    exact ⟨rfl, rfl⟩
  · split at h
    · cases h
    · cases h
      exact Keeps.refl store

theorem nextMessage?_eq_some (h : store.Connects id listener) {count : Nat}
    (hwaiting : listener.waiting = count + 1) :
    ∃ message after next, store.nextMessage? id = some (.ok message, after) ∧
      store.Keeps after ∧ after.Connects id next ∧
      next.topic = listener.topic ∧ next.waiting = count := by
  obtain ⟨message, next, hnext, htopic, hcount⟩ := Listener.next?_eq_some hwaiting
  obtain ⟨after, hmessage, hafter⟩ := h.nextMessage?_some hnext
  exact ⟨message, after, next, hmessage, nextMessage?_keeps hmessage, hafter, htopic, hcount⟩

end Store

end LiveSheet
