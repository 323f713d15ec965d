import LiveSheet.Proofs.Table
import LiveSheet.Store.Call

namespace LiveSheet

/-! Live listeners.  Each operation on a store leaves one of them found by its id,
and on the open channel of its topic: what is dropped with an abandoned channel was
nobody's. -/

namespace Listener

def hearing (listener : Listener) : Call → Listener
  | .publish topic message =>
      if listener.topic = topic then listener.receive message else listener
  | _ => listener

@[simp] theorem id_receive (listener : Listener) (message : String) :
    (listener.receive message).id = listener.id := by
  unfold receive
  dsimp only
  split <;> rfl

@[simp] theorem topic_receive (listener : Listener) (message : String) :
    (listener.receive message).topic = listener.topic := by
  unfold receive
  dsimp only
  split <;> rfl

theorem next?_same {listener after : Listener} {message : String}
    (h : listener.next? = some (message, after)) :
    after.id = listener.id ∧ after.topic = listener.topic := by
  unfold next? at h
  split at h
  · cases h
    exact ⟨rfl, rfl⟩
  · split at h <;> cases h
    exact ⟨rfl, rfl⟩

end Listener

namespace Store

theorem isConnected_iff (store : Store) (listener : Listener) :
    store.isConnected listener = true ↔ listener.id ∈ store.channel listener.topic := by
  rw [isConnected, List.contains_iff_mem]

@[simp] theorem channel_publish (store : Store) (topic message other : String) :
    (store.publish topic message).channel other = store.channel other := by
  unfold publish channel
  dsimp only
  split
  · rename_i habandoned
    rw [Table.get?_erase]
    split
    · rename_i heq
      rw [heq, habandoned]
      rfl
    · rfl
  · rfl

@[simp] theorem channel_dropAbandoned (store : Store) (topic : String) :
    store.dropAbandoned.channel topic = store.channel topic := by
  simp only [channel, dropAbandoned, Table.get?_filter]
  rcases store.topics.get? topic with _ | _ | ⟨first, others⟩ <;> rfl

theorem channel_listen (store : Store) (topic other : String) :
    (store.listen topic).2.channel other =
      if other = topic then store.channel topic ++ [store.nextListener]
      else store.channel other := by
  rw [← channel_dropAbandoned store topic, ← channel_dropAbandoned store other]
  simp only [listen, channel, Table.get?_insert]
  split <;> rfl

theorem channel_unlisten (store : Store) (id : Nat) (topic : String) :
    (store.unlisten id).channel topic =
      (store.channel topic).filter fun other => other != id := by
  simp only [channel, unlisten, Table.get?_map]
  cases store.topics.get? topic <;> rfl

theorem find?_map_listeners {change : Listener → Listener}
    (hchange : ∀ listener, (change listener).id = listener.id) (listeners : List Listener)
    (id : Nat) :
    (listeners.map change).find? (fun listener => listener.id == id) =
      (listeners.find? fun listener => listener.id == id).map change := by
  rw [List.find?_map]
  simp only [Function.comp_def, hchange]

structure Connects (store : Store) (id : Nat) (listener : Listener) : Prop where
  found : store.listener? id = some listener
  connected : listener.id ∈ store.channel listener.topic

namespace Connects

variable {store : Store} {id : Nat} {listener : Listener}

theorem id_eq (h : store.Connects id listener) : listener.id = id := by
  simpa using List.find?_some h.found

/-- A live listener gets the messages of its topic, and no others. -/
theorem publish (h : store.Connects id listener) (topic message : String) :
    (store.publish topic message).Connects id
      (if listener.topic = topic then listener.receive message else listener) := by
  have hconnected := (store.isConnected_iff listener).mpr h.connected
  constructor
  · have hchange (other : Listener) :
        (if other.topic = topic && store.isConnected other then other.receive message
          else other).id = other.id := by
      split
      · exact other.id_receive message
      · rfl
    refine (find?_map_listeners hchange store.listeners id).trans ?_
    rw [show store.listeners.find? (fun other => other.id == id) = some listener from h.found,
      Option.map_some, hconnected, Bool.and_true]
    simp only [decide_eq_true_eq]
  · rw [channel_publish]
    split
    · simpa using h.connected
    · exact h.connected

theorem listen (h : store.Connects id listener) (topic : String) :
    (store.listen topic).2.Connects id listener where
  found := by
    have hfound := h.found
    rw [listener?] at hfound ⊢
    simp only [Store.listen, dropAbandoned, List.find?_append, hfound, Option.some_or]
  connected := by
    rw [channel_listen]
    split
    · rename_i hsame
      exact List.mem_append_left _ (hsame ▸ h.connected)
    · exact h.connected

theorem unlisten (h : store.Connects id listener) {other : Nat} (hother : other ≠ id) :
    (store.unlisten other).Connects id listener where
  found := by
    have hkept (found : Listener) : (found.id != other && found.id == id) = (found.id == id) := by
      by_cases hid : found.id = id
      · simp [hid, hother.symm]
      · simp [hid]
    rw [listener?, Store.unlisten, List.find?_filter]
    simp only [Bool.decide_and, Bool.decide_eq_true, hkept]
    exact h.found
  connected := by
    rw [channel_unlisten, List.mem_filter, bne_iff_ne, h.id_eq]
    exact ⟨h.id_eq ▸ h.connected, hother.symm⟩

theorem nextMessage?_none (h : store.Connects id listener) (hnext : listener.next? = none) :
    store.nextMessage? id = none := by
  simp only [nextMessage?, h.found, Option.bind_eq_bind, Option.bind_some, hnext,
    (store.isConnected_iff listener).mpr h.connected, if_true]

theorem nextMessage?_some (h : store.Connects id listener) {message : String}
    {after : Listener} (hnext : listener.next? = some (message, after)) :
    ∃ taken, store.nextMessage? id = some (.ok message, taken) ∧ taken.Connects id after := by
  obtain ⟨hid, htopic⟩ := Listener.next?_same hnext
  have hreplace (other : Listener) : (if other.id = id then after else other).id = other.id := by
    split
    · rename_i heq
      rw [hid, h.id_eq, heq]
    · rfl
  refine ⟨{ store with
    listeners := store.listeners.map fun other => if other.id = id then after else other },
    ?_, ?_, ?_⟩
  · simp only [nextMessage?, h.found, Option.bind_eq_bind, Option.bind_some, hnext]
  · refine (find?_map_listeners hreplace store.listeners id).trans ?_
    rw [show store.listeners.find? (fun other => other.id == id) = some listener from h.found,
      Option.map_some, if_pos h.id_eq]
  · rw [hid, htopic]
    exact h.connected

theorem after_other (h : store.Connects id listener) {other : Nat} (hother : other ≠ id)
    {answer : Except StoreError String} {taken : Store}
    (htaken : store.nextMessage? other = some (answer, taken)) : taken.Connects id listener := by
  simp only [nextMessage?, Option.bind_eq_bind, Option.bind_eq_some_iff] at htaken
  obtain ⟨reader, hreader, htaken⟩ := htaken
  have hid : reader.id = other := by simpa using List.find?_some hreader
  split at htaken
  · rename_i message after hnext
    cases htaken
    have hreplace (found : Listener) :
        (if found.id = other then after else found).id = found.id := by
      split
      · rename_i heq
        rw [(Listener.next?_same hnext).1, hid, heq]
      · rfl
    constructor
    · refine (find?_map_listeners hreplace store.listeners id).trans ?_
      rw [show store.listeners.find? (fun found => found.id == id) = some listener from h.found,
        Option.map_some, if_neg (h.id_eq ▸ hother.symm)]
    · exact h.connected
  · split at htaken
    · cases htaken
    · cases htaken
      exact h

end Connects

def Numbered (store : Store) : Prop :=
  ∀ listener ∈ store.listeners, listener.id < store.nextListener

theorem empty_numbered : empty.Numbered :=
  fun _ h => absurd h List.not_mem_nil

theorem Numbered.connects {store : Store} (h : store.Numbered) (topic : String) :
    (store.listen topic).2.Connects store.nextListener
      (Listener.fresh store.nextListener topic) where
  found := by
    have hnone : store.listeners.find? (fun listener => listener.id == store.nextListener) =
        none := by
      rw [List.find?_eq_none]
      intro listener hmem
      simpa using Nat.ne_of_lt (h listener hmem)
    simp [listener?, Store.listen, dropAbandoned, hnone, Listener.fresh]
  connected := by
    rw [Listener.fresh, channel_listen, if_pos rfl]
    exact List.mem_append_right _ (List.mem_singleton_self _)

namespace Numbered

variable {store : Store}

theorem of_ids (h : store.Numbered) {after : Store}
    (hnext : after.nextListener = store.nextListener)
    (hids : ∀ listener ∈ after.listeners, ∃ other ∈ store.listeners, other.id = listener.id) :
    after.Numbered := by
  intro listener hmem
  obtain ⟨other, hother, hid⟩ := hids listener hmem
  rw [← hid, hnext]
  exact h other hother

theorem publish (h : store.Numbered) (topic message : String) :
    (store.publish topic message).Numbered := by
  refine h.of_ids rfl fun listener hmem => ?_
  obtain ⟨other, hother, rfl⟩ := List.mem_map.mp hmem
  refine ⟨other, hother, ?_⟩
  split
  · exact (other.id_receive message).symm
  · rfl

theorem listen (h : store.Numbered) (topic : String) : (store.listen topic).2.Numbered := by
  intro listener hmem
  change listener.id < store.nextListener + 1
  rcases List.mem_append.mp hmem with hold | hnew
  · exact Nat.lt_succ_of_lt (h listener hold)
  · rw [List.mem_singleton.mp hnew]
    exact Nat.lt_succ_self store.nextListener

theorem unlisten (h : store.Numbered) (id : Nat) : (store.unlisten id).Numbered :=
  h.of_ids rfl fun listener hmem => ⟨listener, (List.mem_filter.mp hmem).1, rfl⟩

theorem nextMessage? (h : store.Numbered) {id : Nat} {answer : Except StoreError String}
    {taken : Store} (htaken : store.nextMessage? id = some (answer, taken)) :
    taken.Numbered := by
  simp only [Store.nextMessage?, Option.bind_eq_bind, Option.bind_eq_some_iff] at htaken
  obtain ⟨reader, hreader, htaken⟩ := htaken
  split at htaken
  · rename_i message after hnext
    cases htaken
    refine h.of_ids rfl fun listener hmem => ?_
    obtain ⟨other, hother, rfl⟩ := List.mem_map.mp hmem
    split
    · exact ⟨reader, List.mem_of_find?_eq_some hreader, (Listener.next?_same hnext).1.symm⟩
    · exact ⟨other, hother, rfl⟩
  · split at htaken
    · cases htaken
    · cases htaken
      exact h

end Numbered

def audience (store : Store) : Table (List Nat) × List Listener × Nat :=
  (store.topics, store.listeners, store.nextListener)

variable {store after : Store}

theorem Connects.of_audience {id : Nat} {listener : Listener} (h : store.Connects id listener)
    (hsame : after.audience = store.audience) : after.Connects id listener := by
  simp only [audience, Prod.mk.injEq] at hsame
  obtain ⟨htopics, hlisteners, -⟩ := hsame
  constructor
  · rw [listener?, hlisteners]
    exact h.found
  · rw [channel, htopics]
    exact h.connected

theorem Numbered.of_audience (h : store.Numbered) (hsame : after.audience = store.audience) :
    after.Numbered := by
  simp only [audience, Prod.mk.injEq] at hsame
  obtain ⟨-, hlisteners, hnext⟩ := hsame
  unfold Numbered
  rw [hlisteners, hnext]
  exact h

theorem audience_perform (call : Call) (store : Store) :
    (call.perform store).2.audience =
      match call with
      | .publish topic message => (store.publish topic message).audience
      | .subscribe topic => (store.listen topic).2.audience
      | .nextMessage reader => ((store.nextMessage? reader).elim store Prod.snd).audience
      | _ => store.audience := by
  cases call with
  | getCell sheet cell =>
      rw [Call.perform]
      split <;> rfl
  | getSubscription id =>
      rw [Call.perform]
      split <;> rfl
  | addDependents sheet cell ids =>
      rw [Call.perform, Store.addDependents]
      split <;> rfl
  | removeDependents sheet cell ids =>
      rw [Call.perform, Store.removeDependents]
      dsimp only
      split <;> rfl
  | nextMessage reader =>
      simp only [Call.perform]
      cases store.nextMessage? reader <;> rfl
  | _ => rfl

/-- A call keeps a listener live, and as it is if no message comes or goes. -/
theorem Connects.perform {id : Nat} {listener : Listener} (h : store.Connects id listener)
    {call : Call} (hcall : call ≠ .nextMessage id) :
    (call.perform store).2.Connects id (listener.hearing call) := by
  have haudience := audience_perform call store
  cases call with
  | publish topic message => exact (h.publish topic message).of_audience haudience
  | subscribe topic => exact (h.listen topic).of_audience haudience
  | nextMessage reader =>
      have hreader : reader ≠ id := fun heq => hcall (heq ▸ rfl)
      dsimp only at haudience ⊢
      cases htaken : store.nextMessage? reader with
      | none =>
          rw [htaken] at haudience
          exact h.of_audience haudience
      | some taken =>
          rw [htaken] at haudience
          exact (h.after_other hreader htaken).of_audience haudience
  | _ => exact h.of_audience haudience

theorem Numbered.perform (h : store.Numbered) (call : Call) :
    (call.perform store).2.Numbered := by
  have haudience := audience_perform call store
  cases call with
  | publish topic message => exact (h.publish topic message).of_audience haudience
  | subscribe topic => exact (h.listen topic).of_audience haudience
  | nextMessage reader =>
      dsimp only at haudience
      cases htaken : store.nextMessage? reader with
      | none =>
          rw [htaken] at haudience
          exact h.of_audience haudience
      | some taken =>
          rw [htaken] at haudience
          exact (h.nextMessage? htaken).of_audience haudience
  | _ => exact h.of_audience haudience

end Store

end LiveSheet
