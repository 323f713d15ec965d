import LiveSheet.Proofs.Store.Channels
import Mathlib.Data.List.Induction

namespace LiveSheet

/-! What listeners are told over whole runs of a store.  Each is told what a queue of
its own would tell it, which forgets nothing before it is read. -/

/-- The next thing that is read of all that is unread, oldest first, and what is unread
after it.  A reader who is too far behind hears of the loss and keeps the newest. -/
def takeUnread (unread : List String) : Option (String × List String) :=
  if Listener.capacity < unread.length then
    some ("", unread.drop (unread.length - Listener.capacity))
  else
    match unread with
    | [] => none
    | message :: rest => some (message, rest)

inductive Exchange where
  | arrives (message : String)
  | isRead
  deriving DecidableEq

namespace Exchange

def message? : Exchange → Option String
  | .arrives message => some message
  | .isRead => none

def readings : List Exchange → List String → List (Option String)
  | [], _ => []
  | .arrives message :: exchanges, unread => readings exchanges (unread ++ [message])
  | .isRead :: exchanges, unread =>
      match takeUnread unread with
      | none => none :: readings exchanges unread
      | some (message, rest) => some message :: readings exchanges rest

def unreadAfter : List Exchange → List String → List String
  | [], unread => unread
  | .arrives message :: exchanges, unread => unreadAfter exchanges (unread ++ [message])
  | .isRead :: exchanges, unread =>
      match takeUnread unread with
      | none => unreadAfter exchanges unread
      | some (_, rest) => unreadAfter exchanges rest

end Exchange

/-- What was sent is what was told and what is still unread, each message once and in
order.  An empty message also stands for those that were lost, which had a whole queue
of newer ones behind them. -/
inductive Accounts : (sent told unread : List String) → Prop
  | unread (unread : List String) : Accounts unread [] unread
  | tells (message : String) {sent told unread : List String}
      (hrest : Accounts sent told unread) :
      Accounts (message :: sent) (message :: told) unread
  | loses {lost : List String} (hlost : lost ≠ []) {sent told unread : List String}
      (hkept : Listener.capacity ≤ sent.length) (hrest : Accounts sent told unread) :
      Accounts (lost ++ sent) ("" :: told) unread

theorem Exchange.accounts (exchanges : List Exchange) (unread : List String) :
    Accounts (unread ++ exchanges.filterMap message?) ((readings exchanges unread).filterMap id)
      (unreadAfter exchanges unread) := by
  induction exchanges generalizing unread with
  | nil =>
      rw [List.filterMap_nil, List.append_nil]
      exact .unread unread
  | cons exchange exchanges ih =>
      cases exchange with
      | arrives message =>
          have hrest := ih (unread ++ [message])
          rwa [List.append_assoc] at hrest
      | isRead =>
          simp only [readings, unreadAfter, List.filterMap_cons, message?]
          cases htake : takeUnread unread with
          | none => exact ih unread
          | some taken =>
              obtain ⟨message, rest⟩ := taken
              simp only [List.filterMap_cons, id_eq]
              unfold takeUnread at htake
              split at htake
              · rename_i hfull
                cases htake
                have hsplit := List.take_append_drop (unread.length - Listener.capacity) unread
                have hlost : unread.take (unread.length - Listener.capacity) ≠ [] := by
                  rw [ne_eq, List.take_eq_nil_iff]
                  rintro (hnone | rfl)
                  · omega
                  · cases hfull
                have hlength : Listener.capacity ≤
                    (unread.drop (unread.length - Listener.capacity) ++
                      exchanges.filterMap message?).length := by
                  rw [List.length_append, List.length_drop]
                  omega
                have haccounts := Accounts.loses hlost hlength (ih _)
                rwa [← List.append_assoc, hsplit] at haccounts
              · split at htake
                · cases htake
                · cases htake
                  exact .tells message (ih rest)

namespace Listener

structure Holds (listener : Listener) (unread : List String) : Prop where
  pending : listener.pending = unread.drop (unread.length - capacity)
  missed : listener.missed = decide (capacity < unread.length)

theorem fresh_holds (id : Nat) (topic : String) : (fresh id topic).Holds [] :=
  ⟨rfl, rfl⟩

variable {listener : Listener} {unread : List String}

theorem Holds.receive (h : listener.Holds unread) (message : String) :
    (listener.receive message).Holds (unread ++ [message]) := by
  have hpending : (listener.pending ++ [message]).length =
      min unread.length capacity + 1 := by
    rw [h.pending, List.length_append, List.length_drop, List.length_singleton]
    omega
  unfold Listener.receive
  simp only [hpending]
  split
  · rename_i hfits
    have hall : unread.length - capacity = 0 := by omega
    have hmore : unread.length + 1 - capacity = 0 := by omega
    constructor
    · rw [List.length_append, List.length_singleton, hmore, h.pending, hall]
      rfl
    · rw [h.missed, decide_eq_decide, List.length_append, List.length_singleton]
      omega
  · rename_i hfull
    have hdrop : unread.length + 1 - capacity = unread.length - capacity + 1 := by omega
    constructor
    · rw [h.pending, List.length_append, List.length_singleton, hdrop,
        ← List.drop_append_of_le_length (by omega), List.drop_drop]
    · rw [eq_comm, decide_eq_true_eq, List.length_append, List.length_singleton]
      omega

theorem Holds.next?_none (h : listener.Holds unread) (htake : takeUnread unread = none) :
    listener.next? = none := by
  unfold takeUnread at htake
  split at htake
  · cases htake
  · rename_i hfits
    split at htake
    · simp [next?, h.missed, h.pending]
    · cases htake

theorem Holds.next?_some (h : listener.Holds unread) {message : String} {rest : List String}
    (htake : takeUnread unread = some (message, rest)) :
    ∃ after, listener.next? = some (message, after) ∧ after.Holds rest := by
  unfold takeUnread at htake
  split at htake
  · rename_i hfull
    cases htake
    refine ⟨{ listener with missed := false }, by simp [next?, h.missed, hfull], ?_, ?_⟩
    · rw [h.pending, List.length_drop]
      have hall : unread.length - (unread.length - capacity) - capacity = 0 := by omega
      rw [hall, List.drop_zero]
    · rw [eq_comm, decide_eq_false_iff_not, List.length_drop]
      omega
  · rename_i hfits
    split at htake
    · cases htake
    · rename_i first others
      cases htake
      have hall : (message :: rest).length - capacity = 0 := by omega
      have hpending := h.pending
      rw [hall, List.drop_zero] at hpending
      have hless : ¬ capacity < rest.length := by
        rw [List.length_cons] at hfits
        omega
      refine ⟨{ listener with pending := rest }, ?_, ?_, ?_⟩
      · rw [next?, h.missed, decide_eq_false hfits, hpending]
        rfl
      · have hnone : rest.length - capacity = 0 := by omega
        rw [hnone, List.drop_zero]
      · rw [h.missed, decide_eq_false hfits, decide_eq_false hless]

end Listener

inductive Traffic where
  | calls (call : Call)
  | leaves (listener : Nat)
  deriving DecidableEq

namespace Traffic

def apply : Traffic → Store → Store
  | .calls call, store => (call.perform store).2
  | .leaves leaver, store => store.unlisten leaver

def run (traffic : List Traffic) (store : Store) : Store :=
  traffic.foldl (fun store step => step.apply store) store

/-- What a step tells a listener, if it is one of its own readings.  It is told of no
message while it has to wait for one. -/
def told? (id : Nat) (store : Store) : Traffic → Option (Except StoreError (Option String))
  | .calls (.nextMessage reader) =>
      if reader = id then some ((Call.nextMessage reader).perform store).1 else none
  | _ => none

def told (id : Nat) : List Traffic → Store → List (Except StoreError (Option String))
  | [], _ => []
  | step :: traffic, store => (step.told? id store).toList ++ told id traffic (step.apply store)

def sentOn (topic : String) (traffic : List Traffic) : List String :=
  traffic.filterMap fun
    | .calls (.publish other message) => if other = topic then some message else none
    | _ => none

def exchange? (topic : String) (id : Nat) : Traffic → Option Exchange
  | .calls (.publish other message) =>
      if other = topic then some (.arrives message) else none
  | .calls (.nextMessage reader) => if reader = id then some .isRead else none
  | _ => none

def exchanges (topic : String) (id : Nat) (traffic : List Traffic) : List Exchange :=
  traffic.filterMap (exchange? topic id)

theorem filterMap_message?_exchanges (topic : String) (id : Nat) (traffic : List Traffic) :
    (exchanges topic id traffic).filterMap Exchange.message? = sentOn topic traffic := by
  rw [exchanges, sentOn, List.filterMap_filterMap]
  refine congrArg (traffic.filterMap ·) (funext fun step => ?_)
  cases step with
  | calls call =>
      cases call with
      | publish other message =>
          simp only [exchange?]
          split <;> rfl
      | nextMessage reader =>
          simp only [exchange?]
          split <;> rfl
      | _ => rfl
  | leaves leaver => rfl

end Traffic

namespace Traffic

open Store

section

variable {store : Store} {id : Nat} {listener : Listener}

/-- What a step does to a live listener is what it is at the queue of the listener. -/
theorem connects_apply (h : store.Connects id listener) {step : Traffic}
    (hlive : step ≠ .leaves id) :
    match step.exchange? listener.topic id with
    | none => step.told? id store = none ∧ (step.apply store).Connects id listener
    | some (.arrives message) =>
        step.told? id store = none ∧ (step.apply store).Connects id (listener.receive message)
    | some .isRead => step = .calls (.nextMessage id) := by
  cases step with
  | calls call =>
      by_cases hread : call = .nextMessage id
      · subst hread
        simp only [exchange?, if_true]
      have hcall := h.perform hread
      cases call with
      | publish topic message =>
          by_cases htopic : listener.topic = topic
          · simp only [exchange?, Listener.hearing, htopic, if_true] at hcall ⊢
            exact ⟨rfl, hcall⟩
          · simp only [exchange?, Listener.hearing, if_neg htopic,
              if_neg (Ne.symm htopic)] at hcall ⊢
            exact ⟨rfl, hcall⟩
      | nextMessage reader =>
          have hreader : reader ≠ id := fun heq => hread (heq ▸ rfl)
          simp only [exchange?, told?, if_neg hreader]
          exact ⟨trivial, hcall⟩
      | _ => exact ⟨rfl, hcall⟩
  | leaves leaver =>
      have hother : leaver ≠ id := fun heq => hlive (heq ▸ rfl)
      exact ⟨rfl, h.unlisten hother⟩

theorem told_eq {traffic : List Traffic} {unread : List String}
    (h : store.Connects id listener) (hunread : listener.Holds unread)
    (hlive : .leaves id ∉ traffic) :
    told id traffic store =
      (Exchange.readings (exchanges listener.topic id traffic) unread).map Except.ok := by
  induction traffic generalizing store listener unread with
  | nil => rfl
  | cons step traffic ih =>
      rw [List.mem_cons, not_or] at hlive
      have hstep := connects_apply h (Ne.symm hlive.1)
      rw [told, exchanges, List.filterMap_cons]
      cases hexchange : step.exchange? listener.topic id with
      | none =>
          rw [hexchange] at hstep
          rw [hstep.1]
          exact ih hstep.2 hunread hlive.2
      | some exchange =>
          rw [hexchange] at hstep
          cases exchange with
          | arrives message =>
              have hrest := ih hstep.2 (hunread.receive message) hlive.2
              rw [listener.topic_receive] at hrest
              rw [hstep.1]
              exact hrest
          | isRead =>
              obtain rfl : step = .calls (.nextMessage id) := hstep
              simp only [told?, if_true, Exchange.readings, apply, Call.perform]
              cases htake : takeUnread unread with
              | none =>
                  rw [h.nextMessage?_none (hunread.next?_none htake)]
                  exact congrArg _ (ih h hunread hlive.2)
              | some taken =>
                  obtain ⟨message, rest⟩ := taken
                  obtain ⟨after, hnext, hrest⟩ := hunread.next?_some htake
                  obtain ⟨left, hleft, hafter⟩ := h.nextMessage?_some hnext
                  have hothers := ih hafter hrest hlive.2
                  rw [(Listener.next?_same hnext).2] at hothers
                  rw [hleft]
                  exact congrArg _ hothers

end

theorem numbered_apply {store : Store} (h : store.Numbered) (step : Traffic) :
    (step.apply store).Numbered := by
  cases step with
  | calls call => exact h.perform call
  | leaves leaver => exact h.unlisten leaver

theorem numbered_run (traffic : List Traffic) : (run traffic Store.empty).Numbered := by
  induction traffic using List.reverseRecOn with
  | nil => exact empty_numbered
  | append_singleton traffic step ih =>
      rw [run, List.foldl_append]
      exact numbered_apply ih step

/-- However a store has been used, a listener that comes to it is told what a queue of
the messages on its topic since then would tell, as long as it does not leave: never an
error, and each message once and in order, with an empty one for those that it lost
where it fell behind. -/
theorem told_as_queued (earlier : List Traffic) (topic : String) :
    ∃ listener subscribed,
      (Call.subscribe topic).perform (run earlier Store.empty) = (.ok listener, subscribed) ∧
        ∀ later : List Traffic, .leaves listener ∉ later →
          told listener later subscribed =
              (Exchange.readings (exchanges topic listener later) []).map Except.ok ∧
            Accounts (sentOn topic later)
              ((Exchange.readings (exchanges topic listener later) []).filterMap id)
              (Exchange.unreadAfter (exchanges topic listener later) []) := by
  have hconnects := (numbered_run earlier).connects topic
  refine ⟨_, _, rfl, fun later hlive => ⟨?_, ?_⟩⟩
  · exact told_eq hconnects (Listener.fresh_holds _ topic) hlive
  · rw [← filterMap_message?_exchanges topic _ later]
    exact Exchange.accounts _ []

def abandoning : List Traffic :=
  [.calls (.subscribe "t"), .leaves 0, .calls (.subscribe "u")]

def overtaking : List Traffic :=
  .calls (.publish "t" "first") :: .calls (.subscribe "v") :: .calls (.publish "u" "other") ::
    (List.replicate 64 (.calls (.publish "t" "newer")) ++
      [.leaves 3, .calls (.nextMessage 2), .calls (.nextMessage 1), .calls (.nextMessage 2)])

theorem told_as_queued_overtaken :
    .leaves 2 ∉ overtaking ∧
      ∃ subscribed,
        (Call.subscribe "t").perform (run abandoning Store.empty) = (.ok 2, subscribed) ∧
          told 2 overtaking subscribed = [.ok (some ""), .ok (some "newer")] := by
  have hlive : .leaves 2 ∉ overtaking := by decide
  obtain ⟨listener, subscribed, hsubscribe, htold⟩ := told_as_queued abandoning "t"
  have hlistener : ((Call.subscribe "t").perform (run abandoning Store.empty)).1 = .ok 2 := rfl
  rw [hsubscribe] at hlistener
  obtain rfl : listener = 2 := Except.ok.inj hlistener
  refine ⟨hlive, subscribed, hsubscribe, (htold overtaking hlive).1.trans ?_⟩
  decide +kernel

end Traffic

end LiveSheet
