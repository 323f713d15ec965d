namespace LiveSheet

/-! A listener queues what is published on its topic.  One that falls behind
keeps the newest messages and first hears of the loss. -/

structure Listener where
  id : Nat
  topic : String
  missed : Bool
  pending : List String
  deriving DecidableEq

namespace Listener

def capacity : Nat := 64

def fresh (id : Nat) (topic : String) : Listener :=
  { id, topic, missed := false, pending := [] }

def receive (listener : Listener) (message : String) : Listener :=
  let pending := listener.pending ++ [message]
  if pending.length ≤ capacity then { listener with pending }
  else { listener with missed := true, pending := pending.drop 1 }

/-- The next message and the listener after it.  All that was missed comes as
one empty message before the rest. -/
def next? (listener : Listener) : Option (String × Listener) :=
  if listener.missed then some ("", { listener with missed := false })
  else
    match listener.pending with
    | [] => none
    | message :: pending => some (message, { listener with pending })

def waiting (listener : Listener) : Nat :=
  listener.pending.length + (if listener.missed then 1 else 0)

theorem waiting_next? {listener after : Listener} {message : String}
    (h : listener.next? = some (message, after)) :
    listener.waiting = after.waiting + 1 := by
  unfold next? at h
  split at h
  · rename_i hmissed
    cases h
    simp [waiting, hmissed]
  · rename_i hkept
    cases hpending : listener.pending with
    | nil => simp [hpending] at h
    | cons first rest =>
        simp only [hpending, Option.some.injEq, Prod.mk.injEq] at h
        obtain ⟨rfl, rfl⟩ := h
        simp [waiting, hpending, hkept]

end Listener

end LiveSheet
