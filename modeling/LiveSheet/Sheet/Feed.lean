import LiveSheet.Sheet.Engine

namespace LiveSheet

/-- An open subscription.  It keeps the engine that it was opened with. -/
structure Feed where
  engine : Engine
  record : SubscriptionRecord
  listener : Nat

namespace Engine

variable [Interference σ]

/-- Subscriptions are numbered, and their ids are the numbers in hexadecimal. -/
def createSubscription (engine : Engine) (sheet cell : String) : Access σ String := do
  let count ← Access.request engine.token (.increment Store.subscriptionCounter)
  let id := String.ofList (Nat.toDigits 16 count)
  let _ ← Access.request engine.token
    (.setSubscription id (SubscriptionRecord.ofIds sheet cell))
  pure id

def openSubscription (engine : Engine) (id : String) : Access σ Feed := do
  let record ← Access.request engine.token (.getSubscription id)
  let listener ← Access.request engine.token
    (.subscribe (Store.topic record.sheet record.cell))
  pure { engine, record, listener }

end Engine

namespace Feed

variable [Interference σ]

/-- Takes the next message off the feed, if one is pending.  Without one the feed goes on
waiting, which its token brings to an end as well. -/
def nextMessage (feed : Feed) : Access σ (Option String) := do
  match ← Access.request feed.engine.token (.nextMessage feed.listener) with
  | some message => pure (some message)
  | none =>
      Access.heed feed.engine.token
      pure none

/-- The cell as it is after the next change, if there is one to report. -/
def nextUpdate (feed : Feed) : Access σ (Option CellResponse) := do
  match ← feed.nextMessage with
  | none => pure none
  | some _ => some <$> feed.engine.getCell feed.record.sheet feed.record.cell

def drainWithin (feed : Feed) :
    Nat → World σ → (List CellResponse × Option StoreError) × World σ
  | 0, world => (([], none), world)
  | bound + 1, world =>
      match feed.nextUpdate world with
      | .error error world => (([], some error), world)
      | .ok none world => (([], none), world)
      | .ok (some update) world =>
          let ((updates, ended), world) := feed.drainWithin bound world
          ((update :: updates, ended), world)

/-- Every update takes a message, and the last step finds none. -/
def drain (feed : Feed) (world : World σ) :
    (List CellResponse × Option StoreError) × World σ :=
  let waiting := (world.store.listener? feed.listener).elim 0 Listener.waiting
  feed.drainWithin (waiting + 1) world

def close (feed : Feed) (world : World σ) : World σ :=
  { world with store := world.store.unlisten feed.listener }

end Feed

end LiveSheet
