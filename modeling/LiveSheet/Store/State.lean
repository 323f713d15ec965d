import LiveSheet.Store.Error
import LiveSheet.Store.Listener
import LiveSheet.Wire.Record

namespace LiveSheet

/-! What a store holds.  Cells live in one table a sheet; the dependents of a
cell in one set under the joined key of sheet and cell. -/

structure Store where
  sheets : Table (Table String)
  dependents : Table IdSet
  counters : Table Nat
  subscriptions : Table SubscriptionRecord
  /-- The open channel of each topic: who listens on it. -/
  topics : Table (List Nat)
  listeners : List Listener
  nextListener : Nat

namespace Store

def empty : Store :=
  { sheets := Table.empty
    dependents := Table.empty
    counters := Table.empty
    subscriptions := Table.empty
    topics := Table.empty
    listeners := []
    nextListener := 0 }

def cellKey (sheet cell : String) : String :=
  sheet ++ "/" ++ cell

def topic (sheet cell : String) : String :=
  "pubsub:" ++ cellKey sheet cell

def subscriptionCounter : String := "subscription:counter"

def cells (store : Store) (sheet : String) : Table String :=
  (store.sheets.get? sheet).getD Table.empty

def cell? (store : Store) (sheet cell : String) : Option String :=
  (store.cells sheet).get? cell

def setCell (store : Store) (sheet cell value : String) : Store :=
  { store with
    sheets := store.sheets.insert sheet ((store.cells sheet).insert cell value) }

/-- A sheet exists as long as it has a cell. -/
def sheetExists (store : Store) (sheet : String) : Bool :=
  !(store.cells sheet).isEmpty

def dependentsOf (store : Store) (sheet cell : String) : IdSet :=
  (store.dependents.get? (cellKey sheet cell)).getD Table.empty

def addDependents (store : Store) (sheet cell : String) (ids : List String) : Store :=
  if ids.isEmpty then store
  else
    { store with
      dependents := store.dependents.insert (cellKey sheet cell)
        (ids.foldl IdSet.insert (store.dependentsOf sheet cell)) }

def removeDependents (store : Store) (sheet cell : String) (ids : List String) :
    Store :=
  let key := cellKey sheet cell
  match store.dependents.get? key with
  | none => store
  | some held =>
      let left : IdSet := ids.foldl Table.erase held
      { store with
        dependents :=
          if left.isEmpty then store.dependents.erase key
          else store.dependents.insert key left }

/-- The number of edges, which bounds every walk along them. -/
def edgeCount (store : Store) : Nat :=
  store.dependents.entries.foldl (fun count entry => count + entry.2.entries.length) 0

def increment (store : Store) (key : String) : Nat × Store :=
  let count := (store.counters.get? key).getD 0 + 1
  (count, { store with counters := store.counters.insert key count })

def subscription? (store : Store) (id : String) : Option SubscriptionRecord :=
  store.subscriptions.get? id

def setSubscription (store : Store) (id : String) (record : SubscriptionRecord) :
    Store :=
  { store with subscriptions := store.subscriptions.insert id record }

/-! Messages.  A topic has a channel from its first listener on.  A channel that is
left by all who listened on it stays until it is found to be abandoned. -/

def channel (store : Store) (topic : String) : List Nat :=
  (store.topics.get? topic).getD []

def isConnected (store : Store) (listener : Listener) : Bool :=
  (store.channel listener.topic).contains listener.id

def publish (store : Store) (topic message : String) : Store :=
  { store with
    topics :=
      if store.topics.get? topic = some [] then store.topics.erase topic
      else store.topics
    listeners := store.listeners.map fun listener =>
      if listener.topic = topic && store.isConnected listener then
        listener.receive message
      else listener }

/-- Drops the abandoned channels first, whatever topic they are of. -/
def dropAbandoned (store : Store) : Store :=
  { store with topics := store.topics.filter fun channel => !channel.isEmpty }

def listen (store : Store) (topic : String) : Nat × Store :=
  let id := store.nextListener
  let store := store.dropAbandoned
  (id,
    { store with
      topics := store.topics.insert topic (store.channel topic ++ [id])
      listeners := store.listeners ++ [Listener.fresh id topic]
      nextListener := id + 1 })

def listener? (store : Store) (id : Nat) : Option Listener :=
  store.listeners.find? fun listener => listener.id == id

/-- The next message of a listener, if one is pending.  Nothing but the error
comes behind the last message of a channel that is open no more. -/
def nextMessage? (store : Store) (id : Nat) :
    Option (Except StoreError String × Store) := do
  let listener ← store.listener? id
  match listener.next? with
  | some (message, after) =>
      some (.ok message,
        { store with
          listeners := store.listeners.map fun listener =>
            if listener.id = id then after else listener })
  | none =>
      if store.isConnected listener then none
      else some (.error (.backend ("topic " ++ listener.topic ++ " closed")), store)

def unlisten (store : Store) (id : Nat) : Store :=
  { store with
    topics := store.topics.map fun channel => channel.filter fun other => other != id
    listeners := store.listeners.filter fun listener => listener.id != id }

end Store

end LiveSheet
