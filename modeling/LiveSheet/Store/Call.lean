import LiveSheet.Store.State
import LiveSheet.Text.Blank

namespace LiveSheet

open LiveSheet.Text

inductive Call where
  | getCell (sheet cell : String)
  | setCell (sheet cell value : String)
  | getAllCells (sheet : String)
  | sheetExists (sheet : String)
  | getDependents (sheet cell : String)
  | addDependents (sheet cell : String) (ids : List String)
  | removeDependents (sheet cell : String) (ids : List String)
  | increment (key : String)
  | getSubscription (id : String)
  | setSubscription (id : String) (record : SubscriptionRecord)
  | publish (topic message : String)
  | subscribe (topic : String)
  | nextMessage (listener : Nat)
  deriving DecidableEq

namespace Call

def name : Call → String
  | .getCell .. => "get_cell"
  | .setCell .. => "set_cell"
  | .getAllCells _ => "get_all_cells"
  | .sheetExists _ => "sheet_exists"
  | .getDependents .. => "get_dependents"
  | .addDependents .. => "add_dependents"
  | .removeDependents .. => "remove_dependents"
  | .increment _ => "increment"
  | .getSubscription _ => "get_subscription"
  | .setSubscription .. => "set_subscription"
  | .publish .. => "publish"
  | .subscribe _ => "subscribe"
  | .nextMessage _ => "next_message"

def key : Call → String
  | .getCell sheet cell | .setCell sheet cell _ | .getDependents sheet cell
  | .addDependents sheet cell _ | .removeDependents sheet cell _ =>
      Store.cellKey sheet cell
  | .getAllCells sheet | .sheetExists sheet => sheet
  | .increment key => key
  | .getSubscription id | .setSubscription id _ => id
  | .publish topic _ | .subscribe topic => topic
  | .nextMessage listener => String.ofList (Nat.toDigits 10 listener)

def payload : Call → String
  | .setCell _ _ value => value
  | .addDependents _ _ ids | .removeDependents _ _ ids => String.intercalate "," ids
  | .setSubscription _ record => Store.cellKey record.sheet record.cell
  | .publish _ message => message
  | _ => ""

/-- Whether logs show a call and faults strike it.  A message is waited for on a channel that
the store has handed out before. -/
def isLogged : Call → Bool
  | .nextMessage _ => false
  | _ => true

def line (call : Call) : String :=
  String.ofList (trimEnd
    (call.name ++ " " ++ call.key ++ " " ++ call.payload).toList)

abbrev Answer : Call → Type
  | .getCell .. => String
  | .getAllCells _ => Table String
  | .sheetExists _ => Bool
  | .getDependents .. => IdSet
  | .increment _ => Nat
  | .getSubscription _ => SubscriptionRecord
  | .subscribe _ => Nat
  | .nextMessage _ => Option String
  | .setCell .. | .addDependents .. | .removeDependents ..
  | .setSubscription .. | .publish .. => Unit

/-- Carries a call out.  No message is the answer of a call that still waits for one. -/
def perform (store : Store) : (call : Call) → Except StoreError call.Answer × Store
  | .getCell sheet cell =>
      match store.cell? sheet cell with
      | some value => (.ok value, store)
      | none => (.error (.notFound (Store.cellKey sheet cell)), store)
  | .setCell sheet cell value => (.ok (), store.setCell sheet cell value)
  | .getAllCells sheet => (.ok (store.cells sheet), store)
  | .sheetExists sheet => (.ok (store.sheetExists sheet), store)
  | .getDependents sheet cell => (.ok (store.dependentsOf sheet cell), store)
  | .addDependents sheet cell ids => (.ok (), store.addDependents sheet cell ids)
  | .removeDependents sheet cell ids => (.ok (), store.removeDependents sheet cell ids)
  | .increment key =>
      let (count, store) := store.increment key
      (.ok count, store)
  | .getSubscription id =>
      match store.subscription? id with
      | some record => (.ok record, store)
      | none => (.error (.unknownSubscription id), store)
  | .setSubscription id record => (.ok (), store.setSubscription id record)
  | .publish topic message => (.ok (), store.publish topic message)
  | .subscribe topic =>
      let (listener, store) := store.listen topic
      (.ok listener, store)
  | .nextMessage listener =>
      match store.nextMessage? listener with
      | some (answer, store) => (answer.map some, store)
      | none => (.ok none, store)

end Call

end LiveSheet
