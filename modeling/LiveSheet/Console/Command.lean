import LiveSheet.Console.Fault
import LiveSheet.Sheet.Feed

namespace LiveSheet.Console

open LiveSheet.Formula

inductive Command where
  -- requests on the engine
  | write (sheet cell value : String)
  | read (sheet cell : String)
  | readSheet (sheet : String)
  | subscribe (sheet cell : String)
  | openFeed (id name : String)
  | drain (name : String)
  | close (name : String)
  -- solvers that live on between commands
  | solver (sheet name : String)
  | override (name cell value : String)
  | resolve (name cell : String)
  | preload (name : String)
  | writeWith (sheet name cell value : String)
  | validate (sheet name cell : String)
  | commit (sheet cell value : String)
  | notify (sheet cell : String)
  -- the store itself
  | put (sheet cell value : String)
  | load (sheet : String) (cells : List (String × String))
  | raw (sheet cell : String)
  | all (sheet : String)
  | present (sheet : String)
  | dependents (sheet cell : String)
  | link (sheet cell : String) (ids : List String)
  | unlink (sheet cell : String) (ids : List String)
  | increment (key : String)
  | setRecord (id sheet cell : String)
  | getRecord (id : String)
  | publish (topic message : String)
  | listen (topic name : String)
  | messages (name : String)
  | unlisten (name : String)
  -- the conditions everything works under
  | cancel
  | renew
  | fault (fault : Fault)
  | heal
  | trace
  | disconnect
  | reconnect

inductive Answer where
  | done
  | wrote (outcome : WriteOutcome)
  | cell (response : CellResponse)
  | sheet (cells : SheetResponse)
  | id (id : String)
  | record (record : SubscriptionRecord)
  | updates (updates : List CellResponse) (ended : Option StoreError)
  | closed (existed : Bool)
  | solver (sheet : String)
  | resolved (resolution : Resolution)
  | ids (ids : List String)
  | broken (error : Option FormulaError)
  | notified (count : Nat)
  | value (value : String)
  | values (values : Table String)
  | present (isPresent : Bool)
  | count (count : Nat)
  | messages (messages : List String)
  | calls (lines : List String)
  | failed (error : StoreError)
  | noHandle

end LiveSheet.Console
