import LiveSheet.Console.Command

namespace LiveSheet

open LiveSheet.Console

/-! A console drives one store by commands.  It names its solvers, feeds and
listeners, which keep the token and the engine they were made with. -/

structure Console where
  world : World Faults
  external : Fetch
  isConnected : Bool
  solvers : Table Solver
  feeds : Table Feed
  listeners : Table Nat

namespace Console

def start (external : Fetch) : Console :=
  { world := World.start { current := 0, faults := [] }
    external
    isConnected := true
    solvers := Table.empty
    feeds := Table.empty
    listeners := Table.empty }

def token (console : Console) : CancelToken :=
  console.world.conditions.current

def engine (console : Console) : Engine :=
  { fetch := if console.isConnected then console.external else Fetch.disabled
    token := console.token }

def edges (console : Console) (sheet : String) : Edges :=
  Edges.ofSheet console.token sheet

def changeStore (console : Console) (change : Store → Store) : Console :=
  { console with
    world := { console.world with store := change console.world.store } }

def request (console : Console) (access : Access Faults α) (answer : α → Answer) :
    Answer × Console :=
  match access console.world with
  | .ok value world => (answer value, { console with world })
  | .error error world => (.failed error, { console with world })

/-- A step with the solver of that name, which lives on after a failure. -/
def solve (console : Console) (name : String) (step : Solve Faults α)
    (answer : α → Answer) : Answer × Console :=
  match console.solvers.get? name with
  | none => (.noHandle, console)
  | some solver =>
      match step { solver, world := console.world } with
      | .ok value session =>
          (answer value,
            { console with
              world := session.world
              solvers := console.solvers.insert name session.solver })
      | .error error session =>
          (.failed error,
            { console with
              world := session.world
              solvers := console.solvers.insert name session.solver })

def openFeed (console : Console) (id name : String) : Answer × Console :=
  match console.engine.openSubscription id console.world with
  | .error error world => (.failed error, { console with world })
  | .ok feed world =>
      let world := (console.feeds.get? name).elim world fun old => old.close world
      (.record feed.record,
        { console with world, feeds := console.feeds.insert name feed })

def drain (console : Console) (name : String) : Answer × Console :=
  match console.feeds.get? name with
  | none => (.noHandle, console)
  | some feed =>
      let ((updates, ended), world) := feed.drain console.world
      (.updates updates ended, { console with world })

def close (console : Console) (name : String) : Answer × Console :=
  match console.feeds.get? name with
  | none => (.closed false, console)
  | some feed =>
      (.closed true,
        { console with
          world := feed.close console.world
          feeds := console.feeds.erase name })

def listen (console : Console) (topic name : String) : Answer × Console :=
  let (listener, store) := console.world.store.listen topic
  let store := (console.listeners.get? name).elim store store.unlisten
  (.done,
    { console with
      world := { console.world with store }
      listeners := console.listeners.insert name listener })

def takeMessages (listener : Nat) : Nat → Store → List String × Store
  | 0, store => ([], store)
  | bound + 1, store =>
      match store.nextMessage? listener with
      | none => ([], store)
      | some (.error _, store) => ([], store)
      | some (.ok message, store) =>
          let (messages, store) := takeMessages listener bound store
          (message :: messages, store)

def messages (console : Console) (name : String) : Answer × Console :=
  match console.listeners.get? name with
  | none => (.noHandle, console)
  | some listener =>
      let store := console.world.store
      let waiting := (store.listener? listener).elim 0 Listener.waiting
      let (messages, store) := takeMessages listener waiting store
      (.messages messages, { console with world := { console.world with store } })

def unlisten (console : Console) (name : String) : Answer × Console :=
  match console.listeners.get? name with
  | none => (.closed false, console)
  | some listener =>
      (.closed true,
        { (console.changeStore (·.unlisten listener)) with
          listeners := console.listeners.erase name })

def changeFaults (console : Console) (change : Faults → Faults) : Console :=
  { console with
    world := { console.world with conditions := change console.world.conditions } }

/-- A question to the store itself, past the faults and unlogged. -/
def ask (console : Console) (call : Call) (answer : call.Answer → Answer) :
    Answer × Console :=
  match call.perform console.world.store with
  | (.ok value, store) =>
      (answer value, { console with world := { console.world with store } })
  | (.error error, _) => (.failed error, console)

def run (console : Console) : Command → Answer × Console
  | .write sheet cell value =>
      console.request (console.engine.upsert sheet cell value) .wrote
  | .read sheet cell => console.request (console.engine.getCell sheet cell) .cell
  | .readSheet sheet => console.request (console.engine.getSheet sheet) .sheet
  | .subscribe sheet cell =>
      console.request (console.engine.createSubscription sheet cell) .id
  | .openFeed id name => console.openFeed id name
  | .drain name => console.drain name
  | .close name => console.close name
  | .solver sheet name =>
      let solver := console.engine.solver sheet
      (.solver solver.sheet,
        { console with solvers := console.solvers.insert name solver })
  | .override name cell value =>
      console.solve name (Solve.onSolver (·.setCell cell value)) fun _ => .done
  | .resolve name cell => console.solve name (Solve.resolve cell) .resolved
  | .preload name => console.solve name Solve.preload .ids
  | .writeWith sheet name cell value =>
      console.solve name (Solve.upsert (console.edges sheet) cell value) .wrote
  | .validate sheet name cell =>
      console.solve name (Solve.validateDependents (console.edges sheet) cell) .broken
  | .commit sheet cell value =>
      console.request ((console.edges sheet).commit cell value) fun _ => .done
  | .notify sheet cell => console.request ((console.edges sheet).notify cell) .notified
  | .put sheet cell value => (.done, console.changeStore (·.setCell sheet cell value))
  | .load sheet cells =>
      (.done, console.changeStore fun store =>
        cells.foldl (fun store entry => store.setCell sheet entry.1 entry.2) store)
  | .raw sheet cell => console.ask (.getCell sheet cell) .value
  | .all sheet => console.ask (.getAllCells sheet) .values
  | .present sheet => console.ask (.sheetExists sheet) .present
  | .dependents sheet cell => console.ask (.getDependents sheet cell) (.ids ·.toList)
  | .link sheet cell ids => console.ask (.addDependents sheet cell ids) fun _ => .done
  | .unlink sheet cell ids =>
      console.ask (.removeDependents sheet cell ids) fun _ => .done
  | .increment key => console.ask (.increment key) .count
  | .setRecord id sheet cell =>
      console.ask (.setSubscription id (SubscriptionRecord.ofIds sheet cell))
        fun _ => .done
  | .getRecord id => console.ask (.getSubscription id) .record
  | .publish topic message => console.ask (.publish topic message) fun _ => .done
  | .listen topic name => console.listen topic name
  | .messages name => console.messages name
  | .unlisten name => console.unlisten name
  | .cancel => (.done, { console with world := console.world.fire console.token })
  | .renew =>
      (.done, console.changeFaults fun faults =>
        { faults with current := faults.current + 1 })
  | .fault fault =>
      (.done, console.changeFaults fun faults =>
        { faults with faults := faults.faults ++ [fault] })
  | .heal => (.done, console.changeFaults fun faults => { faults with faults := [] })
  | .trace =>
      (.calls ((console.world.calls.reverse.filter Call.isLogged).map Call.line),
        { console with world := { console.world with calls := [] } })
  | .disconnect => (.done, { console with isConnected := false })
  | .reconnect => (.done, { console with isConnected := true })

end Console

end LiveSheet
