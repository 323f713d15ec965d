import LiveSheet.Proofs.Sheet.Parallel

namespace LiveSheet

open LiveSheet.Formula

namespace Access

open Hearing

variable {σ α : Type} {token : CancelToken} {astray steady : Prop}

/-- The calls that follow the one at which the token fires, where it is not heard. -/
def later (token : CancelToken) (other : Access (Unheard σ) α) (world : World σ) : List Call :=
  (other.leaves (world.unheard token)).conditions.later

/-- What comes of a token that fires, for a request next to the same request where the token
is not heard.  No call follows the one at which it fires; and a request for which one would
have followed is cancelled, unless it had come to `committed?` by then.  So is one that would
go on waiting with `idle?` for its answer. -/
structure Stops (token : CancelToken) (access : Access σ α) (other : Access (Unheard σ) α)
    (steady : Prop) (committed? idle? : Option α) (world : World σ) : Prop where
  last : (other.leaves (world.unheard token)).calls =
    later token other world ++ (access.leaves world).calls
  committed : ∀ outcome, committed? = some outcome → access.answer world = .ok outcome
  cancelled : steady → later token other world ≠ [] → committed? = none →
    access.answer world = .error .cancelled
  unchanged : steady → later token other world = [] →
    access.answer world = .error .cancelled ∨
      access.answer world = other.answer (world.unheard token)
  idle : ∀ waiting, idle? = some waiting → other.answer (world.unheard token) = .ok waiting →
    (access.leaves world).isFired token = true → access.answer world = .error .cancelled

section

variable {access : Access σ α} {other : Access (Unheard σ) α} {world : World σ}

theorem leaves_eq (access : Access σ α) (world : World σ) :
    access.leaves world = endState (access world) := by
  rw [leaves]
  cases access world <;> rfl

theorem later_of_unheard {last : World σ}
    (h : other.leaves (world.unheard token) = last.unheard token) :
    later token other world = [] := by
  rw [later, h]
  rfl

theorem stops_of_alike {last : World σ} {committed? : Option α}
    (result : Except StoreError α) (hleft : access world = endsWith last result)
    (hright : other (world.unheard token) = endsWith (last.unheard token) result)
    (hcommitted : ∀ outcome, committed? = some outcome → access.answer world = .ok outcome) :
    Stops token access other steady committed? none world := by
  have hlater := later_of_unheard (leaves_of_ends hright)
  refine ⟨?_, hcommitted, fun _ hlast => absurd hlater hlast, fun _ _ => Or.inr ?_, nofun⟩
  · rw [hlater, leaves_of_ends hright, leaves_of_ends hleft]
    rfl
  · rw [answer_of_ends hleft, answer_of_ends hright]

theorem stops_of_ends {committed? : Option α} (hsteady : steady → ¬astray)
    (hcommitted : ∀ outcome, committed? = some outcome → access.answer world = .ok outcome)
    (h : (ofWorld token).Ends astray (access world) (other (world.unheard token))) :
    Stops token access other steady committed? none world := by
  generalize hleft : access world = first at h
  generalize hright : other (world.unheard token) = second at h
  cases h with
  | ok answer => exact stops_of_alike (.ok answer) hleft hright hcommitted
  | error error => exact stops_of_alike (.error error) hleft hright hcommitted
  | cut hapart =>
      have hanswer : access.answer world = .error .cancelled := answer_of_ends hleft
      refine ⟨?_, hcommitted, fun _ _ _ => hanswer, fun _ _ => Or.inl hanswer, nofun⟩
      rw [later, leaves_eq, leaves_eq, hleft, hright]
      exact hapart.calls
  | astray hallowed _ hapart =>
      have hno (hsteadily : steady) : False := hsteady hsteadily hallowed
      refine ⟨?_, hcommitted, fun h => (hno h).elim, fun h => (hno h).elim, nofun⟩
      rw [later, leaves_eq, leaves_eq, hleft, hright]
      exact hapart.calls

theorem stops_of_parallel (hsteady : steady → ¬astray)
    (h : (ofWorld token).Parallel astray access other) (world : World σ) :
    Stops token access other steady none none world :=
  stops_of_ends hsteady nofun (h.ends world trivial)

theorem stops_of_committed {committed? : Option α} {outcome : α} {last : World σ}
    {end' : World (Unheard σ)} (hcommitted : committed? = some outcome)
    (hleft : access world = .ok outcome last)
    (hright : other (world.unheard token) = .ok outcome end')
    (hapart : World.Apart token last end') :
    Stops token access other steady committed? none world := by
  have hanswer : access.answer world = .ok outcome := answer_of_ends hleft
  have hother : other.answer (world.unheard token) = .ok outcome := answer_of_ends hright
  refine ⟨?_, ?_, ?_, fun _ _ => Or.inr (hanswer.trans hother.symm), nofun⟩
  · rw [later, leaves_eq, leaves_eq, hleft, hright]
    exact hapart.calls
  · intro settled hsettled
    cases hcommitted.symm.trans hsettled
    exact hanswer
  · intro _ _ hnone
    cases hcommitted.symm.trans hnone

end

end Access

namespace Solve

open Hearing

variable [Interference σ]

/-- A write up to the point where it is refused, or its value and its edges are stored. -/
def settle (edges : Edges) (cell value : String) : Solve σ WriteOutcome := do
  match ← consider edges (canonical cell) value with
  | .error response => pure (.rejected response)
  | .ok response =>
      onWorld (edges.commit (canonical cell) value)
      pure (.committed response)

theorem settle_parallel (edges : Edges) (fetch : Fetch) (cell value : String) :
    (ofSession edges.token fetch : Hearing σ _ _).Parallel (¬fetch.Steady)
      (settle edges cell value) (settle edges cell value) := by
  refine (consider_parallel edges (canonical cell) value).bind fun verdict => ?_
  cases verdict with
  | error response => exact parallel_pure _
  | ok response =>
      exact (onWorld_parallel (edges.commit_parallel (canonical cell) value)).bind fun _ =>
        parallel_pure _

/-- What a write has come to when its value and its edges are stored. -/
def committed? (edges : Edges) (cell value : String) (solver : Solver) (world : World σ) :
    Option WriteOutcome :=
  match within (settle edges cell value) solver world with
  | .ok (.committed response) _ => some (.committed response)
  | _ => none

theorem committed?_of_ok {edges : Edges} {cell value : String} {solver : Solver}
    {world last : World σ} {outcome : WriteOutcome} (hcommitted : outcome.isCommitted = true)
    (h : within (settle edges cell value) solver world = .ok outcome last) :
    committed? edges cell value solver world = some outcome := by
  cases outcome with
  | rejected response => cases hcommitted
  | committed response => rw [committed?, h]

theorem ok_of_committed? {edges : Edges} {cell value : String} {solver : Solver}
    {world : World σ} {outcome : WriteOutcome}
    (h : committed? edges cell value solver world = some outcome) :
    ∃ last, within (settle edges cell value) solver world = .ok outcome last := by
  rw [committed?] at h
  split at h
  · rename_i response last hrun
    cases h
    exact ⟨last, hrun⟩
  · cases h

end Solve

namespace Edges

open Access Hearing

variable [Interference σ]

def tell (edges : Edges) (cell : String) : Access σ Unit :=
  tryCatch (do let _ ← edges.notify cell; pure ()) fun _ => pure ()

def finish (edges : Edges) (cell : String) : WriteOutcome → Access σ WriteOutcome
  | .rejected response => pure (.rejected response)
  | .committed response => do
      edges.tell cell
      pure (.committed response)

theorem within_upsert (edges : Edges) (cell value : String) (solver : Solver) :
    (Solve.within (Solve.upsert edges cell value) solver : Access σ WriteOutcome) =
      Solve.within (Solve.settle edges cell value) solver >>=
        edges.finish (canonical cell) := by
  rw [← Solve.within_bind_onWorld]
  refine congrArg (Solve.within · solver) ?_
  rw [Solve.upsert_eq, Solve.settle, bind_assoc]
  refine bind_congr fun verdict => ?_
  cases verdict with
  | error response => rfl
  | ok response =>
      dsimp only
      rw [Solve.store, Solve.onWorld_bind, bind_assoc, bind_assoc]
      refine bind_congr fun _ => ?_
      rw [pure_bind, finish, Solve.onWorld_bind]
      rfl

theorem finish_moves {edges : Edges} {cell : String} {rel : World σ → World σ → Prop}
    (hrefl : ∀ world, rel world world)
    (htrans : ∀ {first second third}, rel first second → rel second third → rel first third)
    (h : Moves rel (edges.notify cell)) (outcome : WriteOutcome) :
    Moves rel (edges.finish cell outcome) := by
  cases outcome with
  | rejected response => exact moves_pure hrefl _
  | committed response =>
      have hnotify : Moves rel (do let _ ← edges.notify cell; pure () : Access σ Unit) :=
        h.bind hrefl htrans fun _ => moves_pure hrefl ()
      have htell : Moves rel (edges.tell cell) :=
        hnotify.tryCatch hrefl htrans fun _ => moves_pure hrefl ()
      exact htell.bind hrefl htrans fun _ => moves_pure hrefl _

theorem tell_ends (edges : Edges) (cell : String) (world : World σ) :
    ∃ last other, edges.tell cell world = .ok () last ∧
      edges.tell cell (world.unheard edges.token) = .ok () other ∧
      (other = last.unheard edges.token ∨ World.Apart edges.token last other) := by
  have hnotify : (ofWorld edges.token : Hearing σ _ _).Parallel False
      (do let _ ← edges.notify cell; pure ()) (do let _ ← edges.notify cell; pure ()) :=
    (edges.notify_parallel cell).bind fun _ => parallel_pure ()
  have hends := hnotify.ends world trivial
  rw [tell, tell]
  generalize hleft : (do let _ ← edges.notify cell; pure () : Access σ Unit) world = first
    at hends
  generalize hright : (do let _ ← edges.notify cell; pure () : Access (Unheard σ) Unit)
    ((ofWorld edges.token).unheard world) = second at hends
  cases hends with
  | ok answer =>
      exact ⟨_, _, tryCatch_of_ok hleft, tryCatch_of_ok hright, Or.inl rfl⟩
  | error error =>
      exact ⟨_, _, tryCatch_of_error hleft, tryCatch_of_error hright, Or.inl rfl⟩
  | cut hapart =>
      cases second with
      | ok answer other =>
          exact ⟨_, _, tryCatch_of_error hleft, tryCatch_of_ok hright, Or.inr hapart⟩
      | error error other =>
          exact ⟨_, _, tryCatch_of_error hleft, tryCatch_of_error hright, Or.inr hapart⟩
  | astray hallowed => exact hallowed.elim

theorem finish_ends (edges : Edges) (cell : String) (outcome : WriteOutcome) (world : World σ) :
    ∃ last other, edges.finish cell outcome world = .ok outcome last ∧
      edges.finish cell outcome (world.unheard edges.token) = .ok outcome other ∧
      (other = last.unheard edges.token ∨
        outcome.isCommitted = true ∧ World.Apart edges.token last other) := by
  cases outcome with
  | rejected response => exact ⟨world, world.unheard edges.token, rfl, rfl, Or.inl rfl⟩
  | committed response =>
      obtain ⟨last, other, hleft, hright, hends⟩ := edges.tell_ends cell world
      exact ⟨last, other, bind_of_ok hleft, bind_of_ok hright,
        hends.imp_right fun hapart => ⟨rfl, hapart⟩⟩

end Edges

namespace Solve

open Access Hearing

variable [Interference σ]

theorem upsert_stops (edges : Edges) (solver : Solver) (htoken : edges.token = solver.token)
    (cell value : String) (world : World σ) :
    Stops solver.token (within (upsert edges cell value) solver)
      (within (upsert edges cell value) solver) solver.fetch.Steady
      (committed? edges cell value solver world) none world := by
  have hsettle : (ofWorld solver.token : Hearing σ _ _).Parallel (¬solver.fetch.Steady)
      (within (settle edges cell value) solver) (within (settle edges cell value) solver) :=
    within_parallel solver (htoken ▸ settle_parallel edges solver.fetch cell value)
  have hnotify : (ofWorld solver.token : Hearing σ _ _).Parallel False
      (edges.notify (canonical cell)) (edges.notify (canonical cell)) :=
    htoken ▸ edges.notify_parallel (canonical cell)
  rw [edges.within_upsert, edges.within_upsert]
  have hanswer (outcome : WriteOutcome)
      (h : committed? edges cell value solver world = some outcome) :
      (within (settle edges cell value) solver >>= edges.finish (canonical cell)).answer world =
        .ok outcome := by
    obtain ⟨settled, hsettled⟩ := ok_of_committed? h
    obtain ⟨last, -, hfinish, -⟩ := edges.finish_ends (canonical cell) outcome settled
    have hrun : (within (settle edges cell value) solver >>= edges.finish (canonical cell))
        world = endsWith last (.ok outcome) :=
      (bind_of_ok hsettled).trans hfinish
    exact Access.answer_of_ends hrun
  -- Settled alike, the two differ at most in how far they tell of the change.
  rcases hsettle.bind_cases (Edges.finish_moves stays_refl Stays.trans hnotify.stays)
    (Edges.finish_moves notes_refl Notes.trans hnotify.notes) trivial with
    ⟨outcome, settled, -, hleft, hright⟩ | hends
  · obtain ⟨last, other, hfinish, hfinished, hends⟩ :=
      edges.finish_ends (canonical cell) outcome settled
    have hleft' := (bind_of_ok hleft).trans hfinish
    have hright' := (bind_of_ok hright).trans (htoken ▸ hfinished)
    rcases hends with rfl | ⟨hcommitted, hapart⟩
    · exact stops_of_alike (.ok outcome) hleft' (htoken ▸ hright') hanswer
    · exact stops_of_committed (committed?_of_ok hcommitted hleft) hleft' hright'
        (htoken ▸ hapart)
  · exact stops_of_ends not_not_intro hanswer hends

end Solve

namespace Engine

open Access Hearing

variable [Interference σ] {astray : Prop}

theorem getCell_parallel (engine : Engine) (sheet cell : String) :
    (ofWorld engine.token : Hearing σ _ _).Parallel (¬engine.fetch.Steady)
      (engine.getCell sheet cell) (engine.getCell sheet cell) :=
  Solve.within_parallel (engine.solver sheet)
    ((Solve.resolve_parallel cell).bind fun _ => parallel_pure _)

theorem getSheet_parallel (engine : Engine) (sheet : String) :
    (ofWorld engine.token : Hearing σ _ _).Parallel (¬engine.fetch.Steady)
      (engine.getSheet sheet) (engine.getSheet sheet) := by
  refine (request_parallel (.sheetExists (canonical sheet))).bind fun hasCells => ?_
  split
  · have hpreload : (ofSession engine.token engine.fetch : Hearing σ _ _).Parallel
        (¬engine.fetch.Steady) Solve.preload Solve.preload :=
      Solve.preload_parallel
    exact Solve.within_parallel (engine.solver (canonical sheet))
      (hpreload.bind fun cells => Solve.resolveAll_parallel cells _)
  · exact parallel_throw _

theorem createSubscription_parallel (engine : Engine) (sheet cell : String) :
    (ofWorld engine.token : Hearing σ _ _).Parallel astray
      (engine.createSubscription sheet cell) (engine.createSubscription sheet cell) :=
  (request_parallel (.increment Store.subscriptionCounter)).bind fun _ =>
    (request_parallel _).bind fun _ => parallel_pure _

theorem openSubscription_parallel (engine : Engine) (id : String) :
    (ofWorld engine.token : Hearing σ _ _).Parallel astray
      (engine.openSubscription id) (engine.openSubscription id) :=
  (request_parallel (.getSubscription id)).bind fun _ =>
    (request_parallel _).bind fun _ => parallel_pure _

end Engine

namespace Feed

open Access Hearing

variable [Interference σ]

theorem nextUpdate_parallel (feed : Feed) :
    (ofWorld feed.engine.token : Hearing σ _ _).Parallel (¬feed.engine.fetch.Steady)
      feed.nextUpdate feed.nextUpdate := by
  refine feed.nextMessage_parallel.bind fun message => ?_
  cases message with
  | none => exact parallel_pure none
  | some message => exact (feed.engine.getCell_parallel _ _).map some

theorem isFired_of_nextMessage {feed : Feed} {world last : World σ}
    (h : feed.nextMessage world = .ok none last) : last.isFired feed.engine.token = false := by
  obtain ⟨message, middle, -, hrest⟩ := exists_of_bind_ok h
  cases message with
  | some message => cases hrest
  | none =>
      obtain ⟨_, after, hheeds, hlast⟩ := exists_of_bind_ok hrest
      cases hlast
      unfold heed at hheeds
      split at hheeds
      · cases hheeds
      · rename_i hfired
        cases hheeds
        exact Bool.eq_false_iff.mpr hfired

theorem nextUpdate_ne_none {feed : Feed} {message : String} {world last : World σ}
    (h : feed.nextMessage world = .ok (some message) last) :
    feed.nextUpdate.answer world ≠ .ok none := by
  rw [answer, nextUpdate, bind_of_ok h]
  cases hread : feed.engine.getCell feed.record.sheet feed.record.cell last with
  | ok response after => simp [map_of_ok some hread]
  | error error after => simp [map_of_error some hread]

theorem nextUpdate_cancelled (feed : Feed) (world : World σ)
    (hidle : feed.nextUpdate.answer (world.unheard feed.engine.token) = .ok none)
    (hfired : (feed.nextUpdate.leaves world).isFired feed.engine.token = true) :
    feed.nextUpdate.answer world = .error .cancelled := by
  have hmessage : (ofWorld feed.engine.token : Hearing σ _ _).Parallel False feed.nextMessage
      feed.nextMessage := feed.nextMessage_parallel
  have hends := hmessage.ends world trivial
  rw [show (ofWorld feed.engine.token).unheard world = world.unheard feed.engine.token from rfl]
    at hends
  generalize hleft : feed.nextMessage world = first at hends
  generalize hright : feed.nextMessage (world.unheard feed.engine.token) = second at hends
  cases hends with
  | ok message =>
      cases message with
      | some message => exact absurd hidle (nextUpdate_ne_none hright)
      | none =>
          rw [leaves, nextUpdate, bind_of_ok hleft] at hfired
          exact Bool.noConfusion (hfired.symm.trans (isFired_of_nextMessage hleft))
  | error error =>
      rw [answer, nextUpdate, bind_of_error hright] at hidle
      cases hidle
  | cut => rw [answer, nextUpdate, bind_of_error hleft]
  | astray hallowed => exact hallowed.elim

end Feed

/-- What can be asked of an engine, a solver or the edges of a sheet under one token. -/
inductive Operation where
  | getCell (engine : Engine) (sheet cell : String)
  | getSheet (engine : Engine) (sheet : String)
  | upsert (engine : Engine) (sheet cell value : String)
  | createSubscription (engine : Engine) (sheet cell : String)
  | openSubscription (engine : Engine) (id : String)
  | nextUpdate (feed : Feed)
  | preload (solver : Solver)
  | resolve (solver : Solver) (cell : String)
  | validateDependents (solver : Solver) (sheet cell : String)
  | write (solver : Solver) (sheet cell value : String)
  | commit (edges : Edges) (cell value : String)
  | notify (edges : Edges) (cell : String)

namespace Operation

abbrev Answer : Operation → Type
  | .getCell .. => CellResponse
  | .getSheet .. => SheetResponse
  | .upsert .. | .write .. => WriteOutcome
  | .createSubscription .. => String
  | .openSubscription .. => Feed
  | .nextUpdate _ => Option CellResponse
  | .preload _ => List String
  | .resolve .. => Resolution
  | .validateDependents .. => Option FormulaError
  | .commit .. => Unit
  | .notify .. => Nat

def token : Operation → CancelToken
  | .getCell engine .. | .getSheet engine _ | .upsert engine .. | .createSubscription engine ..
  | .openSubscription engine _ => engine.token
  | .nextUpdate feed => feed.engine.token
  | .preload solver | .resolve solver _ | .validateDependents solver .. | .write solver .. =>
      solver.token
  | .commit edges .. | .notify edges _ => edges.token

/-- Whether what the operation may fetch pays heed to the token in a way it can rely on. -/
def IsSteady : Operation → Prop
  | .getCell engine .. | .getSheet engine _ | .upsert engine .. => engine.fetch.Steady
  | .nextUpdate feed => feed.engine.fetch.Steady
  | .resolve solver _ | .validateDependents solver .. | .write solver .. => solver.fetch.Steady
  | .createSubscription .. | .openSubscription .. | .preload _ | .commit .. | .notify .. => True

/-- What the operation answers as long as it has to wait. -/
def idle? : (operation : Operation) → Option operation.Answer
  | .nextUpdate _ => some none
  | _ => none

open Access

variable [Interference σ]

def run : (operation : Operation) → Access σ operation.Answer
  | .getCell engine sheet cell => engine.getCell sheet cell
  | .getSheet engine sheet => engine.getSheet sheet
  | .upsert engine sheet cell value => engine.upsert sheet cell value
  | .createSubscription engine sheet cell => engine.createSubscription sheet cell
  | .openSubscription engine id => engine.openSubscription id
  | .nextUpdate feed => feed.nextUpdate
  | .preload solver => Solve.within Solve.preload solver
  | .resolve solver cell => Solve.within (Solve.resolve cell) solver
  | .validateDependents solver sheet cell =>
      Solve.within (Solve.validateDependents { sheet, token := solver.token } cell) solver
  | .write solver sheet cell value =>
      Solve.within (Solve.upsert { sheet, token := solver.token } cell value) solver
  | .commit edges cell value => edges.commit cell value
  | .notify edges cell => edges.notify cell

/-- What the operation has come to if it is a write whose value and edges are stored. -/
def committed? : (operation : Operation) → World σ → Option operation.Answer
  | .upsert engine sheet cell value =>
      Solve.committed? (Edges.ofSheet engine.token sheet) cell value (engine.solver sheet)
  | .write solver sheet cell value =>
      Solve.committed? { sheet, token := solver.token } cell value solver
  | _ => fun _ => none

theorem stops (operation : Operation) (world : World σ) :
    Access.Stops operation.token operation.run operation.run operation.IsSteady
      (operation.committed? world) operation.idle? world := by
  cases operation with
  | getCell engine sheet cell =>
      exact stops_of_parallel not_not_intro (engine.getCell_parallel sheet cell) world
  | getSheet engine sheet =>
      exact stops_of_parallel not_not_intro (engine.getSheet_parallel sheet) world
  | upsert engine sheet cell value =>
      exact Solve.upsert_stops (Edges.ofSheet engine.token sheet) (engine.solver sheet) rfl cell
        value world
  | createSubscription engine sheet cell =>
      exact stops_of_parallel (fun _ => not_false)
        (engine.createSubscription_parallel sheet cell) world
  | openSubscription engine id =>
      exact stops_of_parallel (fun _ => not_false) (engine.openSubscription_parallel id) world
  | nextUpdate feed =>
      have hstops := stops_of_parallel not_not_intro feed.nextUpdate_parallel world
      refine { hstops with idle := ?_ }
      rintro _ hidle
      cases hidle
      exact feed.nextUpdate_cancelled world
  | preload solver =>
      exact stops_of_parallel (fun _ => not_false)
        (Solve.within_parallel solver Solve.preload_parallel) world
  | resolve solver cell =>
      exact stops_of_parallel not_not_intro
        (Solve.within_parallel solver (Solve.resolve_parallel cell)) world
  | validateDependents solver sheet cell =>
      exact stops_of_parallel not_not_intro
        (Solve.within_parallel solver
          (Solve.validateDependents_parallel { sheet, token := solver.token } cell)) world
  | write solver sheet cell value =>
      exact Solve.upsert_stops { sheet, token := solver.token } solver rfl cell value world
  | commit edges cell value =>
      exact stops_of_parallel (fun _ => not_false) (edges.commit_parallel cell value) world
  | notify edges cell =>
      exact stops_of_parallel (fun _ => not_false) (edges.notify_parallel cell) world

structure Firing where
  token : CancelToken
  isDue : Call → Bool

instance : Interference Firing where
  react firing call :=
    ({ fires := if firing.isDue call then [firing.token] else [], failure := none }, firing)

def firingWorld (isDue : Call → Bool) : World Firing :=
  { store :=
      ((((Store.empty.setCell "s" "a" "1").setCell "s" "b" "2").setCell "s" "c" "=a+b")
        |>.addDependents "s" "a" ["c"]
        |>.addDependents "s" "b" ["c"]
        |>.listen (Store.topic "s" "c")).2
    calls := []
    fired := []
    conditions := { token := 0, isDue } }

def firingAtRead : World Firing :=
  firingWorld (· == .getCell "s" "a")

def firingAtNotice : World Firing :=
  firingWorld fun
    | .publish .. => true
    | _ => false

def firingAtWait : World Firing :=
  firingWorld (· == .nextMessage 0)

theorem stops_sample :
    let engine : Engine := { fetch := Fetch.disabled, token := 0 }
    let read : Operation := .getCell engine "S" "C"
    let written : Operation := .upsert engine "S" "A" "5"
    let waits : Operation :=
      .nextUpdate { engine, record := SubscriptionRecord.ofIds "S" "C", listener := 0 }
    (later 0 read.run firingAtRead = [.getCell "s" "b"] ∧
      (read.run.leaves firingAtRead).calls = [.getCell "s" "a", .getCell "s" "c"] ∧
      read.run.answer firingAtRead = .error .cancelled) ∧
    (later 0 written.run firingAtNotice =
        [.getDependents "s" "c", .publish (Store.topic "s" "c") "c", .getDependents "s" "a"] ∧
      written.run.answer firingAtNotice =
        .ok (.committed { value := "5", result := "5", error := none })) ∧
    (waits.run.answer (firingAtWait.unheard 0) = .ok none ∧
      (waits.run.leaves firingAtWait).calls = [.nextMessage 0] ∧
      waits.run.answer firingAtWait = .error .cancelled) := by
  intro engine read written waits
  have hread := read.stops firingAtRead
  have hlater : later 0 read.run firingAtRead = [.getCell "s" "b"] := by
    decide +kernel
  have hcalls : (read.run.leaves (firingAtRead.unheard 0)).calls =
      [.getCell "s" "b", .getCell "s" "a", .getCell "s" "c"] := by
    decide +kernel
  have hsteady : read.IsSteady := Fetch.disabled_steady
  have hmore : later 0 read.run firingAtRead ≠ [] := by
    rw [hlater]
    exact List.cons_ne_nil _ _
  refine ⟨⟨hlater, ?_, hread.cancelled hsteady hmore rfl⟩, ⟨by decide +kernel, ?_⟩, ?_⟩
  · have hlast := hread.last
    change (read.run.leaves (firingAtRead.unheard 0)).calls =
      later 0 read.run firingAtRead ++ _ at hlast
    rw [hcalls, hlater] at hlast
    exact (List.cons.inj hlast).2.symm
  · have hwritten := written.stops firingAtNotice
    have hcommitted : written.committed? firingAtNotice =
        some (.committed { value := "5", result := "5", error := none }) := by
      decide +kernel
    exact hwritten.committed _ hcommitted
  · have hwaits := waits.stops firingAtWait
    have hidle : waits.run.answer (firingAtWait.unheard 0) = .ok (none : Option CellResponse) := by
      decide +kernel
    have hfired : (waits.run.leaves firingAtWait).isFired 0 = true := by decide +kernel
    exact ⟨hidle, by decide +kernel, hwaits.idle none rfl hidle hfired⟩

end Operation

end LiveSheet
