import LiveSheet.Proofs.Sheet.Interruption
import LiveSheet.Proofs.Sheet.Listening
import LiveSheet.Sheet.Feed

namespace LiveSheet

open LiveSheet.Formula

/-! A store in use.  Between the writes feeds are opened, read and closed, which leaves
cells and edges alone and every listener but those that are read from or end. -/

namespace Call

def Spares (call : Call) : Prop :=
  ∀ store : Store, store.Keeps (call.perform store).2

theorem spares_of_isRead {call : Call} (h : call.isRead = true) : call.Spares := by
  intro store
  rw [perform_of_isRead h]
  exact Store.Keeps.refl store

/-- The calls by which feeds are opened and read, from one listener at most. -/
inductive ByFeeds (reader? : Option Nat) : Call → Prop
  | reads {call : Call} (isRead : call.isRead = true) : ByFeeds reader? call
  | listens {topic : String} : ByFeeds reader? (.subscribe topic)
  | takes {listener : Nat} (isReader : reader? = some listener) :
      ByFeeds reader? (.nextMessage listener)

namespace ByFeeds

variable {reader? : Option Nat} {call : Call}

theorem spares (h : ByFeeds reader? call) : call.Spares := by
  intro store
  cases h with
  | reads hread => exact spares_of_isRead hread store
  | listens => exact ⟨rfl, rfl⟩
  | @takes listener _ =>
      rw [perform]
      cases htaken : store.nextMessage? listener with
      | none => exact Store.Keeps.refl store
      | some taken => exact Store.nextMessage?_keeps htaken

theorem ne_nextMessage (h : ByFeeds reader? call) {id : Nat} (hreader : reader? ≠ some id) :
    call ≠ .nextMessage id := by
  rintro rfl
  cases h with
  | reads hread => cases hread
  | takes hsame => exact hreader hsame

theorem connects (h : ByFeeds reader? call) {id : Nat} (hcall : call ≠ .nextMessage id)
    {store : Store} {listener : Listener} (hlistener : store.Connects id listener) :
    (call.perform store).2.Connects id listener := by
  cases h with
  | reads hread =>
      rw [perform_of_isRead hread]
      exact hlistener
  | listens | takes => exact hlistener.perform hcall

end ByFeeds

end Call

theorem Makes.becomes {kind : Call → Prop} {access : Access σ α} (h : Makes id kind access)
    (world : World σ) : World.Becomes kind world (access.leaves world) := by
  rw [Access.leaves]
  cases hrun : access world with
  | ok answer after => exact h.becomes_of_ok hrun
  | error error after => exact h.becomes_of_error hrun

theorem World.Becomes.keeps {kind : Call → Prop} {before after : World σ}
    (h : World.Becomes kind before after) (hspares : ∀ call, kind call → call.Spares) :
    before.store.Keeps after.store :=
  h.preserves before.store.Keeps
    (fun call hkind store hkeeps => hkeeps.trans (hspares call hkind store))
    (.refl before.store)

section

variable [Interference σ] (engine : Engine)

theorem Engine.createSubscription_makes (sheet cell : String) :
    Makes id Call.Spares (engine.createSubscription sheet cell : Access σ String) :=
  (Access.request_makes engine.token fun _ => ⟨rfl, rfl⟩).bind fun _ =>
    (Access.request_makes engine.token fun _ => ⟨rfl, rfl⟩).bind fun _ => makes_pure _

theorem Engine.openSubscription_makes (subscription : String) :
    Makes id (Call.ByFeeds none) (engine.openSubscription subscription : Access σ Feed) :=
  (Access.request_makes engine.token (.reads rfl)).bind fun _ =>
    (Access.request_makes engine.token .listens).bind fun _ => makes_pure _

theorem Engine.getCell_looks (sheet cell : String) :
    Makes id (·.isRead = true) (engine.getCell sheet cell : Access σ CellResponse) :=
  Solve.within_makes ((Solve.resolve_looks cell).bind fun _ => makes_pure _)
    (engine.solver sheet)

end

namespace Feed

variable [Interference σ] (feed : Feed)

theorem nextMessage_makes :
    Makes id (Call.ByFeeds (some feed.listener))
      (feed.nextMessage : Access σ (Option String)) := by
  refine (Access.request_makes feed.engine.token (.takes rfl)).bind fun message => ?_
  cases message with
  | some message => exact makes_pure _
  | none => exact (Access.heed_makes feed.engine.token).bind fun _ => makes_pure _

theorem nextUpdate_makes :
    Makes id (Call.ByFeeds (some feed.listener))
      (feed.nextUpdate : Access σ (Option CellResponse)) := by
  refine feed.nextMessage_makes.bind fun message => ?_
  cases message with
  | none => exact makes_pure _
  | some message =>
      exact ((feed.engine.getCell_looks _ _).mono fun _ => .reads).map some

theorem drain_becomes (world : World σ) :
    World.Becomes (Call.ByFeeds (some feed.listener)) world (feed.drain world).2 := by
  unfold drain
  dsimp only
  generalize (world.store.listener? feed.listener).elim 0 Listener.waiting + 1 = bound
  induction bound generalizing world with
  | zero => exact .refl
  | succ bound ih =>
      have hnext := feed.nextUpdate_makes world
      rw [drainWithin]
      cases hrun : (feed.nextUpdate : Access σ (Option CellResponse)) world with
      | error error after =>
          rw [hrun] at hnext
          exact hnext
      | ok update after =>
          rw [hrun] at hnext
          cases update with
          | none => exact hnext
          | some update => exact hnext.trans (ih after)

end Feed

inductive Event where
  | writes (write : Write)
  | subscribes (engine : Engine) (sheet cell : String)
  | listens (engine : Engine) (id : String)
  | takes (feed : Feed)
  | drains (feed : Feed)
  | closes (feed : Feed)
  | fires (token : CancelToken)

namespace Event

variable [Interference σ]

def apply : Event → World σ → World σ
  | .writes write, world => write.attempt world
  | .subscribes engine sheet cell, world =>
      (engine.createSubscription sheet cell).leaves world
  | .listens engine id, world => (engine.openSubscription id).leaves world
  | .takes feed, world => feed.nextUpdate.leaves world
  | .drains feed, world => (feed.drain world).2
  | .closes feed, world => feed.close world
  | .fires token, world => world.fire token

def run (events : List Event) (world : World σ) : World σ :=
  events.foldl (fun world event => event.apply world) world

theorem run_cons (event : Event) (events : List Event) (world : World σ) :
    run (event :: events) world = run events (event.apply world) := by
  simp only [run, List.foldl_cons]

theorem run_append (events others : List Event) (world : World σ) :
    run (events ++ others) world = run others (run events world) := by
  simp only [run, List.foldl_append]

def reader? : Event → Option Nat
  | .takes feed | .drains feed => some feed.listener
  | _ => none

end Event

end LiveSheet
