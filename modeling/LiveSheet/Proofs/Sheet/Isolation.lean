import LiveSheet.Proofs.Sheet.Events
import LiveSheet.Proofs.Sheet.ReadBack

namespace LiveSheet

open LiveSheet.Formula

/-! Sheets do not reach into each other.  The edges and the topics of all of them
are kept by the joined names of sheet and cell, which stay apart because no name
that a write brings in has a slash. -/

inductive Inside (sheet : String) : Call → Prop
  | reads {call : Call} (isRead : call.isRead = true) : Inside sheet call
  | stores {cell value : String} : Inside sheet (.setCell sheet cell value)
  | links {id : String} {ids : List String} (plain : '/' ∉ id.toList) :
      Inside sheet (.addDependents sheet id ids)
  | unlinks {id : String} {ids : List String} (plain : '/' ∉ id.toList) :
      Inside sheet (.removeDependents sheet id ids)
  | tells {id message : String} (plain : '/' ∉ id.toList) :
      Inside sheet (.publish (Store.topic sheet id) message)

namespace Store

def listenersOn (store : Store) (topic : String) : List Listener :=
  store.listeners.filter fun listener => listener.topic = topic

theorem listenersOn_publish_of_ne (store : Store) {topic other : String} (message : String)
    (h : topic ≠ other) :
    (store.publish topic message).listenersOn other = store.listenersOn other := by
  unfold listenersOn publish
  dsimp only
  generalize store.listeners = listeners
  induction listeners with
  | nil => rfl
  | cons listener listeners ih =>
      rw [List.map_cons, List.filter_cons, List.filter_cons, ih]
      by_cases htopic : listener.topic = topic
      · have hother : listener.topic ≠ other := htopic ▸ h
        split <;> simp [htopic, h]
      · simp [htopic]

/-- A change that a sheet does not see, nor who listens to it. -/
structure Unseen (sheet : String) (before after : Store) : Prop where
  cells : after.cells sheet = before.cells sheet
  edges : ∀ {name}, '/' ∉ name.toList →
    after.dependentsOf sheet name = before.dependentsOf sheet name
  listeners : ∀ {cell}, '/' ∉ cell.toList →
    after.listenersOn (topic sheet cell) = before.listenersOn (topic sheet cell)

namespace Unseen

variable {sheet other : String} {before middle after : Store}

theorem refl (sheet : String) (store : Store) : Unseen sheet store store where
  cells := rfl
  edges := fun _ => rfl
  listeners := fun _ => rfl

theorem trans (h : Unseen sheet before middle) (hlast : Unseen sheet middle after) :
    Unseen sheet before after where
  cells := hlast.cells.trans h.cells
  edges := fun hname => (hlast.edges hname).trans (h.edges hname)
  listeners := fun hcell => (hlast.listeners hcell).trans (h.listeners hcell)

theorem perform (hsheet : other ≠ sheet) {call : Call} (h : Inside other call) (store : Store) :
    Unseen sheet store (call.perform store).2 := by
  have hkey {id name : String} (hid : '/' ∉ id.toList) (hname : '/' ∉ name.toList) :
      cellKey sheet name ≠ cellKey other id :=
    fun hsame => hsheet ((cellKey_inj hname hid).mp hsame).1.symm
  cases h with
  | reads hread =>
      rw [Call.perform_of_isRead hread]
      exact refl sheet store
  | @stores cell value =>
      refine { cells := ?_, edges := fun _ => rfl, listeners := fun _ => rfl }
      simp only [Call.perform, setCell, Store.cells, Table.get?_insert_of_ne _ _ hsheet.symm]
  | @links id ids hid =>
      rw [Call.perform, addDependents]
      split
      · exact refl sheet store
      · refine { cells := rfl, edges := fun hname => ?_, listeners := fun _ => rfl }
        rw [dependentsOf, Table.get?_insert_of_ne _ _ (hkey hid hname)]
        rfl
  | @unlinks id ids hid =>
      rw [Call.perform, removeDependents]
      dsimp only
      split
      · exact refl sheet store
      · refine { cells := rfl, edges := fun hname => ?_, listeners := fun _ => rfl }
        rw [dependentsOf]
        dsimp only
        split
        · rw [Table.get?_erase, if_neg (hkey hid hname)]
          rfl
        · rw [Table.get?_insert_of_ne _ _ (hkey hid hname)]
          rfl
  | @tells id message hid =>
      refine { cells := rfl, edges := fun _ => rfl, listeners := fun hcell => ?_ }
      apply listenersOn_publish_of_ne
      exact fun hsame => hsheet ((topic_inj hid hcell).mp hsame).1

theorem cell? (h : Unseen sheet before after) (cell : String) :
    after.cell? sheet cell = before.cell? sheet cell := by
  rw [Store.cell?, Store.cell?, h.cells]

end Unseen

structure Tidy (store : Store) : Prop where
  cells : ∀ {sheet cell value}, store.cell? sheet cell = some value → canonical cell = cell
  edges : ∀ {sheet name dependent}, '/' ∉ name.toList →
    dependent ∈ (store.dependentsOf sheet name).toList → '/' ∉ dependent.toList

theorem empty_tidy : empty.Tidy where
  cells := nofun
  edges := fun _ h => absurd h (IdSet.not_mem_toList_empty _)

variable {store after : Store}

theorem Keeps.tidy (h : store.Keeps after) (hstore : store.Tidy) : after.Tidy where
  cells := fun hcell => hstore.cells ((h.cell? _ _).symm.trans hcell)
  edges := fun hname hdependent => hstore.edges hname (h.dependentsOf _ _ ▸ hdependent)

theorem Frame.tidy {sheet cell value : String} (h : Frame sheet cell value store after)
    (hcell : canonical cell = cell) (hplain : '/' ∉ cell.toList) (hstore : store.Tidy) :
    after.Tidy where
  cells := by
    intro otherSheet other held hheld
    by_cases hsame : otherSheet = sheet ∧ other = cell
    · rw [hsame.2, hcell]
    · rw [h.cells hsame] at hheld
      exact hstore.cells hheld
  edges := by
    intro otherSheet name dependent hname hdependent
    by_cases hsame : otherSheet = sheet ∧ dependent = cell
    · rw [hsame.2]
      exact hplain
    · rw [h.edges hsame hname] at hdependent
      exact hstore.edges hname hdependent

end Store

theorem World.Becomes.unseen {sheet other : String} (hsheet : other ≠ sheet)
    {before after : World σ} (h : World.Becomes (Inside other) before after) :
    Store.Unseen sheet before.store after.store :=
  h.preserves (Store.Unseen sheet before.store)
    (fun _ hinside store hunseen => hunseen.trans (.perform hsheet hinside store))
    (.refl sheet before.store)

namespace Access

variable {access : Access σ α} {next : α → Access σ β} {world middle : World σ}

theorem leaves_bind_of_ok {answer : α} (h : access world = .ok answer middle) :
    (access >>= next).leaves world = (next answer).leaves middle := by
  rw [leaves, leaves, bind_of_ok h]

theorem leaves_bind_of_error {error : StoreError} (h : access world = .error error middle) :
    (access >>= next).leaves world = middle := by
  rw [leaves, bind_of_error h]

end Access

namespace Edges

open Access

variable [Interference σ] {world : World σ}

theorem notifyStack_inside (edges : Edges) {bound : Nat} {visited : IdSet}
    {stack : List String} (hworld : world.store.Tidy) (hstack : ∀ id ∈ stack, '/' ∉ id.toList) :
    World.Becomes (Inside edges.sheet) world
      ((edges.notifyStack bound visited stack).leaves world) := by
  induction bound generalizing visited stack world with
  | zero => cases stack <;> exact .refl
  | succ bound ih =>
      cases stack with
      | nil => exact .refl
      | cons cell stack =>
          obtain ⟨hcell, hrest⟩ := List.forall_mem_cons.mp hstack
          rw [notifyStack]
          split
          · exact ih hworld hrest
          have hpublish : Makes id (Inside edges.sheet)
              (request edges.token (.publish (Store.topic edges.sheet cell) cell) :
                Access σ Unit) :=
            request_makes edges.token (.tells hcell)
          have hdependents : Makes id (Inside edges.sheet)
              (edges.dependents cell : Access σ IdSet) :=
            request_makes edges.token (.reads rfl)
          dsimp only
          cases hfirst : (request edges.token (.publish (Store.topic edges.sheet cell) cell) :
              Access σ Unit) world with
          | error error after =>
              rw [leaves_bind_of_error hfirst]
              exact hpublish.becomes_of_error hfirst
          | ok answer told =>
              rw [leaves_bind_of_ok hfirst]
              refine (hpublish.becomes_of_ok hfirst).trans ?_
              have hstore := (Prod.mk.inj (request_ok hfirst).2).2
              have hkeeps : world.store.Keeps told.store := hstore ▸ ⟨rfl, rfl⟩
              cases hsecond : (edges.dependents cell : Access σ IdSet) told with
              | error error after =>
                  rw [leaves_bind_of_error hsecond]
                  exact hdependents.becomes_of_error hsecond
              | ok next found =>
                  rw [leaves_bind_of_ok hsecond]
                  refine (hdependents.becomes_of_ok hsecond).trans ?_
                  obtain ⟨hnext, hfound⟩ := Prod.mk.inj (request_ok hsecond).2
                  have htold := hkeeps.tidy hworld
                  refine ih (hfound ▸ htold) fun id hid => ?_
                  rcases List.mem_append.mp hid with hid | hid
                  · exact htold.edges hcell (Except.ok.inj hnext ▸ hid)
                  · exact hrest id hid

theorem notify_inside (edges : Edges) {cell : String} (hworld : world.store.Tidy)
    (hcell : '/' ∉ cell.toList) :
    World.Becomes (Inside edges.sheet) world ((edges.notify cell).leaves world) := by
  have hstack : World.Becomes (Inside edges.sheet) world
      ((edges.notifyStack (world.store.edgeCount + 1) Table.empty [cell]).leaves world) :=
    edges.notifyStack_inside hworld (List.forall_mem_singleton.mpr hcell)
  rw [leaves] at hstack
  rw [leaves, notify, bind_get]
  cases hrun : edges.notifyStack (world.store.edgeCount + 1) Table.empty [cell] world with
  | ok answer after =>
      rw [hrun] at hstack
      rw [bind_of_ok hrun]
      exact hstack
  | error error after =>
      rw [hrun] at hstack
      rw [bind_of_error hrun]
      exact hstack

end Edges

theorem Solve.store_inside [Interference σ] (edges : Edges) {cell : String} (value : String)
    {world : World σ} (hworld : world.store.Tidy) (hcanonical : canonical cell = cell)
    (hcell : '/' ∉ cell.toList) :
    World.Becomes (Inside edges.sheet) world ((Solve.store edges cell value).leaves world) := by
  have hinside : Makes id (Inside edges.sheet) (edges.commit cell value : Access σ Unit) :=
    edges.commit_makes .reads .stores .links .unlinks
  have hconcerns : Makes id (Concerns edges.sheet cell value)
      (edges.commit cell value : Access σ Unit) :=
    edges.commit_makes .reads .stores .links .unlinks
  rw [store]
  cases hcommit : edges.commit cell value world with
  | error error after =>
      rw [Access.leaves_bind_of_error hcommit]
      exact hinside.becomes_of_error hcommit
  | ok answer stored =>
      rw [Access.leaves_bind_of_ok hcommit]
      refine (hinside.becomes_of_ok hcommit).trans ?_
      have hframe := (hconcerns.becomes_of_ok hcommit).frame
      have hstored : stored.store.Tidy := hframe.tidy hcanonical hcell hworld
      have htold := edges.notify_inside hstored hcell
      rw [Access.leaves] at htold
      -- A failure to tell is passed over, and the world stays as it was left.
      cases hnotify : (edges.notify cell : Access σ Nat) stored with
      | ok count told =>
          have hdone : (do let _ ← edges.notify cell; pure () : Access σ Unit) stored =
              .ok () told := bind_of_ok hnotify
          rw [hnotify] at htold
          rw [Access.leaves, tryCatch_of_ok hdone]
          exact htold
      | error error told =>
          have hdone : (do let _ ← edges.notify cell; pure () : Access σ Unit) stored =
              .error error told := bind_of_error hnotify
          rw [hnotify] at htold
          rw [Access.leaves, tryCatch_of_error hdone]
          exact htold

namespace Write

variable [Interference σ] {write : Write} {world : World σ}

theorem attempt_tidy (hcell : isCellIdentifier write.cell = true) (hworld : world.store.Tidy) :
    (write.attempt world).store.Tidy :=
  (write.attempt_frame world).tidy (canonical_canonical _)
    (slash_not_mem_canonical (slash_not_mem_of_isCellIdentifier hcell)) hworld

theorem attempt_unseen (hcell : isCellIdentifier write.cell = true)
    (hworld : world.store.Tidy) {sheet : String} (hsheet : canonical write.sheet ≠ sheet) :
    Store.Unseen sheet world.store (write.attempt world).store := by
  have hinside {accepted : World σ} (huntouched : world.Untouched accepted) :
      World.Becomes (Inside (canonical write.sheet)) accepted
        ((Solve.store (Edges.ofSheet write.engine.token write.sheet) (canonical write.cell)
          write.value).leaves accepted) :=
    Solve.store_inside (Edges.ofSheet write.engine.token write.sheet) write.value
      (huntouched.store ▸ hworld) (canonical_canonical _)
      (slash_not_mem_canonical (slash_not_mem_of_isCellIdentifier hcell))
  cases write.engine.upsert_course write.sheet write.cell write.value world with
  | stopped hends huntouched =>
      rw [attempt, request, Access.leaves_of_ends hends, huntouched.store]
      exact Store.Unseen.refl sheet world.store
  | stored huntouched hstore hends =>
      have hbecomes := hinside huntouched
      rw [Access.leaves, hstore] at hbecomes
      rw [attempt, request, Access.leaves_of_ends hends, ← huntouched.store]
      exact hbecomes.unseen hsheet
  | failed huntouched hstore hends =>
      have hbecomes := hinside huntouched
      rw [Access.leaves, hstore] at hbecomes
      rw [attempt, request, Access.leaves_of_ends hends, ← huntouched.store]
      exact hbecomes.unseen hsheet

end Write

namespace Event

def Valid : Event → Prop
  | .writes write => isCellIdentifier write.cell = true
  | _ => True

variable [Interference σ]

theorem apply_tidy {event : Event} (hvalid : event.Valid) {world : World σ}
    (hworld : world.store.Tidy) : (event.apply world).store.Tidy := by
  have hfeeds {reader? : Option Nat} {after : World σ}
      (hbecomes : World.Becomes (Call.ByFeeds reader?) world after) : after.store.Tidy :=
    (hbecomes.keeps fun _ => Call.ByFeeds.spares).tidy hworld
  cases event with
  | writes write => exact Write.attempt_tidy hvalid hworld
  | subscribes engine sheet cell =>
      have hbecomes := (engine.createSubscription_makes sheet cell).becomes world
      exact (hbecomes.keeps fun _ hspares => hspares).tidy hworld
  | listens engine id => exact hfeeds ((engine.openSubscription_makes id).becomes world)
  | takes feed => exact hfeeds (feed.nextUpdate_makes.becomes world)
  | drains feed => exact hfeeds (feed.drain_becomes world)
  | closes feed =>
      have hkeeps : world.store.Keeps (feed.close world).store := ⟨rfl, rfl⟩
      exact hkeeps.tidy hworld
  | fires token => exact hworld

theorem run_tidy {events : List Event} (hvalid : ∀ event ∈ events, event.Valid)
    {world : World σ} (hworld : world.store.Tidy) : (run events world).store.Tidy := by
  induction events generalizing world with
  | nil => exact hworld
  | cons event events ih =>
      obtain ⟨hevent, hrest⟩ := List.forall_mem_cons.mp hvalid
      rw [run_cons]
      exact ih hrest (apply_tidy hevent hworld)

end Event

/-- Whether a sheet answers alike in two worlds, whoever asks and for whatever. -/
structure AnswersAlike (sheet : String) (before after : World Unit) : Prop where
  cells : ∀ token : CancelToken,
    (Access.request token (.getAllCells (canonical sheet))).answer after =
      (Access.request token (.getAllCells (canonical sheet))).answer before
  dependents : ∀ (token : CancelToken) (name : String), '/' ∉ name.toList →
    (Access.request token (.getDependents (canonical sheet) name)).answer after =
      (Access.request token (.getDependents (canonical sheet) name)).answer before
  getCell : ∀ (engine : Engine) (cell : String),
    (engine.getCell sheet cell).answer after = (engine.getCell sheet cell).answer before
  getSheet : ∀ engine : Engine,
    (engine.getSheet sheet).answer after = (engine.getSheet sheet).answer before

theorem Store.Unseen.answers {sheet : String} {store changed : Store}
    (h : Store.Unseen (canonical sheet) store changed) (hstore : store.Tidy)
    (hchanged : changed.Tidy) {before after : World Unit} (hbefore : Quiet store before)
    (hafter : Quiet changed after) : AnswersAlike sheet before after where
  cells := by
    intro token
    rw [(Access.request_yields token (.getAllCells (canonical sheet)) store).answer hbefore,
      (Access.request_yields token (.getAllCells (canonical sheet)) changed).answer hafter,
      Call.perform, Call.perform, h.cells]
  dependents := by
    intro token name hname
    rw [(Access.request_yields token (.getDependents (canonical sheet) name) store).answer
        hbefore,
      (Access.request_yields token (.getDependents (canonical sheet) name) changed).answer
        hafter,
      Call.perform, Call.perform, h.edges hname]
  getCell := by
    intro engine cell
    rw [(engine.getCell_yields store sheet cell).answer hbefore,
      (engine.getCell_yields changed sheet cell).answer hafter]
    rw [engine.page_congr h.cell?]
  getSheet := by
    intro engine
    have hfirst := engine.getSheet_yields store sheet fun hcell => hstore.cells hcell
    have hlast := engine.getSheet_yields changed sheet fun hcell => hchanged.cells hcell
    rw [hfirst.answer hbefore, hlast.answer hafter]
    rw [Engine.listing, Engine.listing, engine.page_congr h.cell?, Store.sheetExists,
      Store.sheetExists, Solve.preloaded, Solve.preloaded, h.cells]

/-- However a store has been used, a write of one sheet changes nothing of another
one, whose id may well begin like its own. -/
theorem Write.attempt_isolated [Interference σ] {conditions : σ} {events : List Event}
    (hvalid : ∀ event ∈ events, event.Valid) {write : Write}
    (hcell : isCellIdentifier write.cell = true) {sheet : String}
    (hsheet : canonical write.sheet ≠ canonical sheet) :
    (∀ {before after : World Unit},
      Quiet (Event.run events (World.start conditions)).store before →
      Quiet (write.attempt (Event.run events (World.start conditions))).store after →
      AnswersAlike sheet before after) ∧
    ∀ cell, isCellIdentifier cell = true →
      (write.attempt (Event.run events (World.start conditions))).store.listenersOn
          (Store.topic (canonical sheet) (canonical cell)) =
        (Event.run events (World.start conditions)).store.listenersOn
          (Store.topic (canonical sheet) (canonical cell)) := by
  have htidy : (Event.run events (World.start conditions)).store.Tidy :=
    Event.run_tidy hvalid Store.empty_tidy
  have hunseen := attempt_unseen hcell htidy hsheet
  refine ⟨fun hbefore hafter => ?_, fun cell hother => ?_⟩
  · exact hunseen.answers htidy (attempt_tidy hcell htidy) hbefore hafter
  · exact hunseen.listeners
      (slash_not_mem_canonical (slash_not_mem_of_isCellIdentifier hother))

/-- A feed that waits to tell of a change of cell `a` of the sheet `s/x`. -/
def Event.nested : List Event :=
  [.writes
      { engine := { fetch := Fetch.disabled, token := 0 }, sheet := "S/x", cell := "A",
        value := "1" },
    .subscribes { fetch := Fetch.disabled, token := 0 } "S/x" "A",
    .listens { fetch := Fetch.disabled, token := 0 } "1",
    .writes
      { engine := { fetch := Fetch.disabled, token := 0 }, sheet := "s/X", cell := "A",
        value := "2" }]

def Write.besideNested : Write :=
  { engine := { fetch := Fetch.disabled, token := 0 }, sheet := "S", cell := "X",
    value := "7" }

theorem Write.attempt_isolated_nested :
    ((Engine.getSheet { fetch := Fetch.disabled, token := 1 } "S/x").answer
        (besideNested.attempt (Event.run Event.nested (World.start ()))) =
      (Engine.getSheet { fetch := Fetch.disabled, token := 1 } "S/x").answer
        (Event.run Event.nested (World.start ()))) ∧
    (besideNested.attempt (Event.run Event.nested (World.start ()))).store.listenersOn
        (Store.topic (canonical "S/x") (canonical "A")) =
      [{ id := 0, topic := "pubsub:s/x/a", missed := false, pending := ["a"] }] ∧
    besideNested.request.answer (Event.run Event.nested (World.start ())) =
      .ok (.committed { value := "7", result := "7", error := none }) := by
  have hvalid : ∀ event ∈ Event.nested, event.Valid := by
    have hcell : isCellIdentifier "A" = true := by decide +kernel
    simp [Event.nested, Event.Valid, hcell]
  have hwaiting : (Event.run Event.nested (World.start ())).store.listenersOn
      (Store.topic (canonical "S/x") (canonical "A")) =
        [{ id := 0, topic := "pubsub:s/x/a", missed := false, pending := ["a"] }] := by
    decide +kernel
  have hquiet : (Event.run Event.nested (World.start ())).fired = [] ∧
      (besideNested.attempt (Event.run Event.nested (World.start ()))).fired = [] := by
    decide +kernel
  have hcell : isCellIdentifier besideNested.cell = true := by decide +kernel
  have hsheet : canonical besideNested.sheet ≠ canonical "S/x" := by decide +kernel
  obtain ⟨hanswers, hlisteners⟩ :=
    @attempt_isolated Unit _ () Event.nested hvalid besideNested hcell "S/x" hsheet
  refine ⟨?_, (hlisteners "A" (by decide +kernel)).trans hwaiting, by decide +kernel⟩
  exact (hanswers ⟨rfl, hquiet.1⟩ ⟨rfl, hquiet.2⟩).getSheet { fetch := Fetch.disabled, token := 1 }

end LiveSheet
