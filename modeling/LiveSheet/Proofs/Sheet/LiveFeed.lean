import LiveSheet.Proofs.Sheet.Usage

namespace LiveSheet

open LiveSheet.Formula

/-! Live feeds.  Whenever the cell of an open feed reads otherwise than when the
feed was last drained, a message waits for it, whatever other feeds there are. -/

namespace Feed

/-- A listener that has a message whenever its cell reads otherwise than `seen`,
and none for a cell that does not exist. -/
structure Attends (feed : Feed) (seen : Except StoreError CellResponse) (store : Store)
    (listener : Listener) : Prop where
  connects : store.Connects feed.listener listener
  topic : listener.topic = Store.topic feed.record.sheet feed.record.cell
  changed : feed.reads store ≠ seen → 0 < listener.waiting
  stored : 0 < listener.waiting → store.cell? feed.record.sheet feed.record.cell ≠ none

structure Plain (feed : Feed) : Prop where
  sheet : canonical feed.record.sheet = feed.record.sheet
  cell : canonical feed.record.cell = feed.record.cell
  plain : '/' ∉ feed.record.cell.toList

variable {feed : Feed} {seen : Except StoreError CellResponse} {store after : Store}
  {listener : Listener}

theorem reads_of_untold (hfeed : feed.Plain) {sheet cell value : String}
    {told : List String} (h : Stored store sheet cell value told after)
    (hafter : after.Coherent)
    (huntold : ¬ (sheet = feed.record.sheet ∧ feed.record.cell ∈ told)) :
    feed.reads after = feed.reads store := by
  have hcell? (otherSheet other : String) :
      after.cell? otherSheet other =
        if otherSheet = sheet ∧ other = cell then some value
        else store.cell? otherSheet other := by
    rw [h.store_eq, Store.cell?_announce, Store.cell?_commit]
  unfold reads
  rw [hfeed.sheet]
  by_cases hsheet : feed.record.sheet = sheet
  · have hclosed {id : String} (hid : id ∈ told) :
        ∀ dependent ∈ (after.dependentsOf feed.record.sheet id).toList, dependent ∈ told := by
      rw [h.store_eq, Store.dependentsOf_announce, hsheet]
      exact h.closed id hid
    have hsame {id : String} (hid : ¬ id ∈ told) :
        after.cell? feed.record.sheet id = store.cell? feed.record.sheet id := by
      rw [hcell?, if_neg]
      rintro ⟨-, rfl⟩
      exact hid h.mem_told
    refine (hafter.agreeOn_outside hclosed hsame feed.engine).response ?_
    rw [hfeed.cell]
    exact fun htold => huntold ⟨hsheet.symm, htold⟩
  · rw [feed.engine.page_congr]
    intro other
    rw [hcell?, if_neg]
    exact fun hsame => hsheet hsame.1

theorem Attends.accepted (h : feed.Attends seen store listener) (hfeed : feed.Plain)
    {write : Write} (hwrite : write.Accepted store after) (hafter : after.Coherent) :
    ∃ next, feed.Attends seen after next := by
  obtain ⟨⟨told, hstored⟩, -⟩ := hwrite
  obtain ⟨next, hnext, htopic, hwaiting⟩ :=
    (h.connects.commit (canonical write.sheet) (canonical write.cell) write.value).announce
      (canonical write.sheet) told
  rw [← hstored.store_eq] at hnext
  have htold {id : String} (hid : id ∈ told) :
      after.cell? (canonical write.sheet) id ≠ none := by
    rw [hstored.store_eq, Store.cell?_announce]
    exact hstored.exist id hid
  -- A message comes for the cell of the feed, or the cell reads as before.
  by_cases hreached : canonical write.sheet = feed.record.sheet ∧ feed.record.cell ∈ told
  · refine ⟨next, hnext, htopic.trans h.topic, fun _ => hwaiting.mpr (Or.inr ?_), fun _ => ?_⟩
    · exact ⟨feed.record.cell, hreached.2, by rw [h.topic, hreached.1]⟩
    · rw [← hreached.1]
      exact htold hreached.2
  · have hsilent : ¬ ∃ cell ∈ told,
        Store.topic (canonical write.sheet) cell = listener.topic := by
      rintro ⟨cell, hcell, hsame⟩
      obtain ⟨value, hvalue⟩ := Option.ne_none_iff_exists'.mp (htold hcell)
      rw [h.topic, Store.topic_inj (hafter.cell hvalue).2 hfeed.plain] at hsame
      exact hreached ⟨hsame.1, hsame.2 ▸ hcell⟩
    rw [or_iff_left hsilent] at hwaiting
    refine ⟨next, hnext, htopic.trans h.topic, fun hchanged => ?_, fun hpending => ?_⟩
    · rw [reads_of_untold hfeed hstored hafter hreached] at hchanged
      exact hwaiting.mpr (h.changed hchanged)
    · rw [hstored.store_eq, Store.cell?_announce, Store.cell?_commit]
      split
      · exact Option.some_ne_none _
      · exact h.stored (hwaiting.mp hpending)

theorem Attends.keeps (h : feed.Attends seen store listener) (hkeeps : store.Keeps after)
    (hconnects : after.Connects feed.listener listener) :
    feed.Attends seen after listener where
  connects := hconnects
  topic := h.topic
  changed := by
    rw [feed.reads_keeps hkeeps]
    exact h.changed
  stored := by
    rw [hkeeps.cell?]
    exact h.stored

theorem Attends.taken (h : feed.Attends seen store listener) :
    ∃ seen next,
      feed.Attends seen ((Call.nextMessage feed.listener).perform store).2 next := by
  rw [Call.perform]
  cases hwaiting : listener.waiting with
  | zero =>
      rw [Store.nextMessage?_eq_none h.connects hwaiting]
      exact ⟨seen, listener, h⟩
  | succ count =>
      obtain ⟨message, after, next, hmessage, hkeeps, hnext, htopic, -⟩ :=
        Store.nextMessage?_eq_some h.connects hwaiting
      rw [hmessage]
      refine ⟨feed.reads after, next, hnext, htopic.trans h.topic, fun hne => absurd rfl hne,
        fun _ => ?_⟩
      rw [hkeeps.cell?]
      exact h.stored (by omega)

theorem Attends.byFeeds (h : feed.Attends seen store listener) {reader? : Option Nat}
    {before final : World Unit} (hbecomes : World.Becomes (Call.ByFeeds reader?) before final)
    (hbefore : before.store = store) :
    ∃ latest next, feed.Attends latest final.store next ∧
      (reader? ≠ some feed.listener → latest = seen) := by
  refine hbecomes.preserves
    (fun store => ∃ latest next, feed.Attends latest store next ∧
      (reader? ≠ some feed.listener → latest = seen))
    (fun call hcall store hstore => ?_) ⟨seen, listener, hbefore ▸ h, fun _ => rfl⟩
  obtain ⟨latest, next, hattends, hsame⟩ := hstore
  by_cases hown : call = .nextMessage feed.listener
  · subst hown
    obtain ⟨taken, left, htaken⟩ := hattends.taken
    exact ⟨taken, left, htaken, fun hother => absurd rfl (hcall.ne_nextMessage hother)⟩
  · exact ⟨latest, next,
      hattends.keeps (hcall.spares store) (hcall.connects hown hattends.connects), hsame⟩

section

variable {world : World Unit}

theorem drainWithin_updates {update : CellResponse} {count : Nat}
    (h : Quiet store world) (hconnects : store.Connects feed.listener listener)
    (hwaiting : listener.waiting = count)
    (hreads : 0 < count → feed.reads store = .ok update) :
    (feed.drainWithin (count + 1) world).1 = (List.replicate count update, none) ∧
      ∃ after next, Quiet after (feed.drainWithin (count + 1) world).2 ∧
        store.Keeps after ∧ after.Connects feed.listener next ∧
        next.topic = listener.topic ∧ next.waiting = 0 := by
  induction count generalizing store world listener with
  | zero =>
      obtain ⟨final, hfinal, hupdate⟩ :=
        nextUpdate_none (Store.nextMessage?_eq_none hconnects hwaiting) world h
      rw [drainWithin_done hupdate]
      exact ⟨rfl, store, listener, hfinal, .refl store, hconnects, rfl, hwaiting⟩
  | succ count ih =>
      obtain ⟨message, middle, next, hmessage, hkeeps, hnext, htopic, hcount⟩ :=
        Store.nextMessage?_eq_some hconnects hwaiting
      obtain ⟨final, hfinal, hupdate⟩ := nextUpdate_some hmessage world h
      have hsame : feed.reads middle = .ok update :=
        (feed.reads_keeps hkeeps).trans (hreads (Nat.succ_pos count))
      rw [hsame] at hupdate
      obtain ⟨hupdates, after, last, hafter, hrest, hlast, hlastTopic, hlastCount⟩ :=
        ih hfinal hnext hcount fun _ => hsame
      rw [drainWithin_update hupdate, hupdates]
      exact ⟨rfl, after, last, hafter, hkeeps.trans hrest, hlast, hlastTopic.trans htopic,
        hlastCount⟩

theorem Attends.drain (h : feed.Attends seen store listener) (hfeed : feed.Plain)
    (hcomputed : Computed feed.engine store) (hquiet : Quiet store world) :
    (∃ after next, Quiet after (feed.drain world).2 ∧ store.Keeps after ∧
      feed.Attends (feed.reads after) after next) ∧
    (feed.drain world).1.2 = none ∧
    (feed.reads store ≠ seen → ∃ update,
      (feed.drain world).1.1.getLast? = some update ∧ feed.reads store = .ok update) := by
  have hreads : ∃ update, 0 < listener.waiting → feed.reads store = .ok update := by
    by_cases hpending : 0 < listener.waiting
    · obtain ⟨value, hvalue⟩ := Option.ne_none_iff_exists'.mp (h.stored hpending)
      obtain ⟨update, hupdate, -⟩ := hcomputed.response hvalue hfeed.cell
      refine ⟨update, fun _ => ?_⟩
      rw [reads, hfeed.sheet, hupdate]
    · exact ⟨{ value := "", result := "", error := none }, fun hpos => absurd hpos hpending⟩
  obtain ⟨update, hupdate⟩ := hreads
  have hbound : (world.store.listener? feed.listener).elim 0 Listener.waiting =
      listener.waiting := by
    rw [hquiet.store, h.connects.found]
    rfl
  obtain ⟨hupdates, after, next, hafter, hkeeps, hnext, htopic, hcount⟩ :=
    drainWithin_updates hquiet h.connects rfl hupdate
  unfold Feed.drain
  rw [hbound]
  dsimp only
  refine ⟨⟨after, next, hafter, hkeeps, hnext, htopic.trans h.topic, fun hne => absurd rfl hne,
    fun hpending => by omega⟩, by rw [hupdates], fun hchanged => ?_⟩
  have hpending := h.changed hchanged
  refine ⟨update, ?_, hupdate hpending⟩
  rw [hupdates, List.getLast?_replicate, if_neg (Nat.ne_of_gt hpending)]

end

structure Watches (feed : Feed) (seen : Except StoreError CellResponse) (store : Store) :
    Prop where
  sound : Sound feed.engine store
  attends : feed.Plain → ∃ listener, feed.Attends seen store listener

/-- Whether an event leaves a feed open. -/
def StaysOpen (feed : Feed) : Event → Prop
  | .closes other => other.listener ≠ feed.listener
  | _ => True

section

variable {world : World Unit}

theorem Attends.event (h : feed.Attends seen store listener) (hfeed : feed.Plain)
    (hstore : store.Coherent) {event : Event} (hcalm : event.Calm feed.engine.fetch)
    (hopen : feed.StaysOpen event) (hquiet : Quiet store world) :
    ∃ latest next, feed.Attends latest (event.apply world).store next ∧
      (event.reader? ≠ some feed.listener → latest = seen) := by
  cases event with
  | writes write =>
      obtain ⟨after, hafter, hwritten⟩ := write.apply_cases hcalm.1 hstore hquiet
      have hsame : ((Event.writes write).apply world).store = after := hafter.store
      rw [hsame]
      rcases hwritten with rfl | haccepted
      · exact ⟨seen, listener, h, fun _ => rfl⟩
      · obtain ⟨next, hnext⟩ :=
          h.accepted hfeed haccepted (haccepted.coherent hstore hcalm.1)
        exact ⟨seen, next, hnext, fun _ => rfl⟩
  | subscribes opener sheet cell =>
      have hyields := opener.createSubscription_yields sheet cell store
      rw [Event.apply, (hyields.leaves hquiet).store]
      exact ⟨seen, listener, h.keeps ⟨rfl, rfl⟩ (h.connects.of_audience rfl), fun _ => rfl⟩
  | listens opener id =>
      exact h.byFeeds ((opener.openSubscription_makes id).becomes world) hquiet.store
  | takes other => exact h.byFeeds (other.nextUpdate_makes.becomes world) hquiet.store
  | drains other => exact h.byFeeds (other.drain_becomes world) hquiet.store
  | closes other =>
      obtain rfl := hquiet.store
      exact ⟨seen, listener, h.keeps ⟨rfl, rfl⟩ (h.connects.unlisten hopen), fun _ => rfl⟩
  | fires token => exact hcalm.elim

theorem Watches.event (h : feed.Watches seen store) {event : Event}
    (hcalm : event.Calm feed.engine.fetch) (hopen : feed.StaysOpen event)
    (hquiet : Quiet store world) :
    ∃ after latest, Quiet after (event.apply world) ∧ feed.Watches latest after ∧
      (event.reader? ≠ some feed.listener → latest = seen) := by
  obtain ⟨after, hafter, hleads⟩ := h.sound.event hcalm hquiet
  by_cases hfeed : feed.Plain
  · obtain ⟨listener, hattends⟩ := h.attends hfeed
    obtain ⟨latest, next, hnext, hsame⟩ :=
      hattends.event hfeed h.sound.coherent hcalm hopen hquiet
    rw [hafter.store] at hnext
    exact ⟨after, latest, hafter, ⟨hleads.sound, fun _ => ⟨next, hnext⟩⟩, hsame⟩
  · exact ⟨after, seen, hafter, ⟨hleads.sound, fun hplain => absurd hplain hfeed⟩, fun _ => rfl⟩

theorem Watches.run (h : feed.Watches seen store) {events : List Event}
    (hcalm : ∀ event ∈ events, event.Calm feed.engine.fetch)
    (hopen : ∀ event ∈ events, feed.StaysOpen event) (hquiet : Quiet store world) :
    ∃ after latest, Quiet after (Event.run events world) ∧ feed.Watches latest after ∧
      ((∀ event ∈ events, event.reader? ≠ some feed.listener) → latest = seen) := by
  induction events generalizing store seen world with
  | nil => exact ⟨store, seen, hquiet, h, fun _ => rfl⟩
  | cons event events ih =>
      rw [List.forall_mem_cons] at hcalm hopen
      obtain ⟨middle, between, hmiddle, hwatches, hfirst⟩ := h.event hcalm.1 hopen.1 hquiet
      obtain ⟨after, latest, hafter, hnext, hrest⟩ := ih hwatches hcalm.2 hopen.2 hmiddle
      rw [Event.run_cons]
      refine ⟨after, latest, hafter, hnext, fun hunread => ?_⟩
      rw [List.forall_mem_cons] at hunread
      rw [hrest hunread.2, hfirst hunread.1]

theorem Watches.drain (h : feed.Watches seen store) (hquiet : Quiet store world) :
    ∃ after, Quiet after (feed.drain world).2 ∧ feed.Watches (feed.reads after) after := by
  obtain ⟨after, hafter, hleads⟩ :=
    h.sound.event (show (Event.drains feed).Calm feed.engine.fetch from trivial) hquiet
  refine ⟨after, hafter, hleads.sound, fun hfeed => ?_⟩
  obtain ⟨listener, hattends⟩ := h.attends hfeed
  obtain ⟨⟨drained, next, hdrained, -, hnext⟩, -⟩ :=
    hattends.drain hfeed h.sound.computed hquiet
  obtain rfl : drained = after := hdrained.store.symm.trans hafter.store
  exact ⟨next, hnext⟩

theorem watches_opened (engine : Engine) {id : String} {record : SubscriptionRecord}
    (hsound : Sound engine store) (hid : store.subscription? id = some record)
    (hquiet : Quiet store world) :
    ∃ feed after, (engine.openSubscription id).answer world = .ok feed ∧
      feed.engine = engine ∧ feed.record = record ∧
      Quiet after ((engine.openSubscription id).leaves world) ∧
      feed.Watches (feed.reads after) after := by
  have hopen := engine.openSubscription_yields hid
  have hafter := hopen.leaves hquiet
  have hleads := hsound.byFeeds ((engine.openSubscription_makes id).becomes world) hquiet.store
    hafter.store
  refine ⟨_, _, hopen.answer hquiet, rfl, rfl, hafter, hleads.sound, fun _ => ?_⟩
  have hidle : (Listener.fresh store.nextListener
      (Store.topic record.sheet record.cell)).waiting = 0 := rfl
  exact ⟨_, hsound.numbered.connects _, rfl, fun hne => absurd rfl hne, fun hpending =>
    absurd hidle (Nat.ne_of_gt hpending)⟩

end

/-- The worlds in which a feed has just been opened or drained, whatever was done between
its opening and its last drain. -/
inductive Settled (feed : Feed) (opened : World Unit) : World Unit → Prop
  | opened : Settled feed opened opened
  | drained {since : List Event} (calm : ∀ event ∈ since, event.Calm feed.engine.fetch)
      (stays : ∀ event ∈ since, feed.StaysOpen event) :
      Settled feed opened (feed.drain (Event.run since opened)).2

theorem Settled.watches {opened settled : World Unit} (h : feed.Settled opened settled)
    (hwatches : feed.Watches (feed.reads store) store) (hquiet : Quiet store opened) :
    ∃ after, Quiet after settled ∧ feed.Watches (feed.reads after) after := by
  cases h with
  | opened => exact ⟨store, hquiet, hwatches⟩
  | drained hcalm hstays =>
      obtain ⟨after, latest, hafter, hnext, -⟩ := hwatches.run hcalm hstays hquiet
      exact hnext.drain hafter

/-- Whether a drain tells what a request is answered, if that is not what it was
before. -/
def Reports (feed : Feed) (request : Access Unit CellResponse) (before now : World Unit) :
    Prop :=
  request.answer now ≠ request.answer before →
    (feed.drain now).1.2 = none ∧ ∃ update,
      (feed.drain now).1.1.getLast? = some update ∧ request.answer now = .ok update

theorem reads_of_slash {feed : Feed} (h : '/' ∈ (canonical feed.record.cell).toList)
    {store : Store} (hstore : store.Coherent) :
    feed.reads store = .error (.notFound
      (Store.cellKey (canonical feed.record.sheet) (canonical feed.record.cell))) := by
  have hmissing : store.cell? (canonical feed.record.sheet) (canonical feed.record.cell) =
      none := by
    by_contra hne
    obtain ⟨value, hvalue⟩ := Option.ne_none_iff_exists'.mp hne
    exact (hstore.cell hvalue).2 h
  unfold reads Page.response Page.read
  rw [Page.readWithin_missing hmissing]
  rfl

section

variable {sheet cell : String}

theorem plain_of_record (h : feed.record = SubscriptionRecord.ofIds sheet cell)
    (hcell : '/' ∉ (canonical cell).toList) : feed.Plain := by
  constructor <;> rw [h]
  · exact canonical_canonical sheet
  · exact canonical_canonical cell
  · exact hcell

theorem getCell_answer (h : feed.record = SubscriptionRecord.ofIds sheet cell)
    {store : Store} {world : World Unit} (hquiet : Quiet store world) :
    (feed.engine.getCell sheet cell).answer world = feed.reads store := by
  rw [(feed.engine.getCell_yields store sheet cell).answer hquiet, reads, h]
  simp only [SubscriptionRecord.ofIds, canonical_canonical, Page.response_canonical]

/-- A feed that has seen its cell, and is not read from since, reports it once it has
changed. -/
theorem Watches.reports (hrecord : feed.record = SubscriptionRecord.ofIds sheet cell)
    {settled : World Unit} (h : feed.Watches (feed.reads store) store)
    (hquiet : Quiet store settled) {latest : List Event}
    (hcalm : ∀ event ∈ latest, event.Calm feed.engine.fetch)
    (hopen : ∀ event ∈ latest, feed.StaysOpen event)
    (hunread : ∀ event ∈ latest, event.reader? ≠ some feed.listener) :
    feed.Reports (feed.engine.getCell sheet cell) settled (Event.run latest settled) := by
  obtain ⟨now, seen, hnow, hlast, hseen⟩ := h.run hcalm hopen hquiet
  obtain rfl := hseen hunread
  intro hchanged
  rw [getCell_answer hrecord hnow, getCell_answer hrecord hquiet] at hchanged
  rw [getCell_answer hrecord hnow]
  -- A name with a slash is never stored, so the answer to it never changes.
  by_cases hplain : '/' ∈ (canonical cell).toList
  · have hslash : '/' ∈ (canonical feed.record.cell).toList := by
      rw [hrecord]
      simpa only [SubscriptionRecord.ofIds, canonical_canonical] using hplain
    rw [reads_of_slash hslash hlast.sound.coherent, reads_of_slash hslash h.sound.coherent]
      at hchanged
    exact absurd rfl hchanged
  · have hfeed := plain_of_record hrecord hplain
    obtain ⟨listener, hattends⟩ := hlast.attends hfeed
    obtain ⟨-, hended, hreports⟩ := hattends.drain hfeed hlast.sound.computed hnow
    exact ⟨hended, hreports hchanged⟩

end

/-- A feed for a cell, whenever it is subscribed to and opened and whenever it has last
been drained, reports the cell as it is once that has changed.  Before, between and after
that, cells are written and other feeds opened, read and closed. -/
theorem drain_reports (engine : Engine) {earlier between : List Event}
    (hearlier : ∀ event ∈ earlier ++ between, event.Calm engine.fetch) (sheet cell : String) :
    ∃ id feed,
      (engine.createSubscription sheet cell).answer (Event.run earlier (World.start ())) =
        .ok id ∧
      (engine.openSubscription id).answer
        (Event.run (earlier ++ .subscribes engine sheet cell :: between) (World.start ())) =
          .ok feed ∧
      ∀ {settled : World Unit} {latest : List Event},
        feed.Settled
          (Event.run (earlier ++ .subscribes engine sheet cell :: between ++
            [.listens engine id]) (World.start ())) settled →
        (∀ event ∈ latest, event.Calm engine.fetch) →
        (∀ event ∈ latest, feed.StaysOpen event) →
        (∀ event ∈ latest, event.reader? ≠ some feed.listener) →
        feed.Reports (engine.getCell sheet cell) settled (Event.run latest settled) := by
  rw [List.forall_mem_append] at hearlier
  obtain ⟨store, hstore, hsound⟩ := (empty_sound engine).run hearlier.1 quiet_start
  have hcreate := engine.createSubscription_yields sheet cell store
  have hnoted : (store.subscribed (SubscriptionRecord.ofIds sheet cell)).subscription?
      (subscriptionId (store.registry.1 + 1)) = some (SubscriptionRecord.ofIds sheet cell) := by
    rw [Store.subscription?_subscribed, if_pos rfl]
  obtain ⟨used, hused, hleads⟩ :=
    (hsound.sound.subscribes (SubscriptionRecord.ofIds sheet cell)).sound.run hearlier.2
      (hcreate.leaves hstore)
  obtain ⟨feed, opened, hopen, rfl, hrecord, hopened, hwatches⟩ :=
    watches_opened engine hleads.sound (hleads.kept hnoted) hused
  simp only [Event.run_append, Event.run_cons]
  refine ⟨_, feed, hcreate.answer hstore, hopen, fun hsettled hcalm hstays hunread => ?_⟩
  obtain ⟨after, hafter, hnext⟩ := hsettled.watches hwatches hopened
  exact hnext.reports hrecord hafter hcalm hstays hunread

def plainEngine : Engine :=
  { fetch := Fetch.disabled, token := 0 }

def writing (cell value : String) : Event :=
  .writes { engine := plainEngine, sheet := "S", cell, value }

def listening (cell : String) (listener : Nat) : Feed :=
  { engine := plainEngine, record := SubscriptionRecord.ofIds "S" cell, listener }

/-- A feed that is gone again, so that nobody is left on its topic, and one that is not. -/
def bustle : List Event :=
  [writing "A" "1", .subscribes plainEngine "S" "A", .listens plainEngine "1",
    .subscribes plainEngine "S" "C", .listens plainEngine "2", .closes (listening "A" 0)]

def moreBustle : List Event :=
  [.listens plainEngine "1", writing "B" "=a+1", .closes (listening "A" 3), writing "C" "=b",
    .listens plainEngine "2", writing "A" "2", .drains (listening "C" 1)]

theorem drain_reports_beside :
    (∀ event ∈ bustle ++ [], event.Calm plainEngine.fetch) ∧
      (∀ event ∈ moreBustle, event.Calm plainEngine.fetch) ∧
      ∃ feed update,
        (plainEngine.openSubscription "3").answer
          (Event.run (bustle ++ [.subscribes plainEngine "S" "B"]) (World.start ())) =
            .ok feed ∧
        (feed.drain (Event.run moreBustle (Event.run
          (bustle ++ [.subscribes plainEngine "S" "B"] ++ [.listens plainEngine "3"])
          (World.start ())))).1.1.getLast? = some update ∧
        update.result = "3" := by
  have hcells : isCellIdentifier "A" = true ∧ isCellIdentifier "B" = true ∧
      isCellIdentifier "C" = true := by
    decide +kernel
  have hearlier : ∀ event ∈ bustle ++ [], event.Calm plainEngine.fetch := by
    simp [bustle, writing, Event.Calm, hcells]
  have hlatest : ∀ event ∈ moreBustle, event.Calm plainEngine.fetch := by
    simp [moreBustle, writing, Event.Calm, hcells]
  obtain ⟨id, feed, hcreate, hopen, hreports⟩ := drain_reports plainEngine hearlier "S" "B"
  have hid : (plainEngine.createSubscription "S" "B").answer
      (Event.run bustle (World.start ())) = .ok "3" := by
    decide +kernel
  obtain rfl : "3" = id := Except.ok.inj (hid.symm.trans hcreate)
  have hlistener : ((plainEngine.openSubscription "3").answer
      (Event.run (bustle ++ [.subscribes plainEngine "S" "B"]) (World.start ()))).map
        Feed.listener = .ok 2 := by
    decide +kernel
  rw [hopen] at hlistener
  have hother : feed.listener = 2 := Except.ok.inj hlistener
  have hbefore : (plainEngine.getCell "S" "B").answer (Event.run
      (bustle ++ [.subscribes plainEngine "S" "B"] ++ [.listens plainEngine "3"])
      (World.start ())) = .error (.notFound "s/b") := by
    decide +kernel
  have hnow : (plainEngine.getCell "S" "B").answer (Event.run moreBustle (Event.run
      (bustle ++ [.subscribes plainEngine "S" "B"] ++ [.listens plainEngine "3"])
      (World.start ()))) = .ok { value := "=a+1", result := "3", error := none } := by
    decide +kernel
  have hopenEvents : ∀ event ∈ moreBustle, feed.StaysOpen event := by
    simp [moreBustle, writing, StaysOpen, listening, hother]
  have hunread : ∀ event ∈ moreBustle, event.reader? ≠ some feed.listener := by
    simp [moreBustle, writing, Event.reader?, listening, hother]
  obtain ⟨-, update, hupdate, hanswer⟩ := hreports .opened hlatest hopenEvents hunread (by
    rw [hnow, hbefore]
    nofun)
  cases hnow.symm.trans hanswer
  exact ⟨hearlier, hlatest, feed, _, hopen, hupdate, rfl⟩

end Feed

end LiveSheet
