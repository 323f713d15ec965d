import LiveSheet.Proofs.Sheet.Committed
import LiveSheet.Proofs.Sheet.Events

namespace LiveSheet

open LiveSheet.Formula

/-! A store in undisturbed use: no call fails and no token fires, while any number of
feeds are opened, read and closed next to the writes. -/

theorem Computed.keeps {engine : Engine} {store after : Store} (h : Computed engine store)
    (hkeeps : store.Keeps after) : Computed engine after := by
  intro sheet cell value hvalue
  rw [hkeeps.cell?] at hvalue
  rw [engine.page_congr fun other => hkeeps.cell? sheet other]
  exact h hvalue

namespace Access

variable {access : Access Unit α} {store after : Store}

theorem heed_yields (token : CancelToken) (store : Store) :
    (heed token : Access Unit Unit).Yields store (.ok ()) store := by
  intro world h
  refine ⟨world, h, ?_⟩
  rw [heed, h.isFired token]
  rfl

theorem Yields.map {result : Except StoreError α} (h : access.Yields store result after)
    (f : α → β) : (f <$> access).Yields store (result.map f) after := by
  rw [map_eq_pure_bind]
  cases result with
  | ok answer => exact h.bind (yields_pure (f answer) after)
  | error error => exact h.bind_error

end Access

namespace Feed

def reads (feed : Feed) (store : Store) : Except StoreError CellResponse :=
  (feed.engine.page store (canonical feed.record.sheet)).response feed.record.cell

variable {feed : Feed} {store after : Store} {world : World Unit}

theorem reads_keeps (feed : Feed) (h : store.Keeps after) :
    feed.reads after = feed.reads store := by
  unfold reads
  rw [feed.engine.page_congr fun cell => h.cell? (canonical feed.record.sheet) cell]

theorem nextMessage_yields (feed : Feed) (store : Store) :
    (feed.nextMessage : Access Unit (Option String)).Yields store
      ((Call.nextMessage feed.listener).perform store).1
      ((Call.nextMessage feed.listener).perform store).2 := by
  have hrequest := Access.request_yields feed.engine.token (.nextMessage feed.listener) store
  generalize (Call.nextMessage feed.listener).perform store = performed at hrequest ⊢
  obtain ⟨_ | _ | message, after⟩ := performed
  · exact hrequest.bind_error
  · exact hrequest.bind ((Access.heed_yields _ after).bind (Access.yields_pure none after))
  · exact hrequest.bind (Access.yields_pure (some message) after)

theorem nextUpdate_none (h : store.nextMessage? feed.listener = none) :
    (feed.nextUpdate : Access Unit (Option CellResponse)).Yields store (.ok none) store := by
  have hmessage := feed.nextMessage_yields store
  simp only [Call.perform, h] at hmessage
  exact hmessage.bind (Access.yields_pure none store)

theorem nextUpdate_some {message : String}
    (h : store.nextMessage? feed.listener = some (.ok message, after)) :
    (feed.nextUpdate : Access Unit (Option CellResponse)).Yields store
      ((feed.reads after).map some) after := by
  have hmessage := feed.nextMessage_yields store
  simp only [Call.perform, h] at hmessage
  have hread := feed.engine.getCell_yields after feed.record.sheet feed.record.cell
  exact hmessage.bind (hread.map some)

theorem nextUpdate_error {error : StoreError}
    (h : store.nextMessage? feed.listener = some (.error error, after)) :
    (feed.nextUpdate : Access Unit (Option CellResponse)).Yields store (.error error) after := by
  have hmessage := feed.nextMessage_yields store
  simp only [Call.perform, h] at hmessage
  exact hmessage.bind_error

theorem exists_nextUpdate_yields (feed : Feed) (store : Store) :
    ∃ result after,
      (feed.nextUpdate : Access Unit (Option CellResponse)).Yields store result after := by
  cases h : store.nextMessage? feed.listener with
  | none => exact ⟨_, _, nextUpdate_none h⟩
  | some pair =>
      obtain ⟨answer, after⟩ := pair
      cases answer with
      | ok message => exact ⟨_, _, nextUpdate_some h⟩
      | error error => exact ⟨_, _, nextUpdate_error h⟩

theorem drainWithin_done {bound : Nat} {final : World Unit}
    (h : feed.nextUpdate world = .ok none final) :
    feed.drainWithin (bound + 1) world = (([], none), final) := by
  simp only [drainWithin, h]

theorem drainWithin_update {bound : Nat} {update : CellResponse} {final : World Unit}
    (h : feed.nextUpdate world = .ok (some update) final) :
    feed.drainWithin (bound + 1) world =
      ((update :: (feed.drainWithin bound final).1.1, (feed.drainWithin bound final).1.2),
        (feed.drainWithin bound final).2) := by
  simp only [drainWithin, h]

theorem drainWithin_ended {bound : Nat} {error : StoreError} {final : World Unit}
    (h : feed.nextUpdate world = .error error final) :
    feed.drainWithin (bound + 1) world = (([], some error), final) := by
  simp only [drainWithin, h]

theorem drain_quiet (feed : Feed) (h : Quiet store world) :
    ∃ after, Quiet after (feed.drain world).2 := by
  unfold drain
  dsimp only
  generalize (world.store.listener? feed.listener).elim 0 Listener.waiting + 1 = bound
  induction bound generalizing store world with
  | zero => exact ⟨store, h⟩
  | succ bound ih =>
      obtain ⟨result, after, hyields⟩ := feed.exists_nextUpdate_yields store
      obtain ⟨final, hfinal, hrun⟩ := hyields world h
      rcases result with error | _ | update
      · rw [drainWithin_ended hrun]
        exact ⟨after, hfinal⟩
      · rw [drainWithin_done hrun]
        exact ⟨after, hfinal⟩
      · rw [drainWithin_update hrun]
        exact ih hfinal

end Feed

def subscriptionId (count : Nat) : String :=
  String.ofList (Nat.toDigits 16 count)

theorem digitChar_inj : ∀ first < 16, ∀ second < 16,
    Nat.digitChar first = Nat.digitChar second → first = second := by
  decide

theorem toDigits_inj {first second : Nat} (h : Nat.toDigits 16 first = Nat.toDigits 16 second) :
    first = second := by
  induction first using Nat.strongRecOn generalizing second with
  | ind first ih =>
      rw [@Nat.toDigits_eq_if 16 first (by decide), @Nat.toDigits_eq_if 16 second (by decide)] at h
      split at h <;> split at h
      · rename_i hfirst hsecond
        exact digitChar_inj first hfirst second hsecond (List.singleton_inj.mp h)
      · have hlength := congrArg List.length h
        have hpos := (Nat.toDigits_ne_nil : Nat.toDigits 16 (second / 16) ≠ [])
        simp [hpos] at hlength
      · have hlength := congrArg List.length h
        have hpos := (Nat.toDigits_ne_nil : Nat.toDigits 16 (first / 16) ≠ [])
        simp [hpos] at hlength
      · rename_i hfirst _
        obtain ⟨hfront, hlast⟩ := List.append_inj' h rfl
        have hquotient := ih (first / 16) (by omega) hfront
        have hrest := digitChar_inj (first % 16) (Nat.mod_lt _ (by decide)) (second % 16)
          (Nat.mod_lt _ (by decide)) (List.singleton_inj.mp hlast)
        omega

theorem subscriptionId_inj {first second : Nat}
    (h : subscriptionId first = subscriptionId second) : first = second :=
  toDigits_inj (String.ofList_inj.mp h)

namespace Store

def registry (store : Store) : Nat × Table SubscriptionRecord :=
  ((store.counters.get? subscriptionCounter).getD 0, store.subscriptions)

def Counted (store : Store) : Prop :=
  ∀ id, store.subscription? id ≠ none → ∃ count ≤ store.registry.1, subscriptionId count = id

/-- The store after one more subscription. -/
def subscribed (store : Store) (record : SubscriptionRecord) : Store :=
  (store.increment subscriptionCounter).2.setSubscription
    (subscriptionId (store.registry.1 + 1)) record

variable {store after : Store}

theorem empty_counted : empty.Counted :=
  fun _ h => absurd rfl h

theorem subscription?_registry (h : after.registry = store.registry) (id : String) :
    after.subscription? id = store.subscription? id :=
  congrArg (·.2.get? id) h

theorem Counted.of_registry (h : store.Counted) (hsame : after.registry = store.registry) :
    after.Counted := by
  intro id hid
  rw [subscription?_registry hsame] at hid
  rw [hsame]
  exact h id hid

theorem subscription?_subscribed (store : Store) (record : SubscriptionRecord) (id : String) :
    (store.subscribed record).subscription? id =
      if id = subscriptionId (store.registry.1 + 1) then some record
      else store.subscription? id :=
  Table.get?_insert _ _ _ _

theorem registry_subscribed (store : Store) (record : SubscriptionRecord) :
    (store.subscribed record).registry.1 = store.registry.1 + 1 := by
  simp only [registry, subscribed, setSubscription, increment, Table.get?_insert_self,
    Option.getD_some]

theorem Counted.subscribed (h : store.Counted) (record : SubscriptionRecord) :
    (store.subscribed record).Counted := by
  intro id hid
  rw [subscription?_subscribed] at hid
  rw [registry_subscribed]
  split at hid
  · rename_i hnew
    exact ⟨_, Nat.le_refl _, hnew.symm⟩
  · obtain ⟨count, hcount, hsame⟩ := h id hid
    exact ⟨count, by omega, hsame⟩

theorem Counted.kept (h : store.Counted) {id : String} {record other : SubscriptionRecord}
    (hid : store.subscription? id = some record) :
    (store.subscribed other).subscription? id = some record := by
  rw [subscription?_subscribed, if_neg, hid]
  rintro rfl
  obtain ⟨count, hcount, hsame⟩ := h _ (hid ▸ Option.some_ne_none record)
  have hnext := subscriptionId_inj hsame
  omega

theorem registry_announce (store : Store) (sheet : String) (cells : List String) :
    (store.announce sheet cells).registry = store.registry := by
  induction cells generalizing store with
  | nil => rfl
  | cons cell cells ih =>
      rw [announce_cons, ih]
      rfl

theorem Numbered.announce (h : store.Numbered) (sheet : String) (cells : List String) :
    (store.announce sheet cells).Numbered := by
  induction cells generalizing store with
  | nil => exact h
  | cons cell cells ih => exact ih (h.publish _ _)

end Store

theorem Call.ByFeeds.registry {reader? : Option Nat} {call : Call} (h : call.ByFeeds reader?)
    (store : Store) : (call.perform store).2.registry = store.registry := by
  cases h with
  | reads hread => rw [perform_of_isRead hread]
  | listens => rfl
  | @takes listener _ =>
      simp only [perform, Store.nextMessage?]
      rcases store.listener? listener with _ | found
      · rfl
      · simp only [Option.bind_eq_bind, Option.bind_some]
        split
        · rename_i heq
          split at heq
          · cases heq
            rfl
          · split at heq
            · cases heq
            · cases heq
              rfl
        · rfl

namespace Engine

theorem createSubscription_yields (engine : Engine) (sheet cell : String) (store : Store) :
    (engine.createSubscription sheet cell : Access Unit String).Yields store
      (.ok (subscriptionId (store.registry.1 + 1)))
      (store.subscribed (SubscriptionRecord.ofIds sheet cell)) := by
  have hcount := Access.request_yields engine.token (.increment Store.subscriptionCounter) store
  exact hcount.bind ((Access.request_yields engine.token (.setSubscription _ _) _).bind
    (Access.yields_pure _ _))

theorem openSubscription_yields (engine : Engine) {id : String} {record : SubscriptionRecord}
    {store : Store} (h : store.subscription? id = some record) :
    (engine.openSubscription id : Access Unit Feed).Yields store
      (.ok { engine, record, listener := store.nextListener })
      (store.listen (Store.topic record.sheet record.cell)).2 := by
  have hrecord := Access.request_yields engine.token (.getSubscription id) store
  simp only [Call.perform, h] at hrecord
  exact hrecord.bind ((Access.request_yields engine.token (.subscribe _) store).bind
    (Access.yields_pure _ _))

theorem openSubscription_unknown (engine : Engine) {id : String} {store : Store}
    (h : store.subscription? id = none) :
    (engine.openSubscription id : Access Unit Feed).Yields store
      (.error (.unknownSubscription id)) store := by
  have hrecord := Access.request_yields engine.token (.getSubscription id) store
  simp only [Call.perform, h] at hrecord
  exact hrecord.bind_error

end Engine

/-- No token fires, and writes are of accepted cells and have the same external results. -/
def Event.Calm (fetch : Fetch) : Event → Prop
  | .writes write => isCellIdentifier write.cell = true ∧ write.engine.fetch = fetch
  | .fires _ => False
  | _ => True

structure Sound (engine : Engine) (store : Store) : Prop where
  coherent : store.Coherent
  computed : Computed engine store
  numbered : store.Numbered
  counted : store.Counted

theorem empty_sound (engine : Engine) : Sound engine Store.empty where
  coherent := Store.empty_coherent
  computed := empty_computed engine
  numbered := Store.empty_numbered
  counted := Store.empty_counted

namespace Sound

variable {engine : Engine} {store after : Store} {world : World Unit}

structure Leads (engine : Engine) (store after : Store) : Prop where
  sound : Sound engine after
  kept : ∀ {id record}, store.subscription? id = some record →
    after.subscription? id = some record

theorem Leads.trans {middle : Store} (h : Leads engine store middle)
    (hnext : Leads engine middle after) : Leads engine store after :=
  ⟨hnext.sound, fun hid => hnext.kept (h.kept hid)⟩

theorem refl (h : Sound engine store) : Leads engine store store :=
  ⟨h, fun hid => hid⟩

theorem accepted (h : Sound engine store) {write : Write} (hwrite : write.Accepted store after)
    (hcell : isCellIdentifier write.cell = true) (hfetch : write.engine.fetch = engine.fetch) :
    Leads engine store after := by
  have hcoherent := hwrite.coherent h.coherent hcell
  have hcomputed : Computed engine after := hwrite.computed hfetch h.coherent h.computed
  obtain ⟨told, hstored⟩ := hwrite.stored
  obtain ⟨sheets, dependents, htouches⟩ :=
    store.commit_touches (canonical write.sheet) (canonical write.cell) write.value
  have hnumbered : after.Numbered := by
    rw [hstored.store_eq]
    refine Store.Numbered.announce (h.numbered.of_audience ?_) _ _
    rw [htouches]
    rfl
  have hregistry : after.registry = store.registry := by
    rw [hstored.store_eq, Store.registry_announce, htouches]
    rfl
  refine ⟨⟨hcoherent, hcomputed, hnumbered, h.counted.of_registry hregistry⟩, fun hid => ?_⟩
  rw [Store.subscription?_registry hregistry, hid]

theorem subscribes (h : Sound engine store) (record : SubscriptionRecord) :
    Leads engine store (store.subscribed record) := by
  have hkeeps : store.Keeps (store.subscribed record) := ⟨rfl, rfl⟩
  exact ⟨⟨hkeeps.coherent h.coherent, Computed.keeps h.computed hkeeps, h.numbered.of_audience rfl,
    h.counted.subscribed record⟩, h.counted.kept⟩

theorem byFeeds (h : Sound engine store) {reader? : Option Nat} {before final : World Unit}
    (hbecomes : World.Becomes (Call.ByFeeds reader?) before final) (hbefore : before.store = store)
    (hfinal : final.store = after) : Leads engine store after := by
  subst hbefore hfinal
  have hkeeps := hbecomes.keeps fun _ => Call.ByFeeds.spares
  have hnumbered : final.store.Numbered :=
    hbecomes.preserves Store.Numbered (fun call _ _ hstore => hstore.perform call) h.numbered
  have hregistry : final.store.registry = before.store.registry :=
    hbecomes.preserves (fun store => store.registry = before.store.registry)
      (fun call hcall store hstore => (hcall.registry store).trans hstore) rfl
  exact ⟨⟨hkeeps.coherent h.coherent, Computed.keeps h.computed hkeeps, hnumbered,
    h.counted.of_registry hregistry⟩, fun hid =>
      (Store.subscription?_registry hregistry _).trans hid⟩

theorem unlisten (h : Sound engine store) (id : Nat) :
    Leads engine store (store.unlisten id) := by
  have hkeeps : store.Keeps (store.unlisten id) := ⟨rfl, rfl⟩
  exact ⟨⟨hkeeps.coherent h.coherent, Computed.keeps h.computed hkeeps, h.numbered.unlisten id,
    h.counted.of_registry rfl⟩, fun hid => hid⟩

theorem event (h : Sound engine store) {event : Event} (hcalm : event.Calm engine.fetch)
    (hquiet : Quiet store world) :
    ∃ after, Quiet after (event.apply world) ∧ Leads engine store after := by
  have hfeeds {other : Event} {reader? : Option Nat} {after : Store}
      (hbecomes : World.Becomes (Call.ByFeeds reader?) world (other.apply world))
      (hafter : Quiet after (other.apply world)) :
      ∃ after, Quiet after (other.apply world) ∧ Leads engine store after :=
    ⟨after, hafter, h.byFeeds hbecomes hquiet.store hafter.store⟩
  cases event with
  | writes write =>
      obtain ⟨after, hafter, rfl | haccepted⟩ := write.apply_cases hcalm.1 h.coherent hquiet
      · exact ⟨after, hafter, h.refl⟩
      · exact ⟨after, hafter, h.accepted haccepted hcalm.1 hcalm.2⟩
  | subscribes opener sheet cell =>
      exact ⟨_, (opener.createSubscription_yields sheet cell store).leaves hquiet,
        h.subscribes _⟩
  | listens opener id =>
      cases hid : store.subscription? id with
      | none => exact ⟨store, (opener.openSubscription_unknown hid).leaves hquiet, h.refl⟩
      | some record =>
          exact hfeeds ((opener.openSubscription_makes id).becomes world)
            ((opener.openSubscription_yields hid).leaves hquiet)
  | takes feed =>
      obtain ⟨result, after, hyields⟩ := feed.exists_nextUpdate_yields store
      exact hfeeds (feed.nextUpdate_makes.becomes world) (hyields.leaves hquiet)
  | drains feed =>
      obtain ⟨after, hafter⟩ := feed.drain_quiet hquiet
      exact hfeeds (feed.drain_becomes world) hafter
  | closes feed =>
      obtain rfl := hquiet.store
      exact ⟨_, ⟨rfl, hquiet.fired⟩, h.unlisten feed.listener⟩
  | fires token => exact hcalm.elim

theorem run (h : Sound engine store) {events : List Event}
    (hcalm : ∀ event ∈ events, event.Calm engine.fetch) (hquiet : Quiet store world) :
    ∃ after, Quiet after (Event.run events world) ∧ Leads engine store after := by
  induction events generalizing store world with
  | nil => exact ⟨store, hquiet, h.refl⟩
  | cons event events ih =>
      obtain ⟨hevent, hevents⟩ := List.forall_mem_cons.mp hcalm
      obtain ⟨middle, hmiddle, hleads⟩ := h.event hevent hquiet
      obtain ⟨after, hafter, hnext⟩ := ih hleads.sound hevents hmiddle
      rw [Event.run_cons]
      exact ⟨after, hafter, hleads.trans hnext⟩

end Sound

end LiveSheet
