import LiveSheet.Proofs.Store.Effects

namespace LiveSheet

/-! A run and the same run without its token.  Up to the call at which the token fires the
two do the same; from there on the one stops, and the other shows what was still to come. -/

structure Unheard (σ : Type) where
  token : CancelToken
  conditions : σ
  fired : List CancelToken
  later : List Call

def Unheard.isDue (unheard : Unheard σ) : Bool :=
  unheard.fired.contains unheard.token

instance [Interference σ] : Interference (Unheard σ) where
  react unheard call :=
    let (reaction, conditions) := Interference.react unheard.conditions call
    ({ reaction with fires := reaction.fires.filter (· != unheard.token) },
      { unheard with
        conditions
        fired := reaction.fires ++ unheard.fired
        later := if unheard.isDue then call :: unheard.later else unheard.later })

namespace World

def unheard (token : CancelToken) (world : World σ) : World (Unheard σ) :=
  { store := world.store
    calls := world.calls
    fired := world.fired.filter (· != token)
    conditions := { token, conditions := world.conditions, fired := world.fired, later := [] } }

def heard (world : World (Unheard σ)) : World σ :=
  { store := world.store
    calls := world.calls
    fired := world.conditions.fired
    conditions := world.conditions.conditions }

/-- A run that has stopped, next to one that has gone on. -/
structure Apart (token : CancelToken) (world : World σ) (other : World (Unheard σ)) : Prop where
  fired : world.isFired token = true
  due : other.conditions.isDue = true
  calls : other.calls = other.conditions.later ++ world.calls

structure Still (token : CancelToken) (before after : World σ) : Prop where
  fired : after.isFired token = true
  calls : after.calls = before.calls

structure Noted (before after : World (Unheard σ)) : Prop where
  due : after.conditions.isDue = true
  later : ∃ made, after.calls = made ++ before.calls ∧
    after.conditions.later = made ++ before.conditions.later

variable {token : CancelToken} {world : World σ} {before after other : World (Unheard σ)}

@[simp] theorem isFired_unheard (token : CancelToken) (world : World σ) :
    (world.unheard token).isFired token = false := by
  simp [isFired, unheard]

theorem apart_unheard (h : world.isFired token = true) :
    Apart token world (world.unheard token) where
  fired := h
  due := h
  calls := rfl

theorem Apart.still {later : World σ} (h : Apart token world other)
    (hstill : Still token world later) : Apart token later other where
  fired := hstill.fired
  due := h.due
  calls := by rw [hstill.calls, h.calls]

theorem Apart.noted (h : Apart token world before) (hnoted : Noted before after) :
    Apart token world after where
  fired := h.fired
  due := hnoted.due
  calls := by
    obtain ⟨made, hcalls, hlater⟩ := hnoted.later
    rw [hcalls, hlater, h.calls, List.append_assoc]

theorem Noted.refl (h : before.conditions.isDue = true) : Noted before before where
  due := h
  later := ⟨[], rfl, rfl⟩

theorem Noted.trans {middle : World (Unheard σ)} (h : Noted before middle)
    (hlast : Noted middle after) : Noted before after where
  due := hlast.due
  later := by
    obtain ⟨first, hcalls, hlater⟩ := h.later
    obtain ⟨last, hmore, hlatest⟩ := hlast.later
    exact ⟨last ++ first, by rw [hmore, hcalls, List.append_assoc],
      by rw [hlatest, hlater, List.append_assoc]⟩

end World

section

variable {ε state other α : Type}

def mapState (f : state → other) :
    EStateM.Result ε state α → EStateM.Result ε other α
  | .ok answer last => .ok answer (f last)
  | .error error last => .error error (f last)

theorem endState_mapState (f : state → other)
    (result : EStateM.Result ε state α) : endState (mapState f result) = f (endState result) := by
  cases result <;> rfl

end

/-- How a state is seen: the world in it, its counterpart where the token is not heard, and
what programs leave as it is. -/
structure Hearing (σ state other : Type) where
  token : CancelToken
  world : state → World σ
  otherWorld : other → World (Unheard σ)
  unheard : state → other
  heard : other → state
  heard_unheard : ∀ before, heard (unheard before) = before
  kept : state → Prop

namespace Hearing

variable {σ state other α β : Type} (hearing : Hearing σ state other) (astray : Prop)

def Stays (before after : state) : Prop :=
  hearing.kept before → (hearing.world before).isFired hearing.token = true →
    hearing.kept after ∧ (hearing.world before).Still hearing.token (hearing.world after)

def Notes (before after : other) : Prop :=
  (hearing.otherWorld before).conditions.isDue = true →
    (hearing.otherWorld before).Noted (hearing.otherWorld after)

/-- The ends of two programs: alike, or the first has been cut short, or it went on in its
own way, which `astray` has to allow. -/
inductive Ends : EStateM.Result StoreError state α → EStateM.Result StoreError other α → Prop
  | ok (answer : α) {last : state} (kept : hearing.kept last) :
      Ends (.ok answer last) (.ok answer (hearing.unheard last))
  | error (error : StoreError) {last : state} (kept : hearing.kept last) :
      Ends (.error error last) (.error error (hearing.unheard last))
  | cut {last : state} {result : EStateM.Result StoreError other α}
      (apart : World.Apart hearing.token (hearing.world last)
        (hearing.otherWorld (endState result))) :
      Ends (.error .cancelled last) result
  | astray {left : EStateM.Result StoreError state α}
      {right : EStateM.Result StoreError other α} (allowed : astray)
      (kept : hearing.kept (endState left))
      (apart : World.Apart hearing.token (hearing.world (endState left))
        (hearing.otherWorld (endState right))) :
      Ends left right

structure Parallel (left : EStateM StoreError state α) (right : EStateM StoreError other α) :
    Prop where
  stays : Moves hearing.Stays left
  notes : Moves hearing.Notes right
  ends : ∀ before, hearing.kept before →
    hearing.Ends astray (left before) (right (hearing.unheard before))

variable {hearing astray}

theorem stays_refl (before : state) : hearing.Stays before before :=
  fun hkept hfired => ⟨hkept, hfired, rfl⟩

theorem Stays.trans {first second third : state} (h : hearing.Stays first second)
    (hlast : hearing.Stays second third) : hearing.Stays first third := by
  intro hkept hfired
  obtain ⟨hkept, hstill⟩ := h hkept hfired
  obtain ⟨hkept, hlater⟩ := hlast hkept hstill.fired
  exact ⟨hkept, hlater.fired, hlater.calls.trans hstill.calls⟩

theorem notes_refl (before : other) : hearing.Notes before before :=
  fun hdue => .refl hdue

theorem Notes.trans {first second third : other} (h : hearing.Notes first second)
    (hlast : hearing.Notes second third) : hearing.Notes first third :=
  fun hdue => (h hdue).trans (hlast (h hdue).due)

theorem parallel_pure (answer : α) :
    hearing.Parallel astray (pure answer) (pure answer) where
  stays := moves_pure stays_refl answer
  notes := moves_pure notes_refl answer
  ends := fun _ hkept => .ok answer hkept

theorem parallel_throw (error : StoreError) :
    hearing.Parallel astray (throw error : EStateM StoreError state α) (throw error) where
  stays := moves_throw stays_refl error
  notes := moves_throw notes_refl error
  ends := fun _ hkept => .error error hkept

theorem parallel_get {next : state → EStateM StoreError state α}
    {otherNext : other → EStateM StoreError other α}
    (h : ∀ before, hearing.Parallel astray (next (hearing.heard before)) (otherNext before)) :
    hearing.Parallel astray (get >>= next) (get >>= otherNext) where
  stays := by
    intro before
    have hnext := h (hearing.unheard before)
    rw [hearing.heard_unheard] at hnext
    exact hnext.stays before
  notes := fun before => (h before).notes before
  ends := by
    intro before hkept
    have hnext := h (hearing.unheard before)
    rw [hearing.heard_unheard] at hnext
    exact hnext.ends before hkept

namespace Parallel

variable {left : EStateM StoreError state α} {right : EStateM StoreError other α}

theorem bind_cases {next : α → EStateM StoreError state β}
    {otherNext : α → EStateM StoreError other β} (h : hearing.Parallel astray left right)
    (hnext : ∀ answer, Moves hearing.Stays (next answer))
    (hother : ∀ answer, Moves hearing.Notes (otherNext answer)) {before : state}
    (hkept : hearing.kept before) :
    (∃ answer last, hearing.kept last ∧ left before = .ok answer last ∧
      right (hearing.unheard before) = .ok answer (hearing.unheard last)) ∨
    hearing.Ends astray ((left >>= next) before)
      ((right >>= otherNext) (hearing.unheard before)) := by
  have hstays := bind_goes_on stays_refl hnext left before
  have hnotes := bind_goes_on notes_refl hother right (hearing.unheard before)
  have hends := h.ends before hkept
  generalize hleft : left before = first at *
  generalize hright : right (hearing.unheard before) = second at *
  cases hends with
  | ok answer hkept => exact Or.inl ⟨answer, _, hkept, rfl, rfl⟩
  | error error hkept =>
      rw [bind_of_error hleft, bind_of_error hright]
      exact Or.inr (.error error hkept)
  -- What has been cut short ends here, and only the other goes on.
  | cut hapart =>
      rw [bind_of_error hleft]
      exact Or.inr (.cut (hapart.noted (hnotes hapart.due)))
  | astray hallowed hkept hapart =>
      obtain ⟨hkept, hstill⟩ := hstays hkept hapart.fired
      exact Or.inr (.astray hallowed hkept ((hapart.still hstill).noted (hnotes hapart.due)))

theorem bind {next : α → EStateM StoreError state β}
    {otherNext : α → EStateM StoreError other β} (h : hearing.Parallel astray left right)
    (hnext : ∀ answer, hearing.Parallel astray (next answer) (otherNext answer)) :
    hearing.Parallel astray (left >>= next) (right >>= otherNext) where
  stays := h.stays.bind stays_refl Stays.trans fun answer => (hnext answer).stays
  notes := h.notes.bind notes_refl Notes.trans fun answer => (hnext answer).notes
  ends := by
    intro before hkept
    rcases h.bind_cases (fun answer => (hnext answer).stays) (fun answer => (hnext answer).notes)
      hkept with ⟨answer, last, hlast, hleft, hright⟩ | hends
    · rw [bind_of_ok hleft, bind_of_ok hright]
      exact (hnext answer).ends last hlast
    · exact hends

theorem map (h : hearing.Parallel astray left right) (f : α → β) :
    hearing.Parallel astray (f <$> left) (f <$> right) := by
  rw [map_eq_pure_bind, map_eq_pure_bind]
  exact h.bind fun answer => parallel_pure (f answer)

theorem tryCatch {handle : StoreError → EStateM StoreError state α}
    {otherHandle : StoreError → EStateM StoreError other α}
    (h : hearing.Parallel astray left right)
    (hhandle : ∀ error, hearing.Parallel astray (handle error) (otherHandle error))
    (hcancelled : handle .cancelled = throw .cancelled) :
    hearing.Parallel astray (tryCatch left handle) (tryCatch right otherHandle) where
  stays := h.stays.tryCatch stays_refl Stays.trans fun error => (hhandle error).stays
  notes := h.notes.tryCatch notes_refl Notes.trans fun error => (hhandle error).notes
  ends := by
    intro before hkept
    have hstays := tryCatch_goes_on stays_refl (fun error => (hhandle error).stays) left before
    have hnotes := tryCatch_goes_on notes_refl (fun error => (hhandle error).notes) right
      (hearing.unheard before)
    have hends := h.ends before hkept
    generalize hleft : left before = first at *
    generalize hright : right (hearing.unheard before) = second at *
    cases hends with
    | ok answer hkept =>
        rw [tryCatch_of_ok hleft, tryCatch_of_ok hright]
        exact .ok answer hkept
    | error error hkept =>
        rw [tryCatch_of_error hleft, tryCatch_of_error hright]
        exact (hhandle error).ends _ hkept
    -- No handler makes up for a token that has fired.
    | cut hapart =>
        rw [tryCatch_of_error hleft, hcancelled]
        exact .cut (hapart.noted (hnotes hapart.due))
    | astray hallowed hkept hapart =>
        obtain ⟨hkept, hstill⟩ := hstays hkept hapart.fired
        exact .astray hallowed hkept ((hapart.still hstill).noted (hnotes hapart.due))

end Parallel

theorem ends_mapState {result : EStateM.Result StoreError state α}
    (h : hearing.kept (endState result)) :
    hearing.Ends astray result (mapState hearing.unheard result) := by
  cases result with
  | ok answer last => exact .ok answer h
  | error error last => exact .error error h

theorem Ends.mapState {whole whole' : Type} {outer : Hearing σ whole whole'}
    {left : EStateM.Result StoreError state α} {right : EStateM.Result StoreError other α}
    (h : hearing.Ends astray left right) {f : state → whole} {g : other → whole'}
    (htoken : outer.token = hearing.token)
    (hkept : ∀ state, hearing.kept state → outer.kept (f state))
    (hunheard : ∀ state, outer.unheard (f state) = g (hearing.unheard state))
    (hworld : ∀ state, outer.world (f state) = hearing.world state)
    (hother : ∀ other, outer.otherWorld (g other) = hearing.otherWorld other) :
    outer.Ends astray (LiveSheet.mapState f left) (LiveSheet.mapState g right) := by
  have hapart {last : state} {end' : other}
      (hapart : World.Apart hearing.token (hearing.world last) (hearing.otherWorld end')) :
      World.Apart outer.token (outer.world (f last)) (outer.otherWorld (g end')) := by
    rw [htoken, hworld, hother]
    exact hapart
  cases h with
  | ok answer hlast =>
      rw [LiveSheet.mapState, LiveSheet.mapState, ← hunheard]
      exact .ok answer (hkept _ hlast)
  | error error hlast =>
      rw [LiveSheet.mapState, LiveSheet.mapState, ← hunheard]
      exact .error error (hkept _ hlast)
  | cut hends =>
      refine .cut ?_
      rw [endState_mapState]
      exact hapart hends
  | astray hallowed hlast hends =>
      refine .astray hallowed ?_ ?_
      · rw [endState_mapState]
        exact hkept _ hlast
      · rw [endState_mapState, endState_mapState]
        exact hapart hends

def ofWorld (token : CancelToken) : Hearing σ (World σ) (World (Unheard σ)) where
  token
  world := id
  otherWorld := id
  unheard := World.unheard token
  heard := World.heard
  heard_unheard := fun _ => rfl
  kept := fun _ => True

end Hearing

namespace World

variable [Interference σ]

def reacted (world : World σ) (call : Call) : World σ :=
  let (reaction, conditions) := Interference.react world.conditions call
  { world with
    calls := call :: world.calls
    fired := reaction.fires ++ world.fired
    conditions }

theorem reacted_unheard {token : CancelToken} {world : World σ}
    (h : world.isFired token = false) (call : Call) :
    (world.unheard token).reacted call = (world.reacted call).unheard token := by
  rw [isFired] at h
  simp only [reacted, unheard, Interference.react, Unheard.isDue, h, List.filter_append]
  rfl

theorem noted_reacted {world : World (Unheard σ)} (h : world.conditions.isDue = true)
    (call : Call) : world.Noted (world.reacted call) := by
  simp only [reacted, Interference.react, h]
  refine ⟨?_, [call], rfl, rfl⟩
  rw [Unheard.isDue] at h ⊢
  rw [List.contains_append, h, Bool.or_true]

end World

namespace Access

open Hearing

variable {σ α : Type} {token : CancelToken} {astray : Prop}

def carryOut (world : World σ) (call : Call) :
    Option String → EStateM.Result StoreError (World σ) call.Answer
  | some reason => .error (.backend reason) world
  | none =>
      match call.perform world.store with
      | (.ok answer, store) => .ok answer { world with store }
      | (.error error, store) => .error error { world with store }

theorem request_eq [Interference σ] (token : CancelToken) (call : Call) (world : World σ) :
    request token call world =
      if world.isFired token then .error .cancelled world
      else carryOut (world.reacted call) call
        (Interference.react world.conditions call).1.failure := rfl

theorem endState_carryOut (world : World σ) (call : Call) (failure : Option String) :
    ∃ store, endState (carryOut world call failure) = { world with store } := by
  cases failure with
  | some reason => exact ⟨world.store, rfl⟩
  | none =>
      rw [carryOut]
      rcases call.perform world.store with ⟨_ | _, store⟩ <;> exact ⟨store, rfl⟩

theorem carryOut_unheard (world : World σ) (call : Call) (failure : Option String) :
    carryOut (world.unheard token) call failure =
      mapState (World.unheard token) (carryOut world call failure) := by
  cases failure with
  | some reason => rfl
  | none =>
      rw [carryOut, carryOut, show (world.unheard token).store = world.store from rfl]
      rcases call.perform world.store with ⟨_ | _, store⟩ <;> rfl

/-- A step that is not made once the token has fired, and otherwise does not depend on
it. -/
theorem parallel_of_guarded {left : Access σ α} {right : Access (Unheard σ) α}
    (hguard : ∀ world, world.isFired token = true → left world = .error .cancelled world)
    (hnotes : ∀ world : World (Unheard σ), world.conditions.isDue = true →
      world.Noted (endState (right world)))
    (hfollows : ∀ world, world.isFired token = false →
      right (world.unheard token) = mapState (World.unheard token) (left world)) :
    (ofWorld token).Parallel astray left right where
  stays := by
    intro world hkept hfired
    have hleft : left world = .error .cancelled world := hguard world hfired
    rw [hleft]
    exact stays_refl world hkept hfired
  notes := hnotes
  ends := by
    intro world hkept
    cases hfired : world.isFired token with
    | true =>
        rw [hguard world hfired]
        exact .cut ((World.apart_unheard hfired).noted (hnotes _ hfired))
    | false =>
        have hright := hfollows world hfired
        rw [show (ofWorld token).unheard world = world.unheard token from rfl, hright]
        exact ends_mapState trivial

variable [Interference σ]

theorem request_parallel (call : Call) :
    (ofWorld token : Hearing σ _ _).Parallel astray (request token call)
      (request token call) := by
  apply parallel_of_guarded
  · intro world hfired
    rw [request, if_pos hfired]
  · intro world hdue
    rw [request_eq]
    split
    · exact .refl hdue
    · have hreacted := World.noted_reacted hdue call
      obtain ⟨store, hstore⟩ := endState_carryOut (world.reacted call) call
        (Interference.react world.conditions call).1.failure
      rw [hstore]
      exact ⟨hreacted.due, hreacted.later⟩
  · intro world hfired
    rw [request_eq, request_eq, World.isFired_unheard, hfired, if_neg Bool.false_ne_true,
      if_neg Bool.false_ne_true, World.reacted_unheard hfired]
    exact carryOut_unheard (world.reacted call) call _

omit [Interference σ] in
theorem heed_parallel :
    (ofWorld token : Hearing σ _ _).Parallel astray (heed token) (heed token) := by
  apply parallel_of_guarded
  · intro world hfired
    rw [heed, if_pos hfired]
  · intro world hdue
    rw [heed]
    split <;> exact .refl hdue
  · intro world hfired
    rw [heed, heed, World.isFired_unheard, hfired]
    rfl

omit [Interference σ] in
theorem orAbsent_parallel {left : Access σ α} {right : Access (Unheard σ) α}
    (h : (ofWorld token).Parallel astray left right) :
    (ofWorld token).Parallel astray left.orAbsent right.orAbsent := by
  refine (h.map some).tryCatch (fun error => ?_) rfl
  split
  · exact parallel_pure none
  · exact parallel_throw error

end Access

end LiveSheet
