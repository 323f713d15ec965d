import LiveSheet.Proofs.Store.Quiet
import Mathlib.Logic.Relation

namespace LiveSheet

open LiveSheet.Formula

/-! What requests do to a store, in any surroundings: calls may fail, and tokens
may fire, wherever that is least welcome. -/

namespace Call

def isRead : Call → Bool
  | .getCell .. | .getAllCells _ | .sheetExists _ | .getDependents .. | .getSubscription _ =>
      true
  | .setCell .. | .addDependents .. | .removeDependents .. | .increment _
  | .setSubscription .. | .publish .. | .subscribe _ | .nextMessage _ => false

theorem perform_of_isRead {call : Call} (h : call.isRead = true) (store : Store) :
    (call.perform store).2 = store := by
  cases call with
  | getCell sheet cell =>
      simp only [perform]
      split <;> rfl
  | getSubscription id =>
      simp only [perform]
      split <;> rfl
  | getAllCells | sheetExists | getDependents => rfl
  | setCell | addDependents | removeDependents | increment | setSubscription | publish
  | subscribe | nextMessage => cases h

end Call

namespace World

/-- A call has reached the store, which carried it out or failed before it
changed anything. -/
structure Took (call : Call) (before after : World σ) : Prop where
  calls : after.calls = call :: before.calls
  store : after.store = before.store ∨ after.store = (call.perform before.store).2

/-- What a world comes to when only calls of one kind are made on it. -/
def Becomes (kind : Call → Prop) : World σ → World σ → Prop :=
  Relation.ReflTransGen fun before after => ∃ call, kind call ∧ Took call before after

structure Untouched (before after : World σ) : Prop where
  store : after.store = before.store
  calls : ∃ made, after.calls = made ++ before.calls ∧ ∀ call ∈ made, call.isRead = true

variable {kind : Call → Prop} {before middle after : World σ}

theorem Untouched.trans (h : before.Untouched middle) (hlast : middle.Untouched after) :
    before.Untouched after where
  store := hlast.store.trans h.store
  calls := by
    obtain ⟨first, hfirst, hreads⟩ := h.calls
    obtain ⟨last, hcalls, hlasts⟩ := hlast.calls
    refine ⟨last ++ first, ?_, List.forall_mem_append.mpr ⟨hlasts, hreads⟩⟩
    rw [hcalls, hfirst, List.append_assoc]

theorem Becomes.calls (h : Becomes kind before after) :
    ∃ made, after.calls = made ++ before.calls ∧ ∀ call ∈ made, kind call := by
  induction h with
  | refl => exact ⟨[], rfl, nofun⟩
  | tail _ hlast ih =>
      obtain ⟨made, hmade, hkind⟩ := ih
      obtain ⟨call, hcall, htook⟩ := hlast
      refine ⟨call :: made, ?_, List.forall_mem_cons.mpr ⟨hcall, hkind⟩⟩
      rw [htook.calls, hmade, List.cons_append]

/-- What every call of a kind preserves of a store, all of them preserve together. -/
theorem Becomes.preserves (h : Becomes kind before after) (holds : Store → Prop)
    (hstep : ∀ call, kind call → ∀ store, holds store → holds (call.perform store).2)
    (hbefore : holds before.store) : holds after.store := by
  induction h with
  | refl => exact hbefore
  | tail _ hlast ih =>
      obtain ⟨call, hkind, htook⟩ := hlast
      rcases htook.store with hstore | hstore
      · rw [hstore]
        exact ih
      · rw [hstore]
        exact hstep call hkind _ ih

theorem Becomes.untouched (h : Becomes (·.isRead = true) before after) :
    Untouched before after where
  store := h.preserves (· = before.store)
    (fun _ hread store hstore => (Call.perform_of_isRead hread store).trans hstore) rfl
  calls := h.calls

end World

section

variable {ε state α β : Type} {rel : state → state → Prop} {program : EStateM ε state α}

def endState : EStateM.Result ε state α → state
  | .ok _ after | .error _ after => after

def Moves (rel : state → state → Prop) (program : EStateM ε state α) : Prop :=
  ∀ before, rel before (endState (program before))

variable (hrefl : ∀ state, rel state state)
include hrefl

theorem moves_pure (answer : α) : Moves rel (pure answer : EStateM ε state α) :=
  fun before => hrefl before

theorem moves_throw (error : ε) : Moves rel (throw error : EStateM ε state α) :=
  fun before => hrefl before

theorem bind_goes_on {next : α → EStateM ε state β}
    (hnext : ∀ answer, Moves rel (next answer)) (program : EStateM ε state α)
    (before : state) :
    rel (endState (program before)) (endState ((program >>= next) before)) := by
  cases hrun : program before with
  | ok answer middle =>
      rw [bind_of_ok hrun]
      exact hnext answer middle
  | error error middle =>
      rw [bind_of_error hrun]
      exact hrefl middle

theorem tryCatch_goes_on {handle : ε → EStateM ε state α}
    (hhandle : ∀ error, Moves rel (handle error)) (program : EStateM ε state α)
    (before : state) :
    rel (endState (program before)) (endState (tryCatch program handle before)) := by
  cases hrun : program before with
  | ok answer middle =>
      rw [tryCatch_of_ok hrun]
      exact hrefl middle
  | error error middle =>
      rw [tryCatch_of_error hrun]
      exact hhandle error middle

variable
  (htrans : ∀ {first second third}, rel first second → rel second third → rel first third)
include htrans

theorem Moves.bind {next : α → EStateM ε state β} (h : Moves rel program)
    (hnext : ∀ answer, Moves rel (next answer)) : Moves rel (program >>= next) :=
  fun before => htrans (h before) (bind_goes_on hrefl hnext program before)

theorem Moves.tryCatch {handle : ε → EStateM ε state α} (h : Moves rel program)
    (hhandle : ∀ error, Moves rel (handle error)) : Moves rel (tryCatch program handle) :=
  fun before => htrans (h before) (tryCatch_goes_on hrefl hhandle program before)

end

def Makes (world : state → World σ) (kind : Call → Prop)
    (program : EStateM StoreError state α) : Prop :=
  ∀ before,
    match program before with
    | .ok _ after | .error _ after => World.Becomes kind (world before) (world after)

section

variable {world : state → World σ} {kind : Call → Prop}
  {program : EStateM StoreError state α} {before after : state}

theorem Makes.becomes_of_ok (h : Makes world kind program) {answer : α}
    (hrun : program before = .ok answer after) :
    World.Becomes kind (world before) (world after) := by
  have hmakes := h before
  rw [hrun] at hmakes
  exact hmakes

theorem Makes.becomes_of_error (h : Makes world kind program) {error : StoreError}
    (hrun : program before = .error error after) :
    World.Becomes kind (world before) (world after) := by
  have hmakes := h before
  rw [hrun] at hmakes
  exact hmakes

theorem makes_pure (answer : α) :
    Makes world kind (pure answer : EStateM StoreError state α) :=
  fun _ => .refl

theorem makes_throw (error : StoreError) :
    Makes world kind (throw error : EStateM StoreError state α) :=
  fun _ => .refl

theorem makes_get : Makes world kind (get : EStateM StoreError state state) :=
  fun _ => .refl

theorem makes_iff_moves :
    Makes world kind program ↔
      Moves (fun before after => World.Becomes kind (world before) (world after)) program := by
  refine forall_congr' fun before => ?_
  cases program before <;> exact Iff.rfl

theorem Makes.bind {next : α → EStateM StoreError state β} (h : Makes world kind program)
    (hnext : ∀ answer, Makes world kind (next answer)) :
    Makes world kind (program >>= next) := by
  rw [makes_iff_moves] at h ⊢
  exact h.bind (fun _ => .refl) .trans fun answer => makes_iff_moves.mp (hnext answer)

theorem Makes.map (h : Makes world kind program) (f : α → β) :
    Makes world kind (f <$> program) := by
  rw [map_eq_pure_bind]
  exact h.bind fun answer => makes_pure (f answer)

theorem Makes.tryCatch {handle : StoreError → EStateM StoreError state α}
    (h : Makes world kind program) (hhandle : ∀ error, Makes world kind (handle error)) :
    Makes world kind (tryCatch program handle) := by
  rw [makes_iff_moves] at h ⊢
  exact h.tryCatch (fun _ => .refl) .trans fun error => makes_iff_moves.mp (hhandle error)

end

namespace Access

theorem orAbsent_makes {kind : Call → Prop} {access : Access σ α} (h : Makes id kind access) :
    Makes id kind access.orAbsent := by
  refine (h.map some).tryCatch fun error => ?_
  split
  · exact makes_pure none
  · exact makes_throw error

variable [Interference σ]

inductive Ends (call : Call) (world : World σ) :
    EStateM.Result StoreError (World σ) call.Answer → Prop
  | cancelled : Ends call world (.error .cancelled world)
  | failed {after : World σ} (reason : String) (calls : after.calls = call :: world.calls)
      (store : after.store = world.store) : Ends call world (.error (.backend reason) after)
  | refused {after : World σ} {error : StoreError}
      (calls : after.calls = call :: world.calls)
      (perform : call.perform world.store = (.error error, after.store)) :
      Ends call world (.error error after)
  | answered {after : World σ} {answer : call.Answer}
      (calls : after.calls = call :: world.calls)
      (perform : call.perform world.store = (.ok answer, after.store)) :
      Ends call world (.ok answer after)

theorem request_ends (token : CancelToken) (call : Call) (world : World σ) :
    Ends call world (request token call world) := by
  unfold request
  split
  · exact .cancelled
  · rcases hreact : Interference.react world.conditions call with ⟨reaction, conditions⟩
    dsimp only
    cases reaction.failure with
    | some reason => exact .failed reason rfl rfl
    | none =>
        rcases hperform : call.perform world.store with ⟨result, store⟩
        cases result with
        | ok answer => exact .answered rfl hperform
        | error error => exact .refused rfl hperform

theorem request_ok {token : CancelToken} {call : Call} {world after : World σ}
    {answer : call.Answer} (hrun : request token call world = .ok answer after) :
    after.calls = call :: world.calls ∧
      call.perform world.store = (.ok answer, after.store) := by
  have hends := request_ends token call world
  rw [hrun] at hends
  cases hends with
  | answered hcalls hperform => exact ⟨hcalls, hperform⟩

theorem request_makes (token : CancelToken) {kind : Call → Prop} {call : Call}
    (h : kind call) : Makes id kind (request token call : Access σ call.Answer) := by
  intro world
  have hends := request_ends token call world
  generalize request token call world = result at hends
  cases hends with
  | cancelled => exact .refl
  | failed reason hcalls hstore => exact .single ⟨call, h, hcalls, .inl hstore⟩
  | refused hcalls hperform => exact .single ⟨call, h, hcalls, .inr (hperform ▸ rfl)⟩
  | answered hcalls hperform => exact .single ⟨call, h, hcalls, .inr (hperform ▸ rfl)⟩

omit [Interference σ] in
theorem heed_makes (token : CancelToken) {kind : Call → Prop} :
    Makes id kind (heed token : Access σ Unit) := by
  intro world
  rw [heed]
  by_cases hfired : world.isFired token = true
  · rw [if_pos hfired]
    exact .refl
  · rw [if_neg hfired]
    exact .refl

theorem orAbsent_getCell_ok {token : CancelToken} {sheet cell : String}
    {world after : World σ} {found : Option String}
    (hrun : orAbsent (request token (.getCell sheet cell)) world = .ok found after) :
    after.calls = .getCell sheet cell :: world.calls ∧ after.store = world.store ∧
      found = world.store.cell? sheet cell := by
  have hends := request_ends token (.getCell sheet cell) world
  generalize hrequest : request token (.getCell sheet cell) world = result at hends
  cases hends with
  | cancelled => cases (orAbsent_of_error hrequest).symm.trans hrun
  | failed reason hcalls hstore => cases (orAbsent_of_error hrequest).symm.trans hrun
  | refused hcalls hperform =>
      rw [orAbsent_of_error hrequest] at hrun
      rw [Call.perform] at hperform
      cases hcell : world.store.cell? sheet cell with
      | some value =>
          rw [hcell] at hperform
          cases hperform
      | none =>
          rw [hcell] at hperform
          obtain ⟨herror, hstore⟩ := Prod.mk.inj hperform
          cases herror
          cases hrun
          exact ⟨hcalls, hstore.symm, rfl⟩
  | answered hcalls hperform =>
      cases (orAbsent_of_ok hrequest).symm.trans hrun
      rw [Call.perform] at hperform
      cases hcell : world.store.cell? sheet cell with
      | some value =>
          rw [hcell] at hperform
          obtain ⟨hanswer, hstore⟩ := Prod.mk.inj hperform
          cases hanswer
          exact ⟨hcalls, hstore.symm, rfl⟩
      | none =>
          rw [hcell] at hperform
          cases hperform

end Access

namespace Edges

open Access

variable [Interference σ]

theorem dependents_makes (edges : Edges) (cell : String) :
    Makes id (·.isRead = true) (edges.dependents cell : Access σ IdSet) :=
  request_makes edges.token rfl

theorem forEach_makes (token : CancelToken) {kind : Call → Prop} {call : String → Call}
    {ids : List String} (h : ∀ id ∈ ids, kind (call id)) :
    Makes id kind (forEach token call ids : Access σ Unit) := by
  induction ids with
  | nil => exact makes_pure ()
  | cons id ids ih =>
      exact (request_makes token (h id List.mem_cons_self)).bind fun _ =>
        ih fun other hother => h other (List.mem_cons_of_mem _ hother)

theorem forEach_ok {token : CancelToken} {call : String → Call} {ids : List String}
    {world after : World σ} (hrun : forEach token call ids world = .ok () after) :
    after.calls = (ids.map call).reverse ++ world.calls ∧
      after.store = ids.foldl (fun store id => ((call id).perform store).2) world.store := by
  induction ids generalizing world with
  | nil =>
      cases hrun
      exact ⟨rfl, rfl⟩
  | cons id ids ih =>
      obtain ⟨answer, middle, hfirst, hrest⟩ := exists_of_bind_ok hrun
      obtain ⟨hcalls, hperform⟩ := request_ok hfirst
      obtain ⟨hmade, hstore⟩ := ih hrest
      constructor
      · rw [hmade, hcalls, List.map_cons, List.reverse_cons, List.append_assoc,
          List.singleton_append]
      · rw [hstore, List.foldl_cons, hperform]

theorem commit_ok {edges : Edges} {cell value : String} {world after : World σ}
    (hrun : edges.commit cell value world = .ok () after) :
    after.store = world.store.commit edges.sheet cell value ∧
      after.calls =
        (world.store.commitCalls edges.sheet cell value).reverse ++ world.calls := by
  obtain ⟨sheet, token⟩ := edges
  obtain ⟨previous, first, hget, hrun⟩ := exists_of_bind_ok hrun
  obtain ⟨_, second, hset, hrun⟩ := exists_of_bind_ok hrun
  obtain ⟨_, third, hremove, hadd⟩ := exists_of_bind_ok hrun
  obtain ⟨hgetCalls, hgetStore, rfl⟩ := orAbsent_getCell_ok hget
  obtain ⟨hsetCalls, hsetPerform⟩ := request_ok hset
  obtain ⟨hremoveCalls, hremoveStore⟩ := forEach_ok hremove
  obtain ⟨haddCalls, haddStore⟩ := forEach_ok hadd
  have hsetStore : second.store = world.store.setCell sheet cell value := by
    rw [← hgetStore]
    exact (Prod.mk.inj hsetPerform).2.symm
  have hremoved : third.calls =
        (((world.store.mentioned sheet cell).without (references cell value)).map
          (.removeDependents sheet · [cell])).reverse ++ second.calls ∧
      third.store = second.store.removeEdges sheet cell
        ((world.store.mentioned sheet cell).without (references cell value)) := by
    -- The commit looks at the text before by cases, `mentioned` by `elim`.
    rw [hremoveCalls, hremoveStore, Store.mentioned]
    cases world.store.cell? sheet cell <;> exact ⟨rfl, rfl⟩
  constructor
  · rw [haddStore, hremoved.2, hsetStore]
    rfl
  · simp only [haddCalls, hremoved.1, hsetCalls, hgetCalls, Store.commitCalls,
      List.reverse_cons, List.reverse_append, List.append_assoc, List.cons_append,
      List.nil_append]

theorem commit_error {edges : Edges} {cell value : String} {world after : World σ}
    {error : StoreError} (hrun : edges.commit cell value world = .error error after) :
    world.Untouched after ∨
      ∃ made, after.calls =
        made ++ .setCell edges.sheet cell value :: .getCell edges.sheet cell :: world.calls := by
  obtain ⟨sheet, token⟩ := edges
  have hget : Makes id (·.isRead = true)
      (orAbsent (request token (.getCell sheet cell)) : Access σ (Option String)) :=
    orAbsent_makes (request_makes token rfl)
  rcases bind_error_cases hrun with hrun | ⟨previous, first, hfound, hrun⟩
  · exact Or.inl (hget.becomes_of_error hrun).untouched
  have hread := (hget.becomes_of_ok hfound).untouched
  obtain ⟨hgetCalls, hgetStore, -⟩ := orAbsent_getCell_ok hfound
  rcases bind_error_cases hrun with hrun | ⟨_, second, hset, hrun⟩
  · have hends := request_ends token (.setCell sheet cell value) first
    rw [hrun] at hends
    cases hends with
    | cancelled => exact Or.inl hread
    | failed reason hcalls => exact Or.inr ⟨[], by rw [hcalls, hgetCalls, List.nil_append]⟩
    | refused hcalls => exact Or.inr ⟨[], by rw [hcalls, hgetCalls, List.nil_append]⟩
  -- From here on the value has reached the store, whatever else is called.
  · have hrest : World.Becomes (fun _ => True) second after := by
      rcases bind_error_cases hrun with hremove | ⟨_, third, hremove, hadd⟩
      · exact (forEach_makes token fun _ _ => trivial).becomes_of_error hremove
      · exact ((forEach_makes token fun _ _ => trivial).becomes_of_ok hremove).trans
          ((forEach_makes token fun _ _ => trivial).becomes_of_error hadd)
    obtain ⟨made, hmade, -⟩ := hrest.calls
    exact Or.inr ⟨made, by rw [hmade, (request_ok hset).1, hgetCalls]⟩

end Edges

end LiveSheet
