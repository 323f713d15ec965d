import LiveSheet.Proofs.Store.Edges
import LiveSheet.Sheet.Engine

namespace LiveSheet

open LiveSheet.Formula

/-! Requests on a store that nothing interferes with.  There a request comes to
one answer and leaves one store behind, whatever the world has seen before. -/

structure Quiet (store : Store) (world : World Unit) : Prop where
  store : world.store = store
  fired : world.fired = []

theorem quiet_start : Quiet Store.empty (World.start ()) where
  store := rfl
  fired := rfl

theorem Quiet.isFired {store : Store} {world : World Unit} (h : Quiet store world)
    (token : CancelToken) : world.isFired token = false := by
  rw [World.isFired, h.fired]
  rfl

section

variable {ε state α β : Type} {program : EStateM ε state α} {next : α → EStateM ε state β}
  {handle : ε → EStateM ε state α} {before after : state}

theorem bind_get (next : state → EStateM ε state β) (before : state) :
    (get >>= next) before = next before before := rfl

theorem bind_of_ok {answer : α} (h : program before = .ok answer after) :
    (program >>= next) before = next answer after := by
  simp only [Bind.bind, EStateM.bind, h]

theorem bind_of_error {error : ε} (h : program before = .error error after) :
    (program >>= next) before = .error error after := by
  simp only [Bind.bind, EStateM.bind, h]

theorem tryCatch_of_ok {answer : α} (h : program before = .ok answer after) :
    tryCatch program handle before = .ok answer after := by
  simp only [tryCatch, tryCatchThe, MonadExceptOf.tryCatch, EStateM.tryCatch, h]

theorem tryCatch_of_error {error : ε} (h : program before = .error error after) :
    tryCatch program handle before = handle error after := by
  simp only [tryCatch, tryCatchThe, MonadExceptOf.tryCatch, EStateM.tryCatch, h]
  rfl

theorem map_of_ok {answer : α} (f : α → β) (h : program before = .ok answer after) :
    (f <$> program) before = .ok (f answer) after := by
  simp only [Functor.map, EStateM.map, h]

theorem map_of_error {error : ε} (f : α → β) (h : program before = .error error after) :
    (f <$> program) before = .error error after := by
  simp only [Functor.map, EStateM.map, h]

theorem exists_of_bind_ok {answer : β} (h : (program >>= next) before = .ok answer after) :
    ∃ first middle, program before = .ok first middle ∧
      next first middle = .ok answer after := by
  cases hprogram : program before with
  | ok first middle =>
      rw [bind_of_ok hprogram] at h
      exact ⟨first, middle, rfl, h⟩
  | error error middle =>
      rw [bind_of_error hprogram] at h
      cases h

theorem bind_error_cases {error : ε} (h : (program >>= next) before = .error error after) :
    program before = .error error after ∨
      ∃ first middle, program before = .ok first middle ∧
        next first middle = .error error after := by
  cases hprogram : program before with
  | ok first middle =>
      rw [bind_of_ok hprogram] at h
      exact Or.inr ⟨first, middle, rfl, h⟩
  | error failure middle =>
      rw [bind_of_error hprogram] at h
      cases h
      exact Or.inl rfl

end

def endsWith (state : σ) : Except ε α → EStateM.Result ε σ α
  | .ok answer => .ok answer state
  | .error error => .error error state

namespace Access

def Yields (access : Access Unit α) (store : Store) (result : Except StoreError α)
    (after : Store) : Prop :=
  ∀ world, Quiet store world → ∃ final, Quiet after final ∧
    access world = endsWith final result

/-- A request makes just these calls on a store, in order, as long as its token has
not fired. -/
def Performs (access : Access Unit α) (token : CancelToken) (store : Store)
    (calls : List Call) (result : Except StoreError α) (after : Store) : Prop :=
  ∀ world, world.store = store → world.isFired token = false →
    access world =
      endsWith { world with store := after, calls := calls.reverse ++ world.calls } result

variable {access : Access Unit α} {token : CancelToken} {store middle after : Store}
  {calls : List Call}

theorem Performs.run {result : Except StoreError α}
    (h : access.Performs token store calls result after) {world : World Unit}
    (hworld : Quiet store world) :
    ∃ final, Quiet after final ∧ final.calls = calls.reverse ++ world.calls ∧
      access world = endsWith final result :=
  ⟨{ world with store := after, calls := calls.reverse ++ world.calls }, ⟨rfl, hworld.fired⟩,
    rfl, h world hworld.store (hworld.isFired token)⟩

theorem Performs.yields {result : Except StoreError α}
    (h : access.Performs token store calls result after) :
    access.Yields store result after := by
  intro world hworld
  obtain ⟨final, hfinal, -, hrun⟩ := h.run hworld
  exact ⟨final, hfinal, hrun⟩

theorem performs_pure (token : CancelToken) (answer : α) (store : Store) :
    (pure answer : Access Unit α).Performs token store [] (.ok answer) store := by
  rintro world rfl _
  rfl

theorem Performs.bind {next : α → Access Unit β} {answer : α} {more : List Call}
    {result : Except StoreError β}
    (h : access.Performs token store calls (.ok answer) middle)
    (hnext : (next answer).Performs token middle more result after) :
    (access >>= next).Performs token store (calls ++ more) result after := by
  intro world hstore hfired
  have hrest := hnext { world with store := middle, calls := calls.reverse ++ world.calls }
    rfl hfired
  rw [bind_of_ok (h world hstore hfired), List.reverse_append, List.append_assoc]
  exact hrest

theorem request_performs (token : CancelToken) (call : Call) (store : Store) :
    (request token call : Access Unit call.Answer).Performs token store [call]
      (call.perform store).1 (call.perform store).2 := by
  rintro ⟨_, made, fired, conditions⟩ rfl hfired
  rw [request, hfired]
  rcases hperform : call.perform _ with ⟨result, changed⟩
  cases result <;> simp [Interference.react, endsWith, hperform]

theorem yields_pure (answer : α) (store : Store) :
    (pure answer : Access Unit α).Yields store (.ok answer) store :=
  fun world h => ⟨world, h, rfl⟩

theorem Yields.bind {next : α → Access Unit β} {answer : α} {result : Except StoreError β}
    (h : access.Yields store (.ok answer) middle)
    (hnext : (next answer).Yields middle result after) :
    (access >>= next).Yields store result after := by
  intro world hworld
  obtain ⟨between, hbetween, haccess⟩ := h world hworld
  obtain ⟨final, hfinal, hresult⟩ := hnext between hbetween
  refine ⟨final, hfinal, ?_⟩
  rw [bind_of_ok haccess]
  exact hresult

theorem Yields.bind_error {next : α → Access Unit β} {error : StoreError}
    (h : access.Yields store (.error error) after) :
    (access >>= next).Yields store (.error error) after := by
  intro world hworld
  obtain ⟨final, hfinal, haccess⟩ := h world hworld
  exact ⟨final, hfinal, bind_of_error haccess⟩

theorem request_yields (token : CancelToken) (call : Call) (store : Store) :
    (request token call : Access Unit call.Answer).Yields store
      (call.perform store).1 (call.perform store).2 :=
  (request_performs token call store).yields

theorem getCell_found {sheet cell value : String} (token : CancelToken)
    (h : store.cell? sheet cell = some value) :
    (request token (.getCell sheet cell) : Access Unit String).Yields store (.ok value)
      store := by
  have hrequest := request_yields token (.getCell sheet cell) store
  simpa only [Call.perform, h] using hrequest

theorem getCell_missing {sheet cell : String} (token : CancelToken)
    (h : store.cell? sheet cell = none) :
    (request token (.getCell sheet cell) : Access Unit String).Yields store
      (.error (.notFound (Store.cellKey sheet cell))) store := by
  have hrequest := request_yields token (.getCell sheet cell) store
  simpa only [Call.perform, h] using hrequest

section

variable {access : Access σ α} {before after : World σ}

theorem orAbsent_of_ok {answer : α} (h : access before = .ok answer after) :
    access.orAbsent before = .ok (some answer) after :=
  tryCatch_of_ok (map_of_ok some h)

theorem orAbsent_of_error {error : StoreError} (h : access before = .error error after) :
    access.orAbsent before =
      if error.isNotFound then .ok none after else .error error after := by
  rw [orAbsent, tryCatch_of_error (map_of_error some h)]
  split <;> rfl

end

theorem getCell_orAbsent_performs (token : CancelToken) (sheet cell : String)
    (store : Store) :
    (orAbsent (request token (.getCell sheet cell)) :
      Access Unit (Option String)).Performs token store [.getCell sheet cell]
      (.ok (store.cell? sheet cell)) store := by
  intro world hstore hfired
  have hrequest := request_performs token (.getCell sheet cell) store world hstore hfired
  rw [Call.perform] at hrequest
  cases hcell : store.cell? sheet cell with
  | some value =>
      rw [hcell] at hrequest
      exact orAbsent_of_ok hrequest
  | none =>
      rw [hcell] at hrequest
      exact orAbsent_of_error hrequest

end Access

/-- The calls that store a value and bring the edges in line with it, in order. -/
def Store.commitCalls (store : Store) (sheet cell value : String) : List Call :=
  .getCell sheet cell :: .setCell sheet cell value ::
    (((store.mentioned sheet cell).without (references cell value)).map
        (.removeDependents sheet · [cell]) ++
      (references cell value).toList.map (.addDependents sheet · [cell]))

namespace Edges

open Access

variable {store : Store}

theorem dependents_yields (edges : Edges) (store : Store) (cell : String) :
    (edges.dependents cell : Access Unit IdSet).Yields store
      (.ok (store.dependentsOf edges.sheet cell)) store :=
  request_yields edges.token (.getDependents edges.sheet cell) store

theorem forEach_performs (token : CancelToken) {call : String → Call}
    {perform : Store → String → Store} {ids : List String}
    (h : ∀ id ∈ ids, ∀ store,
      ∃ answer, (call id).perform store = (.ok answer, perform store id))
    (store : Store) :
    (forEach token call ids : Access Unit Unit).Performs token store (ids.map call) (.ok ())
      (ids.foldl perform store) := by
  induction ids generalizing store with
  | nil => exact performs_pure token () store
  | cons id ids ih =>
      obtain ⟨answer, hanswer⟩ := h id List.mem_cons_self store
      have hrequest := request_performs token (call id) store
      rw [hanswer] at hrequest
      exact hrequest.bind
        (ih (fun next hmem => h next (List.mem_cons_of_mem _ hmem)) (perform store id))

theorem commit_performs (edges : Edges) (cell value : String) (store : Store) :
    (edges.commit cell value : Access Unit Unit).Performs edges.token store
      (store.commitCalls edges.sheet cell value) (.ok ())
      (store.commit edges.sheet cell value) := by
  obtain ⟨sheet, token⟩ := edges
  have hprevious := getCell_orAbsent_performs token sheet cell store
  refine hprevious.bind ((request_performs token (.setCell sheet cell value) store).bind ?_)
  rw [Store.commit, Store.mentioned]
  cases store.cell? sheet cell <;>
    exact (forEach_performs token (fun _ _ _ => ⟨(), rfl⟩) _).bind
      (forEach_performs token (fun _ _ _ => ⟨(), rfl⟩) _)

end Edges

end LiveSheet
