import LiveSheet.Proofs.Sheet.Bookkeeping

namespace LiveSheet

/-! What a session reads of a store without faults.  A text that is there is asked for
once, as the solver has it from then on. -/

/-- Surroundings in which no call fails, though tokens may fire. -/
def Faultless (σ : Type) [Interference σ] : Prop :=
  ∀ (conditions : σ) (call : Call), (Interference.react conditions call).1.failure = none

theorem Access.request_of_faultless [Interference σ] (h : Faultless σ) {call : Call}
    (hread : call.isRead = true) (token : CancelToken) (world : World σ) :
    request token call world = .error .cancelled world ∨
      ∃ after, after.store = world.store ∧ after.calls = call :: world.calls ∧
        request token call world = endsWith after (call.perform world.store).1 := by
  have hsame := Call.perform_of_isRead hread world.store
  have hcalm := h world.conditions call
  rw [request]
  split
  · exact .inl rfl
  · rcases hreact : Interference.react world.conditions call with ⟨⟨fires, failure⟩, conditions⟩
    rw [hreact] at hcalm
    obtain rfl : failure = none := hcalm
    rcases hperform : call.perform world.store with ⟨result, store⟩
    rw [hperform] at hsame
    refine .inr ⟨⟨store, call :: world.calls, fires ++ world.fired, conditions⟩, hsame, rfl, ?_⟩
    simp only [hperform]
    cases result <;> rfl

theorem Solve.request_of_faultless [Interference σ] (h : Faultless σ) {call : Call}
    (hread : call.isRead = true) (session : Session σ) :
    request call session = .error .cancelled session ∨
      ∃ world, world.store = session.world.store ∧
        world.calls = call :: session.world.calls ∧
        request call session =
          endsWith { session with world } (call.perform session.world.store).1 := by
  rcases Access.request_of_faultless h hread session.solver.token session.world with
    hrequest | ⟨world, hstore, hcalls, hrequest⟩
  · left
    rw [request, onWorld, hrequest]
  · refine .inr ⟨world, hstore, hcalls, ?_⟩
    rw [request, onWorld, hrequest]
    cases (call.perform session.world.store).1 <;> rfl

theorem Solver.mem_keys_seed (solver : Solver) (cells : List (String × String))
    (id : String) :
    id ∈ (solver.seed cells).values.keys ↔
      id ∈ cells.map (fun entry => canonical entry.1) ∨ id ∈ solver.values.keys := by
  change id ∈ (cells.foldl (fun values entry => values.insertNew (canonical entry.1) entry.2)
    solver.values).keys ↔ _
  generalize solver.values = values
  induction cells generalizing values with
  | nil => simp
  | cons entry cells ih =>
      rw [List.foldl_cons, ih, Table.mem_keys_insertNew, List.map_cons, List.mem_cons]
      tauto

/-- The calls that one session makes up to another, latest first.  No text is asked for
that is at hand, and each that is stored only once, as it is at hand from then on. -/
structure Asks (before : Session σ) (made : List Call) (after : Session σ) : Prop where
  sheet : after.solver.sheet = before.solver.sheet
  store : after.world.store = before.world.store
  keeps : ∀ cell ∈ before.solver.values.keys, cell ∈ after.solver.values.keys
  calls : after.world.calls = made ++ before.world.calls
  own : ∀ {sheet cell}, .getCell sheet cell ∈ made → sheet = before.solver.sheet
  unasked : ∀ cell ∈ before.solver.values.keys, .getCell before.solver.sheet cell ∉ made
  once : ∀ cell, before.world.store.cell? before.solver.sheet cell ≠ none →
    made.count (.getCell before.solver.sheet cell) ≤ 1
  answered : ∀ cell, before.world.store.cell? before.solver.sheet cell ≠ none →
    .getCell before.solver.sheet cell ∈ made → cell ∈ after.solver.values.keys

namespace Asks

variable {first second third before after : Session σ} {made more : List Call}

theorem still (hsheet : after.solver.sheet = before.solver.sheet)
    (hvalues : after.solver.values = before.solver.values)
    (hworld : after.world = before.world) : Asks before [] after where
  sheet := hsheet
  store := congrArg World.store hworld
  keeps := fun _ hcell => hvalues ▸ hcell
  calls := congrArg World.calls hworld
  own := nofun
  unasked := fun _ _ => List.not_mem_nil
  once := fun _ _ => Nat.zero_le 1
  answered := fun _ _ hmade => absurd hmade List.not_mem_nil

theorem refl (session : Session σ) : Asks session [] session :=
  still rfl rfl rfl

theorem trans (h : Asks first made second) (hlast : Asks second more third) :
    Asks first (more ++ made) third where
  sheet := hlast.sheet.trans h.sheet
  store := hlast.store.trans h.store
  keeps := fun cell hcell => hlast.keeps cell (h.keeps cell hcell)
  calls := by rw [hlast.calls, h.calls, List.append_assoc]
  own := fun hmade => (List.mem_append.mp hmade).elim
    (fun hmore => (hlast.own hmore).trans h.sheet) h.own
  unasked := by
    intro cell hcell hmade
    rcases List.mem_append.mp hmade with hmore | hmade
    · exact hlast.unasked cell (h.keeps cell hcell) (h.sheet ▸ hmore)
    · exact h.unasked cell hcell hmade
  once := by
    intro cell hstored
    rw [List.count_append]
    by_cases hmade : .getCell first.solver.sheet cell ∈ made
    · have hmore : .getCell first.solver.sheet cell ∉ more := by
        rw [← h.sheet]
        exact hlast.unasked cell (h.answered cell hstored hmade)
      rw [List.count_eq_zero_of_not_mem hmore, Nat.zero_add]
      exact h.once cell hstored
    · rw [List.count_eq_zero_of_not_mem hmade, Nat.add_zero, ← h.sheet]
      exact hlast.once cell (by rwa [h.store, h.sheet])
  answered := by
    intro cell hstored hmade
    rcases List.mem_append.mp hmade with hmore | hmade
    · exact hlast.answered cell (by rwa [h.store, h.sheet]) (h.sheet ▸ hmore)
    · exact hlast.keeps cell (h.answered cell hstored hmade)

end Asks

namespace Solve

variable [Interference σ]

theorem rawValue_asks (h : Faultless σ) (cell : String) :
    Moves (fun before after => ∃ made, Asks before made after)
      (rawValue cell : Solve σ String) := by
  intro session
  rw [rawValue, bind_get]
  cases hvalue : session.solver.values.get? cell with
  | some value => exact ⟨[], .refl session⟩
  | none =>
      have hread : (Call.getCell session.solver.sheet cell).isRead = true := rfl
      dsimp only
      rcases request_of_faultless h hread session with
        hrequest | ⟨world, hstore, hcalls, hrequest⟩
      · rw [bind_of_error hrequest]
        exact ⟨[], .refl session⟩
      · have hunasked : ∀ other ∈ session.solver.values.keys,
            .getCell session.solver.sheet other ∉ [Call.getCell session.solver.sheet cell] := by
          intro other hother hmade
          cases List.mem_singleton.mp hmade
          exact (Table.not_mem_keys_iff _ _).mpr hvalue hother
        have hown {sheet other : String}
            (hmade : .getCell sheet other ∈ [Call.getCell session.solver.sheet cell]) :
            sheet = session.solver.sheet := by
          cases List.mem_singleton.mp hmade
          rfl
        refine ⟨[.getCell session.solver.sheet cell], ?_⟩
        rw [Call.perform] at hrequest
        cases hcell : session.world.store.cell? session.solver.sheet cell with
        | some value =>
            rw [hcell] at hrequest
            rw [bind_of_ok hrequest]
            refine ⟨rfl, hstore, fun other hother => ?_, hcalls, hown, hunasked,
              fun _ _ => List.count_le_length, fun other _ hmade => ?_⟩
            · exact (Table.mem_keys_insert _ _ _ _).mpr (.inr hother)
            · cases List.mem_singleton.mp hmade
              exact (Table.mem_keys_insert _ _ _ _).mpr (.inl rfl)
        | none =>
            rw [hcell] at hrequest
            rw [bind_of_error hrequest]
            refine ⟨rfl, hstore, fun _ hother => hother, hcalls, hown, hunasked,
              fun _ _ => List.count_le_length, fun other hstored hmade => ?_⟩
            cases List.mem_singleton.mp hmade
            exact absurd hcell hstored

theorem preload_asks (h : Faultless σ) (session : Session σ) :
    ∃ made, Asks session made (endState (preload session)) ∧
      ∀ cell, .getCell session.solver.sheet cell ∉ made := by
  have hread : (Call.getAllCells session.solver.sheet).isRead = true := rfl
  rw [preload, bind_get]
  rcases request_of_faultless h hread session with
    hrequest | ⟨world, hstore, hcalls, hrequest⟩
  · rw [bind_of_error hrequest]
    exact ⟨[], .refl session, fun _ => List.not_mem_nil⟩
  · have hnone (sheet cell : String) :
        .getCell sheet cell ∉ [Call.getAllCells session.solver.sheet] := by
      simp
    rw [bind_of_ok hrequest]
    refine ⟨[.getAllCells session.solver.sheet], ⟨rfl, hstore, fun cell hcell => ?_, hcalls,
      fun hmade => absurd hmade (hnone _ _), fun cell _ => hnone _ cell,
      fun _ _ => List.count_le_length, fun cell _ hmade => absurd hmade (hnone _ cell)⟩, hnone _⟩
    exact (Solver.mem_keys_seed _ _ _).mpr (.inr hcell)

theorem mem_keys_of_preload {session after : Session σ} {ids : List String}
    (h : preload session = .ok ids after) {id : String} (hid : id ∈ ids) :
    id ∈ after.solver.values.keys := by
  rw [preload, bind_get] at h
  obtain ⟨cells, middle, -, hrest⟩ := exists_of_bind_ok h
  cases hrest
  rw [mem_sortIds, Table.keys, List.map_map] at hid
  exact (Solver.mem_keys_seed _ _ _).mpr (.inl hid)

theorem asks_carries (h : Faultless σ) :
    Carries (σ := σ) fun before after => ∃ made, Asks before made after where
  refl := fun session => ⟨[], .refl session⟩
  trans := fun ⟨_, hfirst⟩ ⟨_, hlast⟩ => ⟨_, hfirst.trans hlast⟩
  read := rawValue_asks h
  evaluate := by
    intro cell cost body hbody session _ _
    obtain ⟨made, hmade⟩ := hbody { session with solver := session.solver.enter cell cost }
    rw [endState_evaluating]
    exact ⟨made, hmade.sheet, hmade.store, hmade.keeps, hmade.calls, hmade.own,
      hmade.unasked, hmade.once, hmade.answered⟩
  keep := fun session cell result => ⟨[], .still rfl rfl rfl⟩

end Solve

theorem Step.run_asks [Interference σ] (h : Faultless σ) (steps : List Step)
    (session : Session σ) : ∃ made, Asks session made (Step.run steps session) := by
  refine (Solve.asks_carries h).steps (fun session => ?_) steps session
  obtain ⟨made, hmade, -⟩ := Solve.preload_asks h session
  exact ⟨made, hmade⟩

end LiveSheet
