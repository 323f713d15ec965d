import LiveSheet.Proofs.Sheet.Isolation

namespace LiveSheet

open LiveSheet.Formula

namespace Solve

variable [Interference σ] {session after : Session σ}

theorem request_ok {call : Call} {answer : call.Answer}
    (h : request call session = .ok answer after) :
    Access.request session.solver.token call session.world = .ok answer after.world := by
  rw [request, onWorld] at h
  cases hrun : Access.request session.solver.token call session.world with
  | ok other world =>
      rw [hrun] at h
      cases h
      rfl
  | error error world =>
      rw [hrun] at h
      cases h

theorem preload_ok {ids : List String} (h : preload session = .ok ids after) :
    ids = preloaded session.world.store session.solver.sheet := by
  rw [preload, bind_get] at h
  obtain ⟨cells, first, hcells, hrest⟩ := exists_of_bind_ok h
  obtain ⟨_, second, -, hends⟩ := exists_of_bind_ok hrest
  have hread := (Access.request_ok (request_ok hcells)).2
  cases (Prod.mk.inj hread).1
  cases hends
  rfl

theorem preload_looks : (preload : Solve σ (List String)).Looks := by
  refine makes_get.bind fun session => ?_
  have hread : Looks (request (.getAllCells session.solver.sheet) : Solve σ (Table String)) :=
    request_makes rfl
  exact hread.bind fun _ => (onSolver_makes _).bind fun _ => makes_pure _

theorem mem_preloaded_iff {store : Store} {sheet id : String} :
    id ∈ preloaded store sheet ↔
      ∃ key, store.cell? sheet key ≠ none ∧ canonical key = id := by
  rw [preloaded, mem_sortIds, List.mem_map]
  refine exists_congr fun key => and_congr_left fun _ => ?_
  rw [Table.mem_keys_iff, Option.ne_none_iff_exists', Store.cell?]

end Solve

namespace Engine

variable [Interference σ]

theorem resolveAll_looks (cells : List String) (sheet : SheetResponse) :
    (resolveAll cells sheet : Solve σ SheetResponse).Looks := by
  induction cells generalizing sheet with
  | nil => exact makes_pure sheet
  | cons cell cells ih => exact (Solve.resolve_looks cell).bind fun _ => ih _

theorem resolveAll_keys {cells : List String} {sheet entries : SheetResponse}
    {session after : Session σ} (h : resolveAll cells sheet session = .ok entries after)
    (id : String) : id ∈ entries.keys ↔ id ∈ sheet.keys ∨ id ∈ cells := by
  induction cells generalizing sheet session with
  | nil =>
      cases h
      simp
  | cons cell cells ih =>
      obtain ⟨resolution, middle, -, hrest⟩ := exists_of_bind_ok h
      rw [ih hrest, Table.mem_keys_insert, List.mem_cons]
      grind

theorem getSheet_makes (engine : Engine) (sheet : String) :
    Makes id Call.Spares (engine.getSheet sheet : Access σ SheetResponse) := by
  refine (Access.request_makes engine.token (Call.spares_of_isRead rfl)).bind fun found => ?_
  split
  · refine Solve.within_makes ?_ (engine.solver (canonical sheet))
    have hlooks : (do resolveAll (← Solve.preload) Table.empty :
        Solve σ SheetResponse).Looks :=
      Solve.preload_looks.bind fun ids => resolveAll_looks ids Table.empty
    exact hlooks.mono fun _ => Call.spares_of_isRead
  · exact makes_throw _

theorem getSheet_keys {engine : Engine} {sheet : String} {world after : World σ}
    {entries : SheetResponse} (h : engine.getSheet sheet world = .ok entries after)
    (id : String) : id ∈ entries.keys ↔
      ∃ key, world.store.cell? (canonical sheet) key ≠ none ∧ canonical key = id := by
  rw [getSheet] at h
  obtain ⟨found, asked, hfound, hrest⟩ := exists_of_bind_ok h
  have hasked : asked.store = world.store := (Prod.mk.inj (Access.request_ok hfound).2).2.symm
  cases found with
  | false => cases hrest
  | true =>
      rw [if_pos rfl, Solve.within] at hrest
      cases hrun : (do resolveAll (← Solve.preload) Table.empty : Solve σ SheetResponse)
          { solver := engine.solver (canonical sheet), world := asked } with
      | error error session =>
          rw [hrun] at hrest
          cases hrest
      | ok listed session =>
          rw [hrun] at hrest
          cases hrest
          obtain ⟨ids, middle, hids, hlisted⟩ := exists_of_bind_ok hrun
          have hsheet : (engine.solver (canonical sheet)).sheet = canonical sheet :=
            canonical_canonical sheet
          rw [resolveAll_keys hlisted, Solve.preload_ok hids, Solve.mem_preloaded_iff, hasked,
            hsheet]
          simp

end Engine

theorem Edges.commit_begun {edges : Edges} {cell value : String} {world after : World Unit}
    {error : StoreError} (hrun : edges.commit cell value world = .error error after) :
    after.store = world.store := by
  cases hfired : world.isFired edges.token with
  | false =>
      cases (edges.commit_performs cell value world.store world rfl hfired).symm.trans hrun
  | true =>
      have hasked : (Access.request edges.token (.getCell edges.sheet cell) :
          Access Unit String) world = .error .cancelled world := by
        rw [Access.request, if_pos hfired]
      rw [commit_eq, bind_of_error (Access.orAbsent_of_error hasked)] at hrun
      cases hrun
      rfl

namespace Write

theorem held_of_committed {write : Write} {world : World Unit} {response : CellResponse}
    (h : write.request.answer world = .ok (.committed response)) :
    (write.attempt world).store.cell? (canonical write.sheet) (canonical write.cell) =
      some write.value := by
  cases write.attempt_ended world with
  | spared hspares => exact absurd h (hspares.answer response)
  | committed hcarried => exact hcarried.held
  | cut hfails => cases h.symm.trans hfails

theorem attempt_store {write : Write} {world : World Unit}
    (h : ∀ response, write.request.answer world ≠ .ok (.committed response)) :
    (write.attempt world).store = world.store := by
  rw [attempt, request]
  cases write.engine.upsert_course write.sheet write.cell write.value world with
  | stopped hends huntouched => rw [Access.leaves_of_ends hends, huntouched.store]
  | @stored response accepted final huntouched hstore hends =>
      exact absurd (Access.answer_of_ends hends) (h response)
  | failed huntouched hstore hends =>
      rw [Access.leaves_of_ends hends, Edges.commit_begun (Solve.store_error hstore),
        huntouched.store]

/-- After a write there are the cells that there were before, and its own if it has been
committed. -/
theorem cell?_attempt_iff (write : Write) (world : World Unit) (sheet cell : String) :
    (write.attempt world).store.cell? sheet cell ≠ none ↔
      world.store.cell? sheet cell ≠ none ∨
        write.Names sheet cell ∧
          ∃ response, write.request.answer world = .ok (.committed response) := by
  by_cases hcommitted : ∃ response, write.request.answer world = .ok (.committed response)
  · obtain ⟨response, hresponse⟩ := hcommitted
    by_cases hnames : write.Names sheet cell
    · obtain ⟨rfl, rfl⟩ := hnames
      rw [held_of_committed hresponse]
      exact iff_of_true (Option.some_ne_none _) (.inr ⟨⟨rfl, rfl⟩, response, hresponse⟩)
    · have hplace : ¬(sheet = canonical write.sheet ∧ cell = canonical write.cell) :=
        fun ⟨hsheet, hcell⟩ => hnames ⟨hsheet.symm, hcell.symm⟩
      rw [(write.attempt_frame world).cells hplace]
      exact (or_iff_left fun hwritten => hnames hwritten.1).symm
  · rw [attempt_store fun response hresponse => hcommitted ⟨response, hresponse⟩]
    exact (or_iff_left fun hwritten => hcommitted hwritten.2).symm

end Write

end LiveSheet
