import LiveSheet.Proofs.Sheet.Writing

namespace LiveSheet

open LiveSheet.Formula

structure Write where
  engine : Engine
  sheet : String
  cell : String
  value : String

namespace Write

def apply (write : Write) (world : World Unit) : World Unit :=
  (write.engine.upsert write.sheet write.cell write.value).leaves world

def run (writes : List Write) (world : World Unit) : World Unit :=
  writes.foldl (fun world write => write.apply world) world

theorem run_cons (write : Write) (writes : List Write) (world : World Unit) :
    run (write :: writes) world = run writes (write.apply world) := by
  simp only [run, List.foldl_cons]

def Accepted (write : Write) (store after : Store) : Prop :=
  LiveSheet.Accepted write.engine store (canonical write.sheet) (canonical write.cell)
    write.value after

variable {store after : Store} {write : Write}

theorem Accepted.coherent (h : write.Accepted store after) (hstore : store.Coherent)
    (hcell : isCellIdentifier write.cell = true) : after.Coherent := by
  obtain ⟨told, hstored⟩ := h.stored
  rw [hstored.store_eq]
  exact (hstore.commit (canonical_canonical _) (canonical_canonical _)
    (slash_not_mem_canonical (slash_not_mem_of_isCellIdentifier hcell)) _).announce _ _

theorem apply_cases (write : Write) (hcell : isCellIdentifier write.cell = true)
    (hstore : store.Coherent) {world : World Unit} (h : Quiet store world) :
    ∃ after, Quiet after (write.apply world) ∧
      (after = store ∨ write.Accepted store after) := by
  obtain ⟨result, final, after, hrun, hfinal, hupserted⟩ :=
    write.engine.upsert_upserted hstore
      (slash_not_mem_canonical (slash_not_mem_of_isCellIdentifier hcell)) write.value h
  refine ⟨after, ?_, ?_⟩
  · rw [apply, Access.leaves, hrun]
    cases result <;> exact hfinal
  · cases result with
    | error error => exact Or.inl hupserted
    | ok outcome =>
        cases outcome with
        | rejected response => exact Or.inl hupserted
        | committed response => exact Or.inr hupserted

theorem run_preserves (holds : Store → Prop) {writes : List Write}
    (hcells : ∀ write ∈ writes, isCellIdentifier write.cell = true)
    (hstep : ∀ write ∈ writes, ∀ store after, store.Coherent → after.Coherent →
      write.Accepted store after → holds store → holds after)
    (hstore : store.Coherent) (hholds : holds store) {world : World Unit}
    (h : Quiet store world) :
    ∃ after, Quiet after (run writes world) ∧ after.Coherent ∧ holds after := by
  induction writes generalizing store world with
  | nil => exact ⟨store, h, hstore, hholds⟩
  | cons write writes ih =>
      have hcell := hcells write List.mem_cons_self
      have hrest : ∀ other ∈ writes, isCellIdentifier other.cell = true :=
        fun other hmem => hcells other (List.mem_cons_of_mem _ hmem)
      have hsteps := fun other hmem => hstep other (List.mem_cons_of_mem write hmem)
      rw [run_cons]
      obtain ⟨middle, hmiddle, rfl | haccepted⟩ := write.apply_cases hcell hstore h
      · exact ih hrest hsteps hstore hholds hmiddle
      · have hnext := haccepted.coherent hstore hcell
        exact ih hrest hsteps hnext
          (hstep write List.mem_cons_self store middle hstore hnext haccepted hholds) hmiddle

theorem run_coherent {writes : List Write}
    (hcells : ∀ write ∈ writes, isCellIdentifier write.cell = true) :
    ∃ store, Quiet store (run writes (World.start ())) ∧ store.Coherent := by
  obtain ⟨store, hstore, hcoherent, -⟩ :=
    run_preserves (fun _ => True) hcells (fun _ _ _ _ _ _ _ _ => trivial)
      Store.empty_coherent trivial quiet_start
  exact ⟨store, hstore, hcoherent⟩

/-- The dependents of a cell are the stored cells whose present text mentions
it. -/
theorem mem_dependents_iff {writes : List Write}
    (hcells : ∀ write ∈ writes, isCellIdentifier write.cell = true) (token : CancelToken)
    (sheet : String) {name : String} (hname : '/' ∉ name.toList) :
    ∃ ids : IdSet,
      (Access.request token (.getDependents sheet name)).answer
        (run writes (World.start ())) = .ok ids ∧
      ∀ dependent, dependent ∈ ids.toList ↔
        ∃ value,
          (Access.request token (.getCell sheet dependent)).answer
            (run writes (World.start ())) = .ok value ∧
          name ∈ (references dependent value).toList := by
  obtain ⟨store, hquiet, hcoherent⟩ := run_coherent hcells
  refine ⟨store.dependentsOf sheet name,
    (Access.request_yields token (.getDependents sheet name) store).answer hquiet, ?_⟩
  intro dependent
  rw [hcoherent.edges hname, Store.mem_mentioned]
  apply exists_congr
  intro value
  apply and_congr_left
  intro _
  cases hheld : store.cell? sheet dependent with
  | some held =>
      rw [(Access.getCell_found token hheld).answer hquiet]
      simp
  | none =>
      rw [(Access.getCell_missing token hheld).answer hquiet]
      simp

def sample : List Write :=
  [{ engine := { fetch := Fetch.disabled, token := 0 }, sheet := "S", cell := "A",
     value := "1" },
    { engine := { fetch := Fetch.disabled, token := 0 }, sheet := "S", cell := "B",
      value := "=a+1" },
    { engine := { fetch := Fetch.disabled, token := 0 }, sheet := "S", cell := "A",
      value := "=b" }]

theorem isCellIdentifier_of_mem_sample :
    ∀ write ∈ sample, isCellIdentifier write.cell = true := by
  decide +kernel

theorem mem_dependents_iff_sample :
    (∀ write ∈ sample, isCellIdentifier write.cell = true) ∧ '/' ∉ "a".toList ∧
      ∃ ids : IdSet,
        (Access.request 0 (.getDependents "s" "a")).answer (run sample (World.start ())) =
          .ok ids ∧
        ∀ dependent, dependent ∈ ids.toList ↔
          ∃ value,
            (Access.request 0 (.getCell "s" dependent)).answer
              (run sample (World.start ())) = .ok value ∧
            "a" ∈ (references dependent value).toList :=
  ⟨isCellIdentifier_of_mem_sample, by decide,
    mem_dependents_iff isCellIdentifier_of_mem_sample 0 "s" (by decide)⟩

end Write

end LiveSheet
