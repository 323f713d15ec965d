import LiveSheet.Proofs.Sheet.Effects
import LiveSheet.Proofs.Sheet.Outcome
import LiveSheet.Proofs.Sheet.Runs
import Mathlib.Data.List.Induction

namespace LiveSheet

open LiveSheet.Formula

/-! Runs of writes in any surroundings.  A write stores its text first and brings
the edges in line with it afterwards, call by call, so one that is cut short in
between leaves a text whose edges are not all there. -/

inductive Concerns (sheet cell value : String) : Call → Prop
  | reads {call : Call} (isRead : call.isRead = true) : Concerns sheet cell value call
  | stores : Concerns sheet cell value (.setCell sheet cell value)
  | links {id : String} (plain : '/' ∉ id.toList) :
      Concerns sheet cell value (.addDependents sheet id [cell])
  | unlinks {id : String} (plain : '/' ∉ id.toList) :
      Concerns sheet cell value (.removeDependents sheet id [cell])
  | tells (id : String) : Concerns sheet cell value (.publish (Store.topic sheet id) id)

namespace Store

/-- A change that concerns one cell: no other text changes, and no edge to
another cell. -/
structure Frame (sheet cell value : String) (before after : Store) : Prop where
  cells : ∀ {otherSheet other}, ¬ (otherSheet = sheet ∧ other = cell) →
    after.cell? otherSheet other = before.cell? otherSheet other
  held : after.cell? sheet cell = before.cell? sheet cell ∨
    after.cell? sheet cell = some value
  edges : ∀ {otherSheet other name}, ¬ (otherSheet = sheet ∧ other = cell) →
    '/' ∉ name.toList →
    (other ∈ (after.dependentsOf otherSheet name).toList ↔
      other ∈ (before.dependentsOf otherSheet name).toList)

namespace Frame

variable {sheet cell value : String} {before middle after : Store}

theorem refl (sheet cell value : String) (store : Store) :
    Frame sheet cell value store store where
  cells := fun _ => rfl
  held := Or.inl rfl
  edges := fun _ _ => Iff.rfl

theorem trans (h : Frame sheet cell value before middle)
    (hlast : Frame sheet cell value middle after) : Frame sheet cell value before after where
  cells := fun hother => (hlast.cells hother).trans (h.cells hother)
  held := by
    rcases hlast.held with hsame | hstored
    · rw [hsame]
      exact h.held
    · exact Or.inr hstored
  edges := fun hother hname => (hlast.edges hother hname).trans (h.edges hother hname)

theorem perform {call : Call} (h : Concerns sheet cell value call) (store : Store) :
    Frame sheet cell value store (call.perform store).2 := by
  cases h with
  | reads hread =>
      rw [Call.perform_of_isRead hread]
      exact refl sheet cell value store
  | tells id => exact { cells := fun _ => rfl, held := Or.inl rfl, edges := fun _ _ => Iff.rfl }
  | stores =>
      refine { cells := fun hother => ?_, held := Or.inr ?_, edges := fun _ _ => Iff.rfl }
      · rw [Call.perform, cell?_setCell, if_neg hother]
      · rw [Call.perform, cell?_setCell, if_pos ⟨rfl, rfl⟩]
  | links hplain =>
      refine
        { cells := fun _ => cell?_addDependents store sheet _ [cell] _ _
          held := Or.inl (cell?_addDependents store sheet _ [cell] _ _)
          edges := fun hother hname => ?_ }
      rw [Call.perform, mem_dependentsOf_addDependents, cellKey_inj hname hplain,
        List.mem_singleton]
      grind
  | unlinks hplain =>
      refine
        { cells := fun _ => cell?_removeDependents store sheet _ [cell] _ _
          held := Or.inl (cell?_removeDependents store sheet _ [cell] _ _)
          edges := fun hother hname => ?_ }
      rw [Call.perform, mem_dependentsOf_removeDependents, cellKey_inj hname hplain,
        List.mem_singleton]
      grind

end Frame

end Store

theorem World.Becomes.frame {sheet cell value : String} {before after : World σ}
    (h : World.Becomes (Concerns sheet cell value) before after) :
    Store.Frame sheet cell value before.store after.store :=
  h.preserves (Store.Frame sheet cell value before.store)
    (fun _ hconcerns store hframe => hframe.trans (.perform hconcerns store))
    (.refl sheet cell value before.store)

theorem World.Becomes.mono {kind others : Call → Prop} {before after : World σ}
    (h : World.Becomes kind before after) (hkind : ∀ call, kind call → others call) :
    World.Becomes others before after :=
  Relation.ReflTransGen.mono
    (fun _ _ ⟨call, hcall, htook⟩ => ⟨call, hkind call hcall, htook⟩) _ _ h

theorem Makes.mono {world : state → World σ} {kind others : Call → Prop}
    {program : EStateM StoreError state α} (h : Makes world kind program)
    (hkind : ∀ call, kind call → others call) : Makes world others program := by
  intro before
  cases hrun : program before with
  | ok answer after => exact (h.becomes_of_ok hrun).mono hkind
  | error error after => exact (h.becomes_of_error hrun).mono hkind

namespace Edges

open Access

variable [Interference σ]

def relink (token : CancelToken) (sheet cell value : String) (previous : Option String) :
    Access σ Unit := do
  let before : IdSet := previous.elim Table.empty (references cell)
  forEach token (.removeDependents sheet · [cell]) (before.without (references cell value))
  forEach token (.addDependents sheet · [cell]) (references cell value).toList

theorem commit_eq (edges : Edges) (cell value : String) :
    (edges.commit cell value : Access σ Unit) = (do
      let previous ← Access.orAbsent (Access.request edges.token (.getCell edges.sheet cell))
      let _ ← Access.request edges.token (.setCell edges.sheet cell value)
      relink edges.token edges.sheet cell value previous) := by
  unfold commit
  refine bind_congr fun previous => bind_congr fun _ => ?_
  cases previous <;> rfl

theorem relink_makes (token : CancelToken) {kind : Call → Prop} {sheet cell : String}
    (hlinks : ∀ {id : String}, '/' ∉ id.toList → kind (.addDependents sheet id [cell]))
    (hunlinks : ∀ {id : String}, '/' ∉ id.toList → kind (.removeDependents sheet id [cell]))
    (value : String) (previous : Option String) :
    Makes id kind (relink token sheet cell value previous : Access σ Unit) := by
  refine (forEach_makes token fun id hid => hunlinks ?_).bind fun _ =>
    forEach_makes token fun id hid => hlinks (slash_not_mem_of_mem_references hid)
  have hmem := ((IdSet.mem_without _ _ id).mp hid).1
  cases previous with
  | some held => exact slash_not_mem_of_mem_references hmem
  | none => exact absurd hmem (IdSet.not_mem_toList_empty id)

theorem commit_makes (edges : Edges) {kind : Call → Prop} {cell value : String}
    (hreads : ∀ {call : Call}, call.isRead = true → kind call)
    (hstores : kind (.setCell edges.sheet cell value))
    (hlinks : ∀ {id : String}, '/' ∉ id.toList → kind (.addDependents edges.sheet id [cell]))
    (hunlinks : ∀ {id : String}, '/' ∉ id.toList →
      kind (.removeDependents edges.sheet id [cell])) :
    Makes id kind (edges.commit cell value : Access σ Unit) := by
  rw [commit_eq]
  refine (orAbsent_makes (request_makes edges.token (hreads rfl))).bind fun previous => ?_
  exact (request_makes edges.token hstores).bind fun _ =>
    relink_makes edges.token hlinks hunlinks value previous

theorem commit_cut {edges : Edges} {cell value : String} {world after : World σ}
    {error : StoreError} (hrun : edges.commit cell value world = .error error after) :
    after.store = world.store ∨ after.store.cell? edges.sheet cell = some value := by
  have hget : Makes id (·.isRead = true)
      (orAbsent (request edges.token (.getCell edges.sheet cell)) :
        Access σ (Option String)) :=
    orAbsent_makes (request_makes edges.token rfl)
  rw [commit_eq] at hrun
  rcases bind_error_cases hrun with hrun | ⟨previous, first, hfound, hrun⟩
  · exact Or.inl (hget.becomes_of_error hrun).untouched.store
  have hread := (hget.becomes_of_ok hfound).untouched.store
  rcases bind_error_cases hrun with hrun | ⟨_, second, hset, hrun⟩
  · have hends := request_ends edges.token (.setCell edges.sheet cell value) first
    rw [hrun] at hends
    cases hends with
    | cancelled => exact Or.inl hread
    | failed reason hcalls hstore => exact Or.inl (hstore.trans hread)
    | refused hcalls hperform => cases (Prod.mk.inj hperform).1
  · have hstored : second.store.cell? edges.sheet cell = some value := by
      rw [← (Prod.mk.inj (request_ok hset).2).2, Store.cell?_setCell, if_pos ⟨rfl, rfl⟩]
    have hrelink : World.Becomes (Concerns edges.sheet cell value) second after :=
      (relink_makes edges.token .links .unlinks value previous).becomes_of_error hrun
    rcases hrelink.frame.held with hheld | hheld
    · exact Or.inr (hheld.trans hstored)
    · exact Or.inr hheld

end Edges

theorem Solve.store_makes [Interference σ] (edges : Edges) (cell value : String) :
    Makes id (Concerns edges.sheet cell value)
      (Solve.store edges cell value : Access σ Unit) := by
  have hnotify : Makes id (Concerns edges.sheet cell value)
      (edges.notify cell : Access σ Nat) := by
    refine (edges.notify_makes cell).mono fun call hcall => ?_
    rcases hcall with hread | ⟨id, rfl⟩
    · exact .reads hread
    · exact .tells id
  refine (edges.commit_makes .reads .stores .links .unlinks).bind fun _ => ?_
  exact (hnotify.bind fun _ => makes_pure ()).tryCatch fun _ => makes_pure ()

namespace Engine

variable [Interference σ]

/-- The courses that a write can take: it stops while it only looks, or it goes on to
the commit. -/
inductive Course (engine : Engine) (sheet cell value : String) (world : World σ) : Prop
  | stopped {result : Except StoreError WriteOutcome} {final : World σ}
      (ends : engine.upsert sheet cell value world = endsWith final result)
      (untouched : world.Untouched final)
      (other : ∀ response, result ≠ .ok (.committed response))
  | stored {response : CellResponse} {accepted final : World σ}
      (untouched : world.Untouched accepted)
      (stores : Solve.store (Edges.ofSheet engine.token sheet) (canonical cell) value
        accepted = .ok () final)
      (ends : engine.upsert sheet cell value world =
        endsWith final (.ok (.committed response)))
  | failed {error : StoreError} {accepted final : World σ}
      (untouched : world.Untouched accepted)
      (stores : Solve.store (Edges.ofSheet engine.token sheet) (canonical cell) value
        accepted = .error error final)
      (ends : engine.upsert sheet cell value world = endsWith final (.error error))

theorem upsert_course (engine : Engine) (sheet cell value : String) (world : World σ) :
    engine.Course sheet cell value world := by
  have hlooks : Makes id (·.isRead = true) (engine.consider sheet cell value : Access σ _) :=
    Solve.within_makes (Solve.consider_looks _ _ _) _
  have hupsert := congrFun (engine.upsert_eq sheet cell value) world
  cases hconsider : engine.consider sheet cell value world with
  | error error final =>
      have hends : engine.upsert sheet cell value world = endsWith final (.error error) :=
        hupsert.trans (bind_of_error hconsider)
      exact .stopped hends (hlooks.becomes_of_error hconsider).untouched nofun
  | ok verdict accepted =>
      have haccepted := (hlooks.becomes_of_ok hconsider).untouched
      rw [bind_of_ok hconsider] at hupsert
      cases verdict with
      | error response =>
          have hends : engine.upsert sheet cell value world =
              endsWith accepted (.ok (.rejected response)) := hupsert
          exact .stopped hends haccepted nofun
      | ok response =>
          cases hstore : Solve.store (Edges.ofSheet engine.token sheet) (canonical cell) value
              accepted with
          | ok _ final => exact .stored haccepted hstore (hupsert.trans (bind_of_ok hstore))
          | error error final =>
              exact .failed haccepted hstore (hupsert.trans (bind_of_error hstore))

end Engine

namespace Write

variable [Interference σ]

def request (write : Write) : Access σ WriteOutcome :=
  write.engine.upsert write.sheet write.cell write.value

def attempt (write : Write) (world : World σ) : World σ :=
  write.request.leaves world

def attempts (writes : List Write) (world : World σ) : World σ :=
  writes.foldl (fun world write => write.attempt world) world

def Names (write : Write) (sheet cell : String) : Prop :=
  canonical write.sheet = sheet ∧ canonical write.cell = cell

theorem attempt_frame (write : Write) (world : World σ) :
    Store.Frame (canonical write.sheet) (canonical write.cell) write.value world.store
      (write.attempt world).store := by
  have hstores : Makes id (Concerns (canonical write.sheet) (canonical write.cell) write.value)
      (Solve.store (Edges.ofSheet write.engine.token write.sheet) (canonical write.cell)
        write.value : Access σ Unit) :=
    Solve.store_makes _ _ _
  cases write.engine.upsert_course write.sheet write.cell write.value world with
  | stopped hends huntouched =>
      rw [attempt, request, Access.leaves_of_ends hends, huntouched.store]
      exact Store.Frame.refl _ _ _ _
  | stored huntouched hstore hends =>
      rw [attempt, request, Access.leaves_of_ends hends, ← huntouched.store]
      exact (hstores.becomes_of_ok hstore).frame
  | failed huntouched hstore hends =>
      rw [attempt, request, Access.leaves_of_ends hends, ← huntouched.store]
      exact (hstores.becomes_of_error hstore).frame

structure Spares (write : Write) (world : World σ) : Prop where
  store : (write.attempt world).store = world.store
  answer : ∀ response, write.request.answer world ≠ .ok (.committed response)

inductive Ended (write : Write) (world : World σ) : Prop
  | spared (spares : write.Spares world)
  | committed (carriedOut : world.CarriedOut (canonical write.sheet) (canonical write.cell)
      write.value (write.attempt world))
  | cut {error : StoreError} (fails : write.request.answer world = .error error)
      (stored : (write.attempt world).store.cell? (canonical write.sheet)
        (canonical write.cell) = some write.value)

theorem attempt_ended (write : Write) (world : World σ) : write.Ended world := by
  have hspared {result : Except StoreError WriteOutcome} {final : World σ}
      (hends : write.request world = endsWith final result)
      (hstore : final.store = world.store)
      (hother : ∀ response, result ≠ .ok (.committed response)) : write.Ended world := by
    refine .spared ⟨?_, fun response => ?_⟩
    · rw [attempt, Access.leaves_of_ends hends, hstore]
    · rw [Access.answer_of_ends hends]
      exact hother response
  cases write.engine.upsert_course write.sheet write.cell write.value world with
  | stopped hends huntouched hother => exact hspared hends huntouched.store hother
  | stored huntouched hstore hends =>
      obtain ⟨stored, hcommit, htell⟩ := Solve.store_ok hstore
      refine .committed ?_
      rw [attempt, request, Access.leaves_of_ends hends]
      exact huntouched.carriedOut hcommit htell
  | @failed error accepted final huntouched hstore hends =>
      rcases Edges.commit_cut (Solve.store_error hstore) with hsame | hstored
      · exact hspared hends (hsame.trans huntouched.store) nofun
      · refine .cut (Access.answer_of_ends hends) ?_
        rw [attempt, request, Access.leaves_of_ends hends]
        exact hstored

theorem attempts_append (writes others : List Write) (world : World σ) :
    attempts (writes ++ others) world = attempts others (attempts writes world) :=
  List.foldl_append

theorem attempts_singleton (write : Write) (world : World σ) :
    attempts [write] world = write.attempt world := by
  simp only [attempts, List.foldl_cons, List.foldl_nil]

theorem canonical_of_attempts {conditions : σ} (writes : List Write)
    {sheet cell value : String}
    (h : (attempts writes (World.start conditions)).store.cell? sheet cell = some value) :
    canonical cell = cell := by
  induction writes using List.reverseRecOn generalizing value with
  | nil => cases h
  | append_singleton writes write ih =>
      rw [attempts_append, attempts_singleton] at h
      by_cases hnames : sheet = canonical write.sheet ∧ cell = canonical write.cell
      · rw [hnames.2, canonical_canonical]
      · rw [(write.attempt_frame _).cells hnames] at h
        exact ih h

/-- A write of a cell that was cut short after its text was stored and before the
edge from `name` was there, followed by writes that store nothing in the cell. -/
structure CutShort (earlier : List Write) (write : Write) (later : List Write)
    (world : World σ) (sheet cell value name : String) : Prop where
  names : write.Names sheet cell
  text : write.value = value
  fails : ∃ error, write.request.answer (attempts earlier world) = .error error
  stored : (attempts (earlier ++ [write]) world).store.cell? sheet cell = some value
  unlinked : cell ∉ ((attempts (earlier ++ [write]) world).store.dependentsOf sheet name).toList
  spared : ∀ passed other rest, later = passed ++ other :: rest → other.Names sheet cell →
    other.Spares (attempts (earlier ++ write :: passed) world)

/-- Whether the last write that stored anything in a cell was cut short before the
edge from `name` was there. -/
def Interrupted (writes : List Write) (world : World σ) (sheet cell value name : String) :
    Prop :=
  ∃ earlier write later, writes = earlier ++ write :: later ∧
    CutShort earlier write later world sheet cell value name

section

variable {world : World σ} {sheet cell value name : String} {writes : List Write}

theorem Interrupted.append (h : Interrupted writes world sheet cell value name)
    (write : Write) (hspares : write.Names sheet cell → write.Spares (attempts writes world)) :
    Interrupted (writes ++ [write]) world sheet cell value name := by
  obtain ⟨earlier, first, later, rfl, hcut⟩ := h
  refine ⟨earlier, first, later ++ [write], by simp, { hcut with spared := ?_ }⟩
  intro passed other rest hlater hnames
  rcases List.eq_nil_or_concat rest with rfl | ⟨others, last, rfl⟩
  · obtain ⟨rfl, hlast⟩ := List.append_inj' hlater rfl
    cases hlast
    exact hspares hnames
  · have hsplit : later ++ [write] = (passed ++ other :: others) ++ [last] := by
      simpa using hlater
    obtain ⟨hbefore, -⟩ := List.append_inj' hsplit rfl
    exact hcut.spared passed other others hbefore hnames

/-- An edge that a write was cut short of stays missing until a write of the cell
is committed. -/
theorem CutShort.unlinked_after {earlier later : List Write} {write : Write}
    (h : CutShort earlier write later world sheet cell value name)
    (hname : '/' ∉ name.toList) :
    cell ∉ ((attempts (earlier ++ write :: later) world).store.dependentsOf sheet
      name).toList := by
  induction later using List.reverseRecOn with
  | nil => exact h.unlinked
  | append_singleton later other ih =>
      have hbefore := ih { h with
        spared := fun passed next rest hlater =>
          h.spared passed next (rest ++ [other]) (by simp [hlater]) }
      have hruns : attempts (earlier ++ write :: (later ++ [other])) world =
          other.attempt (attempts (earlier ++ write :: later) world) := by
        rw [← attempts_singleton, ← attempts_append, List.append_assoc, List.cons_append]
      rw [hruns]
      by_cases hnames : sheet = canonical other.sheet ∧ cell = canonical other.cell
      · have hspares := h.spared later other [] rfl ⟨hnames.1.symm, hnames.2.symm⟩
        rw [hspares.store]
        exact hbefore
      · rw [(other.attempt_frame _).edges hnames hname]
        exact hbefore

theorem linked_or_interrupted {conditions : σ}
    (hvalue : (attempts writes (World.start conditions)).store.cell? sheet cell = some value)
    (hname : name ∈ (references cell value).toList) :
    cell ∈ ((attempts writes (World.start conditions)).store.dependentsOf sheet name).toList ∨
      Interrupted writes (World.start conditions) sheet cell value name := by
  induction writes using List.reverseRecOn with
  | nil => cases hvalue
  | append_singleton writes write ih =>
      have hplain := slash_not_mem_of_mem_references hname
      have hrun : attempts (writes ++ [write]) (World.start conditions) =
          write.attempt (attempts writes (World.start conditions)) := by
        rw [attempts_append, attempts_singleton]
      rw [hrun] at hvalue ⊢
      -- A write of another cell keeps both the edge and what is known of its absence.
      by_cases hnames : sheet = canonical write.sheet ∧ cell = canonical write.cell
      · obtain ⟨rfl, rfl⟩ := hnames
        cases write.attempt_ended (attempts writes (World.start conditions)) with
        | spared hspares =>
            rw [hspares.store] at hvalue ⊢
            exact (ih hvalue).imp_right fun hcut => hcut.append write fun _ => hspares
        | committed hdone =>
            cases hdone.held.symm.trans hvalue
            exact Or.inl (hdone.added name hname)
        | @cut error hfails hstored =>
            cases hstored.symm.trans hvalue
            by_cases hlinked : canonical write.cell ∈
                ((write.attempt (attempts writes (World.start conditions))).store.dependentsOf
                  (canonical write.sheet) name).toList
            · exact Or.inl hlinked
            · refine Or.inr ⟨writes, write, [], rfl, ?_⟩
              exact
                { names := ⟨rfl, rfl⟩
                  text := rfl
                  fails := ⟨error, hfails⟩
                  stored := hrun ▸ hstored
                  unlinked := hrun ▸ hlinked
                  spared := fun passed other rest hlater => by simp at hlater }
      · have hframe := write.attempt_frame (attempts writes (World.start conditions))
        rw [hframe.cells hnames] at hvalue
        rw [hframe.edges hnames hplain]
        refine (ih hvalue).imp_right fun hcut => hcut.append write fun hsame => ?_
        exact absurd ⟨hsame.1.symm, hsame.2.symm⟩ hnames

end

/-- However writes have been disturbed, what a text mentions leads to its cell,
except for the edges that the last write to store the cell was cut short of.  A
write that nothing disturbs computes the cell anew at the other end of such an
edge, and tells of it. -/
theorem linked_iff {conditions : σ} {writes : List Write} {sheet cell value name : String}
    (hvalue : (attempts writes (World.start conditions)).store.cell? sheet cell = some value)
    (hname : name ∈ (references cell value).toList) :
    (cell ∈ ((attempts writes (World.start conditions)).store.dependentsOf sheet
        name).toList ↔
      ¬ Interrupted writes (World.start conditions) sheet cell value name) ∧
    (cell ∈ ((attempts writes (World.start conditions)).store.dependentsOf sheet
        name).toList →
      ∀ (engine : Engine) {world : World Unit},
        world.store = (attempts writes (World.start conditions)).store → world.fired = [] →
        ∀ {otherSheet other text response}, canonical otherSheet = sheet →
          canonical other = name →
          (engine.upsert otherSheet other text).answer world = .ok (.committed response) →
          (∃ result,
            (engine.page ((engine.upsert otherSheet other text).leaves world).store
              sheet).Denotes cell result) ∧
          ∃ told,
            ((engine.upsert otherSheet other text).leaves world).store =
              (world.store.commit sheet name text).announce sheet told ∧
            cell ∈ told) := by
  have hplain := slash_not_mem_of_mem_references hname
  have hcanonical := canonical_of_attempts writes hvalue
  have hdiffer : name ≠ cell := by
    obtain ⟨-, -, hother, -⟩ := mem_references.mp hname
    rwa [hcanonical] at hother
  refine ⟨⟨?_, (linked_or_interrupted hvalue hname).resolve_right⟩, ?_⟩
  · rintro hlinked ⟨earlier, write, later, rfl, hcut⟩
    exact hcut.unlinked_after hplain hlinked
  intro hlinked engine world hstore hfired otherSheet other text response hsheet hother
    hcommitted
  rw [← hstore] at hlinked hvalue
  have hquiet : Quiet world.store world := ⟨rfl, hfired⟩
  obtain ⟨result, after, hresult, hafter, hends⟩ :=
    engine.upsert_concludes otherSheet other text hquiet
  rw [hsheet, hother] at hends
  cases hresult.symm.trans hcommitted
  cases hends with
  | @committed _ visited told _ _ hpasses hvisits hspreads =>
      have hexists (id : String) (hstored : world.store.cell? sheet id ≠ none) :
          (engine.page (world.store.setCell sheet name text) sheet).text? id ≠ none := by
        change (world.store.setCell sheet name text).cell? sheet id ≠ none
        rw [Store.cell?_setCell]
        split
        · exact Option.some_ne_none _
        · exact hstored
      have hnamed : (engine.page (world.store.setCell sheet name text) sheet).text?
          (canonical name) ≠ none := by
        rw [canonical_of_mem_references hname]
        simp [Engine.page, Store.cell?_setCell]
      have hvisited : cell ∈ visited.toList :=
        ((hpasses name hvisits hnamed).2 cell hlinked).resolve_right List.not_mem_nil
      obtain ⟨⟨denoted, hdenotes⟩, -⟩ := hpasses cell hvisited (by
        rw [hcanonical]
        exact hexists cell (by rw [hvalue]; exact Option.some_ne_none _))
      rw [hafter.store]
      refine ⟨⟨denoted, ?_⟩, told, rfl, hspreads.along name hspreads.origin cell ?_⟩
      · convert hdenotes using 1
        apply engine.page_congr
        intro id
        rw [Store.cell?_announce, Store.cell?_commit, Store.cell?_setCell]
      · rw [Store.mem_dependentsOf_commit hplain]
        exact Or.inr ⟨hlinked, fun hsame => hdiffer hsame.2.1.symm⟩

def unlinking : Faults :=
  { current := 0
    faults := [{ call := "add_dependents", key := "s/a", skip := 0, reason := some "down" }] }

def linkingSample : List Write :=
  [{ engine := { fetch := Fetch.disabled, token := 0 }, sheet := "s", cell := "a",
     value := "1" },
    { engine := { fetch := Fetch.disabled, token := 0 }, sheet := "s", cell := "b",
      value := "=a" }]

theorem unlinked_sample :
    (attempts linkingSample (World.start unlinking)).store.cell? "s" "b" = some "=a" ∧
      "b" ∉ ((attempts linkingSample (World.start unlinking)).store.dependentsOf "s"
        "a").toList := by
  decide +kernel

def undisturbed : World Unit :=
  { World.start () with store := (attempts linkingSample (World.start ())).store }

theorem linked_iff_sample :
    ("a" ∈ (references "b" "=a").toList ∧
      (attempts linkingSample (World.start unlinking)).store.cell? "s" "b" = some "=a" ∧
      Interrupted linkingSample (World.start unlinking) "s" "b" "=a" "a") ∧
    (attempts linkingSample (World.start ())).store.cell? "s" "b" = some "=a" ∧
      ∃ response,
        (Engine.upsert { fetch := Fetch.disabled, token := 0 } "S" "A" "2").answer
          undisturbed = .ok (.committed response) ∧
        ∃ result,
          (Engine.page { fetch := Fetch.disabled, token := 0 }
            ((Engine.upsert { fetch := Fetch.disabled, token := 0 } "S" "A" "2").leaves
              undisturbed).store "s").Denotes "b" result := by
  have hmentions : "a" ∈ (references "b" "=a").toList := by decide +kernel
  have hlinked : (attempts linkingSample (World.start ())).store.cell? "s" "b" = some "=a" ∧
      "b" ∈ ((attempts linkingSample (World.start ())).store.dependentsOf "s" "a").toList := by
    decide +kernel
  have hcommitted : (Engine.upsert { fetch := Fetch.disabled, token := 0 } "S" "A" "2").answer
      undisturbed = .ok (.committed { value := "2", result := "2", error := none }) := by
    decide +kernel
  have hstore : undisturbed.store = (attempts linkingSample (World.start ())).store := by
    rw [undisturbed]
  refine ⟨⟨hmentions, unlinked_sample.1, ?_⟩, hlinked.1, _, hcommitted, ?_⟩
  · exact not_not.mp fun hlinks =>
      unlinked_sample.2 ((linked_iff unlinked_sample.1 hmentions).1.mpr hlinks)
  · exact ((linked_iff hlinked.1 hmentions).2 hlinked.2 _ hstore rfl (by decide +kernel)
      (by decide +kernel) hcommitted).1

/-- So a stored formula need not be known to a cell that it mentions. -/
theorem unlinked_after_fault :
    ¬ ∀ (conditions : Faults) (writes : List Write) (sheet cell value name : String),
      (∀ write ∈ writes, isCellIdentifier write.cell = true) →
      (attempts writes (World.start conditions)).store.cell? sheet cell = some value →
      name ∈ (references cell value).toList →
      cell ∈ ((attempts writes (World.start conditions)).store.dependentsOf sheet
        name).toList :=
  fun h => unlinked_sample.2 (h unlinking linkingSample "s" "b" "=a" "a" (by decide +kernel)
    unlinked_sample.1 (by decide +kernel))

end Write

end LiveSheet
