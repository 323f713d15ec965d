import LiveSheet.Proofs.Sheet.Effects
import LiveSheet.Proofs.Sheet.ValidationOrder

namespace LiveSheet

open LiveSheet.Formula

/-! Writing the same value once more.  The edges that a write adds or takes away all lead
to its own cell, which a validation has seen from the start, so the second write is led
through the same cells as the first. -/

namespace Page

/-- A write on a page that holds its value already is accepted if its cell computes, and
after it the cells of `order` one by one. -/
structure Accepts (page : Page) (cell : String) (order : List String)
    (response : CellResponse) : Prop where
  responds : page.response cell = .ok response
  computes : response.error = none
  inTurn : page.ComputesInTurn Nesting.none order (page.read cell Table.empty).2

theorem Accepts.reads {page : Page} {cell : String} {order : List String}
    {response : CellResponse} (h : page.Accepts cell order response) :
    ∃ text, (page.read cell Table.empty).1 = .ok text := by
  rcases (Page.responseTo_eq_ok h.responds).2 with ⟨-, hreading⟩ | ⟨failure, -, -, herror⟩
  · exact ⟨_, hreading⟩
  · rw [h.computes] at herror
    cases herror

end Page

namespace Solve

theorem consider_accepts (edges : Edges) {page : Page} {store : Store} {cell value : String}
    {solver : Solver} {world : World Unit} {order : List String}
    (h : Tracks page store Nesting.none Table.empty { solver := solver.setCell cell value, world })
    (horder : DepthFirst (page.dependentIds store edges.sheet) {cell}
      (store.dependentIds edges.sheet cell) order) :
    ∃ result after, consider edges cell value { solver, world } = endsWith after result ∧
      Quiet store after.world ∧
      ∀ response, result = .ok (.ok response) ↔ page.Accepts cell order response := by
  obtain ⟨result, after, hrun, hafter, hdecides⟩ := consider_decides edges h horder
  refine ⟨result, after, hrun, hafter.quiet, fun response => ?_⟩
  have hpasses : (page.judge Nesting.none (cell :: order) Table.empty).1 = .ok none ↔
      (page.text? (canonical cell) ≠ none → ∃ text, (page.read cell Table.empty).1 = .ok text) ∧
        page.ComputesInTurn Nesting.none order (page.read cell Table.empty).2 :=
    Page.judge_eq_none_iff.trans Page.computesInTurn_cons_iff
  generalize (page.judge Nesting.none (cell :: order) Table.empty).1 = verdict
    at hdecides hpasses
  constructor
  · rintro rfl
    cases hdecides with
    | accepted answers computes => exact ⟨answers, computes, (hpasses.mp rfl).2⟩
  · intro haccepts
    obtain rfl := hpasses.mpr ⟨fun _ => haccepts.reads, haccepts.inTurn⟩
    cases hdecides with
    | accepted answers =>
        cases answers.symm.trans haccepts.responds
        rfl

end Solve

namespace Store

theorem news_commitCalls (store : Store) (sheet cell value : String) :
    (store.commitCalls sheet cell value).filterMap Call.news = [] := by
  simp [commitCalls, List.filterMap_cons, List.filterMap_map, Function.comp_def, Call.news]

end Store

theorem World.Untouched.published {before after : World σ} (h : before.Untouched after) :
    after.published = before.published := by
  obtain ⟨made, hcalls, hreads⟩ := h.calls
  have hsilent : made.reverse.filterMap Call.news = [] := by
    rw [List.filterMap_eq_nil_iff]
    intro call hcall
    cases call with
    | publish topic message => exact nomatch hreads _ (List.mem_reverse.mp hcall)
    | _ => rfl
  rw [published_of_calls (made.reverse_reverse ▸ hcalls), hsilent, List.append_nil]

namespace Engine

variable {store : Store} {sheet cell value : String}

theorem consider_accepts (engine : Engine) {world : World Unit} (h : Quiet store world)
    {order : List String}
    (horder : DepthFirst
      ((engine.proposal store (canonical sheet) (canonical cell) value).dependentIds store
        (canonical sheet)) {canonical cell}
      (store.dependentIds (canonical sheet) (canonical cell)) order) :
    ∃ result after, engine.consider sheet cell value world = endsWith after result ∧
      Quiet store after ∧
      ∀ response, result = .ok (.ok response) ↔
        (engine.proposal store (canonical sheet) (canonical cell) value).Accepts
          (canonical cell) order response := by
  obtain ⟨result, session, hrun, hquiet, haccepts⟩ :=
    Solve.consider_accepts (Edges.ofSheet engine.token sheet)
      (engine.proposal_tracks sheet cell value h) horder
  exact ⟨result, session.world, Solve.within_ends hrun, hquiet, haccepts⟩

section

variable (engine : Engine) {world : World Unit} (h : Quiet store world) {order : List String}
  (horder : DepthFirst
    ((engine.proposal store (canonical sheet) (canonical cell) value).dependentIds store
      (canonical sheet)) {canonical cell}
    (store.dependentIds (canonical sheet) (canonical cell)) order)
  {response : CellResponse}
include h horder

theorem accepts_of_upsert {final : World Unit}
    (hrun : engine.upsert sheet cell value world = .ok (.committed response) final) :
    (engine.proposal store (canonical sheet) (canonical cell) value).Accepts (canonical cell)
      order response := by
  obtain ⟨result, considered, hconsider, -, haccepts⟩ := engine.consider_accepts h horder
  rw [upsert_eq] at hrun
  obtain ⟨verdict, middle, hverdict, hstored⟩ := exists_of_bind_ok hrun
  cases verdict with
  | error refusal => cases hstored
  | ok accepted =>
      obtain ⟨_, _, -, hcommitted⟩ := exists_of_bind_ok hstored
      cases hcommitted
      rw [hconsider] at hverdict
      cases result with
      | error error => cases hverdict
      | ok found =>
          cases hverdict
          exact (haccepts response).mp rfl

theorem upsert_of_accepts
    (haccepts : (engine.proposal store (canonical sheet) (canonical cell) value).Accepts
      (canonical cell) order response)
    {told : List String}
    (htold : DepthFirst
      ((store.commit (canonical sheet) (canonical cell) value).dependentIds (canonical sheet))
      ∅ [canonical cell] told) :
    ∃ final, engine.upsert sheet cell value world = .ok (.committed response) final ∧
      Quiet ((store.commit (canonical sheet) (canonical cell) value).announce (canonical sheet)
        told) final ∧
      final.published = world.published ++
        told.map fun id => (Store.topic (canonical sheet) id, id) := by
  obtain ⟨result, considered, hconsider, hquiet, hiff⟩ := engine.consider_accepts h horder
  obtain rfl := (hiff response).mpr haccepts
  have hlooked : world.Untouched considered :=
    ((Solve.within_makes (Solve.consider_looks _ _ _) _).becomes_of_ok hconsider).untouched
  obtain ⟨final, hfinal, hcalls, hstore⟩ :=
    (Solve.store_performs (Edges.ofSheet engine.token sheet) (canonical cell) value htold).run
      hquiet
  refine ⟨final, ?_, hfinal, ?_⟩
  · rw [upsert_eq, bind_of_ok hconsider]
    exact bind_of_ok hstore
  · rw [World.published_of_calls hcalls, hlooked.published, List.filterMap_append,
      Store.news_commitCalls, Edges.news_notices]
    rfl

end

theorem validation_order_announce_commit {page : Page} {order : List String} (value : String)
    (told : List String)
    (h : DepthFirst (page.dependentIds store sheet) {cell} (store.dependentIds sheet cell) order) :
    DepthFirst
      (page.dependentIds ((store.commit sheet cell value).announce sheet told) sheet) {cell}
      (((store.commit sheet cell value).announce sheet told).dependentIds sheet cell) order := by
  obtain ⟨other, hother⟩ := Solve.exists_validation_order page
    ((store.commit sheet cell value).announce sheet told) sheet cell
  have hedges (id : String) :
      (((store.commit sheet cell value).announce sheet told).dependentIds sheet id).filter
          (· != cell) = (store.dependentIds sheet id).filter (· != cell) := by
    have herase := congrArg Table.keys (store.erase_dependentsOf_commit sheet cell value sheet id)
    rw [Table.keys_erase, Table.keys_erase] at herase
    rw [Store.dependentIds_announce]
    exact herase
  have hnext : (fun id =>
        (page.dependentIds ((store.commit sheet cell value).announce sheet told) sheet id).filter
          (· != cell)) =
      fun id => (page.dependentIds store sheet id).filter (· != cell) := by
    funext id
    unfold Page.dependentIds
    split
    · rfl
    · exact hedges id
  have hwithout := hother.without (Set.mem_singleton cell)
  rw [hnext, hedges] at hwithout
  obtain rfl := hwithout.unique (h.without (Set.mem_singleton cell))
  exact hother

/-- A write that has been committed can be committed once more: the response is the same, the
cells and the edges stay as they are, and the same messages are sent in the same order. -/
theorem upsert_again (engine : Engine) {world first : World Unit} (hfired : world.fired = [])
    {response : CellResponse}
    (h : engine.upsert sheet cell value world = .ok (.committed response) first) :
    ∃ news, first.published = world.published ++ news ∧
      ∀ again : Engine, again.fetch = engine.fetch →
        ∃ second, again.upsert sheet cell value first = .ok (.committed response) second ∧
          second.store.sheets = first.store.sheets ∧
          second.store.dependents = first.store.dependents ∧
          second.published = first.published ++ news := by
  have hquiet : Quiet world.store world := ⟨rfl, hfired⟩
  obtain ⟨order, horder⟩ := Solve.exists_validation_order
    (engine.proposal world.store (canonical sheet) (canonical cell) value) world.store
    (canonical sheet) (canonical cell)
  obtain ⟨told, htold⟩ := (world.store.commit (canonical sheet) (canonical cell)
    value).exists_depthFirst (canonical sheet) (fun _ => le_rfl) Table.empty [canonical cell]
  rw [IdSet.members_empty] at htold
  have haccepts := engine.accepts_of_upsert hquiet horder h
  obtain ⟨same, hsame, hfirst, hpublished⟩ := engine.upsert_of_accepts hquiet horder haccepts htold
  cases h.symm.trans hsame
  refine ⟨_, hpublished, fun again hfetch => ?_⟩
  have hcell : first.store.cell? (canonical sheet) (canonical cell) = some value := by
    rw [hfirst.store, Store.cell?_announce, Store.cell?_commit, if_pos ⟨rfl, rfl⟩]
  have hcommit : first.store.commit (canonical sheet) (canonical cell) value = first.store := by
    refine Store.commit_eq_self hcell fun id hid => ?_
    rw [hfirst.store, Store.dependentsOf_announce,
      Store.mem_dependentsOf_commit (slash_not_mem_of_mem_references hid)]
    exact Or.inl ⟨rfl, rfl, hid⟩
  have hpage : again.proposal first.store (canonical sheet) (canonical cell) value =
      engine.proposal world.store (canonical sheet) (canonical cell) value := by
    have hfetched : again.proposal first.store (canonical sheet) (canonical cell) value =
        engine.proposal first.store (canonical sheet) (canonical cell) value := by
      simp only [proposal, page, hfetch]
    rw [hfetched]
    refine engine.page_congr fun other => ?_
    rw [Store.cell?_setCell, Store.cell?_setCell, hfirst.store, Store.cell?_announce,
      Store.cell?_commit]
    split <;> rfl
  have hledTo := validation_order_announce_commit value told horder
  rw [← hfirst.store, ← hpage] at hledTo
  rw [← hpage] at haccepts
  have hagain : DepthFirst
      ((first.store.commit (canonical sheet) (canonical cell) value).dependentIds
        (canonical sheet)) ∅ [canonical cell] told := by
    rw [hcommit, hfirst.store, Store.dependentIds_announce]
    exact htold
  obtain ⟨second, hrun, hsecond, hnews⟩ :=
    again.upsert_of_accepts ⟨rfl, hfirst.fired⟩ hledTo haccepts hagain
  refine ⟨second, hrun, ?_, ?_, hnews⟩
  · rw [hsecond.store, Store.sheets_announce, hcommit]
  · rw [hsecond.store, Store.dependents_announce, hcommit]

/-- A cell and another that reads it, in a circle of edges that are stale but for one. -/
def circledWorld : World Unit :=
  { World.start () with
    store :=
      ((((Store.empty.setCell "s" "a" "1").setCell "s" "b" "=A").addDependents "s" "a"
        ["b"]).addDependents "s" "b" ["a", "gone"]).addDependents "s" "d" ["a"] }

theorem upsert_again_circled :
    circledWorld.fired = [] ∧
      ∃ first news,
        upsert { fetch := Fetch.disabled, token := 0 } "S" "D" "=A+1" circledWorld =
          .ok (.committed { value := "=A+1", result := "2", error := none }) first ∧
        first.published = circledWorld.published ++ news ∧
        ∃ second,
          upsert { fetch := Fetch.disabled, token := 1 } "S" "D" "=A+1" first =
            .ok (.committed { value := "=A+1", result := "2", error := none }) second ∧
          second.store.sheets = first.store.sheets ∧
          second.store.dependents = first.store.dependents ∧
          second.published = first.published ++ news := by
  have hanswer :
      (upsert { fetch := Fetch.disabled, token := 0 } "S" "D" "=A+1").answer circledWorld =
        .ok (.committed { value := "=A+1", result := "2", error := none }) := by
    decide +kernel
  have hrun := Access.eq_endsWith hanswer
  obtain ⟨news, hpublished, hagain⟩ :=
    upsert_again { fetch := Fetch.disabled, token := 0 } (rfl : circledWorld.fired = []) hrun
  exact ⟨rfl, _, news, hrun, hpublished,
    hagain { fetch := Fetch.disabled, token := 1 } rfl⟩

end Engine

end LiveSheet
