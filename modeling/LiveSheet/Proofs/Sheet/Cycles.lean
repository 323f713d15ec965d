import LiveSheet.Proofs.Sheet.Acyclic
import LiveSheet.Proofs.Sheet.Sessions

namespace LiveSheet

open LiveSheet.Formula
open Relation

namespace Page

/-! A failed reading blames a cycle only where there is one.  The cells that wait
lead to the one that is read, so one of them found again closes a circle. -/

/-- Whether every cell that a reading from a cell can blame lies on a cycle that the
cell leads to. -/
def Blames (page : Page) (cell : String) (reading : Reading α) : Prop :=
  ∀ results name, (reading results).1 = .error (.formula (.cycle name)) →
    ReflTransGen page.Reads cell name ∧ TransGen page.Reads name name

def Leads (page : Page) (nesting : Nesting) (cell : String) : Prop :=
  ∀ waiting ∈ nesting.waiting, TransGen page.Reads waiting cell

variable {page : Page}

theorem leads_none (cell : String) : page.Leads Nesting.none cell :=
  fun _ hwaiting => absurd hwaiting List.not_mem_nil

theorem Leads.enter {nesting : Nesting} {cell other : String} (h : page.Leads nesting cell)
    (hreads : page.Reads cell other) (cost : Nat) :
    page.Leads (nesting.enter cell cost) other := by
  intro waiting hwaiting
  rcases List.mem_cons.mp hwaiting with rfl | hbefore
  · exact .single hreads
  · exact (h waiting hbefore).tail hreads

theorem Blames.head {cell other : String} {reading : Reading α}
    (h : page.Blames other reading) (hreads : page.Reads cell other) :
    page.Blames cell reading := by
  intro results name hcycle
  obtain ⟨hreach, hback⟩ := h results name hcycle
  exact ⟨.head hreads hreach, hback⟩

theorem blames_of_error {cell : String} {stop : Stop}
    (h : ∀ name, stop ≠ .formula (.cycle name)) :
    page.Blames cell (fun results => (.error stop, results) : Reading α) := by
  intro results name hcycle
  cases hcycle
  exact absurd rfl (h name)

theorem blames_external (cell locator : String) :
    page.Blames cell fun results => (page.external locator, results) := by
  intro results name hcycle
  dsimp only at hcycle
  unfold external at hcycle
  split at hcycle <;> cases hcycle

theorem Blames.answer {cell name : String} {read : String → Reading String}
    (h : page.Blames cell (read name)) : page.Blames cell (page.answer read (.cell name)) := by
  intro results circle hcycle
  rcases hread : read name results with ⟨stop | text, after⟩
  · simp only [Page.answer, hread] at hcycle
    apply h results circle
    rw [hread]
    cases stop with
    | formula error => exact hcycle
    | request error =>
        simp only [Stop.forReader] at hcycle
        split at hcycle <;> cases hcycle
  · simp only [Page.answer, hread] at hcycle
    cases hcycle

theorem readAll_blames {cell : String} {inner : Request → Reading String}
    {evaluation : Evaluation α} {plan : List Request} (hplan : evaluation.Follows plan)
    (h : ∀ request ∈ plan, page.Blames cell (inner request)) :
    page.Blames cell (readAll inner evaluation) := by
  induction evaluation generalizing plan with
  | done value => exact fun results name hcycle => by cases hcycle
  | failed error => exact fun results name hcycle => by cases hcycle
  | ask request resume ih =>
      obtain ⟨rest, rfl, hrest⟩ := hplan
      intro results name hcycle
      rcases hanswer : inner request results with ⟨stop | text, after⟩
      · rw [readAll_ask_error hanswer] at hcycle
        apply h request List.mem_cons_self results name
        rw [hanswer]
        cases hcycle
        rfl
      · rw [readAll_ask_ok hanswer] at hcycle
        exact ih text (hrest text) (fun other hother => h other (List.mem_cons_of_mem _ hother))
          after name hcycle

theorem readWith_blames {inner : Nesting → Request → Reading String} {nesting : Nesting}
    {name : String} (hleads : page.Leads nesting (canonical name))
    (h : ∀ {other : String} (cost : Nat), page.Reads (canonical name) (canonical other) →
      page.Blames (canonical other)
        (inner (nesting.enter (canonical name) cost) (.cell other)))
    (hexternal : ∀ nesting locator,
      page.Blames (canonical name) (inner nesting (.external locator))) :
    page.Blames (canonical name) (page.readWith inner nesting name) := by
  intro results circle hcycle
  have hcases := page.readWith_cases inner nesting name results
  generalize page.readWith inner nesting name results = reading at hcases hcycle
  cases hcases with
  | missing _ => cases hcycle
  | plain _ _ => cases hcycle
  | @formula value body _ holds isFormula reads =>
      cases reads with
      | known _ => cases hcycle
      | cycle waits =>
          cases hcycle
          exact ⟨.refl, hleads _ waits⟩
      | unparsed _ => cases hcycle
      | deep => cases hcycle
      | computed _ _ _ _ => cases hcycle
      | @failed expr _ _ _ parses evaluates =>
          have hrequests : ∀ request ∈ expr.requests, page.Blames (canonical name)
              (inner (nesting.enter (canonical name) (expr.height + 1)) request) := by
            intro request hrequest
            cases request with
            | external locator => exact hexternal _ locator
            | cell other =>
                have hreads : page.Reads (canonical name) (canonical other) :=
                  ⟨expr, other, expr?_eq_some.mpr ⟨value, body, holds, isFormula, parses⟩,
                    hrequest, rfl⟩
                exact (h _ hreads).head hreads
          apply readAll_blames (evaluate_follows expr) hrequests results circle
          rw [evaluates]
          cases hcycle
          rfl

theorem readWithin_blames (levels : Nat) {nesting : Nesting} {name : String}
    (hleads : page.Leads nesting (canonical name)) :
    page.Blames (canonical name) (page.readWithin levels nesting name) := by
  have hdeep (cell : String) :
      page.Blames cell (fun results => (.error Stop.tooDeep, results) : Reading String) :=
    blames_of_error fun name hstop => by cases hstop
  induction levels generalizing nesting name with
  | zero => exact readWith_blames hleads (fun _ _ => hdeep _) fun _ _ => hdeep _
  | succ levels ih =>
      refine readWith_blames hleads (fun cost hreads => ?_) fun _ locator => ?_
      · exact (ih (hleads.enter hreads cost)).answer
      · exact blames_external _ locator

/-- What comes to a text reaches no cycle. -/
theorem Denotes.not_reads_self {name text : String} (h : page.Denotes name text)
    {other : String} (hreach : ReflTransGen page.Reads (canonical name) other) :
    ¬ TransGen page.Reads other other := by
  obtain ⟨results, hderived, hknown⟩ := h.derived
  have hknows : page.Knows results (canonical name) :=
    ⟨text, (known?_canonical results name).trans hknown⟩
  exact hderived.not_reads_self
    (hderived.knows_reachable hknows (canonical_canonical name) hreach)

end Page

theorem Rests.blames {page : Page} {store : Store} {session : Session Unit}
    (h : Rests page store session) {name circle : String} {resolution : Resolution}
    (hanswer : (Solve.resolve name).answer session = .ok resolution)
    (houtcome : resolution.outcome = .error (.cycle circle)) :
    ReflTransGen page.Reads (canonical name) circle ∧ TransGen page.Reads circle circle := by
  obtain ⟨results, htracks, -⟩ := h
  have hread := (htracks.answer_eq_ok_iff (.error (.cycle circle))).mp
    ⟨resolution, hanswer, houtcome⟩
  exact Page.readWithin_blames maxResolutionDepth (Page.leads_none _) results circle hread

/-- Whoever a session blames for a cycle lies on one that the resolved cell leads to, and
a cell that leads to a cycle comes to no text. -/
theorem Engine.resolve_blames_cycles (engine : Engine) {world : World Unit}
    (hfired : world.fired = []) {sheet : String}
    (hids : ∀ {cell value}, world.store.cell? (canonical sheet) cell = some value →
      canonical cell = cell)
    (cells : List (String × String)) (steps : List Step) (cell : String)
    {resolution : Resolution}
    (hanswer : (Solve.resolve cell).answer
      (Step.run steps (engine.session sheet cells world)) = .ok resolution) :
    (∀ circle, resolution.outcome = .error (.cycle circle) →
      ReflTransGen ((engine.page world.store (canonical sheet)).setCells cells).Reads
          (canonical cell) circle ∧
        TransGen ((engine.page world.store (canonical sheet)).setCells cells).Reads
          circle circle) ∧
    ∀ circle,
      ReflTransGen ((engine.page world.store (canonical sheet)).setCells cells).Reads
        (canonical cell) circle →
      TransGen ((engine.page world.store (canonical sheet)).setCells cells).Reads
        circle circle →
      ∀ text, resolution.outcome ≠ .ok text := by
  have hrests := engine.session_rests sheet cells (⟨rfl, hfired⟩ : Quiet world.store world)
  have hsheet : ((engine.page world.store (canonical sheet)).setCells cells).sheet =
      canonical sheet := Page.sheet_setCells _ cells
  have hrun := hrests.run (fun {cell value} hvalue => hids (hsheet ▸ hvalue)) steps
  refine ⟨fun circle houtcome => hrun.blames hanswer houtcome, ?_⟩
  intro circle hreach hcycle text houtcome
  have hdenotes := (hrun.denotes cell).1 resolution text hanswer houtcome
  exact hdenotes.not_reads_self hreach hcycle

theorem Engine.resolve_blames_cycles_sample :
    sampleWorld.fired = [] ∧
      ∃ resolution,
        (Solve.resolve "C").answer (Step.run []
          (Engine.session { fetch := Fetch.disabled, token := 0 } "S" [] sampleWorld)) =
            .ok resolution ∧
        resolution.outcome = .error (.cycle "c") ∧
        TransGen ((Engine.page { fetch := Fetch.disabled, token := 0 } sampleWorld.store
          (canonical "S")).setCells []).Reads "c" "c" ∧
        ∀ text, resolution.outcome ≠ .ok text := by
  have hcycle : ((Solve.resolve "C").answer (Step.run []
      (Engine.session { fetch := Fetch.disabled, token := 0 } "S" [] sampleWorld))).map
        Resolution.outcome = .ok (.error (.cycle "c")) := by
    decide +kernel
  obtain ⟨resolution, hanswer, houtcome⟩ := map_eq_ok hcycle
  obtain ⟨hblames, hnone⟩ := resolve_blames_cycles { fetch := Fetch.disabled, token := 0 } rfl
    canonical_of_sampleWorld [] [] "C" hanswer
  obtain ⟨hreach, hcircle⟩ := hblames "c" houtcome
  exact ⟨rfl, resolution, hanswer, houtcome, hcircle, hnone "c" hreach hcircle⟩

end LiveSheet
