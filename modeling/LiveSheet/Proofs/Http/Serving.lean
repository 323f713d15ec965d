import LiveSheet.Proofs.Formula.Canonical
import LiveSheet.Proofs.Http.Fetching
import LiveSheet.Proofs.Sheet.Listed

namespace LiveSheet

open LiveSheet.Formula
open LiveSheet.Text

namespace Http

namespace Server

/-! The cells of a server.  Requests that write cells are the only ones that add to them. -/

def Keeps (server after : Server) : Prop :=
  server.world.store.Keeps after.world.store

theorem Keeps.refl (server : Server) : server.Keeps server :=
  Store.Keeps.refl server.world.store

theorem Keeps.trans {server middle after : Server} (h : server.Keeps middle)
    (hnext : middle.Keeps after) : server.Keeps after :=
  Store.Keeps.trans h hnext

theorem Keeps.cell? {server after : Server} (h : server.Keeps after) (sheet id : String) :
    after.world.store.cell? sheet id = server.world.store.cell? sheet id :=
  Store.Keeps.cell? h sheet id

def Spares (handler : Handler α) : Prop :=
  Moves Keeps handler

theorem spares_pure (answer : α) : Spares (pure answer : Handler α) :=
  moves_pure Keeps.refl answer

theorem Spares.bind {handler : Handler α} {next : α → Handler β} (h : Spares handler)
    (hnext : ∀ answer, Spares (next answer)) : Spares (handler >>= next) :=
  Moves.bind Keeps.refl Keeps.trans h hnext

def Checks (handler : Handler α) : Prop :=
  Moves Eq handler

theorem Checks.spares {handler : Handler α} (h : Checks handler) : Spares handler := by
  intro server
  rw [← h server]
  exact Keeps.refl server

theorem parameter_checks (name source : String) : Checks (parameter name source) := by
  intro server
  rw [parameter]
  cases Percent.decode? source <;> rfl

theorem cellParameters_checks (sheet cell : String) : Checks (cellParameters sheet cell) := by
  have hcheck (id : String) : Checks (checkCellId id) := by
    intro server
    rw [checkCellId]
    split <;> rfl
  exact Moves.bind (fun _ => rfl) .trans (parameter_checks _ _) fun _ =>
    Moves.bind (fun _ => rfl) .trans (parameter_checks _ _) fun _ =>
      Moves.bind (fun _ => rfl) .trans (hcheck _) fun _ => moves_pure (fun _ => rfl) _

theorem upsertBody_checks (request : Request) : Checks (upsertBody request) := by
  intro server
  rw [upsertBody]
  by_cases htype : (((request.header? "content-type").bind MediaType.parse?).map
      MediaType.isJson).getD false = true
  · rw [if_pos htype]
    split
    · rfl
    · cases UpsertRequest.decodeBody request.body <;> rfl
  · rw [if_neg htype]
    rfl

theorem onEngine_spares {access : Engine → Access Unit α}
    (h : ∀ engine, Makes id Call.Spares (access engine)) : Spares (onEngine access) := by
  intro server
  have hkeeps := ((h server.engine).becomes server.world).keeps fun _ hspares => hspares
  rw [Access.leaves] at hkeeps
  rw [onEngine]
  cases hrun : access server.engine server.world with
  | ok answer world =>
      rw [hrun] at hkeeps
      exact hkeeps
  | error error world =>
      rw [hrun] at hkeeps
      exact hkeeps

theorem getSheet_spares (sheet : String) : Spares (getSheet sheet) :=
  (parameter_checks _ _).spares.bind fun _ =>
    (onEngine_spares fun engine => engine.getSheet_makes _).bind fun _ => spares_pure _

theorem getCell_spares (sheet cell : String) : Spares (getCell sheet cell) :=
  (cellParameters_checks sheet cell).spares.bind fun _ =>
    (onEngine_spares fun engine => (engine.getCell_looks _ _).mono fun _ => Call.spares_of_isRead).bind
      fun _ => spares_pure _

theorem createSubscription_spares (sheet cell : String) (request : Request) :
    Spares (createSubscription sheet cell request) :=
  (cellParameters_checks sheet cell).spares.bind fun _ =>
    (onEngine_spares fun engine => engine.createSubscription_makes _ _).bind fun _ =>
      Spares.bind (fun server => Keeps.refl server) fun _ => spares_pure _

theorem openFeed_spares (id : String) : Spares (openFeed id) :=
  (parameter_checks _ _).spares.bind fun _ =>
    (onEngine_spares fun engine =>
        (engine.openSubscription_makes _).mono fun _ => Call.ByFeeds.spares).bind fun _ =>
      Spares.bind (fun server => Keeps.refl server) fun _ =>
        Spares.bind (fun server => Keeps.refl server) fun _ => spares_pure _

theorem endFeed_keeps (server : Server) (index : Nat) : server.Keeps (server.endFeed index) := by
  unfold endFeed
  split
  · exact ⟨rfl, rfl⟩
  · exact Keeps.refl server

theorem drain?_keeps {server after : Server} {index : Nat} {drained : List String × Bool}
    (h : server.drain? index = some (drained, after)) : server.Keeps after := by
  obtain ⟨found, -, hdrain⟩ := Option.map_eq_some_iff.mp h
  cases found with
  | none =>
      cases hdrain
      exact Keeps.refl server
  | some feed =>
      have hkeeps : server.Keeps { server with world := (feed.drain server.world).2 } :=
        (feed.drain_becomes server.world).keeps fun _ => Call.ByFeeds.spares
      dsimp only at hdrain
      split at hdrain
      · cases hdrain
        exact hkeeps.trans (endFeed_keeps _ index)
      · cases hdrain
        exact hkeeps

end Server

inductive Request.Posts (request : Request) (sheet cell : String) : Prop
  | mk {sheetPart cellPart : String} (method : request.method = .post)
      (target : Route.ofTarget? request.target = some (.cell sheetPart cellPart))
      (sheetId : Percent.decode? sheetPart = some sheet)
      (cellId : Percent.decode? cellPart = some cell)

namespace Server

/-- Whether a request writes a cell: it is sent to some spelling of its ids, and answered as
one that has been carried out. -/
def Creates (server : Server) (request : Request) (sheet id : String) : Prop :=
  ∃ sheetId cellId, request.Posts sheetId cellId ∧ canonical sheetId = sheet ∧
    canonical cellId = id ∧ (server.handle request).1.status = 201

section

variable {server : Server} {request : Request}

theorem answer_spares {route : Route} (hother : ∀ sheetPart cellPart,
      request.method = .post → route ≠ .cell sheetPart cellPart) :
    Spares (answer request route) := by
  cases route with
  | health => exact spares_pure _
  | feed id => exact openFeed_spares id
  | sheet sheet => exact getSheet_spares sheet
  | cell sheetPart cellPart =>
      rw [answer, if_neg fun hpost => hother sheetPart cellPart hpost rfl]
      exact getCell_spares sheetPart cellPart
  | subscriptions sheet cell => exact createSubscription_spares sheet cell request

theorem handle_keeps (hother : ∀ sheetPart cellPart, request.method = .post →
      Route.ofTarget? request.target ≠ some (.cell sheetPart cellPart)) :
    server.Keeps (server.handle request).2 := by
  have hcontent (response : Response) (after : Server) :
      after.Keeps (if request.method = .head then withoutContent response after
        else (response, after)).2 := by
    unfold withoutContent
    split
    · split
      · exact Keeps.refl after
      · exact after.endFeed_keeps _
    · exact Keeps.refl after
  rw [handle]
  by_cases hoptions : request.method = .options
  · rw [if_pos hoptions]
    exact Keeps.refl server
  rw [if_neg hoptions]
  cases hroute : Route.ofTarget? request.target with
  | none => exact Keeps.refl server
  | some route =>
      have hspares : Spares (answer request route) := answer_spares fun sheetPart cellPart hpost =>
        fun hcell => hother sheetPart cellPart hpost (hcell ▸ hroute)
      have hkeeps := hspares server
      dsimp only
      rw [handleRoute]
      split
      · cases hanswer : answer request route server with
        | ok response after =>
            rw [hanswer] at hkeeps
            exact hkeeps.trans (hcontent response after)
        | error failure after =>
            rw [hanswer] at hkeeps
            exact hkeeps.trans (hcontent failure.response after)
      · exact Keeps.refl server

def write (server : Server) (sheet cell value : String) : Write :=
  { engine := server.engine, sheet, cell, value }

def attempt (server : Server) (write : Write) : Server :=
  { server with world := write.attempt server.world }

theorem attempt_cell? {write : Write}
    (h : ∀ response, write.request.answer server.world ≠ .ok (.committed response))
    (sheet id : String) :
    (server.attempt write).world.store.cell? sheet id = server.world.store.cell? sheet id := by
  rw [attempt, Write.attempt_store h]

/-- How a server ends a request to write a cell: it refuses it without a look at the store,
or it makes the write that the request spells. -/
inductive Writing (server : Server) (sheetPart cellPart : String) :
    EStateM.Result Failure Server Response → Prop
  | refused (failure : Failure) : Writing server sheetPart cellPart (.error failure server)
  | failed {sheet cell value : String} {error : StoreError}
      (ends : (server.write sheet cell value).request.answer server.world = .error error) :
      Writing server sheetPart cellPart
        (.error (.store error) (server.attempt (server.write sheet cell value)))
  | answered {sheet cell value : String} {outcome : WriteOutcome}
      (sheetId : Percent.decode? sheetPart = some sheet)
      (cellId : Percent.decode? cellPart = some cell)
      (accepted : isCellIdentifier cell = true)
      (ends : (server.write sheet cell value).request.answer server.world = .ok outcome) :
      Writing server sheetPart cellPart
        (.ok (Response.json (writeStatus outcome) outcome.response.encode)
          (server.attempt (server.write sheet cell value)))

theorem writeCell_writing (server : Server) (request : Request) (sheetPart cellPart : String) :
    Writing server sheetPart cellPart (writeCell sheetPart cellPart request server) := by
  rw [writeCell]
  cases hids : cellParameters sheetPart cellPart server with
  | error failure after =>
      have hsame := cellParameters_checks sheetPart cellPart server
      rw [hids] at hsame
      obtain rfl : server = after := hsame
      rw [bind_of_error hids]
      exact .refused failure
  | ok ids after =>
      obtain ⟨hsheet, hcell, haccepted, rfl⟩ := cellParameters_of_ok hids
      rw [bind_of_ok hids]
      dsimp only
      cases hbody : upsertBody request after with
      | error failure last =>
          have hsame := upsertBody_checks request after
          rw [hbody] at hsame
          obtain rfl : after = last := hsame
          rw [bind_of_error hbody]
          exact .refused failure
      | ok body last =>
          obtain rfl := upsertBody_of_ok hbody
          rw [bind_of_ok hbody]
          cases hends : (last.write ids.1 ids.2 body.value).request.answer last.world with
          | error error =>
              have hengine : onEngine (fun engine => engine.upsert ids.1 ids.2 body.value) last =
                  .error (.store error) (last.attempt (last.write ids.1 ids.2 body.value)) :=
                onEngine_error hends
              rw [bind_of_error hengine]
              exact .failed hends
          | ok outcome =>
              have hengine : onEngine (fun engine => engine.upsert ids.1 ids.2 body.value) last =
                  .ok outcome (last.attempt (last.write ids.1 ids.2 body.value)) :=
                onEngine_ok hends
              rw [bind_of_ok hengine]
              exact .answered hsheet hcell haccepted hends

end

/-- What a request comes to for the cells of a server: they stay as they are, or a write has
been committed, and then the request was sent to write its cell. -/
inductive Handled (server : Server) (request : Request) : Prop
  | passed (cells : ∀ sheet id, (server.handle request).2.world.store.cell? sheet id =
        server.world.store.cell? sheet id)
      (creates : ∀ sheet id, ¬server.Creates request sheet id)
  | created {write : Write} {response : CellResponse}
      (accepted : isCellIdentifier write.cell = true)
      (commits : write.request.answer server.world = .ok (.committed response))
      (after : (server.handle request).2 = server.attempt write)
      (creates : ∀ sheet id, server.Creates request sheet id ↔ write.Names sheet id)

section

variable {server : Server} {request : Request}

theorem Handled.of_status (hstatus : (server.handle request).1.status ≠ 201)
    (hcells : ∀ sheet id, (server.handle request).2.world.store.cell? sheet id =
      server.world.store.cell? sheet id) : Handled server request :=
  .passed hcells fun _ _ ⟨_, _, _, _, _, hcreated⟩ => hstatus hcreated

theorem handled_of_target {sheetPart cellPart : String} (hpost : request.method = .post)
    (htarget : Route.ofTarget? request.target = some (.cell sheetPart cellPart)) :
    Handled server request := by
  have hhandle := @handle_eq server _ _ htarget (.inr hpost) (by simp [hpost, Route.methods])
  have hwriting := writeCell_writing server request sheetPart cellPart
  rw [answer, if_pos hpost] at hhandle
  generalize writeCell sheetPart cellPart request server = result at hhandle hwriting
  cases hwriting with
  | refused failure =>
      refine .of_status ?_ fun _ _ => by rw [hhandle]
      rw [hhandle]
      exact (status_failure failure).2.1
  | @failed sheet cell value error hends =>
      refine .of_status ?_ fun _ _ => ?_
      · rw [hhandle]
        exact (status_failure (.store error)).2.1
      · rw [hhandle, attempt_cell? fun _ hcommitted => by cases hends.symm.trans hcommitted]
  | @answered sheet cell value outcome hsheet hcell haccepted hends =>
      cases outcome with
      | rejected response =>
          refine .of_status ?_ fun _ _ => ?_
          · rw [hhandle]
            change 422 ≠ 201
            decide
          · rw [hhandle, attempt_cell? fun _ hcommitted => by cases hends.symm.trans hcommitted]
      | committed response =>
          refine .created haccepted hends (by rw [hhandle]) fun sheetId id => ⟨?_, ?_⟩
          · rintro ⟨_, _, ⟨-, hother, hotherSheet, hotherCell⟩, hsame, hsameCell, -⟩
            cases htarget.symm.trans hother
            cases hsheet.symm.trans hotherSheet
            cases hcell.symm.trans hotherCell
            exact ⟨hsame, hsameCell⟩
          · rintro ⟨hsame, hsameCell⟩
            refine ⟨sheet, cell, .mk hpost htarget hsheet hcell, hsame, hsameCell, ?_⟩
            rw [hhandle]
            rfl

end

theorem handle_handled (server : Server) (request : Request) : Handled server request := by
  by_cases hposts : ∃ sheetPart cellPart, request.method = .post ∧
      Route.ofTarget? request.target = some (.cell sheetPart cellPart)
  · obtain ⟨sheetPart, cellPart, hpost, htarget⟩ := hposts
    exact handled_of_target hpost htarget
  · have hkeeps : server.Keeps (server.handle request).2 :=
      handle_keeps fun sheetPart cellPart hpost htarget =>
        hposts ⟨sheetPart, cellPart, hpost, htarget⟩
    refine .passed hkeeps.cell? ?_
    rintro sheet id ⟨_, _, ⟨hpost, htarget, -, -⟩, -⟩
    exact hposts ⟨_, _, hpost, htarget⟩

theorem handle_cell?_iff (server : Server) (request : Request) (sheet id : String) :
    (server.handle request).2.world.store.cell? sheet id ≠ none ↔
      server.world.store.cell? sheet id ≠ none ∨ server.Creates request sheet id := by
  cases server.handle_handled request with
  | passed hcells hcreates =>
      rw [hcells]
      exact (or_iff_left (hcreates sheet id)).symm
  | @created write response haccepted hcommits hafter hcreates =>
      rw [hafter, attempt, Write.cell?_attempt_iff, hcreates]
      exact or_congr_right (and_iff_left ⟨response, hcommits⟩)

/-- A cell that is written is written under an id that is accepted. -/
theorem Creates.accepted {server : Server} {request : Request} {sheet id : String}
    (h : server.Creates request sheet id) :
    isCellIdentifier id = true ∧ canonical id = id := by
  cases server.handle_handled request with
  | passed hcells hcreates => exact absurd h (hcreates sheet id)
  | created haccepted hcommits hafter hcreates =>
      obtain ⟨-, rfl⟩ := (hcreates sheet id).mp h
      exact ⟨isCellIdentifier_canonical haccepted, canonical_canonical _⟩

inductive Step where
  | handle (request : Request)
  | drain (index : Nat)
  | leave (index : Nat)
  | shutDown

def Step.apply : Step → Server → Server
  | .handle request, server => (server.handle request).2
  | .drain index, server => (server.drain? index).elim server Prod.snd
  | .leave index, server => server.endFeed index
  | .shutDown, server => server.shutDown

def run (steps : List Step) (server : Server) : Server :=
  steps.foldl (fun server step => step.apply server) server

theorem run_cons (step : Step) (steps : List Step) (server : Server) :
    run (step :: steps) server = run steps (step.apply server) := rfl

inductive Written (sheet id : String) : List Step → Server → Prop
  | now {request : Request} {steps : List Step} {server : Server}
      (creates : server.Creates request sheet id) :
      Written sheet id (.handle request :: steps) server
  | later {step : Step} {steps : List Step} {server : Server}
      (rest : Written sheet id steps (step.apply server)) :
      Written sheet id (step :: steps) server

theorem Written.accepted {sheet id : String} {steps : List Step} {server : Server}
    (h : Written sheet id steps server) : isCellIdentifier id = true ∧ canonical id = id := by
  induction h with
  | now hcreates => exact hcreates.accepted
  | later _ ih => exact ih

theorem Step.apply_cell?_iff (step : Step) (server : Server) (sheet id : String) :
    (step.apply server).world.store.cell? sheet id ≠ none ↔
      server.world.store.cell? sheet id ≠ none ∨
        ∃ request, step = .handle request ∧ server.Creates request sheet id := by
  have hother (hkeeps : server.Keeps (step.apply server))
      (hstep : ∀ request, step ≠ .handle request) :
      (step.apply server).world.store.cell? sheet id ≠ none ↔
        server.world.store.cell? sheet id ≠ none ∨
          ∃ request, step = .handle request ∧ server.Creates request sheet id := by
    rw [hkeeps.cell?]
    exact (or_iff_left fun ⟨request, hhandle, _⟩ => hstep request hhandle).symm
  cases step with
  | handle request =>
      rw [apply, handle_cell?_iff]
      simp only [Step.handle.injEq, exists_eq_left']
  | drain index =>
      refine hother ?_ fun _ => nofun
      rw [apply]
      cases hdrain : server.drain? index with
      | none => exact Keeps.refl server
      | some drained => exact drain?_keeps hdrain
  | leave index => exact hother (server.endFeed_keeps index) fun _ => nofun
  | shutDown => exact hother (Keeps.refl server) fun _ => nofun

/-- After a run a server has the cells that it had before, and those that the run writes. -/
theorem run_cell?_iff (steps : List Step) (server : Server) (sheet id : String) :
    (run steps server).world.store.cell? sheet id ≠ none ↔
      server.world.store.cell? sheet id ≠ none ∨ Written sheet id steps server := by
  induction steps generalizing server with
  | nil => exact (or_iff_left nofun).symm
  | cons step steps ih =>
      rw [run_cons, ih, step.apply_cell?_iff, or_assoc]
      refine or_congr_right ⟨?_, ?_⟩
      · rintro (⟨request, rfl, hcreates⟩ | hlater)
        · exact .now hcreates
        · exact .later hlater
      · intro hwritten
        cases hwritten with
        | now hcreates => exact .inl ⟨_, rfl, hcreates⟩
        | later hlater => exact .inr hlater

end Server

end Http

end LiveSheet
