import LiveSheet.Console.Fault
import LiveSheet.Proofs.Http.Addressing
import LiveSheet.Proofs.Sheet.Failures

namespace LiveSheet.Http

open LiveSheet.Formula
open LiveSheet.Text

/-- A write is well-formed when it is sent as JSON, in a body that is not too long and
holds a record. -/
def Request.WellFormed (request : Request) : Prop :=
  (((request.header? "content-type").bind MediaType.parse?).map MediaType.isJson).getD false =
      true ∧
    request.body.utf8ByteSize ≤ Server.bodyLimit ∧
    ∃ body, UpsertRequest.decodeBody request.body = .ok body

namespace Server

variable {server : Server} {request : Request}

theorem upsertBody_of_wellFormed (h : request.WellFormed) (server : Server) :
    ∃ body, upsertBody request server = .ok body server := by
  obtain ⟨hjson, hfits, body, hbody⟩ := h
  refine ⟨body, ?_⟩
  unfold upsertBody
  rw [if_pos hjson, if_neg (Nat.not_lt.mpr hfits), hbody]
  rfl

theorem upsertBody_refuses (h : ¬request.WellFormed) (server : Server) :
    ∃ failure, upsertBody request server = .error failure server ∧ failure.status = 400 := by
  unfold upsertBody
  split
  · rename_i hjson
    split
    · exact ⟨_, rfl, rfl⟩
    · rename_i hfits
      cases hbody : UpsertRequest.decodeBody request.body with
      | ok body => exact absurd ⟨hjson, Nat.le_of_not_lt hfits, body, hbody⟩ h
      | error error => exact ⟨_, rfl, rfl⟩
  · exact ⟨_, rfl, rfl⟩

theorem status_response (failure : Failure) : failure.response.status = failure.status := by
  cases failure <;> rfl

theorem status_withoutContent (response : Response) (server : Server) :
    (withoutContent response server).1.status = response.status := by
  unfold withoutContent
  split <;> rfl

theorem status_handle {route : Route} (htarget : Route.ofTarget? request.target = some route)
    (hmethod : request.method ≠ .options)
    (hallowed : route.methods.contains request.method = true) :
    (server.handle request).1.status =
      match answer request route server with
      | .ok response _ => response.status
      | .error failure _ => failure.status := by
  have hhead (response : Response) (after : Server) :
      (if request.method = .head then withoutContent response after
        else (response, after)).1.status = response.status := by
    split
    · exact status_withoutContent response after
    · rfl
  simp only [handle, htarget, hmethod, handleRoute, hallowed, if_true, if_false]
  cases answer request route server with
  | ok response after => exact hhead response after
  | error failure after => rw [hhead, status_response]

section

variable {sheetPart cellPart sheet cell : String}

theorem status_write (htarget : Route.ofTarget? request.target = some (.cell sheetPart cellPart))
    (hsheet : Percent.decode? sheetPart = some sheet)
    (hcell : Percent.decode? cellPart = some cell) (hid : isCellIdentifier cell = true)
    (hmethod : request.method = .post) {body : UpsertRequest}
    (hbody : upsertBody request server = .ok body server) {outcome : WriteOutcome}
    (h : (server.engine.upsert sheet cell body.value).answer server.world = .ok outcome) :
    (server.handle request).1.status = writeStatus outcome := by
  rw [status_handle htarget (by simp [hmethod]) (by simp [hmethod, Route.methods]),
    answer_write hsheet hcell hid hmethod hbody h]
  rfl

theorem status_write_refused
    (htarget : Route.ofTarget? request.target = some (.cell sheetPart cellPart))
    (hsheet : Percent.decode? sheetPart = some sheet)
    (hcell : Percent.decode? cellPart = some cell) (hid : isCellIdentifier cell = true)
    (hmethod : request.method = .post) (h : ¬request.WellFormed) :
    (server.handle request).1.status = 400 := by
  obtain ⟨failure, hbody, hstatus⟩ := upsertBody_refuses h server
  rw [status_handle htarget (by simp [hmethod]) (by simp [hmethod, Route.methods]),
    answer_write_refused hsheet hcell hid hmethod hbody]
  exact hstatus

theorem status_read (htarget : Route.ofTarget? request.target = some (.cell sheetPart cellPart))
    (hsheet : Percent.decode? sheetPart = some sheet)
    (hcell : Percent.decode? cellPart = some cell) (hid : isCellIdentifier cell = true)
    (hmethod : request.method = .get ∨ request.method = .head) :
    (server.handle request).1.status =
      match (server.engine.getCell sheet cell).answer server.world with
      | .ok _ => 200
      | .error error => (Failure.store error).status := by
  have hread : request.method ≠ .post ∧ request.method ≠ .options ∧
      [Method.get, .head, .post].contains request.method = true := by
    rcases hmethod with hget | hhead
    · simp [hget]
    · simp [hhead]
  rw [status_handle htarget hread.2.1 hread.2.2]
  cases hanswer : (server.engine.getCell sheet cell).answer server.world with
  | ok response =>
      rw [answer_read hsheet hcell hid hread.1 hanswer]
      rfl
  | error error => rw [answer_read_failed hsheet hcell hid hread.1 hanswer]

end

/-- A resolution fails with what has failed it and with nothing else, so that where
nothing fails, every text can be written and every cell be asked for. -/
theorem failures_told_apart :
    (∀ {σ : Type} [Interference σ] (session : Session σ) (cell : String),
      session.solver.fetch.Heeds → session.TellsFailures cell) ∧
    (∀ (engine : Engine) (world : World Unit) (sheet cell value : String),
      engine.fetch.Heeds → world.fired = [] →
      ∃ outcome, (engine.upsert sheet cell value).answer world = .ok outcome) ∧
    ∀ (server : Server) (request : Request) {sheetPart cellPart sheet cell : String},
      server.fetch.Heeds → server.world.fired = [] →
      Route.ofTarget? request.target = some (.cell sheetPart cellPart) →
      Percent.decode? sheetPart = some sheet → Percent.decode? cellPart = some cell →
      isCellIdentifier cell = true →
      (request.method = .post → request.WellFormed →
        (server.handle request).1.status = 201 ∨ (server.handle request).1.status = 422) ∧
      (request.method = .post → ¬request.WellFormed →
        (server.handle request).1.status = 400) ∧
      (request.method = .get ∨ request.method = .head →
        (server.handle request).1.status = 200 ∨ (server.handle request).1.status = 404) := by
  refine ⟨fun session cell hheeds => session.tells_failures cell hheeds, ?_, ?_⟩
  · intro engine world sheet cell value hheeds hfired
    exact engine.upsert_answers hfired hheeds sheet cell value
  · intro server request sheetPart cellPart sheet cell hheeds hfired htarget hsheet hcell hid
    refine ⟨fun hmethod hformed => ?_,
      status_write_refused htarget hsheet hcell hid, fun hmethod => ?_⟩
    · obtain ⟨body, hbody⟩ := upsertBody_of_wellFormed hformed server
      obtain ⟨outcome, houtcome⟩ :=
        server.engine.upsert_answers hfired hheeds sheet cell body.value
      rw [status_write htarget hsheet hcell hid hmethod hbody houtcome]
      cases outcome with
      | committed response => exact Or.inl rfl
      | rejected response => exact Or.inr rfl
    · rw [status_read htarget hsheet hcell hid hmethod]
      cases hanswer : (server.engine.getCell sheet cell).answer server.world with
      | ok response => exact Or.inl rfl
      | error error =>
          have hmissing := server.engine.getCell_answers hfired hheeds sheet cell hanswer
          cases error with
          | notFound key => exact Or.inr rfl
          | backend | cancelled | unknownSubscription => cases hmissing

/-- A sum over a number that the store does not hand out. -/
def withheld : Session Faults :=
  { solver := Solver.fresh Fetch.disabled 0 "S"
    world :=
      { store := (Store.empty.setCell "s" "a" "1").setCell "s" "b" "=A+C"
        calls := []
        fired := []
        conditions :=
          { current := 0
            faults := [{ call := "get_cell", key := "s/a", skip := 0, reason := some "down" }] } } }

theorem failures_told_apart_withheld :
    (withheld.attempts "B" =
        [.made (.getCell "s" "b") none, .made (.getCell "s" "a") (some (.backend "down"))] ∧
      (Solve.resolve "B").answer withheld = .error (.backend "down")) ∧
    (∃ outcome, (Engine.upsert { fetch := Fetch.disabled, token := 0 } "S" "A" "=1/").answer
      (World.start ()) = .ok outcome) ∧
    (((start Fetch.disabled {}).handle (Request.write "s" "a" "=a")).1.status = 201 ∨
      ((start Fetch.disabled {}).handle (Request.write "s" "a" "=a")).1.status = 422) ∧
    ((start Fetch.disabled {}).handle
      { Request.write "s" "a" "=a" with headers := [] }).1.status = 400 ∧
    (((start Fetch.disabled {}).handle (Request.read "s" "a")).1.status = 200 ∨
      ((start Fetch.disabled {}).handle (Request.read "s" "a")).1.status = 404) := by
  have hheeds : Fetch.disabled.Heeds := fun locator => nofun
  have hattempts : withheld.attempts "B" =
      [.made (.getCell "s" "b") none,
        .made (.getCell "s" "a") (some (.backend "down"))] := by
    decide +kernel
  obtain ⟨hresolves, hupserts, hanswers⟩ := failures_told_apart
  have htarget : ∀ target ∈ [(Request.write "s" "a" "=a").target, (Request.read "s" "a").target],
      Route.ofTarget? target = some (.cell "s" "a") := by
    decide
  have hsheet : Percent.decode? "s" = some "s" := by decide
  have hcell : Percent.decode? "a" = some "a" := by decide
  have hid : isCellIdentifier "a" = true := by decide +kernel
  have hformed : (Request.write "s" "a" "=a").WellFormed :=
    ⟨by decide, by decide, _, UpsertRequest.decodeBody_encode _⟩
  have hplain : ¬Request.WellFormed { Request.write "s" "a" "=a" with headers := [] } :=
    fun h => absurd h.1 (by decide)
  refine ⟨⟨hattempts, ?_⟩, hupserts _ _ "S" "A" "=1/" hheeds rfl, ?_, ?_, ?_⟩
  · refine ((hresolves withheld "B" hheeds).error_iff _).mpr (Or.inl ?_)
    exact ⟨.made (.getCell "s" "a") (some (.backend "down")), by rw [hattempts]; simp, rfl⟩
  · exact (hanswers _ _ hheeds rfl (htarget _ (by simp)) hsheet hcell hid).1 rfl hformed
  · exact (hanswers _ _ hheeds rfl (htarget _ (by simp [Request.write])) hsheet hcell hid).2.1
      rfl hplain
  · exact (hanswers _ _ hheeds rfl (htarget _ (by simp)) hsheet hcell hid).2.2 (Or.inl rfl)

end Server

end LiveSheet.Http
