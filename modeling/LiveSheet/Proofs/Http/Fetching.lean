import LiveSheet.External.Remote
import LiveSheet.Proofs.Http.Statuses
import LiveSheet.Proofs.Sheet.LiveFeed

namespace LiveSheet

open LiveSheet.Wire.Shape (IsBlank)

variable {blank : String}

theorem Reply.result_encode (cell : CellResponse) (hblank : IsBlank blank) {status : Nat}
    (hlow : 200 ≤ status) (hhigh : status < 300) (locator : String) :
    ({ status, body := cell.encode ++ blank } : Reply).result locator = .ok cell.result := by
  have hsuccess : ({ status, body := cell.encode ++ blank } : Reply).isSuccess = true := by
    simp [isSuccess, hlow, hhigh]
  rw [result, if_pos hsuccess]
  simp only [cell.decode_encode hblank]

/-- Whether a text conveys a result: a fetch that is answered with the text, in whatever
way a request succeeds, comes to that result. -/
def Conveys (text result : String) : Prop :=
  ∀ (transport : Transport) (locator : String) (status : Nat),
    Locator.isValid locator = true → 200 ≤ status → status < 300 →
    transport locator = .ok { status, body := text } →
    Fetch.remote transport false locator = .ok result

theorem CellResponse.conveys_encode (cell : CellResponse) (hblank : IsBlank blank) :
    Conveys (cell.encode ++ blank) cell.result := by
  intro transport locator status hvalid hlow hhigh hreply
  rw [Fetch.remote, if_neg Bool.false_ne_true, if_pos hvalid, hreply]
  exact Reply.result_encode cell hblank hlow hhigh locator

namespace Feed

variable {feed : Feed} {world after : World Unit}

theorem getCell_of_nextUpdate {update : CellResponse}
    (h : feed.nextUpdate world = .ok (some update) after) :
    ∃ now : World Unit,
      (feed.engine.getCell feed.record.sheet feed.record.cell).answer now = .ok update := by
  rw [nextUpdate] at h
  obtain ⟨message, middle, -, h⟩ := exists_of_bind_ok h
  cases message with
  | none => cases h
  | some message =>
      refine ⟨middle, ?_⟩
      cases hread : feed.engine.getCell feed.record.sheet feed.record.cell middle with
      | ok response final =>
          cases (map_of_ok some hread).symm.trans h
          rw [Access.answer, hread]
      | error error final => cases (map_of_error some hread).symm.trans h

theorem getCell_of_mem_drainWithin {bound : Nat} {update : CellResponse}
    (h : update ∈ (feed.drainWithin bound world).1.1) :
    ∃ now : World Unit,
      (feed.engine.getCell feed.record.sheet feed.record.cell).answer now = .ok update := by
  induction bound generalizing world with
  | zero => cases h
  | succ bound ih =>
      cases hnext : feed.nextUpdate world with
      | error error after =>
          rw [drainWithin_ended hnext] at h
          cases h
      | ok found after =>
          cases found with
          | none =>
              rw [drainWithin, hnext] at h
              cases h
          | some first =>
              rw [drainWithin_update hnext] at h
              rcases List.mem_cons.mp h with rfl | hrest
              · exact getCell_of_nextUpdate hnext
              · exact ih hrest

end Feed

namespace Http

open LiveSheet.Formula
open LiveSheet.Text

namespace Server

variable {server after : Server} {request : Request}

theorem parameter_of_ok {name part text : String}
    (h : parameter name part server = .ok text after) :
    Percent.decode? part = some text ∧ after = server := by
  rw [parameter] at h
  cases hdecode : Percent.decode? part with
  | none =>
      rw [hdecode] at h
      cases h
  | some other =>
      rw [hdecode] at h
      cases h
      exact ⟨rfl, rfl⟩

theorem cellParameters_of_ok {sheetPart cellPart : String} {ids : String × String}
    (h : cellParameters sheetPart cellPart server = .ok ids after) :
    Percent.decode? sheetPart = some ids.1 ∧ Percent.decode? cellPart = some ids.2 ∧
      isCellIdentifier ids.2 = true ∧ after = server := by
  rw [cellParameters] at h
  obtain ⟨sheet, first, hfirst, hrest⟩ := exists_of_bind_ok h
  obtain ⟨cell, second, hsecond, hrest⟩ := exists_of_bind_ok hrest
  obtain ⟨_, third, hcheck, hends⟩ := exists_of_bind_ok hrest
  obtain ⟨hsheet, rfl⟩ := parameter_of_ok hfirst
  obtain ⟨hcell, rfl⟩ := parameter_of_ok hsecond
  cases hends
  by_cases hid : isCellIdentifier cell = true
  · rw [checkCellId, if_pos hid] at hcheck
    cases hcheck
    exact ⟨hsheet, hcell, hid, rfl⟩
  · rw [checkCellId, if_neg hid] at hcheck
    cases hcheck

theorem onEngine_of_ok {access : Engine → Access Unit α} {answer : α}
    (h : onEngine access server = .ok answer after) :
    (access server.engine).answer server.world = .ok answer := by
  rw [onEngine] at h
  rw [Access.answer]
  cases hrun : access server.engine server.world with
  | ok other world =>
      rw [hrun] at h
      cases h
      rfl
  | error error world =>
      rw [hrun] at h
      cases h

theorem upsertBody_of_ok {body : UpsertRequest} (h : upsertBody request server = .ok body after) :
    after = server := by
  rw [upsertBody] at h
  by_cases htype : (((request.header? "content-type").bind MediaType.parse?).map
      MediaType.isJson).getD false = true
  · rw [if_pos htype] at h
    split at h
    · cases h
    · cases hbody : UpsertRequest.decodeBody request.body with
      | ok other =>
          rw [hbody] at h
          cases h
          rfl
      | error error =>
          rw [hbody] at h
          cases h
  · rw [if_neg htype] at h
    cases h

/-- What a server has computed when it tells of a cell: how the cell resolves, or how a
write of it has come out. -/
inductive Tells (server : Server) (request : Request) (sheetPart cellPart : String) :
    CellResponse → Prop
  | read {sheet cell : String} {told : CellResponse} (method : request.method = .get)
      (sheetId : Percent.decode? sheetPart = some sheet)
      (cellId : Percent.decode? cellPart = some cell)
      (computed : (server.engine.getCell sheet cell).answer server.world = .ok told) :
      Tells server request sheetPart cellPart told
  | written {sheet cell : String} {body : UpsertRequest} {outcome : WriteOutcome}
      (method : request.method = .post)
      (sheetId : Percent.decode? sheetPart = some sheet)
      (cellId : Percent.decode? cellPart = some cell)
      (understood : upsertBody request server = .ok body server)
      (computed :
        (server.engine.upsert sheet cell body.value).answer server.world = .ok outcome) :
      Tells server request sheetPart cellPart outcome.response

theorem tells_of_getCell {sheetPart cellPart : String} {response : Response}
    (hmethod : request.method = .get)
    (h : getCell sheetPart cellPart server = .ok response after) :
    ∃ told, Tells server request sheetPart cellPart told ∧
      response.body = .text told.encode := by
  rw [getCell] at h
  obtain ⟨⟨sheet, cell⟩, first, hids, hrest⟩ := exists_of_bind_ok h
  obtain ⟨told, second, htold, hends⟩ := exists_of_bind_ok hrest
  obtain ⟨hsheet, hcell, -, rfl⟩ := cellParameters_of_ok hids
  cases hends
  exact ⟨told, .read hmethod hsheet hcell (onEngine_of_ok htold), rfl⟩

theorem tells_of_writeCell {sheetPart cellPart : String} {response : Response}
    (hmethod : request.method = .post)
    (h : writeCell sheetPart cellPart request server = .ok response after) :
    ∃ told, Tells server request sheetPart cellPart told ∧
      response.body = .text told.encode := by
  rw [writeCell] at h
  obtain ⟨⟨sheet, cell⟩, first, hids, hrest⟩ := exists_of_bind_ok h
  obtain ⟨body, second, hbody, hrest⟩ := exists_of_bind_ok hrest
  obtain ⟨outcome, third, houtcome, hends⟩ := exists_of_bind_ok hrest
  obtain ⟨hsheet, hcell, -, rfl⟩ := cellParameters_of_ok hids
  obtain rfl := upsertBody_of_ok hbody
  have hcomputed := onEngine_of_ok houtcome
  cases hends
  exact ⟨outcome.response, .written hmethod hsheet hcell hbody hcomputed, rfl⟩

theorem status_failure (failure : Failure) :
    failure.response.status ≠ 200 ∧ failure.response.status ≠ 201 ∧
      failure.response.status ≠ 422 := by
  rw [status_response]
  cases failure with
  | parameter | invalidCellId | body => simp [Failure.status]
  | store error => cases error <;> simp [Failure.status]

theorem tells_of_handle {sheetPart cellPart : String}
    (htarget : Route.ofTarget? request.target = some (.cell sheetPart cellPart))
    (hmethod : request.method = .get ∨ request.method = .post)
    (hstatus : (server.handle request).1.status ∈ [200, 201, 422]) :
    ∃ told, Tells server request sheetPart cellPart told ∧
      (server.handle request).1.body = .text told.encode := by
  have hallowed : (Route.cell sheetPart cellPart).methods.contains request.method = true := by
    rcases hmethod with hget | hpost
    · simp [hget, Route.methods]
    · simp [hpost, Route.methods]
  rw [handle_eq htarget hmethod hallowed] at hstatus ⊢
  cases hanswer : answer request (.cell sheetPart cellPart) server with
  | error failure after =>
      rw [hanswer] at hstatus
      obtain ⟨hread, hwritten, hrejected⟩ := status_failure failure
      simp [hread, hwritten, hrejected] at hstatus
  | ok response after =>
      rw [answer] at hanswer
      rcases hmethod with hget | hpost
      · rw [if_neg (by rw [hget]; decide)] at hanswer
        exact tells_of_getCell hget hanswer
      · rw [if_pos hpost] at hanswer
        exact tells_of_writeCell hpost hanswer

theorem exists_of_mem_drain? {index : Nat} {lines : List String} {ended : Bool}
    (h : server.drain? index = some ((lines, ended), after)) {line : String}
    (hline : line ∈ lines) :
    ∃ feed update, server.feeds[index]? = some (some feed) ∧
      update ∈ (feed.drain server.world).1.1 ∧ line = update.encode ++ "\n" := by
  obtain ⟨found, hfound, hdrain⟩ := Option.map_eq_some_iff.mp h
  cases found with
  | none =>
      cases hdrain
      cases hline
  | some feed =>
      refine ⟨feed, ?_⟩
      dsimp only at hdrain
      rcases hupdates : feed.drain server.world with ⟨⟨updates, failure⟩, world⟩
      rw [hupdates] at hdrain
      have hlines : lines = updates.map fun update => update.encode ++ "\n" := by
        cases failure <;> cases hdrain <;> rfl
      rw [hlines] at hline
      obtain ⟨update, hupdate, rfl⟩ := List.mem_map.mp hline
      exact ⟨update, hfound, hupdate, rfl⟩

/-- Every record is read back from what is written of it.  So a fetch comes to just the
result that a server has computed when it told of the cell, or when a feed reported it. -/
theorem fetched_as_computed :
    ((∀ cell : CellResponse, CellResponse.decode cell.encode = .ok cell) ∧
      (∀ request : UpsertRequest, UpsertRequest.decode request.encode = .ok request) ∧
      (∀ response : SubscribeResponse,
        SubscribeResponse.decode response.encode = .ok response) ∧
      ∀ record : SubscriptionRecord, SubscriptionRecord.decode record.encode = .ok record) ∧
    (∀ (server : Server) (request : Request) (sheetPart cellPart : String),
      Route.ofTarget? request.target = some (.cell sheetPart cellPart) →
      request.method = .get ∨ request.method = .post →
      (server.handle request).1.status ∈ [200, 201, 422] →
      ∃ told, Tells server request sheetPart cellPart told ∧
        (server.handle request).1.body = .text told.encode ∧
        Conveys told.encode told.result) ∧
    ∀ (server : Server) (index : Nat) (lines : List String) (ended : Bool) (after : Server),
      server.drain? index = some ((lines, ended), after) →
      ∀ line ∈ lines, ∃ feed update, server.feeds[index]? = some (some feed) ∧
        line = update.encode ++ "\n" ∧
        (∃ now : World Unit,
          (feed.engine.getCell feed.record.sheet feed.record.cell).answer now = .ok update) ∧
        Conveys line update.result := by
  have hnone : IsBlank "" := by decide
  have hend : IsBlank "\n" := by decide
  refine ⟨⟨fun cell => ?_, fun request => ?_, fun response => ?_, fun record => ?_⟩, ?_, ?_⟩
  · simpa using cell.decode_encode hnone
  · simpa using request.decode_encode hnone
  · simpa using response.decode_encode hnone
  · simpa using record.decode_encode hnone
  · intro server request sheetPart cellPart htarget hmethod hstatus
    obtain ⟨told, htold, hbody⟩ := tells_of_handle htarget hmethod hstatus
    have hconveys := told.conveys_encode hnone
    rw [String.append_empty] at hconveys
    exact ⟨told, htold, hbody, hconveys⟩
  · intro server index lines ended after hdrain line hline
    obtain ⟨feed, update, hfeed, hupdate, rfl⟩ := exists_of_mem_drain? hdrain hline
    exact ⟨feed, update, hfeed, rfl, Feed.getCell_of_mem_drainWithin hupdate,
      update.conveys_encode hend⟩

def quotation : String := "say \"hi\"\n\\"

def reporting : Server :=
  { start Fetch.disabled {} with
    world :=
      { World.start () with
        store := ((Store.empty.setCell "s" "b" quotation).listen (Store.topic "s" "b")).2.publish
          (Store.topic "s" "b") "b" }
    feeds :=
      [some
        { engine := { fetch := Fetch.disabled, token := 0 }
          record := SubscriptionRecord.ofIds "S" "B"
          listener := 0 }] }

theorem fetched_as_computed_quotation :
    (reporting.handle (Request.read "s" "b")).1.status ∈ [200, 201, 422] ∧
      (∃ told : CellResponse,
        (reporting.handle (Request.read "s" "b")).1.body = .text told.encode ∧
        Fetch.remote (fun _ => .ok { status := 200, body := told.encode }) false
          "http://127.0.0.1:8080/api/v1/s/b" = .ok quotation) ∧
      ∃ lines ended after line, reporting.drain? 0 = some ((lines, ended), after) ∧
        line ∈ lines ∧
        Fetch.remote (fun _ => .ok { status := 204, body := line }) false
          "http://127.0.0.1:8080/api/v1/s/b" = .ok quotation := by
  have hvalid : Locator.isValid "http://127.0.0.1:8080/api/v1/s/b" = true := by decide +kernel
  have htarget : Route.ofTarget? (Request.read "s" "b").target = some (.cell "s" "b") := by
    decide
  have hstatus : (reporting.handle (Request.read "s" "b")).1.status ∈ [200, 201, 422] := by
    decide +kernel
  have hsays : (reporting.handle (Request.read "s" "b")).1.body =
      .text (CellResponse.plain quotation).encode := by
    decide +kernel
  have hlines : (reporting.drain? 0).map (fun drained => drained.1.1) =
      some [(CellResponse.plain quotation).encode ++ "\n"] := by
    decide +kernel
  have hend : IsBlank "\n" := by decide
  obtain ⟨⟨hdecode, -, -, -⟩, htells, hreports⟩ := fetched_as_computed
  refine ⟨hstatus, ?_, ?_⟩
  · obtain ⟨told, -, hbody, hconveys⟩ := htells reporting (Request.read "s" "b") "s" "b" htarget
      (.inl rfl) hstatus
    have htold : told = CellResponse.plain quotation := by
      have hread := hdecode told
      rw [Body.text.inj (hbody.symm.trans hsays), hdecode] at hread
      exact (Except.ok.inj hread).symm
    refine ⟨told, hbody, (hconveys _ _ 200 hvalid (by decide) (by decide) rfl).trans ?_⟩
    rw [htold, CellResponse.plain]
  · obtain ⟨⟨⟨lines, ended⟩, after⟩, hdrain, hlist⟩ := Option.map_eq_some_iff.mp hlines
    have hmem : (CellResponse.plain quotation).encode ++ "\n" ∈ lines := by
      rw [show lines = _ from hlist]
      exact List.mem_singleton_self _
    obtain ⟨feed, update, -, hline, -, hconveys⟩ :=
      hreports reporting 0 lines ended after hdrain _ hmem
    have hupdate : update = CellResponse.plain quotation := by
      have hread := update.decode_encode hend
      rw [← hline, CellResponse.decode_encode _ hend] at hread
      exact (Except.ok.inj hread).symm
    refine ⟨lines, ended, after, _, hdrain, hmem,
      (hconveys _ _ 204 hvalid (by decide) (by decide) rfl).trans ?_⟩
    rw [hupdate, CellResponse.plain]

end Server

end Http

end LiveSheet
