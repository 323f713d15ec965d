import LiveSheet.Http.Server
import LiveSheet.Proofs.Sheet.Listening
import LiveSheet.Proofs.Sheet.Mention
import LiveSheet.Proofs.Text.Percent
import LiveSheet.Proofs.Wire.Shape

namespace LiveSheet.Http

open LiveSheet.Formula
open LiveSheet.Text

/-! The cells of a server by their paths.  Parts of a path are routed as they
were sent, before any escape is undone. -/

def staysInPart (char : Char) : Bool :=
  char != '/' && char != '?' && char != '#'

/-- A part of a path that stands for a text. -/
structure Spells (part text : String) : Prop where
  decodes : Percent.decode? part = some text
  part : part.toList.all staysInPart = true

theorem spells_encode (text : String) : Spells (Percent.encode text) text where
  decodes := Percent.decode?_encode text
  part := by
    rw [List.all_eq_true]
    intro char hmem
    rcases Percent.isUnreserved_of_mem_encode hmem with hkept | rfl
    · simp only [staysInPart, Bool.and_eq_true, bne_iff_ne]
      refine ⟨⟨?_, ?_⟩, ?_⟩ <;>
        · rintro rfl
          exact absurd hkept (by decide)
    · decide

theorem Spells.ne_empty {part text : String} (h : Spells part text) (hne : text ≠ "") :
    part ≠ "" := by
  rintro rfl
  have hnone : Percent.decode? "" = some "" := by decide
  exact hne (Option.some.inj (h.decodes.symm.trans hnone))

theorem Spells.inPath {part text : String} (h : Spells part text) :
    ∀ char ∈ part.toList, char ≠ '/' ∧ (char != '?' && char != '#') = true := by
  intro char hmem
  have hstays := List.all_eq_true.mp h.part char hmem
  simpa only [staysInPart, Bool.and_assoc, Bool.and_eq_true, bne_iff_ne] using hstays

theorem spells_feeds : Spells "sub" "sub" where
  decodes := by decide
  part := by decide

def cellTarget (sheet cell : String) : String :=
  "/api/v1/" ++ sheet ++ "/" ++ cell

def partsOf (sheet cell : String) : List (List Char) :=
  ["".toList, "api".toList, "v1".toList, sheet.toList, cell.toList]

theorem cellTarget_eq_intercalate (sheet cell : String) :
    (cellTarget sheet cell).toList = List.intercalate ['/'] (partsOf sheet cell) := by
  simp [cellTarget, partsOf, String.toList_append]

section

variable {sheet cell sheetPart cellPart : String}

theorem path_cellTarget (hsheet : Spells sheetPart sheet) (hcell : Spells cellPart cell) :
    Route.path (cellTarget sheetPart cellPart) = (cellTarget sheetPart cellPart).toList := by
  rw [Route.path, List.takeWhile_eq_self_iff]
  intro char hmem
  have hprefix : ("/api/v1/".toList.all fun char => char != '?' && char != '#') = true := by
    decide
  simp only [cellTarget, String.toList_append, List.mem_append, or_assoc] at hmem
  rcases hmem with hfront | hsheetPart | hslash | hcellPart
  · exact List.all_eq_true.mp hprefix char hfront
  · exact (hsheet.inPath char hsheetPart).2
  · obtain rfl := List.mem_singleton.mp hslash
    decide
  · exact (hcell.inPath char hcellPart).2

theorem ofTarget?_cellTarget (hsheet : Spells sheetPart sheet) (hcell : Spells cellPart cell)
    (hne : cell ≠ "") :
    Route.ofTarget? (cellTarget sheetPart cellPart) =
      some (if sheetPart = "sub" then .feed cellPart else .cell sheetPart cellPart) := by
  have hsplit : (Route.path (cellTarget sheetPart cellPart)).splitOn '/' =
      partsOf sheetPart cellPart := by
    rw [path_cellTarget hsheet hcell, cellTarget_eq_intercalate]
    apply List.splitOn_intercalate
    · intro part hpart hslash
      simp only [partsOf, List.mem_cons, List.not_mem_nil, or_false] at hpart
      rcases hpart with rfl | rfl | rfl | rfl | rfl
      · exact absurd hslash (by decide)
      · exact absurd hslash (by decide)
      · exact absurd hslash (by decide)
      · exact (hsheet.inPath '/' hslash).1 rfl
      · exact (hcell.inPath '/' hslash).1 rfl
    · exact List.cons_ne_nil _ _
  have hlast : cellPart.isEmpty = false := by
    simpa using hcell.ne_empty hne
  rw [Route.ofTarget?, hsplit]
  simp only [partsOf, List.map_cons, List.map_nil, String.ofList_toList, Route.ofParts?, hlast,
    Bool.false_eq_true, if_false]
  by_cases hfeed : sheetPart = "sub"
  · rw [if_pos hfeed, if_pos hfeed]
  · rw [if_neg hfeed, if_neg hfeed]

end

namespace Request

def write (sheet cell value : String) : Request :=
  { method := .post
    target := cellTarget sheet cell
    headers := [("content-type", "application/json")]
    body := UpsertRequest.encode { value } }

def read (sheet cell : String) : Request :=
  { method := .get, target := cellTarget sheet cell, headers := [], body := "" }

end Request

namespace Server

variable {server : Server} {sheet cell sheetPart cellPart : String}

theorem onEngine_ok {access : Engine → Access Unit α} {answer : α}
    (h : (access server.engine).answer server.world = .ok answer) :
    onEngine access server =
      .ok answer { server with world := (access server.engine).leaves server.world } := by
  rw [onEngine, Access.eq_endsWith h]
  rfl

theorem onEngine_error {access : Engine → Access Unit α} {error : StoreError}
    (h : (access server.engine).answer server.world = .error error) :
    onEngine access server =
      .error (.store error)
        { server with world := (access server.engine).leaves server.world } := by
  rw [onEngine, Access.eq_endsWith h]
  rfl

theorem parameter_ok {part text : String} (h : Percent.decode? part = some text)
    (name : String) : parameter name part server = .ok text server := by
  rw [parameter, h]
  rfl

theorem cellParameters_ok (hsheet : Percent.decode? sheetPart = some sheet)
    (hcell : Percent.decode? cellPart = some cell) (hid : isCellIdentifier cell = true) :
    cellParameters sheetPart cellPart server = .ok (sheet, cell) server := by
  have hcheck : checkCellId cell server = .ok () server := by
    rw [checkCellId, if_pos hid]
    rfl
  rw [cellParameters, bind_of_ok (parameter_ok hsheet _), bind_of_ok (parameter_ok hcell _),
    bind_of_ok hcheck]
  rfl

theorem upsertBody_json {request : Request}
    (hheaders : request.headers = [("content-type", "application/json")]) :
    upsertBody request server =
      if bodyLimit < request.body.utf8ByteSize then .error (.body .tooLong) server
      else
        match UpsertRequest.decodeBody request.body with
        | .ok body => .ok body server
        | .error error => .error (.body (.wire error)) server := by
  have hheader : request.header? "content-type" = some "application/json" := by
    rw [Request.header?, hheaders]
    decide
  have hjson : ((MediaType.parse? "application/json").map MediaType.isJson).getD false = true := by
    decide
  rw [upsertBody, hheader]
  simp only [Option.bind_some, hjson, if_true]
  split
  · rfl
  · cases UpsertRequest.decodeBody request.body <;> rfl

theorem upsertBody_ok {request : Request} {body : UpsertRequest}
    (hheaders : request.headers = [("content-type", "application/json")])
    (hbody : request.body = body.encode) (hfits : body.encode.utf8ByteSize ≤ bodyLimit) :
    upsertBody request server = .ok body server := by
  rw [upsertBody_json hheaders, hbody, if_neg (Nat.not_lt.mpr hfits),
    UpsertRequest.decodeBody_encode]

theorem handle_eq {request : Request} {route : Route}
    (htarget : Route.ofTarget? request.target = some route)
    (hmethod : request.method = .get ∨ request.method = .post)
    (hallowed : route.methods.contains request.method = true) :
    server.handle request =
      match answer request route server with
      | .ok response after => (response, after)
      | .error failure after => (failure.response, after) := by
  have hplain : request.method ≠ .options ∧ request.method ≠ .head := by
    rcases hmethod with hget | hpost
    · simp [hget]
    · simp [hpost]
  cases hanswer : answer request route server <;>
    simp only [handle, htarget, hplain.1, hplain.2, handleRoute, hallowed, hanswer, if_true,
      if_false]

section

variable {request : Request}

theorem answer_write (hsheet : Percent.decode? sheetPart = some sheet)
    (hcell : Percent.decode? cellPart = some cell) (hid : isCellIdentifier cell = true)
    (hmethod : request.method = .post) {body : UpsertRequest}
    (hbody : upsertBody request server = .ok body server) {outcome : WriteOutcome}
    (h : (server.engine.upsert sheet cell body.value).answer server.world = .ok outcome) :
    answer request (.cell sheetPart cellPart) server =
      .ok (Response.json (writeStatus outcome) outcome.response.encode)
        { server with
          world := (server.engine.upsert sheet cell body.value).leaves server.world } := by
  have hengine : onEngine (fun engine => engine.upsert sheet cell body.value) server =
      .ok outcome
        { server with
          world := (server.engine.upsert sheet cell body.value).leaves server.world } :=
    onEngine_ok h
  rw [answer, if_pos hmethod, writeCell, bind_of_ok (cellParameters_ok hsheet hcell hid)]
  dsimp only
  rw [bind_of_ok hbody, bind_of_ok hengine]
  rfl

theorem answer_write_refused (hsheet : Percent.decode? sheetPart = some sheet)
    (hcell : Percent.decode? cellPart = some cell) (hid : isCellIdentifier cell = true)
    (hmethod : request.method = .post) {failure : Failure} {after : Server}
    (hbody : upsertBody request server = .error failure after) :
    answer request (.cell sheetPart cellPart) server = .error failure after := by
  rw [answer, if_pos hmethod, writeCell, bind_of_ok (cellParameters_ok hsheet hcell hid)]
  dsimp only
  rw [bind_of_error hbody]

theorem answer_read (hsheet : Percent.decode? sheetPart = some sheet)
    (hcell : Percent.decode? cellPart = some cell) (hid : isCellIdentifier cell = true)
    (hmethod : request.method ≠ .post) {response : CellResponse}
    (h : (server.engine.getCell sheet cell).answer server.world = .ok response) :
    answer request (.cell sheetPart cellPart) server =
      .ok (Response.json 200 response.encode)
        { server with world := (server.engine.getCell sheet cell).leaves server.world } := by
  have hengine : onEngine (fun engine => engine.getCell sheet cell) server =
      .ok response
        { server with world := (server.engine.getCell sheet cell).leaves server.world } :=
    onEngine_ok h
  rw [answer, if_neg hmethod, getCell, bind_of_ok (cellParameters_ok hsheet hcell hid)]
  dsimp only
  rw [bind_of_ok hengine]
  rfl

theorem answer_read_failed (hsheet : Percent.decode? sheetPart = some sheet)
    (hcell : Percent.decode? cellPart = some cell) (hid : isCellIdentifier cell = true)
    (hmethod : request.method ≠ .post) {error : StoreError}
    (h : (server.engine.getCell sheet cell).answer server.world = .error error) :
    answer request (.cell sheetPart cellPart) server =
      .error (.store error)
        { server with world := (server.engine.getCell sheet cell).leaves server.world } := by
  have hengine : onEngine (fun engine => engine.getCell sheet cell) server =
      .error (.store error)
        { server with world := (server.engine.getCell sheet cell).leaves server.world } :=
    onEngine_error h
  rw [answer, if_neg hmethod, getCell, bind_of_ok (cellParameters_ok hsheet hcell hid)]
  dsimp only
  rw [bind_of_error hengine]

end

theorem handle_write (hsheet : Spells sheetPart sheet) (hcell : Spells cellPart cell)
    (hid : isCellIdentifier cell = true) (hne : cell ≠ "") (hroute : sheetPart ≠ "sub")
    {value : String} (hfits : (UpsertRequest.encode { value }).utf8ByteSize ≤ bodyLimit)
    {outcome : WriteOutcome}
    (h : (server.engine.upsert sheet cell value).answer server.world = .ok outcome) :
    server.handle (Request.write sheetPart cellPart value) =
      (Response.json (writeStatus outcome) outcome.response.encode,
        { server with world := (server.engine.upsert sheet cell value).leaves server.world }) := by
  have htarget : Route.ofTarget? (Request.write sheetPart cellPart value).target =
      some (.cell sheetPart cellPart) := by
    rw [Request.write, ofTarget?_cellTarget hsheet hcell hne, if_neg hroute]
  have hbody : upsertBody (Request.write sheetPart cellPart value) server =
      .ok { value } server := by
    apply upsertBody_ok
    · rfl
    · rw [Request.write]
    · exact hfits
  rw [handle_eq htarget (Or.inr rfl) rfl,
    answer_write hsheet.decodes hcell.decodes hid rfl hbody h]

theorem handle_write_tooLong (hsheet : Spells sheetPart sheet) (hcell : Spells cellPart cell)
    (hid : isCellIdentifier cell = true) (hne : cell ≠ "") (hroute : sheetPart ≠ "sub")
    {value : String} (hlong : bodyLimit < (UpsertRequest.encode { value }).utf8ByteSize) :
    server.handle (Request.write sheetPart cellPart value) =
      ((Failure.body .tooLong).response, server) := by
  have htarget : Route.ofTarget? (Request.write sheetPart cellPart value).target =
      some (.cell sheetPart cellPart) := by
    rw [Request.write, ofTarget?_cellTarget hsheet hcell hne, if_neg hroute]
  have hbody : upsertBody (Request.write sheetPart cellPart value) server =
      .error (.body .tooLong) server :=
    (upsertBody_json rfl).trans (if_pos hlong)
  rw [handle_eq htarget (Or.inr rfl) rfl,
    answer_write_refused hsheet.decodes hcell.decodes hid rfl hbody]

theorem handle_read (hsheet : Spells sheetPart sheet) (hcell : Spells cellPart cell)
    (hid : isCellIdentifier cell = true) (hne : cell ≠ "") (hroute : sheetPart ≠ "sub")
    {response : CellResponse}
    (h : (server.engine.getCell sheet cell).answer server.world = .ok response) :
    server.handle (Request.read sheetPart cellPart) =
      (Response.json 200 response.encode,
        { server with world := (server.engine.getCell sheet cell).leaves server.world }) := by
  have htarget : Route.ofTarget? (Request.read sheetPart cellPart).target =
      some (.cell sheetPart cellPart) := by
    rw [Request.read, ofTarget?_cellTarget hsheet hcell hne, if_neg hroute]
  have hmethod : (Request.read sheetPart cellPart).method ≠ .post := nofun
  rw [handle_eq htarget (Or.inl rfl) rfl, answer_read hsheet.decodes hcell.decodes hid hmethod h]

theorem handle_write_feed (hcell : Spells cellPart cell) (hne : cell ≠ "") (value : String) :
    server.handle (Request.write "sub" cellPart value) =
      (Response.empty 405 [.get, .head], server) := by
  have htarget : Route.ofTarget? (Request.write "sub" cellPart value).target =
      some (.feed cellPart) := by
    rw [Request.write, ofTarget?_cellTarget spells_feeds hcell hne, if_pos rfl]
  have hmethod : (Request.write "sub" cellPart value).method = .post := rfl
  generalize Request.write "sub" cellPart value = request at htarget hmethod
  simp only [handle, htarget, hmethod, handleRoute]
  rfl

theorem handle_read_feed (hcell : Spells cellPart cell) (hne : cell ≠ "") {error : StoreError}
    (h : (server.engine.openSubscription cell).answer server.world = .error error) :
    (server.handle (Request.read "sub" cellPart)).1 = (Failure.store error).response := by
  have htarget : Route.ofTarget? (Request.read "sub" cellPart).target =
      some (.feed cellPart) := by
    rw [Request.read, ofTarget?_cellTarget spells_feeds hcell hne, if_pos rfl]
  have hengine : onEngine (fun engine => engine.openSubscription cell) server =
      .error (.store error)
        { server with
          world := (server.engine.openSubscription cell).leaves server.world } :=
    onEngine_error h
  have hmethod : (Request.read "sub" cellPart).method = .get := rfl
  generalize Request.read "sub" cellPart = request at htarget hmethod
  rw [handle_eq htarget (Or.inl hmethod) (by simp [hmethod, Route.methods]), answer, openFeed,
    bind_of_ok (parameter_ok hcell.decodes _)]
  dsimp only
  rw [bind_of_error hengine]

theorem handle_write_literal {store : Store} (h : Quiet store server.world)
    (hsheet : Spells sheetPart sheet) (hcell : Spells cellPart cell)
    (hid : isCellIdentifier cell = true) (hroute : sheetPart ≠ "sub") {literal : String}
    (hfits : (UpsertRequest.encode { value := literal }).utf8ByteSize ≤ bodyLimit)
    (hempty : ∀ other, store.cell? (canonical sheet) other = none)
    (hplain : body? literal = none) :
    ∃ after told,
      server.handle (Request.write sheetPart cellPart literal) =
        (Response.json 201 (CellResponse.plain literal).encode, after) ∧
      Quiet ((store.commit (canonical sheet) (canonical cell) literal).announce
        (canonical sheet) told) after.world := by
  obtain ⟨hcommitted, told, hquiet⟩ := server.engine.upsert_literal h hempty hplain cell
  have hne := ne_empty_of_isCellIdentifier hid
  have hhandle := handle_write hsheet hcell hid hne hroute hfits hcommitted
  -- The world that the write leaves is not to be unfolded.
  generalize (server.engine.upsert sheet cell literal).leaves server.world = world
    at hhandle hquiet
  exact ⟨_, told, hhandle, hquiet⟩

theorem handle_read_literal {store : Store} (h : Quiet store server.world)
    (hsheet : Spells sheetPart sheet) (hcell : Spells cellPart cell)
    (hid : isCellIdentifier cell = true) {literal : String} (hplain : body? literal = none)
    (hheld : store.cell? (canonical sheet) (canonical cell) = some literal)
    (hnobody : ∀ id, store.subscription? id = none) :
    (server.handle (Request.read sheetPart cellPart)).1 =
      if sheetPart = "sub" then (Failure.store (.unknownSubscription cell)).response
      else Response.json 200 (CellResponse.plain literal).encode := by
  have hne := ne_empty_of_isCellIdentifier hid
  split
  · rename_i hfeeds
    subst hfeeds
    have hrecord := Access.request_yields server.engine.token (.getSubscription cell) store
    simp only [Call.perform, hnobody] at hrecord
    have hopen : (server.engine.openSubscription cell : Access Unit Feed).Yields store
        (.error (.unknownSubscription cell)) store := hrecord.bind_error
    exact handle_read_feed hcell hne (hopen.answer h)
  · rename_i hroute
    have hanswer := (server.engine.getCell_yields store sheet cell).answer h
    have hresponse : (server.engine.page store (canonical sheet)).response cell =
        .ok (CellResponse.plain literal) := Page.response_plain hheld hplain
    rw [hresponse] at hanswer
    rw [handle_read hsheet hcell hid hne hroute hanswer]

/-- Every cell can be written and read over its path, and under every spelling of
its ids, as long as the sheet is not sent as the name of the feeds and the body of the
write is not too long. -/
theorem addressed_unless_feeds (fetch : Fetch) (address : Address) {sheet cell literal : String}
    (hid : isCellIdentifier cell = true) (hplain : body? literal = none) :
    (Spells (Percent.encode sheet) sheet ∧ Spells (Percent.encode cell) cell ∧
        (Percent.encode sheet = "sub" ↔ sheet = "sub")) ∧
      ∀ {sheetPart cellPart}, Spells sheetPart sheet → Spells cellPart cell →
        if sheetPart = "sub" then
          (start fetch address).handle (Request.write sheetPart cellPart literal) =
            (Response.empty 405 [.get, .head], start fetch address)
        else if bodyLimit < (UpsertRequest.encode { value := literal }).utf8ByteSize then
          (start fetch address).handle (Request.write sheetPart cellPart literal) =
            ((Failure.body .tooLong).response, start fetch address)
        else
          ((start fetch address).handle (Request.write sheetPart cellPart literal)).1 =
              Response.json 201 (CellResponse.plain literal).encode ∧
            ∀ {otherSheet other otherSheetPart otherPart},
              Spells otherSheetPart otherSheet → Spells otherPart other →
              isCellIdentifier other = true →
              canonical otherSheet = canonical sheet → canonical other = canonical cell →
              (((start fetch address).handle
                  (Request.write sheetPart cellPart literal)).2.handle
                    (Request.read otherSheetPart otherPart)).1 =
                if otherSheetPart = "sub" then
                  (Failure.store (.unknownSubscription other)).response
                else Response.json 200 (CellResponse.plain literal).encode := by
  refine ⟨⟨spells_encode sheet, spells_encode cell, ?_⟩, ?_⟩
  · constructor
    · intro heq
      have hdecodes := Percent.decode?_encode sheet
      rw [heq] at hdecodes
      exact Option.some.inj (hdecodes.symm.trans spells_feeds.decodes)
    · rintro rfl
      decide
  intro sheetPart cellPart hsheet hcell
  split
  · rename_i hfeeds
    subst hfeeds
    exact handle_write_feed hcell (ne_empty_of_isCellIdentifier hid) literal
  split
  · rename_i hroute hlong
    exact handle_write_tooLong hsheet hcell hid (ne_empty_of_isCellIdentifier hid) hroute hlong
  · rename_i hroute hfits
    have hstart : Quiet Store.empty (start fetch address).world := quiet_start
    have hempty (other : String) : Store.empty.cell? (canonical sheet) other = none := rfl
    obtain ⟨after, told, hhandle, hquiet⟩ :=
      handle_write_literal hstart hsheet hcell hid hroute (Nat.le_of_not_lt hfits) hempty
        hplain
    rw [hhandle]
    refine ⟨rfl, ?_⟩
    intro otherSheet other otherSheetPart otherPart hotherSheet hother hotherId hsameSheet hsame
    apply handle_read_literal hquiet hotherSheet hother hotherId hplain
    · rw [hsameSheet, hsame, Store.cell?_announce, Store.cell?_commit, if_pos ⟨rfl, rfl⟩]
    · intro id
      rw [Store.subscription?_announce, Store.subscription?_commit]
      rfl

theorem addressed_unless_feeds_sample :
    ((start Fetch.disabled {}).handle (Request.write "Sub" "a" "1")).1 =
        Response.json 201 (CellResponse.plain "1").encode ∧
      (((start Fetch.disabled {}).handle (Request.write "Sub" "a" "1")).2.handle
          (Request.read "S%55B" "A")).1 =
        Response.json 200 (CellResponse.plain "1").encode ∧
      ((start Fetch.disabled {}).handle (Request.write "sub" "a" "1")).1.status = 405 := by
  have hid : isCellIdentifier "a" = true := by decide +kernel
  have hother : isCellIdentifier "A" = true := by decide +kernel
  have hplain : body? "1" = none := by decide
  have hsheet : Spells "Sub" "Sub" := ⟨by decide, by decide⟩
  have hcell : Spells "a" "a" := ⟨by decide, by decide⟩
  have hrouted := (addressed_unless_feeds Fetch.disabled {} hid hplain).2 hsheet hcell
  have hfeeds := (addressed_unless_feeds Fetch.disabled {} hid hplain).2 spells_feeds hcell
  rw [if_neg (by decide), if_neg (by decide)] at hrouted
  rw [if_pos rfl] at hfeeds
  refine ⟨hrouted.1, ?_, by rw [hfeeds]; rfl⟩
  have hread := hrouted.2 (show Spells "S%55B" "SUB" from ⟨by decide, by decide⟩)
    (show Spells "A" "A" from ⟨by decide, by decide⟩) hother (by decide +kernel)
    (by decide +kernel)
  rwa [if_neg (by decide)] at hread

end Server

end LiveSheet.Http
