import LiveSheet.Formula.Tokenize
import LiveSheet.Http.Failure
import LiveSheet.Http.MediaType
import LiveSheet.Http.Route
import LiveSheet.Number.Digits
import LiveSheet.Sheet.Feed
import LiveSheet.Text.Percent

namespace LiveSheet.Http

open LiveSheet.Formula
open LiveSheet.Number
open LiveSheet.Text
open LiveSheet.Wire

structure Address where
  host : String := "127.0.0.1"
  port : Nat := 8080
  deriving DecidableEq

def Address.text (address : Address) : String :=
  address.host ++ ":" ++ String.ofList (digitsOf address.port)

structure Server where
  world : World Unit
  fetch : Fetch
  address : Address
  /-- In the order of their opening; those that have ended are gone. -/
  feeds : List (Option Feed)

abbrev Handler := EStateM Failure Server

namespace Server

def version : String := "0.1.0"

def start (fetch : Fetch) (address : Address) : Server :=
  { world := World.start (), fetch, address, feeds := [] }

/-- Fires when the server shuts down, and so ends every request. -/
def shutdownToken : CancelToken := 0

def engine (server : Server) : Engine :=
  { fetch := server.fetch, token := shutdownToken }

def onEngine (access : Engine → Access Unit α) : Handler α := fun server =>
  match access server.engine server.world with
  | .ok answer world => .ok answer { server with world }
  | .error error world => .error (.store error) { server with world }

def parameter (name source : String) : Handler String :=
  match Percent.decode? source with
  | some text => pure text
  | none => throw (.parameter name)

def checkCellId (id : String) : Handler Unit :=
  if isCellIdentifier id then pure () else throw (.invalidCellId id)

def bodyLimit : Nat := 2097152

def upsertBody (request : Request) : Handler UpsertRequest :=
  let type? := (request.header? "content-type").bind MediaType.parse?
  if (type?.map MediaType.isJson).getD false then
    if bodyLimit < request.body.utf8ByteSize then throw (.body .tooLong)
    else
      match UpsertRequest.decodeBody request.body with
      | .ok body => pure body
      | .error error => throw (.body (.wire error))
  else throw (.body .mediaType)

def health : Handler Response :=
  pure (Response.json 200 (encodeTexts [("status", "healthy"), ("version", version)]))

def getSheet (sheet : String) : Handler Response := do
  let sheet ← parameter "sheet_id" sheet
  let cells ← onEngine fun engine => engine.getSheet sheet
  pure (Response.json 200 (SheetResponse.encode cells))

def cellParameters (sheet cell : String) : Handler (String × String) := do
  let sheet ← parameter "sheet_id" sheet
  let cell ← parameter "cell_id" cell
  checkCellId cell
  pure (sheet, cell)

def getCell (sheet cell : String) : Handler Response := do
  let (sheet, cell) ← cellParameters sheet cell
  let response ← onEngine fun engine => engine.getCell sheet cell
  pure (Response.json 200 response.encode)

/-- A write that would not compute is understood but not carried out. -/
def writeStatus : WriteOutcome → Nat
  | .committed _ => 201
  | .rejected _ => 422

def writeCell (sheet cell : String) (request : Request) : Handler Response := do
  let (sheet, cell) ← cellParameters sheet cell
  let body ← upsertBody request
  let outcome ← onEngine fun engine => engine.upsert sheet cell body.value
  pure (Response.json (writeStatus outcome) outcome.response.encode)

def webhookUrl (host id : String) : String :=
  "http://" ++ host ++ "/api/v1/sub/" ++ id

def createSubscription (sheet cell : String) (request : Request) :
    Handler Response := do
  let (sheet, cell) ← cellParameters sheet cell
  let id ← onEngine fun engine => engine.createSubscription sheet cell
  let host := (request.header? "host").getD (← get).address.text
  let response : SubscribeResponse := { webhookUrl := webhookUrl host id }
  pure (Response.json 201 response.encode)

def openFeed (id : String) : Handler Response := do
  let id ← parameter "subscription_id" id
  let feed ← onEngine fun engine => engine.openSubscription id
  let feeds := (← get).feeds
  modify fun server => { server with feeds := feeds ++ [some feed] }
  pure (Response.feed feeds.length)

def answer (request : Request) : Route → Handler Response
  | .health => health
  | .feed id => openFeed id
  | .sheet sheet => getSheet sheet
  | .cell sheet cell =>
      if request.method = .post then writeCell sheet cell request
      else getCell sheet cell
  | .subscriptions sheet cell => createSubscription sheet cell request

def endFeed (server : Server) (index : Nat) : Server :=
  match server.feeds[index]? with
  | some (some feed) =>
      { server with
        world := feed.close server.world
        feeds := server.feeds.set index none }
  | _ => server

def drain? (server : Server) (index : Nat) :
    Option ((List String × Bool) × Server) :=
  server.feeds[index]?.map fun
    | none => (([], true), server)
    | some feed =>
        let ((updates, ended), world) := feed.drain server.world
        let lines := updates.map fun update => update.encode ++ "\n"
        let server := { server with world }
        if ended.isSome then ((lines, true), server.endFeed index)
        else ((lines, false), server)

/-- An answer without its content.  A feed that nobody reads ends. -/
def withoutContent (response : Response) (server : Server) : Response × Server :=
  match response.body with
  | .text _ => ({ response with body := .text "" }, server)
  | .feed index => (response, server.endFeed index)

def handleRoute (server : Server) (request : Request) (route : Route) :
    Response × Server :=
  if route.methods.contains request.method then
    let (response, server) := match answer request route server with
      | .ok response server => (response, server)
      | .error failure server => (failure.response, server)
    if request.method = .head then withoutContent response server
    else (response, server)
  else (Response.empty 405 route.methods, server)

def handle (server : Server) (request : Request) : Response × Server :=
  let route? := Route.ofTarget? request.target
  if request.method = .options then
    (Response.preflight ((route?.map Route.methods).getD []), server)
  else
    match route? with
    | none => (Response.empty 404 [], server)
    | some route => server.handleRoute request route

def shutDown (server : Server) : Server :=
  { server with world := server.world.fire shutdownToken }

end Server

end LiveSheet.Http
