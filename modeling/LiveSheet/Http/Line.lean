import LiveSheet.Http.Server

namespace LiveSheet.Http

open LiveSheet.Number

/-- One line: a method, a target, and for a write the value, which is the rest
of the line.  `DRAIN` and the number of a feed ask for what is pending on
it. -/
inductive Order where
  | request (request : Request)
  | drain (index : Nat)
  deriving DecidableEq

namespace Order

def word (chars : List Char) : List Char × List Char :=
  let (first, rest) := chars.span (· != ' ')
  (first, rest.drop 1)

def ofLine (line : String) : Order :=
  let (method, rest) := word line.toList
  let (target, value) := word rest
  match String.ofList method, readDigits? target with
  | "DRAIN", some index => .drain index
  | method, _ =>
      let body : UpsertRequest := { value := String.ofList value }
      .request
        { method := Method.ofName method
          target := String.ofList target
          headers := [("content-type", "application/json")]
          body := body.encode }

end Order

def Response.line (response : Response) : String :=
  let content := match response.body with
    | .text text => text
    | .feed index => "feed " ++ String.ofList (digitsOf index)
  String.ofList (digitsOf response.status) ++ " " ++ content

def Server.obey (server : Server) (line : String) : List String × Server :=
  match Order.ofLine line with
  | .request request =>
      let (response, server) := server.handle request
      ([response.line], server)
  | .drain index =>
      match server.drain? index with
      | none => ([], server)
      | some ((lines, _), server) =>
          (lines.map fun line => String.ofList (line.toList.dropLast), server)

def Address.withOptions? (address : Address) : List String → Option Address
  | [] => some address
  | [_] => none
  | option :: value :: rest =>
      if option = "--host" ∨ option = "-H" then
        Address.withOptions? { address with host := value } rest
      else if option = "--port" ∨ option = "-p" then
        match readDigits? value.toList with
        | none => none
        | some port =>
            if port < 65536 then Address.withOptions? { address with port } rest
            else none
      else none

end LiveSheet.Http
