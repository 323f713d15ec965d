import LiveSheet.Http.Line

/-! The command line: requests come in line by line, and each is answered
before the next is read.  Nothing is fetched from other servers. -/

namespace LiveSheet

open LiveSheet.Http

def usage : String :=
  "usage: livesheet [--host HOST] [--port PORT]"

partial def serve (input output : IO.FS.Stream) (server : Server) : IO Unit := do
  let line ← input.getLine
  if line.isEmpty then return
  let (answers, server) := server.obey (line.trimAsciiEnd.toString)
  for answer in answers do
    output.putStrLn answer
  output.flush
  serve input output server

end LiveSheet

def main (arguments : List String) : IO UInt32 := do
  let address : LiveSheet.Http.Address := {}
  match address.withOptions? arguments with
  | none =>
      IO.eprintln LiveSheet.usage
      return 2
  | some address =>
      LiveSheet.serve (← IO.getStdin) (← IO.getStdout)
        (LiveSheet.Http.Server.start LiveSheet.Fetch.disabled address)
      return 0
