import LiveSheet.Http.Message

namespace LiveSheet.Http

inductive Route where
  | health
  | feed (id : String)
  | sheet (sheet : String)
  | cell (sheet cell : String)
  | subscriptions (sheet cell : String)
  deriving DecidableEq

namespace Route

def path (target : String) : List Char :=
  target.toList.takeWhile fun char => char != '?' && char != '#'

/-- Parts behind the prefix of the interface.  A part at the end must not be
empty; one that other parts follow may be.  Feeds win over cells. -/
def ofParts? : List String → Option Route
  | [last] => if last.isEmpty then none else some (.sheet last)
  | [first, last] =>
      if last.isEmpty then none
      else if first = "sub" then some (.feed last)
      else some (.cell first last)
  | [first, second, last] =>
      if last = "subscribe" then some (.subscriptions first second) else none
  | _ => none

def ofTarget? (target : String) : Option Route :=
  match ((path target).splitOn '/').map String.ofList with
  | ["", "health"] => some .health
  | "" :: "api" :: "v1" :: parts => ofParts? parts
  | _ => none

def methods : Route → List Method
  | .health | .feed _ | .sheet _ => [.get, .head]
  | .cell .. => [.get, .head, .post]
  | .subscriptions .. => [.post]

end Route

end LiveSheet.Http
