import LiveSheet.Store.World

namespace LiveSheet

/-- Strikes every call it matches, after letting the first `skip` of them pass.
Without a reason it fires the current token and lets the call be carried
out. -/
structure Fault where
  call : String
  key : String
  skip : Nat
  reason : Option String
  deriving DecidableEq

def Fault.matchesCall (fault : Fault) (call : Call) : Bool :=
  call.isLogged && fault.call == call.name && (fault.key.isEmpty || fault.key == call.key)

structure Faults where
  current : CancelToken
  faults : List Fault

namespace Faults

def strike (current : CancelToken) (call : Call) : List Fault → Reaction × List Fault
  | [] => ({ fires := [], failure := none }, [])
  | fault :: faults =>
      if fault.matchesCall call then
        if 0 < fault.skip then
          let (reaction, faults) := strike current call faults
          (reaction, { fault with skip := fault.skip - 1 } :: faults)
        else
          match fault.reason with
          | some reason => ({ fires := [], failure := some reason }, fault :: faults)
          | none =>
              let (reaction, faults) := strike current call faults
              ({ reaction with fires := current :: reaction.fires }, fault :: faults)
      else
        let (reaction, faults) := strike current call faults
        (reaction, fault :: faults)

instance : Interference Faults where
  react state call :=
    let (reaction, faults) := strike state.current call state.faults
    (reaction, { state with faults })

end Faults

end LiveSheet
