import LiveSheet.Store.Call

namespace LiveSheet

/-! A store in use: it may fail, and the token that a request works under may
fire at any call. -/

/-- Tokens are numbered; a request stops once its token has fired. -/
abbrev CancelToken := Nat

/-- What the surroundings do at a call: fire tokens, and fail the call or
let it be carried out. -/
structure Reaction where
  fires : List CancelToken
  failure : Option String

class Interference (σ : Type) where
  react : σ → Call → Reaction × σ

instance : Interference Unit where
  react _ _ := ({ fires := [], failure := none }, ())

structure World (σ : Type) where
  store : Store
  calls : List Call
  fired : List CancelToken
  conditions : σ

namespace World

def start (conditions : σ) : World σ :=
  { store := Store.empty, calls := [], fired := [], conditions }

def isFired (world : World σ) (token : CancelToken) : Bool :=
  world.fired.contains token

def fire (world : World σ) (token : CancelToken) : World σ :=
  { world with fired := token :: world.fired }

end World

/-- A request on a world.  What it did before an error stays done. -/
abbrev Access (σ : Type) := EStateM StoreError (World σ)

namespace Access

variable [Interference σ]

def request (token : CancelToken) (call : Call) : Access σ call.Answer := fun world =>
  if world.isFired token then .error .cancelled world
  else
    let (reaction, conditions) := Interference.react world.conditions call
    let world :=
      { world with
        calls := call :: world.calls
        fired := reaction.fires ++ world.fired
        conditions }
    match reaction.failure with
    | some reason => .error (.backend reason) world
    | none =>
        match call.perform world.store with
        | (.ok answer, store) => .ok answer { world with store }
        | (.error error, store) => .error error { world with store }

def heed (token : CancelToken) : Access σ Unit := fun world =>
  if world.isFired token then .error .cancelled world else .ok () world

def orAbsent (access : Access σ α) : Access σ (Option α) :=
  tryCatch (some <$> access) fun error =>
    if error.isNotFound then pure none else throw error

end Access

end LiveSheet
