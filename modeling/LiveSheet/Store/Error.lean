namespace LiveSheet

/-- A failure that ends a request, as opposed to a formula without a result. -/
inductive StoreError where
  | notFound (key : String)
  | backend (reason : String)
  | cancelled
  | unknownSubscription (id : String)
  deriving DecidableEq

namespace StoreError

def message : StoreError → String
  | .notFound key => "key not found: " ++ key
  | .backend reason => "store backend error: " ++ reason
  | .cancelled => "operation cancelled"
  | .unknownSubscription id => "unknown subscription: " ++ id

def isNotFound : StoreError → Bool
  | .notFound _ => true
  | _ => false

end StoreError

end LiveSheet
