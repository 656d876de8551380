namespace LedgerFlow

structure RetryState where
  attempt : Nat
  denied : List String
  routeRequests : Nat
deriving DecidableEq, Repr

namespace RetryState

def first : RetryState := ⟨1, [], 0⟩

def requested (r : RetryState) : RetryState :=
  { r with routeRequests := r.routeRequests + 1 }

/-- A provider is denied once, and one without a name cannot be. -/
def deny (denied : List String) (provider : String) : List String :=
  if provider.isEmpty || denied.contains provider then denied else denied ++ [provider]

def afterFailure (r : RetryState) (provider : String) : RetryState :=
  { r with attempt := r.attempt + 1, denied := deny r.denied provider }

end RetryState

end LedgerFlow
