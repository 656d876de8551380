import LedgerFlow.Names
import LedgerFlow.Program

namespace LedgerFlow

namespace NameTable

def unresolved (index : Nat) (reason : Reason) : Fault :=
  .engine (.onStep .validation index reason)

def addressOf (resolver : Bool) (index : Nat) (name : String) : Engine String := do
  if !resolver then throw (unresolved index (.noResolver name))
  let answer ← Engine.mapFault (fun f => unresolved index (.resolutionFailed name f.text))
    (Engine.resolveName name)
  match answer.filter fun address => !address.isEmpty with
  | some address => pure address
  | none => throw (unresolved index (.unresolvedName name))

def extend (resolver : Bool) (t : NameTable) : List (Nat × String) → Engine NameTable
  | [] => pure t
  | (index, name) :: rest =>
    if (t.addresses.lookup (Text.lower name)).isSome then extend resolver t rest
    else do
      let address ← addressOf resolver index name
      extend resolver (t.insert name address) rest

end NameTable

def resolveNames (resolver : Bool) (steps : List Step) : Engine NameTable :=
  NameTable.extend resolver .empty (collectNames steps)

end LedgerFlow
