import LedgerFlow.Error

namespace LedgerFlow.Client

def member (v : Json) (key : String) : Except Fault Json :=
  match v with
  | .object ms => match ms.lookup key with
    | some v => .ok v
    | none => .error (.missingKey key)
  | .array _ => .error (.badType "list indices must be integers or slices, not str")
  | .string _ => .error (.badType "string indices must be integers, not 'str'")
  | v => .error (.notSubscriptable v.kindName)

def memberOr (v : Json) (key : String) (default : Json) : Except Fault Json :=
  match v with
  | .object ms => .ok ((ms.lookup key).getD default)
  | v => .error (.noAttribute v.kindName "get")

def items : Json → Except Fault (List Json)
  | .array vs => .ok vs
  | .object ms => .ok (ms.map fun m => .string m.1)
  | .string s => .ok ((Text.pointsOf s).map fun p => .string (Text.ofPoints [p]))
  | v => .error (.badType s!"'{v.kindName}' object is not iterable")

def orElse (v other : Json) : Json := if v.isTruthy then v else other

end LedgerFlow.Client
