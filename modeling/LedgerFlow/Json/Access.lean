import LedgerFlow.Json.Basic

namespace LedgerFlow.Json

def field (v : Json) (key : String) : Json := (v.get? key).getD .null

def isNull : Json → Bool
  | .null => true
  | _ => false

def text? : Json → Option String
  | .string s => some s
  | _ => none

/-- A truth value counts as one or zero. -/
def int? : Json → Option Int
  | .int n => some n
  | .bool b => some (if b then 1 else 0)
  | _ => none

def whole? : Json → Option Int
  | .float x => if x.isWhole then x.toInt? else none
  | v => v.int?

def text (v : Json) : String := v.text?.getD ""

def toInt (v : Json) : Int := v.int?.getD 0

def toList : Json → List Json
  | .array vs => vs
  | _ => []

def toMembers : Json → List (String × Json)
  | .object ms => ms
  | _ => []

def element (v : Json) (i : Nat) : Json := v.toList[i]?.getD .null

def texts (v : Json) : List String := v.toList.map text

def ofOption {α : Type} (f : α → Json) : Option α → Json
  | some a => f a
  | none => .null

def ofText? (s : Option String) : Json := ofOption .string s

def ofTexts (ss : List String) : Json := .array (ss.map .string)

def ofNat (n : Nat) : Json := .int n

mutual

def withoutNulls : Json → Json
  | .array vs => .array (withoutNullsItems vs)
  | .object ms => .object (withoutNullsMembers ms)
  | v => v

def withoutNullsItems : List Json → List Json
  | [] => []
  | v :: rest => v.withoutNulls :: withoutNullsItems rest

def withoutNullsMembers : List (String × Json) → List (String × Json)
  | [] => []
  | (k, v) :: rest =>
    if v.isNull then withoutNullsMembers rest else (k, v.withoutNulls) :: withoutNullsMembers rest

end

end LedgerFlow.Json
