import LedgerFlow.Binary64.Shortest
import LedgerFlow.Text.Quoted

namespace LedgerFlow

inductive Json
  | null
  | bool (b : Bool)
  | int (n : Int)
  | float (x : Binary64)
  | string (s : String)
  | array (items : List Json)
  | object (members : List (String × Json))
deriving BEq, Repr, Inhabited

namespace Json

/-- Sets a member: a known key keeps its place, a new one goes to the end. -/
def put {α : Type} (members : List (String × α)) (key : String) (value : α) : List (String × α) :=
  match members with
  | [] => [(key, value)]
  | (k, v) :: rest => if k == key then (k, value) :: rest else (k, v) :: put rest key value

def ofMembers (members : List (String × Json)) : Json :=
  .object (members.foldl (fun ms (k, v) => put ms k v) [])

def get? : Json → String → Option Json
  | .object ms, key => ms.lookup key
  | _, _ => none

def kindName : Json → String
  | .null => "NoneType"
  | .bool _ => "bool"
  | .int _ => "int"
  | .float _ => "float"
  | .string _ => "str"
  | .array _ => "list"
  | .object _ => "dict"

/-- Null, false, zero and what is empty count as absent. -/
def isTruthy : Json → Bool
  | .null => false
  | .bool b => b
  | .int n => n != 0
  | .float x => !(x.eq (.zero false))
  | .string s => !s.isEmpty
  | .array items => !items.isEmpty
  | .object ms => !ms.isEmpty

mutual

def isFinite : Json → Bool
  | .float x => x.isFinite
  | .array items => areFinite items
  | .object ms => membersFinite ms
  | _ => true

def areFinite : List Json → Bool
  | [] => true
  | v :: rest => v.isFinite && areFinite rest

def membersFinite : List (String × Json) → Bool
  | [] => true
  | (_, v) :: rest => v.isFinite && membersFinite rest

end

mutual

def shown : Json → String
  | .null => "None"
  | .bool b => if b then "True" else "False"
  | .int n => toString n
  | .float x => x.text
  | .string s => Text.quoted s
  | .array items => "[" ++ ", ".intercalate (shownItems items) ++ "]"
  | .object ms => "\x7b" ++ ", ".intercalate (shownMembers ms) ++ "\x7d"

def shownItems : List Json → List String
  | [] => []
  | v :: rest => v.shown :: shownItems rest

def shownMembers : List (String × Json) → List String
  | [] => []
  | (k, v) :: rest => (Text.quoted k ++ ": " ++ v.shown) :: shownMembers rest

end

def display : Json → String
  | .string s => s
  | v => v.shown

end Json

end LedgerFlow
