import LedgerFlow.Decimal.Arith
import LedgerFlow.Json.Basic

namespace LedgerFlow

inductive Number
  | int (n : Int)
  | float (x : Binary64)
  | bool (b : Bool)
deriving DecidableEq, Repr

namespace Number

def text : Number → String
  | .int n => toString n
  | .float x => x.text
  | .bool b => (Json.bool b).display

def toJson : Number → Json
  | .int n => .int n
  | .float x => .float x
  | .bool b => .bool b

def ofJson? : Json → Option Number
  | .int n => some (.int n)
  | .float x => some (.float x)
  | .bool b => some (.bool b)
  | _ => none

/-- An integer is below a floating point number; both are taken exactly. -/
def intBelow (n : Int) : Binary64 → Bool
  | .nan => false
  | .infinity negative => !negative
  | .finite negative m e => n * pow2 (-e).toNat < Binary64.signed negative (m * pow2 e.toNat)

def isBelow : Number → Binary64 → Bool
  | .float x, y => x.lt y
  | .int n, y => intBelow n y
  | .bool b, y => intBelow (if b then 1 else 0) y

end Number

end LedgerFlow
