import LedgerFlow.Arguments
import LedgerFlow.Protocol.Setting
import LedgerFlow.Condition

namespace LedgerFlow.Protocol.MoveCall

inductive Argument
  | bool (b : Bool)
  | object (id : String)
  | coin (amount : Int)
  | text (s : String)
  | plain (v : Json)

/-- The amount that text writes, if it is a finite number; what lies behind the point is dropped. -/
def amountOfText? (s : String) : Option Int :=
  match Decimal.ofText (Text.trim s) with
  | .ok (.finite negative c e) => some (Decimal.truncate negative c e)
  | _ => none

def Argument.ofText (s : String) : Argument :=
  if s == "true" || s == "false" then .bool (s == "true")
  else if "0x".isPrefixOf s then .object s
  else match amountOfText? s with
    | some n => .coin n
    | none => .text s

def Argument.ofJson : Json → Except Fault Argument
  | .bool b => .ok (.bool b)
  | .string s => .ok (.ofText s)
  | .int n => .ok (.coin n)
  | .float x => Argument.coin <$> Observation.integer (.float x)
  | v => .ok (.plain v)

def nativeCoin (c : Setting) (s : Step) (amount : Int) : Assembly Handle := do
  if amount ≤ 0 then throw (Fault.showing [amount] (s.error .execution (.coinArgumentNotPositive amount)))
  let token ← Assembly.ofExcept (c.token s nativeSymbol)
  Assembly.acquire s.index token amount

def handle (c : Setting) (s : Step) : Argument → Assembly Handle
  | .bool b => pure (.pure (.bool b) (some "bool"))
  | .object id => pure (.object id)
  | .coin amount => nativeCoin c s amount
  | .text t => pure (.pure (.string t) (some "string"))
  | .plain v => pure (.pure v none)

def handles (c : Setting) (s : Step) : List Json → Assembly (List Handle)
  | [] => pure []
  | v :: rest => do
    let first ← handle c s (← Assembly.ofExcept (Argument.ofJson v))
    return first :: (← handles c s rest)

def listOf (s : Step) (a : Option Arguments) (what : String) : Except Fault (List Json) :=
  (Arguments.toList a what).mapError (ArgumentsError.reported (s.error .execution))

def part (name : Option String) : String := name.getD "None"

def call (c : Setting) (s : Step) (d : CustomData) : Assembly Unit := do
  let target := Condition.callTarget (part d.packageId) (part d.moduleName) (part d.functionName)
  let values ← Assembly.ofExcept (listOf s d.arguments "arguments")
  let types ← Assembly.ofExcept (listOf s d.typeArguments "type arguments")
  let arguments ← handles c s values
  let _ ← Assembly.call target arguments (types.map Json.display)

end LedgerFlow.Protocol.MoveCall
