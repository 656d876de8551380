import LedgerFlow.Assembly.Workspace
import LedgerFlow.Plan
import LedgerFlow.Names

namespace LedgerFlow

namespace Protocol

structure Setting where
  signer : String
  tokens : TokenRegistry
  names : NameTable
  hasRouter : Bool
  slippage : Number

def clock : Handle :=
  .object "0x0000000000000000000000000000000000000000000000000000000000000006"

def systemState : Handle := .object "0x5"

def amountArgument (n : Int) : Handle := .pure (.int n) (some "u64")

def addressArgument (address : String) : Handle := .pure (.string address) (some "address")

namespace Setting

def token (c : Setting) (s : Step) (symbol : String) : Except Fault Token :=
  match c.tokens.find? symbol with
  | some t => .ok t
  | none => .error (s.error .execution (.unsupportedAsset symbol))

def tokenOf (c : Setting) (s : Step) : Option String → Except Fault Token
  | some symbol => c.token s symbol
  | none => .error (s.error .execution (.unsupportedAsset "None"))

end Setting

def unitsOf (t : Token) (amount : Option Decimal) : Except Fault Int := do
  t.toBaseUnits (← Amount.given amount)

/-- As `unitsOf`, but what comes to less than one unit is an error of the step. -/
def positiveUnitsOf (s : Step) (what : String) (t : Token) (amount : Option Decimal) : Except Fault Int := do
  let given ← Amount.given amount
  let units ← t.toBaseUnits given
  if units ≤ 0 then throw (s.error .execution (.belowSmallestUnit what given t.symbol))
  return units

end Protocol

namespace Assembly

def produce (t : Token) (coin : Handle) (amount : Int) : Assembly Unit :=
  deposit t.coinType coin amount

end Assembly

end LedgerFlow
