import LedgerFlow.Plan
import LedgerFlow.Token

namespace LedgerFlow

structure Consumption where
  asset : String
  amount : Decimal
deriving DecidableEq, Repr

def spendingActions : List String := ["deposit", "repay"]

def NodeData.stated? : NodeData → Option (Option String × Option Decimal)
  | .transfer d => some (some d.asset, d.amount)
  | .swap d => some (d.fromAsset, d.amount)
  | .lend d => if spendingActions.contains d.action then some (some d.asset, d.amount) else none
  | .stake d => some (some nativeSymbol, d.amount)
  | .bridge d => some (d.asset, d.amount)
  | _ => none

def Node.consumption? (n : Node) : Option Consumption := do
  let (asset, amount) ← n.data.stated?
  let asset ← asset.filter fun a => !a.isEmpty
  let amount ← amount.filter Decimal.isPositive
  return ⟨Text.upper asset, amount⟩

structure BalanceEstimator where
  view : GraphView
  steps : List Step
  base : List (String × Decimal)

namespace BalanceEstimator

/-- Balances by symbol in upper case; of symbols that are then the same, the last one counts. -/
def readBase : List (String × Json) → Except Fault (List (String × Decimal))
  | [] => .ok []
  | (symbol, amount) :: rest => do
    let d ← Amount.ofResult (Decimal.ofText amount.display)
    let others ← readBase rest
    let symbol := Text.upper symbol
    return (symbol, (others.lookup symbol).getD d) :: others.filter (·.1 != symbol)

def create (v : GraphView) (base : List (String × Json)) : Except Fault BalanceEstimator := do
  return ⟨v, v.compile, ← readBase base⟩

/-- The step comes before the node, where the node is a step itself. -/
def isBefore (e : BalanceEstimator) (id : String) (s : Step) : Bool :=
  match Plan.stepFor? e.steps id with
  | some target => s.index < target.index
  | none => true

def spentBefore (e : BalanceEstimator) (id : String) : List Consumption :=
  let ancestors := e.view.ancestors id
  (e.steps.filter fun s => ancestors.contains s.node.id && e.isBefore id s).filterMap
    fun s => s.node.consumption?

def sum (start : Decimal) : List Decimal → Except Fault Decimal
  | [] => .ok start
  | d :: rest => do sum (← Amount.ofResult (start.add d)) rest

def estimate (e : BalanceEstimator) (id asset : String) : Except Fault Decimal := do
  let asset := Text.upper asset
  let spent ← sum 0 ((e.spentBefore id).filterMap fun c => if c.asset == asset then some c.amount else none)
  let left ← Amount.ofResult (((e.base.lookup asset).getD 0).sub spent)
  Amount.ofResult (left.maximum 0)

def all (e : BalanceEstimator) (id : String) : Except Fault (List (String × Decimal)) :=
  e.base.mapM fun (asset, _) => return (asset, ← e.estimate id asset)

end BalanceEstimator

end LedgerFlow
