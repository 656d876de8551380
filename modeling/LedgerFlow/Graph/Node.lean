import LedgerFlow.Decimal.Basic
import LedgerFlow.Json.Basic

namespace LedgerFlow

inductive Comparison
  | gt
  | gte
  | lt
  | lte
  | eq
  | ne
deriving DecidableEq, Repr

def Comparison.name : Comparison → String
  | .gt => "gt"
  | .gte => "gte"
  | .lt => "lt"
  | .lte => "lte"
  | .eq => "eq"
  | .ne => "ne"

def Comparison.ofName? : String → Option Comparison
  | "gt" => some .gt
  | "gte" => some .gte
  | "lt" => some .lt
  | "lte" => some .lte
  | "eq" => some .eq
  | "ne" => some .ne
  | _ => none

inductive LogicType
  | balance
  | contract
deriving DecidableEq, Repr

def LogicType.name : LogicType → String
  | .balance => "balance"
  | .contract => "contract"

def LogicType.ofName? : String → Option LogicType
  | "balance" => some .balance
  | "contract" => some .contract
  | _ => none

/-- A coordinate on the canvas. Of a value that is no number it is told whether it was read from text: each
such reading is a value of its own, while all that were written as a number are one. -/
structure Coordinate where
  value : Binary64
  fromText : Bool
deriving BEq, Repr

structure Position where
  x : Coordinate
  y : Coordinate
deriving BEq, Repr

inductive Arguments
  | text (s : String)
  | items (vs : List Json)
deriving BEq, Repr

structure WalletData where
  label : Option String
deriving BEq, Repr

structure SelectorData where
  label : Option String
  selectedAsset : Option String
deriving BEq, Repr

structure LogicData where
  logicType : Option LogicType
  balanceAddress : Option String
  balanceAsset : String
  comparisonOperator : Option Comparison
  compareValue : Option Decimal
  contractPackageId : Option String
  contractModule : Option String
  contractFunction : Option String
  contractArguments : Option Arguments
  contractComparisonOperator : Option Comparison
  contractCompareValue : Option Decimal
deriving BEq, Repr

structure TransferData where
  recipientAddress : Option String
  amount : Option Decimal
  asset : String
deriving BEq, Repr

structure SwapData where
  fromAsset : Option String
  toAsset : Option String
  amount : Option Decimal
  estimatedAmountOut : Option Decimal
  estimatedAmountOutSymbol : Option String
deriving BEq, Repr

structure LendData where
  action : String
  asset : String
  amount : Option Decimal
  protocol : String
  obligationId : Option String
  obligationKeyId : Option String
deriving BEq, Repr

structure StakeData where
  amount : Option Decimal
  protocol : String
  validator : Option String
deriving BEq, Repr

structure BridgeData where
  asset : Option String
  outputAsset : Option String
  chain : Option String
  amount : Option Decimal
  ethereumAddress : Option String
  protocol : String
deriving BEq, Repr

structure CustomData where
  packageId : Option String
  moduleName : Option String
  functionName : Option String
  arguments : Option Arguments
  typeArguments : Option Arguments
deriving BEq, Repr

inductive NodeData
  | wallet (d : WalletData)
  | selector (d : SelectorData)
  | logic (d : LogicData)
  | transfer (d : TransferData)
  | swap (d : SwapData)
  | lend (d : LendData)
  | stake (d : StakeData)
  | bridge (d : BridgeData)
  | custom (d : CustomData)
deriving BEq, Repr

structure Node where
  id : String
  position : Position
  data : NodeData
deriving BEq, Repr

inductive NodeCategory
  | root
  | passthrough
  | branch
  | operation
deriving DecidableEq, Repr

def NodeCategory.name : NodeCategory → String
  | .root => "root"
  | .passthrough => "passthrough"
  | .branch => "branch"
  | .operation => "operation"

def NodeData.kindName : NodeData → String
  | .wallet _ => "wallet"
  | .selector _ => "selector"
  | .logic _ => "logic"
  | .transfer _ => "transfer"
  | .swap _ => "swap"
  | .lend _ => "lend"
  | .stake _ => "stake"
  | .bridge _ => "bridge"
  | .custom _ => "custom"

def NodeData.category : NodeData → NodeCategory
  | .wallet _ => .root
  | .selector _ => .passthrough
  | .logic _ => .branch
  | _ => .operation

structure AdapterKey where
  kind : String
  protocol : String
deriving DecidableEq, Repr

def NodeData.adapterKey? : NodeData → Option AdapterKey
  | .wallet _ => none
  | .selector _ => none
  | .logic _ => none
  | .transfer _ => some ⟨"transfer", "native"⟩
  | .swap _ => some ⟨"swap", "aggregator"⟩
  | .lend d => some ⟨"lend", d.protocol⟩
  | .stake d => some ⟨"stake", d.protocol⟩
  | .bridge _ => some ⟨"bridge", "lifi"⟩
  | .custom _ => some ⟨"custom", "move_call"⟩

namespace Node

def kindName (n : Node) : String := n.data.kindName

def category (n : Node) : NodeCategory := n.data.category

def isWallet (n : Node) : Bool := n.category == .root

def isPassthrough (n : Node) : Bool :=
  n.category == .root || n.category == .passthrough

def isBranch (n : Node) : Bool := n.category == .branch

def isBridge (n : Node) : Bool :=
  match n.data with
  | .bridge _ => true
  | _ => false

def adapterKey? (n : Node) : Option AdapterKey := n.data.adapterKey?

end Node

end LedgerFlow
