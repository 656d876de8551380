import LedgerFlow.Error
import LedgerFlow.Json.Access

namespace LedgerFlow

/-- How a command refers to what it works on; `missing` is a coin that was never there. -/
inductive Handle
  | gas
  | missing
  | object (id : String)
  | pure (value : Json) (typeTag : Option String)
  | result (command : Nat)
  | nestedResult (command position : Nat)
deriving BEq, Repr

inductive Command
  | splitCoins (coin : Handle) (amounts : List Int)
  | mergeCoins (destination : Handle) (sources : List Handle)
  | transferObjects (objects : List Handle) (recipient : Option String)
  | moveCall (target : String) (arguments : List Handle) (typeArguments : List String)
deriving BEq, Repr

inductive CommandKind
  | splitCoins
  | mergeCoins
  | transferObjects
  | moveCall
deriving DecidableEq, Repr

def CommandKind.name : CommandKind → String
  | .splitCoins => "SplitCoins"
  | .mergeCoins => "MergeCoins"
  | .transferObjects => "TransferObjects"
  | .moveCall => "MoveCall"

def CommandKind.ofName? : String → Option CommandKind
  | "SplitCoins" => some .splitCoins
  | "MergeCoins" => some .mergeCoins
  | "TransferObjects" => some .transferObjects
  | "MoveCall" => some .moveCall
  | _ => none

def CommandKind.named (v : Json) : Except Fault CommandKind :=
  match v.text?.bind ofName? with
  | some k => .ok k
  | none => .error (.badValue (v.shown ++ " is not a valid OperationKind"))

def Command.kind : Command → CommandKind
  | .splitCoins .. => .splitCoins
  | .mergeCoins .. => .mergeCoins
  | .transferObjects .. => .transferObjects
  | .moveCall .. => .moveCall

structure Transaction where
  sender : String
  commands : List Command
deriving BEq, Repr

namespace Transaction

def empty (sender : String) : Transaction := ⟨sender, []⟩

def size (tx : Transaction) : Nat := tx.commands.length

def append (tx : Transaction) (c : Command) : Transaction :=
  { tx with commands := tx.commands ++ [c] }

@[simp] theorem size_append (tx : Transaction) (c : Command) : (tx.append c).size = tx.size + 1 := by
  simp [size, append]

def splitAmountNotPositive (amount : Int) : Fault :=
  .showing [amount] <| .badValue s!"split amount must be positive, got {amount}"

def split (tx : Transaction) (coin : Handle) (amounts : List Int) :
    Except Fault (List Handle × Transaction) :=
  match amounts.find? (· ≤ 0) with
  | some amount => .error (splitAmountNotPositive amount)
  | none => .ok
    ((List.range amounts.length).map (.nestedResult tx.size ·), tx.append (.splitCoins coin amounts))

def splitOne (tx : Transaction) (coin : Handle) (amount : Int) : Except Fault (Handle × Transaction) :=
  if amount ≤ 0 then .error (splitAmountNotPositive amount)
  else .ok (.nestedResult tx.size 0, tx.append (.splitCoins coin [amount]))

def merge (tx : Transaction) (destination : Handle) (sources : List Handle) : Transaction :=
  if sources.isEmpty then tx else tx.append (.mergeCoins destination sources)

def transfer (tx : Transaction) (objects : List Handle) (recipient : Option String) : Transaction :=
  tx.append (.transferObjects objects recipient)

def call (tx : Transaction) (target : String) (arguments : List Handle) (typeArguments : List String) :
    Handle × Transaction :=
  (.result tx.size, tx.append (.moveCall target arguments typeArguments))

def ofKind (tx : Transaction) (k : CommandKind) : List Command :=
  tx.commands.filter (·.kind == k)

end Transaction

end LedgerFlow
