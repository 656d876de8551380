import LedgerFlow.Protocol.Exchange
import LedgerFlow.Protocol.LiquidStaking
import LedgerFlow.Protocol.MoveCall
import LedgerFlow.Protocol.Navi
import LedgerFlow.Protocol.Scallop

namespace LedgerFlow

structure AdapterRegistry (α : Type) where
  entries : List (AdapterKey × α)

namespace AdapterRegistry

variable {α : Type}

def empty : AdapterRegistry α := ⟨[]⟩

def register (r : AdapterRegistry α) (key : AdapterKey) (a : α) : AdapterRegistry α :=
  ⟨r.entries.filter (·.1 != key) ++ [(key, a)]⟩

def ofList (entries : List (AdapterKey × α)) : AdapterRegistry α :=
  entries.foldl (fun r e => r.register e.1 e.2) empty

def find? (r : AdapterRegistry α) (key : AdapterKey) : Option α := r.entries.lookup key

def contains (r : AdapterRegistry α) (key : AdapterKey) : Bool := (r.find? key).isSome

def unknown (key : AdapterKey) : Reason := .unknownAdapter key.kind key.protocol

def get (r : AdapterRegistry α) (key : AdapterKey) : Except Fault α :=
  match r.find? key with
  | some a => .ok a
  | none => .error (.raised .unknownAdapter (unknown key).text none)

def keyBefore (a b : AdapterKey) : Bool :=
  a.kind < b.kind || (a.kind == b.kind && a.protocol ≤ b.protocol)

def keys (r : AdapterRegistry α) : List AdapterKey :=
  (r.entries.map (·.1)).mergeSort keyBefore

def restrict (r : AdapterRegistry α) (keys : List AdapterKey) : AdapterRegistry α :=
  ⟨r.entries.filter fun e => keys.contains e.1⟩

end AdapterRegistry

inductive Builder
  | nativeTransfer
  | exchange
  | moveCall
  | nativeStake
  | aftermathStake
  | voloStake
  | naviLending
  | scallopLending
deriving DecidableEq, Repr

namespace Builder

def all : List Builder :=
  [nativeTransfer, exchange, moveCall, nativeStake, aftermathStake, voloStake, naviLending, scallopLending]

def key : Builder → AdapterKey
  | .nativeTransfer => ⟨"transfer", "native"⟩
  | .exchange => ⟨"swap", "aggregator"⟩
  | .moveCall => ⟨"custom", "move_call"⟩
  | .nativeStake => ⟨"stake", "native"⟩
  | .aftermathStake => ⟨"stake", "aftermath"⟩
  | .voloStake => ⟨"stake", "volo"⟩
  | .naviLending => ⟨"lend", "navi"⟩
  | .scallopLending => ⟨"lend", "scallop"⟩

/-- Records the commands of a step; a step of another kind is no work for this builder. -/
def build (b : Builder) (c : Protocol.Setting) (s : Step) : Assembly Unit :=
  match b, s.node.data with
  | .nativeTransfer, .transfer d => Protocol.Native.transfer c s d
  | .exchange, .swap d => Protocol.Exchange.swap c s d
  | .moveCall, .custom d => Protocol.MoveCall.call c s d
  | .nativeStake, .stake d => Protocol.Native.stake c s d
  | .aftermathStake, .stake d => Protocol.Aftermath.stake c s d
  | .voloStake, .stake d => Protocol.Volo.stake c s d
  | .naviLending, .lend d => Protocol.Navi.lend c s d
  | .scallopLending, .lend d => Protocol.Scallop.lend c s d
  | b, _ => throw (s.error .execution (AdapterRegistry.unknown b.key))

def standard : AdapterRegistry Builder :=
  .ofList (all.map fun b => (b.key, b))

end Builder

end LedgerFlow
