import LedgerFlow.Error
import LedgerFlow.Graph.View

/-!
The plan of a flow: its branches and operations as numbered steps, in the order of a depth-first walk from
the wallet. A node that several paths reach is a step once, where it is first reached.
-/

namespace LedgerFlow

structure Step where
  index : Nat
  node : Node
  skipped : Bool
deriving BEq, Repr

namespace Step

def label (s : Step) : String := stepLabel s.index

def isBranch (s : Step) : Bool := s.node.isBranch

def isBridge (s : Step) : Bool := s.node.isBridge

def isLive (s : Step) : Bool := !s.skipped

def skip (s : Step) : Step := { s with skipped := true }

def error (s : Step) (kind : ErrorKind) (reason : Reason) : Fault :=
  .engine (.onStep kind s.index reason)

end Step

def number (start : Nat) : List Node → List Step
  | [] => []
  | n :: rest => ⟨start, n, false⟩ :: number (start + 1) rest

theorem length_number (start : Nat) (ns : List Node) : (number start ns).length = ns.length := by
  induction ns generalizing start with
  | nil => rfl
  | cons n rest ih => simp [number, ih]

theorem map_node_number (start : Nat) (ns : List Node) : (number start ns).map (·.node) = ns := by
  induction ns generalizing start with
  | nil => rfl
  | cons n rest ih => simp [number, ih]

def GraphView.emitted (v : GraphView) : List Node :=
  (v.walk.filterMap v.node?).filter fun n => !n.isPassthrough

def GraphView.compile (v : GraphView) : List Step :=
  number 0 v.emitted

namespace Plan

def sequenceMap (steps : List Step) : List (String × Nat) :=
  steps.map fun s => (s.node.id, s.index + 1)

def stepFor? (steps : List Step) (id : String) : Option Step :=
  steps.find? (·.node.id == id)

def active (steps : List Step) : List Step :=
  steps.filter (·.isLive)

def at? (steps : List Step) (index : Int) : Except Fault Step :=
  let i := if index < 0 then index + steps.length else index
  if i < 0 then .error .indexOutOfRange
  else match steps[i.toNat]? with
    | some s => .ok s
    | none => .error .indexOutOfRange

def skipNodes (ids : List String) (steps : List Step) : List Step :=
  steps.map fun s => if ids.contains s.node.id then s.skip else s

def skippedIndexes (steps : List Step) : List Nat :=
  (steps.filter (·.skipped)).map (·.index)

end Plan

end LedgerFlow
