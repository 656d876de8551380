import LedgerFlow.Graph.Node
import LedgerFlow.Graph.RunSort
import LedgerFlow.Number

/-!
The order of siblings on the canvas: top to bottom in bands, and left to right within a band. A band
starts at the topmost node that is left and takes every node whose distance from that start is no more
than `epsilon`.
-/

namespace LedgerFlow

namespace Coordinate

/-- Two coordinates are the same place. One that is no number is the same only as another that was written
as such. -/
def sameAs (a b : Coordinate) : Bool :=
  a.value.eq b.value || (a.value.isNaN && b.value.isNaN && !a.fromText && !b.fromText)

def lt (a b : Coordinate) : Bool := a.value.lt b.value

end Coordinate

namespace Node

def leftOf (a b : Node) : Bool :=
  if a.position.x.sameAs b.position.x then a.id < b.id else a.position.x.lt b.position.x

def above (a b : Node) : Bool :=
  if a.position.y.sameAs b.position.y then a.leftOf b else a.position.y.lt b.position.y

def isBeyond (epsilon : Number) (top : Binary64) (n : Node) : Bool :=
  epsilon.isBelow (n.position.y.value.sub top)

end Node

structure Banded where
  band : Nat
  node : Node

def Banded.before (a b : Banded) : Bool :=
  if a.band = b.band then a.node.leftOf b.node else a.band < b.band

def bandsFrom (epsilon : Number) (band : Nat) (top : Binary64) : List Node → List Banded
  | [] => []
  | n :: rest =>
    if n.isBeyond epsilon top then ⟨band + 1, n⟩ :: bandsFrom epsilon (band + 1) n.position.y.value rest
    else ⟨band, n⟩ :: bandsFrom epsilon band top rest

def bands (epsilon : Number) : List Node → List Banded
  | [] => []
  | n :: rest => ⟨0, n⟩ :: bandsFrom epsilon 0 n.position.y.value rest

def orderByPosition (epsilon : Number) (nodes : List Node) : List Node :=
  (RunSort.sort Banded.before (bands epsilon (RunSort.sort Node.above nodes))).map (·.node)

theorem map_node_bandsFrom (epsilon : Number) (nodes : List Node) (band : Nat) (top : Binary64) :
    (bandsFrom epsilon band top nodes).map (·.node) = nodes := by
  induction nodes generalizing band top with
  | nil => rfl
  | cons n rest ih =>
    simp only [bandsFrom]
    split <;> simp [ih]

theorem map_node_bands (epsilon : Number) (nodes : List Node) : (bands epsilon nodes).map (·.node) = nodes := by
  cases nodes with
  | nil => rfl
  | cons n rest => simp [bands, map_node_bandsFrom]

theorem orderByPosition_perm (epsilon : Number) (nodes : List Node) : (orderByPosition epsilon nodes).Perm nodes := by
  have h := (RunSort.sort_perm Banded.before (bands epsilon (RunSort.sort Node.above nodes))).map (·.node)
  rw [map_node_bands] at h
  exact h.trans (RunSort.sort_perm Node.above nodes)

end LedgerFlow
