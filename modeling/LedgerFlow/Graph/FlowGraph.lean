import LedgerFlow.Graph.Node

/-!
Flow graphs. A graph has exactly one wallet, no two nodes of one id, and edges between its own nodes only;
these facts are part of the type.
-/

namespace LedgerFlow

structure Edge where
  id : String
  source : String
  target : String
deriving DecidableEq, Repr

inductive GraphDefect
  | walletCount (n : Nat)
  | duplicateIds (ids : List String)
  | unknownEnds (edge : String) (ids : List String)
deriving DecidableEq, Repr

def GraphDefect.message : GraphDefect → String
  | .walletCount n => s!"graph must contain exactly one wallet node, found {n}"
  | .duplicateIds ids => "duplicate node ids: " ++ ", ".intercalate ids
  | .unknownEnds edge ids => s!"edge '{edge}' references unknown node(s): " ++ ", ".intercalate ids

def repeated (ids : List String) : List String :=
  (ids.filter fun id => 1 < ids.count id).eraseDups.mergeSort (· ≤ ·)

def Edge.unknownEnds (e : Edge) (known : List String) : List String :=
  [e.source, e.target].filter fun id => !known.contains id

def edgeDefect? (known : List String) (e : Edge) : Option GraphDefect :=
  match e.unknownEnds known with
  | [] => none
  | missing => some (.unknownEnds e.id missing)

def graphDefect? (nodes : List Node) (edges : List Edge) : Option GraphDefect :=
  let wallets := nodes.countP (·.isWallet)
  let ids := nodes.map (·.id)
  if wallets ≠ 1 then some (.walletCount wallets)
  else match repeated ids with
    | [] => edges.findSome? (edgeDefect? ids)
    | doubles => some (.duplicateIds doubles)

structure FlowGraph where
  nodes : List Node
  edges : List Edge
  metadata : List (String × Json)
  sound : graphDefect? nodes edges = none

namespace FlowGraph

theorem countP_isWallet (g : FlowGraph) : g.nodes.countP (·.isWallet) = 1 := by
  have h := g.sound
  unfold graphDefect? at h
  dsimp only at h
  split at h
  · simp at h
  · next hc => simpa using hc

theorem isSome_find?_isWallet (g : FlowGraph) : (g.nodes.find? (·.isWallet)).isSome = true := by
  have h : 0 < g.nodes.countP (·.isWallet) := by rw [g.countP_isWallet]; decide
  simpa using List.countP_pos_iff.1 h

def root (g : FlowGraph) : Node :=
  (g.nodes.find? (·.isWallet)).get g.isSome_find?_isWallet

def ids (g : FlowGraph) : List String := g.nodes.map (·.id)

def node? (g : FlowGraph) (id : String) : Option Node :=
  g.nodes.find? (·.id == id)

def targets (g : FlowGraph) (id : String) : List String :=
  ((g.edges.filter (·.source == id)).map (·.target)).eraseDups

def sources (g : FlowGraph) (id : String) : List String :=
  ((g.edges.filter (·.target == id)).map (·.source)).eraseDups

end FlowGraph

end LedgerFlow
