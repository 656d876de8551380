import LedgerFlow.Plan
import LedgerFlow.Proofs.Graph.Decoded
import LedgerFlow.Proofs.Graph.Reachability
import LedgerFlow.Proofs.Graph.Siblings

/-!
What the plan does not depend on: in which order nodes and edges are listed, what the edges are called, and how often a
pair of nodes is joined. This holds as long as the coordinates of siblings compare, for these put siblings in order.
-/

namespace LedgerFlow

namespace FlowGraph

/-- The same nodes and the same pairs of them, listed in another way. -/
structure Rearranges (g h : FlowGraph) : Prop where
  nodes : g.nodes.Perm h.nodes
  leads : ∀ a b, g.Leads a b ↔ h.Leads a b

/-- Of any two different nodes to which one node leads, the coordinates compare. -/
def SiblingsComparable (g : FlowGraph) : Prop :=
  ∀ a, ∀ m ∈ g.nodes, ∀ n ∈ g.nodes, g.Leads a m.id → g.Leads a n.id → m ≠ n → m.Comparable n

variable {g h : FlowGraph}

theorem siblingsComparable_of_numbers
    (hg : ∀ n ∈ g.nodes, n.position.x.value.isNaN = false ∧ n.position.y.value.isNaN = false) : g.SiblingsComparable :=
  fun _ m hm n hn _ _ _ => ⟨.inl ⟨(hg m hm).1, (hg n hn).1⟩, .inl ⟨(hg m hm).2, (hg n hn).2⟩⟩

namespace Rearranges

theorem root_eq (hgh : g.Rearranges h) : g.root = h.root :=
  eq_root (hgh.nodes.mem_iff.1 g.root_mem) g.isWallet_root

theorem node?_eq (hgh : g.Rearranges h) (id : String) : g.node? id = h.node? id :=
  Option.ext fun n => by rw [node?_eq_some, node?_eq_some, hgh.nodes.mem_iff]

theorem targets_perm (hgh : g.Rearranges h) (a : String) : (g.targets a).Perm (h.targets a) :=
  (List.perm_ext_iff_of_nodup (g.nodup_targets a) (h.nodup_targets a)).2 fun b => by
    rw [mem_targets, mem_targets, hgh.leads]

theorem mem_ids (hgh : g.Rearranges h) (id : String) : id ∈ g.ids ↔ id ∈ h.ids :=
  (hgh.nodes.map (·.id)).mem_iff

end Rearranges

end FlowGraph

namespace GraphView

variable {g h : FlowGraph}

theorem successors_of_rearranges (hgh : g.Rearranges h) (hg : g.SiblingsComparable) (epsilon : Number) (a : String) :
    (GraphView.mk g epsilon).successors a = (GraphView.mk h epsilon).successors a := by
  have hnode : (GraphView.mk g epsilon).node? = (GraphView.mk h epsilon).node? := funext hgh.node?_eq
  have hmem : ∀ n ∈ (g.targets a).filterMap (GraphView.mk g epsilon).node?, n ∈ g.nodes ∧ g.Leads a n.id := by
    intro n hn
    rw [← mem_successors (v := ⟨g, epsilon⟩), successors]
    exact (orderByPosition_perm _ _).mem_iff.2 hn
  refine orderByPosition_eq_of_perm epsilon ?_ (fun m hm n hn => ?_) (hnode ▸ (hgh.targets_perm a).filterMap _)
  · rw [List.map_filterMap]
    refine (g.nodup_targets a).filterMap fun b c id hb hc => ?_
    obtain ⟨m, hm, rfl⟩ := Option.map_eq_some_iff.1 hb
    obtain ⟨n, hn, hid⟩ := Option.map_eq_some_iff.1 hc
    rw [← (FlowGraph.node?_eq_some.1 hm).2, ← (FlowGraph.node?_eq_some.1 hn).2, hid]
  · exact hg a m (hmem m hm).1 n (hmem n hn).1 (hmem m hm).2 (hmem n hn).2

/-- A graph with comparable siblings and another arrangement of it have one plan. -/
theorem compile_of_rearranges (hgh : g.Rearranges h) (hg : g.SiblingsComparable) (epsilon : Number) :
    (GraphView.mk g epsilon).compile = (GraphView.mk h epsilon).compile := by
  have hsuccessors := funext (successors_of_rearranges hgh hg epsilon)
  have hnode : (GraphView.mk g epsilon).node? = (GraphView.mk h epsilon).node? := funext hgh.node?_eq
  have hwalk : (GraphView.mk g epsilon).walk = (GraphView.mk h epsilon).walk := by
    rw [walk, walk, hsuccessors, Traversal.preorder_congr hgh.mem_ids, root, root, hgh.root_eq]
  rw [compile, compile, emitted, emitted, hwalk, hnode]

end GraphView

namespace Fan

open Schema

def nodes (x : Binary64) : List Node := [
  ⟨"wallet", ⟨⟨0, false⟩, ⟨0, false⟩⟩, .wallet ⟨none⟩⟩,
  ⟨"first", ⟨⟨x, false⟩, ⟨100, false⟩⟩, .transfer ⟨none, none, "SUI"⟩⟩,
  ⟨"second", ⟨⟨200, false⟩, ⟨100, false⟩⟩, .transfer ⟨none, none, "SUI"⟩⟩]

def edges : List Edge := [⟨"e1", "wallet", "first"⟩, ⟨"e2", "wallet", "second"⟩]

def otherEdges : List Edge := [⟨"f1", "wallet", "second"⟩, ⟨"f2", "wallet", "first"⟩, ⟨"f3", "wallet", "second"⟩]

def placed : FlowGraph := ⟨nodes 0, edges, [], by decide +kernel⟩

def placedOtherwise : FlowGraph := ⟨nodes 0, otherEdges, [], by decide +kernel⟩

def unplaced : FlowGraph := ⟨nodes .nan, edges, [], by decide +kernel⟩

def unplacedOtherwise : FlowGraph := ⟨nodes .nan, otherEdges, [], by decide +kernel⟩

theorem rearranges {g h : FlowGraph} (hnodes : g.nodes = h.nodes) (hg : g.edges = edges) (hh : h.edges = otherEdges) :
    g.Rearranges h where
  nodes := .of_eq hnodes
  leads a b := by
    have hpairs : (∃ e ∈ edges, e.source = a ∧ e.target = b) ↔
        ("wallet" = a ∧ "first" = b) ∨ ("wallet" = a ∧ "second" = b) := by simp [edges]
    have hotherPairs : (∃ e ∈ otherEdges, e.source = a ∧ e.target = b) ↔
        ("wallet" = a ∧ "first" = b) ∨ ("wallet" = a ∧ "second" = b) := by
      simpa [otherEdges, or_comm] using fun hw hs => .inr ⟨hw, hs⟩
    rw [FlowGraph.Leads, FlowGraph.Leads, hg, hh, hpairs, hotherPairs]

theorem compile_placed :
    placed.Rearranges placedOtherwise ∧ placed.SiblingsComparable ∧
      (GraphView.mk placed (.float 50)).compile = (GraphView.mk placedOtherwise (.float 50)).compile := by
  have hrearranges : placed.Rearranges placedOtherwise := rearranges rfl rfl rfl
  have hcomparable : placed.SiblingsComparable := FlowGraph.siblingsComparable_of_numbers (by decide +kernel)
  exact ⟨hrearranges, hcomparable, GraphView.compile_of_rearranges hrearranges hcomparable (.float 50)⟩

def members (id kind : String) (x y : Binary64) : Members :=
  [("id", .string id), ("type", .string kind), ("position", .object [("x", .float x), ("y", .float y)])]

def payload (x : Binary64) (es : List Edge) : Members := [
  ("nodes", .array [.object (members "wallet" "wallet" 0 0), .object (members "first" "transfer" x 100),
    .object (members "second" "transfer" 200 100)]),
  ("edges", .array (es.map fun e =>
    .object [("id", .string e.id), ("source", .string e.source), ("target", .string e.target)]))]

theorem decodeParts_payload (x : Binary64) {es : List Edge}
    (hedges : optionalField (payload x es) ["edges"] [] (list decodeEdge) = .valid es) :
    decodeParts (.object (payload x es)) = .valid ⟨nodes x, es, []⟩ := by
  simp only [decodeParts, record, hedges]
  rfl

/-- A place that is no number is accepted, and then the plan follows the order of the edges. -/
theorem compile_unplaced :
    (∀ wording, (Payload.value (.object (payload .nan edges))).toGraph wording = .ok unplaced ∧
        (Payload.value (.object (payload .nan otherEdges))).toGraph wording = .ok unplacedOtherwise) ∧
      unplaced.Rearranges unplacedOtherwise ∧
      (GraphView.mk unplaced (.float 50)).compile.map (·.node.id) = ["first", "second"] ∧
      (GraphView.mk unplacedOtherwise (.float 50)).compile.map (·.node.id) = ["second", "first"] := by
  refine ⟨fun wording => ⟨?_, ?_⟩, rearranges rfl rfl rfl, ?_, ?_⟩
  · exact readGraph_of_parts (decodeParts_payload .nan rfl) wording
  · exact readGraph_of_parts (decodeParts_payload .nan rfl) wording
  · rw [GraphView.compile, GraphView.emitted, GraphView.walk_of_isFan (by decide +kernel)]
    decide +kernel
  · rw [GraphView.compile, GraphView.emitted, GraphView.walk_of_isFan (by decide +kernel)]
    decide +kernel

end Fan

end LedgerFlow
