import LedgerFlow.Proofs.Graph.RunMap
import LedgerFlow.Proofs.Plan.Steps

namespace LedgerFlow

theorem NodeData.category_of_kindName {d d' : NodeData} (h : d'.kindName = d.kindName) : d'.category = d.category := by
  cases d <;> cases d' <;> first | rfl | simp [kindName] at h

def Node.redrawn (data : Node → NodeData) (n : Node) : Node := { n with data := data n }

def Step.redrawn (data : Node → NodeData) (s : Step) : Step := { s with node := s.node.redrawn data }

/-- The same nodes, of the same kinds and in the same places, with other data. -/
structure FlowGraph.Redraws (data : Node → NodeData) (g h : FlowGraph) : Prop where
  nodes : h.nodes = g.nodes.map (Node.redrawn data)
  edges : h.edges = g.edges
  kind : ∀ n, (data n).kindName = n.kindName

section

variable {data : Node → NodeData} {g h : FlowGraph}

theorem orderByPosition_redrawn (epsilon : Number) (ns : List Node) :
    orderByPosition epsilon (ns.map (Node.redrawn data)) = (orderByPosition epsilon ns).map (Node.redrawn data) := by
  have hbandsFrom : ∀ (ns : List Node) (band : Nat) (top : Binary64),
      bandsFrom epsilon band top (ns.map (Node.redrawn data)) =
        (bandsFrom epsilon band top ns).map fun b => ⟨b.band, b.node.redrawn data⟩ := by
    intro ns
    induction ns with
    | nil => exact fun _ _ => rfl
    | cons n ns ih =>
      intro band top
      have hbeyond : (n.redrawn data).isBeyond epsilon top = n.isBeyond epsilon top := rfl
      simp only [List.map_cons, bandsFrom, hbeyond, ih]
      split <;> rfl
  have hbands : ∀ ns : List Node, bands epsilon (ns.map (Node.redrawn data)) =
      (bands epsilon ns).map fun b => ⟨b.band, b.node.redrawn data⟩ := by
    intro ns
    cases ns with
    | nil => rfl
    | cons n ns =>
      simp only [List.map_cons, bands, hbandsFrom]
      rfl
  have habove : ∀ m n : Node, (m.redrawn data).above (n.redrawn data) = m.above n := fun _ _ => rfl
  have hbefore : ∀ a b : Banded, Banded.before ⟨a.band, a.node.redrawn data⟩ ⟨b.band, b.node.redrawn data⟩ =
      a.before b := fun _ _ => rfl
  rw [orderByPosition, orderByPosition, RunSort.sort_map habove, hbands, RunSort.sort_map hbefore, List.map_map,
    List.map_map]
  rfl

theorem number_redrawn (start : Nat) (ns : List Node) :
    number start (ns.map (Node.redrawn data)) = (number start ns).map (Step.redrawn data) := by
  induction ns generalizing start with
  | nil => rfl
  | cons n ns ih =>
    rw [List.map_cons, number, number, ih]
    rfl

namespace FlowGraph.Redraws

variable (hgh : g.Redraws data h)

include hgh

theorem category_eq (n : Node) : (n.redrawn data).category = n.category := NodeData.category_of_kindName (hgh.kind n)

theorem ids_eq : h.ids = g.ids := by
  rw [ids, ids, hgh.nodes, List.map_map]
  rfl

theorem targets_eq : h.targets = g.targets := by
  funext id
  rw [targets, targets, hgh.edges]

theorem sources_eq : h.sources = g.sources := by
  funext id
  rw [sources, sources, hgh.edges]

theorem node?_eq (id : String) : h.node? id = (g.node? id).map (Node.redrawn data) := by
  rw [node?, node?, hgh.nodes, List.find?_map]
  rfl

theorem root_eq : h.root = g.root.redrawn data := by
  refine (eq_root ?_ ?_).symm
  · rw [hgh.nodes]
    exact List.mem_map_of_mem g.root_mem
  · rw [Node.isWallet, hgh.category_eq]
    exact g.isWallet_root

end FlowGraph.Redraws

namespace GraphView

variable (hgh : g.Redraws data h) (epsilon : Number)

include hgh

theorem ancestors_redrawn : (GraphView.mk h epsilon).ancestors = (GraphView.mk g epsilon).ancestors := by
  funext id
  rw [ancestors, ancestors, hgh.sources_eq, hgh.ids_eq]

theorem filterMap_node?_redrawn (ids : List String) :
    ids.filterMap (GraphView.mk h epsilon).node? =
      (ids.filterMap (GraphView.mk g epsilon).node?).map (Node.redrawn data) := by
  rw [List.map_filterMap]
  exact List.filterMap_congr fun id _ => hgh.node?_eq id

theorem successors_redrawn (id : String) :
    (GraphView.mk h epsilon).successors id = ((GraphView.mk g epsilon).successors id).map (Node.redrawn data) := by
  rw [successors, successors, hgh.targets_eq, filterMap_node?_redrawn hgh, orderByPosition_redrawn]

theorem walk_redrawn : (GraphView.mk h epsilon).walk = (GraphView.mk g epsilon).walk := by
  have hnext : (fun id => ((GraphView.mk h epsilon).successors id).map (·.id)) =
      fun id => ((GraphView.mk g epsilon).successors id).map (·.id) := by
    funext id
    rw [successors_redrawn hgh, List.map_map]
    rfl
  rw [walk, walk, hnext, hgh.ids_eq, root, root, hgh.root_eq]
  rfl

theorem compile_redrawn :
    (GraphView.mk h epsilon).compile = (GraphView.mk g epsilon).compile.map (Step.redrawn data) := by
  have hpassthrough : ∀ n : Node, (n.redrawn data).isPassthrough = n.isPassthrough := by
    intro n
    rw [Node.isPassthrough, Node.isPassthrough, hgh.category_eq]
  have hemitted : (GraphView.mk h epsilon).emitted = (GraphView.mk g epsilon).emitted.map (Node.redrawn data) := by
    rw [emitted, emitted, walk_redrawn hgh, filterMap_node?_redrawn hgh, List.filter_map]
    simp only [Function.comp_def, hpassthrough]
  rw [compile, compile, hemitted, number_redrawn]

end GraphView

end

end LedgerFlow
