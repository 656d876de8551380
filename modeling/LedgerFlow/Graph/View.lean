import LedgerFlow.Graph.FlowGraph
import LedgerFlow.Graph.Order
import LedgerFlow.Graph.Traversal

namespace LedgerFlow

structure GraphView where
  graph : FlowGraph
  epsilon : Number

namespace GraphView

def root (v : GraphView) : Node := v.graph.root

def node? (v : GraphView) (id : String) : Option Node := v.graph.node? id

def contains (v : GraphView) (id : String) : Bool := v.graph.ids.contains id

def successors (v : GraphView) (id : String) : List Node :=
  orderByPosition v.epsilon ((v.graph.targets id).filterMap v.node?)

def predecessors (v : GraphView) (id : String) : List String :=
  v.graph.sources id

def descendants (v : GraphView) (id : String) : List String :=
  Traversal.reachable v.graph.targets v.graph.ids id

def ancestors (v : GraphView) (id : String) : List String :=
  Traversal.reachable v.graph.sources v.graph.ids id

def walk (v : GraphView) : List String :=
  Traversal.preorder (fun id => (v.successors id).map (·.id)) v.graph.ids [] [v.root.id]

end GraphView

end LedgerFlow
