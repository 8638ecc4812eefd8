import WorkflowEditor.Edge
import WorkflowEditor.Node

/-!
# WorkflowEditor.Graph.Basic

The graph of a workflow: its nodes and edges, each in the order in which they
were added, and what is looked up in them.

`Graph.WellFormed` is what every graph in an editor satisfies: no node id and
no edge id twice, and no edge whose ends are not both nodes of the graph.
-/

namespace WorkflowEditor

/-- The nodes and edges of a workflow, in order. -/
structure Graph where
  nodes : List Node
  edges : List Edge
deriving Repr

/-- Why an edit of a graph is refused. -/
inductive GraphError where
  | nodeNotFound (node : NodeId)
  | duplicateNode (node : NodeId)
  | duplicateEdge (edge : EdgeId)
  | endpointMissing (edge : EdgeId) (node : NodeId)
deriving DecidableEq, Repr

namespace GraphError

def message : GraphError → String
  | nodeNotFound node => "node not found: " ++ node.text
  | duplicateNode node => "node already exists: " ++ node.text
  | duplicateEdge edge => "edge already exists: " ++ edge.text
  | endpointMissing edge node =>
      "edge " ++ edge.text ++ " references missing node " ++ node.text

end GraphError

namespace Graph

def empty : Graph := ⟨[], []⟩

/-- No id twice, and no edge without its ends. -/
structure WellFormed (g : Graph) : Prop where
  nodup_nodes : (g.nodes.map Node.id).Nodup
  nodup_edges : (g.edges.map Edge.id).Nodup
  source_mem : ∀ e ∈ g.edges, e.source ∈ g.nodes.map Node.id
  target_mem : ∀ e ∈ g.edges, e.target ∈ g.nodes.map Node.id

/-! ## looking up -/

def node? (g : Graph) (id : NodeId) : Option Node := g.nodes.find? fun n => n.id == id

def edge? (g : Graph) (id : EdgeId) : Option Edge := g.edges.find? fun e => e.id == id

def contains (g : Graph) (id : NodeId) : Bool := g.nodes.any fun n => n.id == id

/-- Are both ends of an edge nodes of the graph? -/
def hasEnds (g : Graph) (e : Edge) : Bool := g.contains e.source && g.contains e.target

/-- Equality of the nodes and edges, in order. -/
def sameNodes : List Node → List Node → Bool
  | [], [] => true
  | a :: as, b :: bs => a.same b && sameNodes as bs
  | _, _ => false

def sameEdges : List Edge → List Edge → Bool
  | [], [] => true
  | a :: as, b :: bs => a.same b && sameEdges as bs
  | _, _ => false

/-- Equality of graphs, coordinates and data compared as numbers. -/
def same (g h : Graph) : Bool := sameNodes g.nodes h.nodes && sameEdges g.edges h.edges

end Graph

end WorkflowEditor
