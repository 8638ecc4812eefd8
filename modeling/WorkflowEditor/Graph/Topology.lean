import WorkflowEditor.Graph.Basic

/-!
# WorkflowEditor.Graph.Topology

The neighbours of the nodes of a graph, and where a graph begins and ends.

They are looked up in a second graph, one of numbers, that is built for the
purpose: its nodes and edges weigh the places that the nodes and edges have in
their lists.  Graphs of numbers are kept by a library (`Multigraphs`), and
nothing here depends on how.  The editor uses the one that lists the edges at a
node with the latest first.
-/

namespace WorkflowEditor

/-! ## graphs of numbers -/

/-- Which way edges go from a node. -/
inductive Direction where
  | outgoing
  | incoming
deriving DecidableEq, Repr

def Direction.opposite : Direction → Direction
  | outgoing => incoming
  | incoming => outgoing

/-- An edge between numbered nodes, with a number as its weight. -/
structure Arc where
  source : Nat
  target : Nat
  weight : Nat
deriving DecidableEq, Repr

/-- The end at which an arc goes this way. -/
def Arc.near (arc : Arc) : Direction → Nat
  | .outgoing => arc.source
  | .incoming => arc.target

/-- The end at which an edge goes this way. -/
def Edge.near (edge : Edge) : Direction → NodeId
  | .outgoing => edge.source
  | .incoming => edge.target

/-- A library of directed graphs with numbers as weights, in which edges may be
parallel or loops. -/
structure Multigraphs (γ : Type) where
  empty : γ
  /-- the index of a new node, and the graph with it -/
  addNode : γ → Nat → Nat × γ
  /-- a new edge between nodes that are there -/
  addArc : γ → Arc → γ
  indices : γ → List Nat
  weight? : γ → Nat → Option Nat
  /-- the edges that go one way from a node -/
  arcsAt : γ → Direction → Nat → List Arc

/-- The weights of the nodes by index, and the edges, the latest first. -/
structure Multigraph where
  weights : List Nat
  arcs : List Arc
deriving Repr

/-- Edges at a node are listed with the latest first. -/
def Multigraphs.latestFirst : Multigraphs Multigraph where
  empty := ⟨[], []⟩
  addNode m weight := (m.weights.length, { m with weights := m.weights ++ [weight] })
  addArc m arc := { m with arcs := arc :: m.arcs }
  indices m := List.range m.weights.length
  weight? m index := m.weights[index]?
  arcsAt m direction index := m.arcs.filter fun arc => arc.near direction = index

namespace Graph

variable {γ : Type} (lib : Multigraphs γ)

/-! ## the graph of places -/

/-- Adds a node for one of the list, of its place as the weight, and notes the index
under its id. -/
def placeNode (placed : γ × List (NodeId × Nat)) (node : Node × Nat) : γ × List (NodeId × Nat) :=
  let (index, m) := lib.addNode placed.1 node.2
  (m, (node.1.id, index) :: placed.2)

/-- Adds an edge for one of the list, of its place as the weight, if its ends have indices. -/
def placeEdge (indexOf : List (NodeId × Nat)) (m : γ) (edge : Edge × Nat) : γ :=
  match indexOf.lookup edge.1.source, indexOf.lookup edge.1.target with
  | some source, some target => lib.addArc m ⟨source, target, edge.2⟩
  | _, _ => m

/-- The graph of the places of nodes and edges, and the indices of the ids. -/
def topology (g : Graph) : γ × List (NodeId × Nat) :=
  let (m, indexOf) := g.nodes.zipIdx.foldl (placeNode lib) (lib.empty, [])
  (g.edges.zipIdx.foldl (placeEdge lib indexOf) m, indexOf)

/-- The nodes at the other end of the edges that go one way from a node, each with its edge. -/
def neighbours (g : Graph) (direction : Direction) (id : NodeId) : List (Node × Edge) :=
  let (m, indexOf) := g.topology lib
  match indexOf.lookup id with
  | none => []
  | some index =>
      (lib.arcsAt m direction index).filterMap fun arc => do
        let place ← lib.weight? m (arc.near direction.opposite)
        return (← g.nodes[place]?, ← g.edges[arc.weight]?)

/-- The nodes from which no edge goes one way. -/
def nodesWithout (g : Graph) (direction : Direction) : List Node :=
  let (m, _) := g.topology lib
  ((lib.indices m).filter fun index => (lib.arcsAt m direction index).isEmpty).filterMap
    fun index => do g.nodes[← lib.weight? m index]?

/-! ## the questions asked -/

/-- The nodes that edges from a node lead to, each with its edge. -/
def successors (g : Graph) (id : NodeId) : List (Node × Edge) :=
  g.neighbours .latestFirst .outgoing id

/-- The nodes that edges to a node come from, each with its edge. -/
def predecessors (g : Graph) (id : NodeId) : List (Node × Edge) :=
  g.neighbours .latestFirst .incoming id

/-- The nodes that no edge leads to. -/
def entryNodes (g : Graph) : List Node := g.nodesWithout .latestFirst .incoming

/-- The nodes that no edge leaves. -/
def terminalNodes (g : Graph) : List Node := g.nodesWithout .latestFirst .outgoing

end Graph

end WorkflowEditor
