import WorkflowEditor.Graph.Basic
import WorkflowEditor.Kind.Configuration

/-!
# WorkflowEditor.Graph.Editing

Edits of a graph.  An edit that cannot be made is refused with a cause or
finds nothing to do; it never changes the graph in part.
-/

namespace WorkflowEditor.Graph

/-! ## nodes -/

/-- Adds a node with a new id at the end. -/
def addNode (g : Graph) (node : Node) : Except GraphError Graph :=
  if g.contains node.id then .error (.duplicateNode node.id)
  else .ok { g with nodes := g.nodes ++ [node] }

/-- Takes out a node, and every edge at it. -/
def removeNode? (g : Graph) (id : NodeId) : Option (Node × Graph) :=
  (g.node? id).map fun node =>
    (node, ⟨g.nodes.eraseP fun n => n.id == id, g.edges.filter fun e => !e.touches id⟩)

/-- Changes the first item that has a property. -/
def updateFirst (p : α → Bool) (change : α → α) : List α → List α
  | [] => []
  | a :: rest => if p a then change a :: rest else a :: updateFirst p change rest

/-- Changes the node with an id. -/
def updateNode (g : Graph) (id : NodeId) (change : Node → Node) : Graph :=
  { g with nodes := updateFirst (fun n => n.id == id) change g.nodes }

/-- Lays a map over a node's data. -/
def updateData (g : Graph) (id : NodeId) (overlay : Fields) : Except GraphError Graph :=
  if g.contains id then
    .ok (g.updateNode id fun n => { n with data := n.data.extend overlay })
  else .error (.nodeNotFound id)

/-- Puts a node at another place. -/
def moveNode (g : Graph) (id : NodeId) (position : Position) : Except GraphError Graph :=
  if g.contains id then .ok (g.updateNode id fun n => { n with position := position })
  else .error (.nodeNotFound id)

/-- The defaults of a node's kind that its data lacks; none for an unknown type. -/
def missingDefaults (node : Node) : Fields :=
  match Kind.ofTypeId? node.typeId with
  | none => []
  | some kind => kind.defaultData.filter fun f => !node.data.contains f.1

/-- Fills in the defaults that a node's data lacks; nothing to do if it has them all. -/
def fillDefaults (g : Graph) (id : NodeId) : Except GraphError (Option Graph) :=
  match g.node? id with
  | none => .error (.nodeNotFound id)
  | some node =>
      match missingDefaults node with
      | [] => .ok none
      | missing => .ok (some (g.updateNode id fun n => { n with data := n.data.extend missing }))

/-! ## edges -/

/-- Why a batch of edges cannot be added: the first edge of which an end is
missing, source before target, or whose id is taken. -/
def checkEdges (g : Graph) (taken : List EdgeId) : List Edge → Except GraphError Unit
  | [] => .ok ()
  | e :: rest =>
      if !g.contains e.source then .error (.endpointMissing e.id e.source)
      else if !g.contains e.target then .error (.endpointMissing e.id e.target)
      else if e.id ∈ taken then .error (.duplicateEdge e.id)
      else checkEdges g (e.id :: taken) rest

/-- Adds edges at the end, all or none. -/
def addEdges (g : Graph) (edges : List Edge) : Except GraphError Graph :=
  match g.checkEdges (g.edges.map Edge.id) edges with
  | .error e => .error e
  | .ok () => .ok { g with edges := g.edges ++ edges }

/-- Takes out an edge. -/
def removeEdge? (g : Graph) (id : EdgeId) : Option (Edge × Graph) :=
  (g.edge? id).map fun edge => (edge, { g with edges := g.edges.eraseP fun e => e.id == id })

/-- The number of edges at a node. -/
def degree (g : Graph) (id : NodeId) : Nat := g.edges.countP fun e => e.touches id

/-- Takes out every edge at a node. -/
def removeEdgesAt (g : Graph) (id : NodeId) : Graph :=
  { g with edges := g.edges.filter fun e => !e.touches id }

/-! ## the whole graph -/

/-- Only the first of several items with one key. -/
def keepFirst [DecidableEq κ] (key : α → κ) (seen : List κ) : List α → List α
  | [] => []
  | a :: rest =>
      if key a ∈ seen then keepFirst key seen rest
      else a :: keepFirst key (key a :: seen) rest

/-- The graph of given nodes and edges, without nodes that repeat an id,
edges without their ends, and edges that repeat the id of an edge kept. -/
def sift (nodes : List Node) (edges : List Edge) : Graph :=
  let nodes := keepFirst Node.id [] nodes
  ⟨nodes, keepFirst Edge.id [] (edges.filter fun e => hasEnds ⟨nodes, []⟩ e)⟩

/-- How many of the given nodes and edges `sift` leaves out. -/
def siftedOut (nodes : List Node) (edges : List Edge) : Nat :=
  let g := sift nodes edges
  nodes.length + edges.length - g.nodes.length - g.edges.length

end WorkflowEditor.Graph
