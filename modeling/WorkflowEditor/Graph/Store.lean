import WorkflowEditor.Feed
import WorkflowEditor.Palette

/-!
# WorkflowEditor.Graph.Store

The graph that is being edited, with a revision that grows by one with every
change and a feed of the snapshots.

Edits are values (`Edit`), so that a history is a list of edits.  Each edit
answers, and leaves either the store as it was or commits one new graph
(`Edit.perform`, `Store.apply`).
-/

namespace WorkflowEditor

/-- A graph at a revision. -/
structure Snapshot where
  revision : Nat
  graph : Graph
deriving Repr

/-- Equality of revision and graph. -/
def Snapshot.same (a b : Snapshot) : Bool := a.revision == b.revision && a.graph.same b.graph

/-! ## edits -/

/-- An edit of the graph in a store. -/
inductive Edit where
  | addNode (node : Node)
  | removeNode (id : NodeId)
  | addEdges (edges : List Edge)
  | removeEdge (id : EdgeId)
  | removeEdgesAt (id : NodeId)
  | updateData (id : NodeId) (overlay : Fields)
  | moveNode (id : NodeId) (position : Position)
  | fillDefaults (id : NodeId)
  | replace (nodes : List Node) (edges : List Edge)
  | reset
  | connect (registry : Registry) (connection : Connection) (stamp : Stamp)
  | drop (registry : Registry) (payload : DragPayload) (point : Point)
      (toCanvas : Point → Position) (stamp : Stamp)

/-- What an edit answers. -/
inductive Answer where
  | done
  | refused (error : GraphError)
  | removedNode (node : Option Node)
  | removedEdge (edge : Option Edge)
  | count (n : Nat)
  | filled (any : Bool)
  | connected (edges : List Edge)
  | dropped (node : Option Node)

namespace Edit

/-- An edit that changes the graph or is refused. -/
def checked (result : Except GraphError Graph) : Answer × Option Graph :=
  match result with
  | .ok g => (.done, some g)
  | .error e => (.refused e, none)

/-- The answer to an edit, and the graph it commits, if it commits one. -/
def perform (edit : Edit) (g : Graph) : Answer × Option Graph :=
  match edit with
  | addNode node => checked (g.addNode node)
  | removeNode id =>
      match g.removeNode? id with
      | some (node, g) => (.removedNode (some node), some g)
      | none => (.removedNode none, none)
  | addEdges edges =>
      match g.addEdges edges with
      | .ok g => (.done, if edges.isEmpty then none else some g)
      | .error e => (.refused e, none)
  | removeEdge id =>
      match g.removeEdge? id with
      | some (edge, g) => (.removedEdge (some edge), some g)
      | none => (.removedEdge none, none)
  | removeEdgesAt id =>
      (.count (g.degree id), if g.degree id = 0 then none else some (g.removeEdgesAt id))
  | updateData id overlay => checked (g.updateData id overlay)
  | moveNode id position => checked (g.moveNode id position)
  | fillDefaults id =>
      match g.fillDefaults id with
      | .ok (some g) => (.filled true, some g)
      | .ok none => (.filled false, none)
      | .error e => (.refused e, none)
  | replace nodes edges => (.count (Graph.siftedOut nodes edges), some (Graph.sift nodes edges))
  | reset => (.done, some .empty)
  | connect registry connection stamp =>
      match registry.connect g connection stamp with
      | .ok (edges, g) => (.connected edges, some g)
      | .error e => (.refused e, none)
  | drop registry payload point toCanvas stamp =>
      match registry.drop? g payload (toCanvas point) stamp with
      | some (node, g) => (.dropped (some node), some g)
      | none => (.dropped none, none)

end Edit

/-! ## the store -/

/-- The graph being edited, and the feed that its snapshots are published on. -/
structure Store where
  current : Snapshot
  feed : Feed Snapshot

namespace Store

/-- An empty graph at revision 0. -/
def new : Store :=
  let start : Snapshot := ⟨0, .empty⟩
  ⟨start, { latest := start }⟩

def graph (store : Store) : Graph := store.current.graph

def revision (store : Store) : Nat := store.current.revision

/-- Takes over a new graph at the next revision, and publishes it. -/
def commit (store : Store) (g : Graph) : Store :=
  let next : Snapshot := ⟨store.revision + 1, g⟩
  ⟨next, store.feed.publish next⟩

/-- Makes an edit. -/
def apply (store : Store) (edit : Edit) : Answer × Store :=
  match edit.perform store.graph with
  | (answer, some g) => (answer, store.commit g)
  | (answer, none) => (answer, store)

/-- Makes edits one after the other. -/
def run (store : Store) (edits : List Edit) : Store :=
  edits.foldl (fun s e => (s.apply e).2) store

/-- Takes over the graph of given nodes and edges. -/
def load (store : Store) (nodes : List Node) (edges : List Edge) : Store :=
  (store.apply (.replace nodes edges)).2

end Store

end WorkflowEditor
