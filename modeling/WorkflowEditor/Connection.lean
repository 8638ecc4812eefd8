import WorkflowEditor.Graph.Editing
import WorkflowEditor.Registry

/-!
# WorkflowEditor.Connection

Which edges a connection drawn between two handles stands for.

A connection that touches no tool is one simple edge.  One that touches a tool
is a pair: the edge as drawn, and an edge back with the handles swapped, so
that the tool can hand its result to the caller.  Each edge of a pair is
conditional exactly when its own target is a tool.
-/

namespace WorkflowEditor

/-- A connection drawn from a handle of one node to a handle of another. -/
structure Connection where
  source : NodeId
  sourceHandle : Option String
  target : NodeId
  targetHandle : Option String
deriving DecidableEq, Repr

namespace Connection

/-- The connection drawn the other way. -/
def reversed (c : Connection) : Connection :=
  ⟨c.target, c.targetHandle, c.source, c.sourceHandle⟩

def toJson (c : Connection) : Json :=
  .object [("source", c.source.toJson), ("sourceHandle", .ofOption .str c.sourceHandle),
    ("target", c.target.toJson), ("targetHandle", .ofOption .str c.targetHandle)]

def checkMember (key : String) (v : Json) : Except ReadError Unit :=
  if key = "source" ∨ key = "target" then discard v.asString
  else if key = "sourceHandle" ∨ key = "targetHandle" then discard (v.asOptional Json.asString)
  else .ok ()

/-- A connection is an object, or a list of source, source handle, target and
target handle; the handles may be left out. -/
def ofJson : Json → Except ReadError Connection
  | .obj fields => do
      Fields.check fields checkMember
      return {
        source := ← Fields.required fields "source" Id.ofJson
        sourceHandle := ← Fields.optional fields "sourceHandle" Json.asString
        target := ← Fields.required fields "target" Id.ofJson
        targetHandle := ← Fields.optional fields "targetHandle" Json.asString }
  | .arr items => do
      let handle := Json.asOptional Json.asString
      let source ← Items.element items 0 (.error (.tooShort 0 "Connection" 4)) Id.ofJson
      let sourceHandle ← Items.element items 1 (.ok none) handle
      let target ← Items.element items 2 (.error (.tooShort 2 "Connection" 4)) Id.ofJson
      let targetHandle ← Items.element items 3 (.ok none) handle
      Items.checkLength items 4
      return ⟨source, sourceHandle, target, targetHandle⟩
  | v => .error (.wrongKind v (.record "Connection"))

/-- A handle with an empty name is the default handle. -/
def named (handle : Option String) : Option String := handle.filter fun h => !h.isEmpty

/-! ## the edges of a connection -/

/-- The one edge of a connection that touches no tool. -/
def single (c : Connection) (stamp : Stamp) : Edge where
  id := ⟨c.source.text ++ "-" ++ (named c.sourceHandle).getD defaultSourceHandle ++ "-"
    ++ c.target.text ++ "-" ++ (named c.targetHandle).getD defaultTargetHandle ++ "-" ++ stamp.text⟩
  source := c.source
  sourceHandle := named c.sourceHandle
  target := c.target
  targetHandle := named c.targetHandle
  kind := .simple
  extra := []

/-- An edge to a tool is conditional, any other simple. -/
def kindToward (isTool : Bool) : EdgeKind := if isTool then .conditional else .simple

/-- One edge of a pair, as the connection is drawn. -/
def half (c : Connection) (direction : String) (targetIsTool : Bool) (stamp : Stamp) : Edge where
  id := ⟨"edge-" ++ c.source.text ++ "-to-" ++ c.target.text ++ "-" ++ direction ++ "-"
    ++ stamp.text⟩
  source := c.source
  sourceHandle := named c.sourceHandle
  target := c.target
  targetHandle := named c.targetHandle
  kind := kindToward targetIsTool
  extra := []

end Connection

namespace Registry

/-- A node's category: what its data names, else the one of its registered type. -/
def categoryOf (registry : Registry) (node : Node) : Option Category :=
  node.category?.or ((registry.lookup? node.typeId).map Descriptor.category)

def isTool (registry : Registry) (node : Node) : Bool := registry.categoryOf node == some .tools

/-- The node with an id, or the error that there is none. -/
def resolve (g : Graph) (id : NodeId) : Except GraphError Node :=
  match g.node? id with
  | some node => .ok node
  | none => .error (.nodeNotFound id)

/-- The edges of a connection in a graph. -/
def plan (registry : Registry) (g : Graph) (c : Connection) (stamp : Stamp) :
    Except GraphError (List Edge) := do
  let source ← resolve g c.source
  let target ← resolve g c.target
  let sourceIsTool := registry.isTool source
  let targetIsTool := registry.isTool target
  if !sourceIsTool && !targetIsTool then return [c.single stamp]
  else
    return [c.half "forward" targetIsTool stamp, c.reversed.half "backward" sourceIsTool stamp]

/-- Plans the edges of a connection and adds them. -/
def connect (registry : Registry) (g : Graph) (c : Connection) (stamp : Stamp) :
    Except GraphError (List Edge × Graph) := do
  let edges ← registry.plan g c stamp
  return (edges, ← g.addEdges edges)

end Registry

end WorkflowEditor
