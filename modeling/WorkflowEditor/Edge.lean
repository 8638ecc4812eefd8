import WorkflowEditor.Id

/-!
# WorkflowEditor.Edge

The edges of a workflow: directed, from a handle of one node to a handle of
another.  Members that are not known are kept in `extra` and written back.
-/

namespace WorkflowEditor

/-- The kind of an edge, known by its name; names other than the two below
come from older documents and are kept. -/
structure EdgeKind where
  name : String
deriving DecidableEq, Repr

namespace EdgeKind

def simple : EdgeKind := ⟨"simple"⟩

/-- An edge to a tool, which an agent may or may not follow. -/
def conditional : EdgeKind := ⟨"conditional"⟩

end EdgeKind

/-- A directed edge; no handle means the node's default handle. -/
structure Edge where
  id : EdgeId
  source : NodeId
  sourceHandle : Option String
  target : NodeId
  targetHandle : Option String
  kind : EdgeKind
  extra : Fields
deriving Repr

namespace Edge

/-- Is the node one of the two ends? -/
def touches (edge : Edge) (node : NodeId) : Bool := edge.source == node || edge.target == node

/-- Equality with the unknown members compared as numbers. -/
def same (a b : Edge) : Bool :=
  a.id == b.id && a.source == b.source && a.sourceHandle == b.sourceHandle &&
    a.target == b.target && a.targetHandle == b.targetHandle && a.kind == b.kind &&
    Json.sameMembers a.extra b.extra

/-- The members that are fields of an edge. -/
def fieldNames : List String := ["id", "source", "sourceHandle", "target", "targetHandle", "type"]

def toJson (edge : Edge) : Json :=
  .obj ((Fields.ofPairs
    [("id", edge.id.toJson), ("source", edge.source.toJson),
      ("sourceHandle", .ofOption .str edge.sourceHandle), ("target", edge.target.toJson),
      ("targetHandle", .ofOption .str edge.targetHandle), ("type", .str edge.kind.name)]).extend
    edge.extra)

def checkMember (key : String) (v : Json) : Except ReadError Unit :=
  if key = "id" ∨ key = "source" ∨ key = "target" ∨ key = "type" then discard v.asString
  else if key = "sourceHandle" ∨ key = "targetHandle" then discard (v.asOptional Json.asString)
  else .ok ()

/-- An edge is an object with texts `id`, `source` and `target`; a handle may
be null and the kind defaults to `simple`. -/
def ofJson (v : Json) : Except ReadError Edge := do
  let fields ← v.asRecord "Edge"
  fields.check checkMember
  return {
    id := ← fields.required "id" Id.ofJson
    source := ← fields.required "source" Id.ofJson
    sourceHandle := ← fields.optional "sourceHandle" Json.asString
    target := ← fields.required "target" Id.ofJson
    targetHandle := ← fields.optional "targetHandle" Json.asString
    kind := ← fields.defaulted "type" .simple fun v => v.asString.map EdgeKind.mk
    extra := fields.without fieldNames }

end Edge

end WorkflowEditor
