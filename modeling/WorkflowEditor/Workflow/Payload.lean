import WorkflowEditor.Workflow.Basic

/-!
# WorkflowEditor.Workflow.Payload

Workflow documents as they travel.  Every member of a payload may be absent; a
payload is merged over a document member by member, so what a reply leaves out
keeps its value.

* `Payload.mergeInto` — the members that are present replace the document's;
* `Payload.ofWorkflow` — a document as it is sent, without the canvas's marks;
* `Workflow.ofPayload` — a document as it is received.
-/

namespace WorkflowEditor

/-- A workflow document in which every member may be absent. -/
structure Payload where
  id : Option WorkflowId
  title : Option String
  version : Option String
  description : Option String
  icons : Option String
  nodes : Option (List Node)
  edges : Option (List Edge)
  metadata : Option Fields
  extra : Fields
deriving Repr

namespace Payload

/-- The member of a document that holds its id. -/
def idKey : String := "_id"

/-- The other name of the id that replies use. -/
def idAlias : String := "id"

/-- The members that make an object a workflow document. -/
def documentKeys : List String :=
  [idKey, "title", "version", "description", "icons", "nodes", "edges", "metadata"]

/-- The members that are fields of a payload. -/
def fieldNames : List String := idAlias :: documentKeys

/-- Does an object carry a member of a workflow document?  The other name of
the id alone makes none. -/
def isDocument : Json → Bool
  | .obj fields => documentKeys.any fun key => Fields.contains fields key
  | _ => false

/-! ## reading and writing -/

/-- The check of one member; `both` tells that the id is there under both names. -/
def checkMember (both : Bool) (key : String) (v : Json) : Except ReadError Unit :=
  if key = idAlias ∧ both then .error (.duplicate idKey)
  else if key = idKey ∨ key = idAlias ∨ key = "title" ∨ key = "version" ∨ key = "description" ∨
      key = "icons" then
    discard (v.asOptional Json.asString)
  else if key = "nodes" then discard (v.asOptional (Json.asListOf Node.ofJson))
  else if key = "edges" then discard (v.asOptional (Json.asListOf Edge.ofJson))
  else if key = "metadata" then discard (v.asOptional Json.asMap)
  else .ok ()

/-- A payload is an object with the id under one of its two names at most;
null stands for an absent member. -/
def ofJson (v : Json) : Except ReadError Payload := do
  let fields ← v.asRecord "RemoteWorkflowPayload"
  let both := fields.contains idKey && fields.contains idAlias
  fields.check (checkMember both)
  return {
    id := ← fields.optional (if fields.contains idKey then idKey else idAlias) Id.ofJson
    title := ← fields.optional "title" Json.asString
    version := ← fields.optional "version" Json.asString
    description := ← fields.optional "description" Json.asString
    icons := ← fields.optional "icons" Json.asString
    nodes := ← fields.optional "nodes" (Json.asListOf Node.ofJson)
    edges := ← fields.optional "edges" (Json.asListOf Edge.ofJson)
    metadata := ← fields.optional "metadata" Json.asMap
    extra := fields.without fieldNames }

/-- A member that is written only if it is present. -/
def member (key : String) (write : α → Json) (value : Option α) : List (String × Json) :=
  match value with
  | some a => [(key, write a)]
  | none => []

def toJson (p : Payload) : Json :=
  .obj ((Fields.ofPairs
    (member idKey Id.toJson p.id ++ member "title" .str p.title ++
      member "version" .str p.version ++ member "description" .str p.description ++
      member "icons" .str p.icons ++
      member "nodes" (fun nodes => .arr (nodes.map Node.toJson)) p.nodes ++
      member "edges" (fun edges => .arr (edges.map Edge.toJson)) p.edges ++
      member "metadata" .obj p.metadata)).extend p.extra)

/-! ## documents -/

/-- The document with every member that the payload carries replaced, and the
members that are not known laid over its own. -/
def mergeInto (p : Payload) (w : Workflow) : Workflow where
  id := p.id.or w.id
  title := p.title.getD w.title
  version := p.version.getD w.version
  description := p.description.getD w.description
  icons := p.icons.getD w.icons
  nodes := p.nodes.getD w.nodes
  edges := p.edges.getD w.edges
  metadata := p.metadata.getD w.metadata
  extra := w.extra.extend p.extra

/-- A document as it is sent: every member, the nodes without the marks of the canvas. -/
def ofWorkflow (w : Workflow) : Payload where
  id := w.id
  title := some w.title
  version := some w.version
  description := some w.description
  icons := some w.icons
  nodes := some (w.nodes.map Node.withoutLocalState)
  edges := some w.edges
  metadata := some w.metadata
  extra := w.extra

end Payload

/-- The document that a payload stands for by itself. -/
def Workflow.ofPayload (p : Payload) : Workflow := p.mergeInto (.new "")

end WorkflowEditor
