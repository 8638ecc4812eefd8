import WorkflowEditor.Graph.Basic
import WorkflowEditor.Instant

/-!
# WorkflowEditor.Workflow.Basic

Workflow documents: what the service stores.  A document that the service has
not stored yet has no id.  Members that are not known are kept in `extra`; the
service's timestamps are among them.
-/

namespace WorkflowEditor

/-- A workflow document. -/
structure Workflow where
  id : Option WorkflowId
  title : String
  version : String
  description : String
  icons : String
  nodes : List Node
  edges : List Edge
  metadata : Fields
  extra : Fields
deriving Repr

/-- A line in a list of workflows. -/
structure Summary where
  id : Option WorkflowId
  title : String
  version : String
  description : String
  nodeCount : Nat
  edgeCount : Nat
  updatedAt : Option Instant
deriving DecidableEq, Repr

namespace Workflow

/-- The version of a new document. -/
def firstVersion : String := "1.0.0"

/-- An empty document that is not stored yet. -/
def new (title : String) : Workflow where
  id := none
  title := title
  version := firstVersion
  description := ""
  icons := ""
  nodes := []
  edges := []
  metadata := []
  extra := []

def graph (w : Workflow) : Graph := ⟨w.nodes, w.edges⟩

/-- The document with another graph. -/
def withGraph (w : Workflow) (g : Graph) : Workflow := { w with nodes := g.nodes, edges := g.edges }

/-- A timestamp among the members that are not known; nothing if it is not a
text that names a point in time. -/
def timestamp? (w : Workflow) (key : String) : Option Instant :=
  ((w.extra.get? key).bind Json.string?).bind Instant.ofText?

def createdAt (w : Workflow) : Option Instant := w.timestamp? "createdAt"

def updatedAt (w : Workflow) : Option Instant := w.timestamp? "updatedAt"

def summary (w : Workflow) : Summary where
  id := w.id
  title := w.title
  version := w.version
  description := w.description
  nodeCount := w.nodes.length
  edgeCount := w.edges.length
  updatedAt := w.updatedAt

end Workflow

end WorkflowEditor
