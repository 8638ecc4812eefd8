import WorkflowEditor.Json.Reading
import WorkflowEditor.Stamp
import WorkflowEditor.Text.Blank

/-!
# WorkflowEditor.Id

Identifiers.  A workflow's id is assigned by the service that stores it; ids
of nodes and edges are minted here from a stamp that is never handed out
twice.  Ids that come from outside are taken as they are; only ids that a
person types are trimmed and must not be empty (`Id.ofText`).
-/

namespace WorkflowEditor

/-- What an identifier names. -/
inductive Subject where
  | workflow
  | node
  | edge
deriving DecidableEq, Repr

/-- The identifier of a thing of one kind. -/
structure Id (subject : Subject) where
  text : String
deriving DecidableEq, Repr

abbrev WorkflowId := Id .workflow
abbrev NodeId := Id .node
abbrev EdgeId := Id .edge

/-- A text that is no identifier: it is blank. -/
structure BlankId where
  subject : Subject
deriving DecidableEq, Repr

def Subject.idName : Subject → String
  | workflow => "WorkflowId"
  | node => "NodeId"
  | edge => "EdgeId"

def BlankId.message (e : BlankId) : String :=
  "failed to parse " ++ e.subject.idName ++ ": identifier is empty"

namespace Id

/-- The identifier a person typed: trimmed, and not empty. -/
def ofText (subject : Subject) (s : String) : Except BlankId (Id subject) :=
  let trimmed := Text.trim s
  if trimmed.isEmpty then .error ⟨subject⟩ else .ok ⟨trimmed⟩

def toJson (id : Id subject) : Json := .str id.text

def ofJson (v : Json) : Except ReadError (Id subject) := v.asString.map Id.mk

/-- Identifiers in the order of their texts, by code points; equal ones keep their order. -/
def sort (ids : List (Id subject)) : List (Id subject) :=
  ids.mergeSort fun a b => decide (a.text ≤ b.text)

end Id

/-- The id of a new node of a type. -/
def NodeId.mint (typeId : String) (stamp : Stamp) : NodeId := ⟨typeId ++ "-" ++ stamp.text⟩

end WorkflowEditor
