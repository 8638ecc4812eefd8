import WorkflowEditor.Graph.Store
import WorkflowEditor.Run.Sequence

/-!
# WorkflowEditor.Session

An editing session: one document and the store in which its graph is edited.
The document's own graph is the one of the last load or save.

Opening, creating, saving and running take over the server's copy of the
document; the store is loaded with its graph, after a save only if that differs
from the graph being edited.  After an error document and store are the ones
before.
-/

namespace WorkflowEditor

/-- A document being edited. -/
structure Session where
  document : Workflow
  store : Store
  repository : Repository
  /-- how long an execution may take, in milliseconds -/
  deadline : Nat
  runState : RunState

namespace Session

/-- The title of a document before one is opened or created. -/
def untitled : String := "Untitled Workflow"

/-- A session with an empty document. -/
def new (deadline : Nat) : Session := ⟨.new untitled, .new, .empty, deadline, .idle⟩

/-- The document with the graph as it is edited. -/
def outgoing (s : Session) : Workflow := s.document.withGraph s.store.graph

/-- Makes an edit of the graph. -/
def edit (s : Session) (e : Edit) : Answer × Session :=
  let (answer, store) := s.store.apply e
  (answer, { s with store := store })

/-! ## taking over a document -/

/-- Takes over a document, and its graph. -/
def load (s : Session) (w : Workflow) : Session :=
  { s with document := w, store := s.store.load w.nodes w.edges }

/-- Takes over the copy of a save, and its graph if that differs from the one being edited. -/
def adopt (s : Session) (w : Workflow) : Session :=
  if w.graph.same s.store.graph then { s with document := w } else s.load w

/-! ## operations -/

/-- Opens a stored document. -/
def openWorkflow (s : Session) (id : WorkflowId) : Dialogue (Except ServiceError Unit × Session) :=
  (s.repository.fetch id).bind fun (result, r) =>
    let s := { s with repository := r }
    match result with
    | .ok w => .done (.ok (), s.load w)
    | .error e => .done (.error e, s)

/-- Stores a new, empty document and starts editing it. -/
def newWorkflow (s : Session) (title description : String) :
    Dialogue (Except ServiceError WorkflowId × Session) :=
  let draft := { Workflow.new title with description := description }
  (s.repository.create draft).bind fun (result, r) =>
    let s := { s with repository := r }
    match result with
    | .ok id => .done (.ok id, s.load ((r.cached? id).getD { draft with id := some id }))
    | .error e => .done (.error e, s)

/-- The id to save a document under; one without an id is stored for the first time. -/
def ensureId (s : Session) (w : Workflow) :
    Dialogue (Except ServiceError WorkflowId × Repository) :=
  match w.id with
  | some id => .done (.ok id, s.repository)
  | none => s.repository.create w

/-- Saves the graph as it is edited. -/
def save (s : Session) : Dialogue (Except ServiceError WorkflowId × Session) :=
  let w := s.outgoing
  (s.ensureId w).bind fun (result, r) =>
    match result with
    | .error e => .done (.error e, { s with repository := r })
    | .ok id =>
        (r.save id w).bind fun (result, r) =>
          let s := { s with repository := r }
          match result with
          | .ok copy => .done (.ok id, s.adopt copy)
          | .error e => .done (.error e, s)

/-- Saves and executes the workflow; once it is saved its copy is taken over. -/
def run (s : Session) (input : String) : Dialogue (RunState × Session) :=
  let w := s.outgoing
  (s.repository.run s.deadline w.id w input).bind fun (state, r) =>
    let s := { s with repository := r, runState := state }
    match (w.id.filter fun _ => state.isSaved).bind r.cached? with
    | some copy => .done (state, s.adopt copy)
    | none => .done (state, s)

/-- Deletes the document and starts an empty one.  A document that was never
stored is left alone. -/
def delete (s : Session) : Dialogue (Except ServiceError Bool × Session) :=
  match s.document.id with
  | none => .done (.ok false, s)
  | some id =>
      (s.repository.delete id).bind fun (result, r) =>
        let s := { s with repository := r }
        match result with
        | .ok () =>
            let store := (s.store.apply .reset).2
            .done (.ok true, { s with document := .new untitled, store := store })
        | .error e => .done (.error e, s)

/-- Lists the stored documents. -/
def list (s : Session) : Dialogue (Except ServiceError (List Summary) × Session) :=
  (s.repository.list).bind fun (result, r) => .done (result, { s with repository := r })

end Session

end WorkflowEditor
