import WorkflowEditor.Repository
import WorkflowEditor.Service.History

/-!
# WorkflowEditor.Repository.History

Operations on a repository as values, so that a history is a list of them.
-/

namespace WorkflowEditor.Repository

/-- An operation on a repository. -/
inductive Operation where
  | create (workflow : Workflow)
  | fetch (id : WorkflowId)
  | list
  | delete (id : WorkflowId)
  | save (id : WorkflowId) (workflow : Workflow)
  | saveForGeneration (id : WorkflowId) (workflow : Workflow)

/-- What an operation comes to. -/
inductive Outcome where
  | created (id : WorkflowId)
  | fetched (workflow : Workflow)
  | listed (workflows : List Summary)
  | deleted
  | saved (workflow : Workflow)
  | generated (product : Json)
  | failed (error : ServiceError)

/-- Carries out an operation. -/
def Operation.perform (r : Repository) : Operation → Dialogue (Outcome × Repository)
  | create w => (r.create w).report .created .failed
  | fetch id => (r.fetch id).report .fetched .failed
  | list => r.list.report .listed .failed
  | delete id => (r.delete id).report (fun _ => .deleted) .failed
  | save id w => (r.save id w).report .saved .failed
  | saveForGeneration id w => (r.saveForGeneration id w).report .generated .failed

/-- Carries out operations one after the other. -/
def history (r : Repository) (operations : List Operation) : Dialogue (List Outcome × Repository) :=
  Dialogue.history Operation.perform r operations

end WorkflowEditor.Repository
