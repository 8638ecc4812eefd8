import WorkflowEditor.Service.History
import WorkflowEditor.Session

/-!
# WorkflowEditor.Session.History

What a person does in a session as values, so that a history is a list of
operations: exchanges with the service, edits of the graph, and changes made to
the document by hand.
-/

namespace WorkflowEditor.Session

/-- An operation in a session. -/
inductive Operation where
  | openWorkflow (id : WorkflowId)
  | newWorkflow (title description : String)
  | save
  | run (input : String)
  | delete
  | list
  | edit (edit : Edit)
  | revise (change : Workflow → Workflow)

/-- What an operation comes to. -/
inductive Outcome where
  | opened
  | stored (id : WorkflowId)
  | ran (state : RunState)
  | deleted (any : Bool)
  | listed (workflows : List Summary)
  | edited (answer : Answer)
  | revised
  | failed (error : ServiceError)

/-- Changes the document by hand. -/
def revise (s : Session) (change : Workflow → Workflow) : Session :=
  { s with document := change s.document }

/-- Carries out an operation. -/
def Operation.perform (s : Session) : Operation → Dialogue (Outcome × Session)
  | openWorkflow id => (s.openWorkflow id).report (fun _ => .opened) .failed
  | newWorkflow title description => (s.newWorkflow title description).report .stored .failed
  | save => s.save.report .stored .failed
  | run input => (s.run input).bind fun (state, s) => .done (.ran state, s)
  | delete => s.delete.report .deleted .failed
  | list => s.list.report .listed .failed
  | edit e => let (answer, s) := s.edit e; .done (.edited answer, s)
  | revise change => .done (.revised, s.revise change)

/-- Carries out operations one after the other. -/
def history (s : Session) (operations : List Operation) : Dialogue (List Outcome × Session) :=
  Dialogue.history Operation.perform s operations

end WorkflowEditor.Session
