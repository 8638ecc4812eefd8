import WorkflowEditor.Repository

/-!
# WorkflowEditor.Run.Sequence

A run: the workflow is saved under its id and then executed.  Every state the
run passes through is announced.  An execution that is not answered before the
deadline fails here, though the service may go on with it.
-/

namespace WorkflowEditor.Repository

/-- The state that the reply to an execution leads to. -/
def executed (deadline : Nat) (reply : Reply) : RunState :=
  if reply.isLate deadline then .failed (.timeout deadline)
  else
    match reply.result with
    | .ok body => .completed (Envelope.executionContent body)
    | .error e => .failed (.ofServiceError e)

/-- Announces the last state of a run. -/
def conclude (r : Repository) (state : RunState) : Dialogue (RunState × Repository) :=
  .announce state (.done (state, r))

/-- Executes a workflow that is saved. -/
def execute (r : Repository) (deadline : Nat) (id : WorkflowId) (input : String) :
    Dialogue (RunState × Repository) :=
  .announce .executing <| .ask (.execute id input) fun reply => r.conclude (executed deadline reply)

/-- Saves and executes a workflow; one without an id is refused. -/
def run (r : Repository) (deadline : Nat) (id : Option WorkflowId) (w : Workflow)
    (input : String) : Dialogue (RunState × Repository) :=
  .announce .idle <|
    match id with
    | none => r.conclude (.failed .missingId)
    | some id =>
        .announce .saving <| (r.save id w).bind fun
          | (.error e, r) => r.conclude (.failed (.save e))
          | (.ok _, r) => r.execute deadline id input

end WorkflowEditor.Repository
