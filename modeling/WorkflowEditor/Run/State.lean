import WorkflowEditor.Service.Error

/-!
# WorkflowEditor.Run.State

The states of a run, and why a run fails.  A run saves its workflow and then
executes it; it ends completed or failed.
-/

namespace WorkflowEditor

/-- Why a run fails. -/
inductive RunFailure where
  /-- the workflow is not stored yet -/
  | missingId
  /-- the workflow could not be saved -/
  | save (error : ServiceError)
  /-- no result came in time, `millis` being the time it had; zero if it is not known -/
  | timeout (millis : Nat)
  | http (status : Nat) (message : String)
  | notFound
  | noResponse (details : String)
  | unknown (details : String)
deriving DecidableEq, Repr

namespace RunFailure

/-- The failure of a run whose execution ends in an error of the service. -/
def ofServiceError : ServiceError → RunFailure
  | .network details => noResponse details
  | .timeout => timeout 0
  | .notFound _ => notFound
  | .validation status message => http status message
  | .server status message => http status message
  | .malformed details => unknown details

def message : RunFailure → String
  | missingId => "workflow must be saved before it can run"
  | save error => "failed to save workflow: " ++ error.message
  | timeout 0 => "execution timed out"
  | timeout millis => "execution timed out after " ++ toString (millis / 1000) ++ "s"
  | http status text => "execution failed (" ++ toString status ++ "): " ++ text
  | notFound => "workflow not found"
  | noResponse details => "no response from server: " ++ details
  | unknown details => "execution failed: " ++ details

end RunFailure

/-- Where a run stands. -/
inductive RunState where
  | idle
  | saving
  | executing
  | completed (content : String)
  | failed (failure : RunFailure)
deriving DecidableEq, Repr

namespace RunState

def name : RunState → String
  | idle => "idle"
  | saving => "saving"
  | executing => "executing"
  | completed _ => "completed"
  | failed _ => "failed"

/-- Did a run that ended here save its workflow? -/
def isSaved : RunState → Bool
  | failed .missingId => false
  | failed (.save _) => false
  | _ => true

end RunState

end WorkflowEditor
