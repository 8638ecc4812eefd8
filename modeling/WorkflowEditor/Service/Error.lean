import WorkflowEditor.Json.Basic
import WorkflowEditor.Text.Blank

/-!
# WorkflowEditor.Service.Error

Why a request to the service that stores workflows fails.
-/

namespace WorkflowEditor

inductive ServiceError where
  /-- no answer came -/
  | network (details : String)
  /-- no answer came in time -/
  | timeout
  | notFound (resource : String)
  /-- the service finds fault with the request -/
  | validation (status : Nat) (message : String)
  | server (status : Nat) (message : String)
  /-- the answer cannot be read -/
  | malformed (details : String)
deriving DecidableEq, Repr

namespace ServiceError

/-- The members of an error body that may hold its message, the first to be looked at first. -/
def messageKeys : List String := ["message", "error"]

/-- The first message of an error body that is a text and not blank, else a
text that names the status. -/
def serverMessage (status : Nat) (body : Json) : String :=
  match (messageKeys.filterMap fun key => (body.get? key).bind Json.string?).find?
      fun s => !Text.isBlankText s with
  | some s => s
  | none => "server error: " ++ toString status

/-- The error that a status other than success stands for. -/
def ofStatus (status : Nat) (resource : String) (body : Json) : ServiceError :=
  if status = 404 then notFound resource
  else if status = 400 ∨ status = 422 then validation status (serverMessage status body)
  else server status (serverMessage status body)

def message : ServiceError → String
  | network details => "network error: " ++ details
  | timeout => "request timed out"
  | notFound resource => "not found: " ++ resource
  | validation status text => "rejected by server (" ++ toString status ++ "): " ++ text
  | server status text => "server returned " ++ toString status ++ ": " ++ text
  | malformed details => "malformed response: " ++ details

/-- The error message of an answer is never blank. -/
theorem isBlankText_serverMessage (status : Nat) (body : Json) :
    Text.isBlankText (serverMessage status body) = false := by
  unfold serverMessage
  split
  · next h => simpa using List.find?_some h
  · simp [Text.isBlankText, Text.isBlank, Text.inRanges, Text.blankRanges]

end ServiceError

end WorkflowEditor
