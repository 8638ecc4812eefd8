import WorkflowEditor.Settings.Environment
import WorkflowEditor.Settings.File

/-!
# WorkflowEditor.Settings.Basic

The settings of the client: where the service is and how long it may take.
They come from a file, if one is named, and from the environment, which
overrides the file; what neither gives has a default.
-/

namespace WorkflowEditor

structure Settings where
  /-- the address of the service's interface -/
  baseUrl : String := "http://localhost:8004/api"
  /-- how long a request may take that does not execute a workflow -/
  requestTimeoutSecs : Nat := 30
  /-- how long the result of an execution is waited for -/
  executeTimeoutSecs : Nat := 60
deriving DecidableEq, Repr

namespace Settings

/-- How long the result of an execution is waited for, in milliseconds. -/
def deadline (s : Settings) : Nat := s.executeTimeoutSecs * 1000

/-- The setting that the last entry for a key gives, else the default. -/
def setting (entries : List Entry) (key : String) (default : α) (take? : Value → Option α) :
    Except Fault α :=
  match entries.reverse.find? fun e => e.key == key with
  | none => .ok default
  | some e =>
      match take? e.value with
      | some a => .ok a
      | none => .error (.wrongType key)

/-- The settings of entries, of which the last for a key counts. -/
def ofEntries (entries : List Entry) : Except Fault Settings := do
  let default : Settings := {}
  return {
    baseUrl := ← setting entries "base_url" default.baseUrl Value.toText?
    requestTimeoutSecs :=
      ← setting entries "request_timeout_secs" default.requestTimeoutSecs Value.toSeconds?
    executeTimeoutSecs :=
      ← setting entries "execute_timeout_secs" default.executeTimeoutSecs Value.toSeconds? }

/-- The settings of a file, if one is named, and of the variables of the
environment; `contents` tells the content of every file there is. -/
def load (contents : String → Option String) (path : Option String)
    (environment : List (String × String)) : Except Fault Settings := do
  let fromFile ← match path with
    | some path => fileEntries contents path
    | none => pure []
  ofEntries (fromFile ++ Environment.entries environment)

end Settings

end WorkflowEditor
