import WorkflowEditor.Http.Url
import WorkflowEditor.Json.Parser
import WorkflowEditor.Service.Dialogue
import WorkflowEditor.Settings.Basic

/-!
# WorkflowEditor.Http.Client

The service that stores workflows, reached over HTTP.  A request becomes a
message to an address under the base address of the settings; what comes of
the message becomes the reply.  What the messages go to is any `Peer`.

* A status from 200 to 299 is success; any other is an error, see
  `ServiceError.ofStatus`.
* A body that is not JSON stands for itself, a blank one for null.
* Only the execution of a workflow may take longer than the limit on requests.
-/

namespace WorkflowEditor

namespace Http

inductive Method where
  | get
  | post
  | put
  | delete
deriving DecidableEq, Repr

def Method.name : Method → String
  | get => "GET"
  | post => "POST"
  | put => "PUT"
  | delete => "DELETE"

end Http

/-! ## requests -/

namespace Request

def method : Request → Http.Method
  | create _ => .post
  | list => .get
  | fetch _ => .get
  | update _ _ => .put
  | delete _ => .delete
  | execute _ _ => .post

/-- The path under the base address, the id as it is. -/
def path : Request → String
  | create _ | list => "/workflows"
  | fetch id | update id _ | delete id => "/workflows/" ++ id.text
  | execute id _ => "/workflows/" ++ id.text ++ "/execute"

/-- What the request is about, for errors. -/
def resource : Request → String
  | create _ | list => "workflows"
  | fetch id | update id _ | delete id | execute id _ => "workflow " ++ id.text

/-- Is the time for the request limited? -/
def isTimed : Request → Bool
  | execute _ _ => false
  | _ => true

end Request

namespace Http

/-- A message to the service. -/
structure Message where
  method : Method
  url : Url
  body : Option Json

/-- What comes of a message. -/
inductive Outcome where
  /-- it could not be sent, or the connection ended without an answer -/
  | failed (details : String)
  /-- no answer came as long as one was waited for -/
  | silent
  /-- an answer came after some milliseconds -/
  | answered (millis status : Nat) (text : String)
deriving DecidableEq, Repr

/-- What messages go to; `σ` is what the outcomes depend on. -/
abbrev Peer (σ : Type) := σ → Message → Outcome × σ

/-- The address of a request; slashes at the end of the base do not count. -/
def address (base : String) (r : Request) : String :=
  String.ofList (base.toList.reverse.dropWhile (· == '/')).reverse ++ r.path

/-- The message of a request; there is none under a base that is no address. -/
def message? (base : String) (r : Request) : Option Message :=
  (Url.parse? (address base r)).map fun url => ⟨r.method, url, r.body⟩

/-! ## answers -/

/-- The value of a body. -/
def readBody (text : String) : Json :=
  if Text.isBlankText text then .null else (Json.parse? text).getD (.str text)

/-- The result that an answer stands for. -/
def readAnswer (r : Request) (status : Nat) (text : String) : Except ServiceError Json :=
  if 200 ≤ status ∧ status < 300 then .ok (readBody text)
  else .error (.ofStatus status r.resource (readBody text))

/-- The reply to a request, with the limit for requests in milliseconds. -/
def reply (limit : Nat) (r : Request) : Outcome → Reply
  | .failed details => .answered 0 (.error (.network details))
  | .silent => if r.isTimed then .answered limit (.error .timeout) else .never
  | .answered millis status text =>
      if r.isTimed ∧ limit < millis then .answered limit (.error .timeout)
      else .answered millis (readAnswer r status text)

/-- The reply to a request that has no address. -/
def unsendable : Reply := .answered 0 (.error (.network "builder error"))

/-- The service at a peer. -/
def service (settings : Settings) (peer : Peer σ) : Service σ := fun s r =>
  match message? settings.baseUrl r with
  | none => (unsendable, s)
  | some m =>
      let (outcome, s) := peer s m
      (reply (settings.requestTimeoutSecs * 1000) r outcome, s)

/-- Nothing answers here. -/
def unreachable : Peer σ := fun s _ => (.failed "connection refused", s)

end Http

end WorkflowEditor
