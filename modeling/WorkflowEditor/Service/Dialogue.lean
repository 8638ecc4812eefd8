import WorkflowEditor.Run.State
import WorkflowEditor.Workflow.Payload

/-!
# WorkflowEditor.Service.Dialogue

Exchanges with the service that stores workflows.  What the editor does is a
`Dialogue`: it ends with a value, asks a request and goes on with the reply, or
announces the state of a run.  A service is any way to answer requests that may
change with every request; `Dialogue.run` lets a dialogue take place with one.

* `run_bind` — one dialogue after another takes place as the two in a row.
-/

namespace WorkflowEditor

/-! ## requests and replies -/

/-- A request to the service. -/
inductive Request where
  | create (payload : Payload)
  | list
  | fetch (id : WorkflowId)
  | update (id : WorkflowId) (payload : Payload)
  | delete (id : WorkflowId)
  | execute (id : WorkflowId) (input : String)

namespace Request

/-- The request in words. -/
def name : Request → String
  | create _ => "create"
  | list => "list"
  | fetch id => "fetch " ++ id.text
  | update id _ => "update " ++ id.text
  | delete id => "delete " ++ id.text
  | execute id _ => "execute " ++ id.text

/-- What the request sends along, if anything. -/
def body : Request → Option Json
  | create payload => some payload.toJson
  | update _ payload => some payload.toJson
  | execute _ input => some (.object [("input", .str input)])
  | list | fetch _ | delete _ => none

end Request

/-- What becomes of a request: it is answered after some milliseconds, or never. -/
inductive Reply where
  | answered (millis : Nat) (result : Except ServiceError Json)
  | never

namespace Reply

/-- What was answered; no answer at all counts as one that did not come in time. -/
def result : Reply → Except ServiceError Json
  | answered _ result => result
  | never => .error .timeout

/-- Did a deadline pass before the answer? -/
def isLate (deadline : Nat) : Reply → Bool
  | answered millis _ => deadline < millis
  | never => true

end Reply

/-! ## dialogues -/

/-- What the editor does with the service until it has a value. -/
inductive Dialogue (α : Type) where
  | done (value : α)
  | ask (request : Request) (next : Reply → Dialogue α)
  | announce (state : RunState) (next : Dialogue α)

/-- What an observer of a dialogue sees. -/
inductive Event where
  | asked (request : Request) (reply : Reply)
  | announced (state : RunState)

/-- A way to answer requests; `σ` is what the answers depend on. -/
abbrev Service (σ : Type) := σ → Request → Reply × σ

namespace Dialogue

/-- One dialogue, and then the one its value leads to. -/
def bind (d : Dialogue α) (f : α → Dialogue β) : Dialogue β :=
  match d with
  | done a => f a
  | ask request next => ask request fun reply => bind (next reply) f
  | announce state next => announce state (bind next f)

instance : Monad Dialogue where
  pure := done
  bind := bind

/-- What a dialogue comes to with a service: its value, what happened in
order, and the service afterwards. -/
def run (d : Dialogue α) (serve : Service σ) (s : σ) : α × List Event × σ :=
  match d with
  | done a => (a, [], s)
  | ask request next =>
      let (reply, s) := serve s request
      let (a, events, s) := run (next reply) serve s
      (a, .asked request reply :: events, s)
  | announce state next =>
      let (a, events, s) := run next serve s
      (a, .announced state :: events, s)

/-- One dialogue after another takes place as the two in a row. -/
theorem run_bind (d : Dialogue α) (f : α → Dialogue β) (serve : Service σ) (s : σ) :
    (d.bind f).run serve s =
      let (a, before, s) := d.run serve s
      let (b, after, s) := (f a).run serve s
      (b, before ++ after, s) := by
  induction d generalizing s with
  | done a => rfl
  | ask request next ih => simp [bind, run, ih]
  | announce state next ih => simp [bind, run, ih]

end Dialogue

/-! ## what an observer sees -/

namespace Event

/-- The requests in order. -/
def requests : List Event → List Request
  | [] => []
  | asked request _ :: rest => request :: requests rest
  | announced _ :: rest => requests rest

/-- The announced states in order. -/
def states : List Event → List RunState
  | [] => []
  | asked _ _ :: rest => states rest
  | announced state :: rest => state :: states rest

/-- The requests in order, each with the state of the run when it was asked;
`state` is where the run stood before. -/
def requestsAt (state : RunState) : List Event → List (Request × RunState)
  | [] => []
  | asked request _ :: rest => (request, state) :: requestsAt state rest
  | announced state :: rest => requestsAt state rest

end Event

/-! ## a service that answers from a list -/

namespace Service

/-- Answers with the replies of a list in order, and with null when they are used up. -/
def scripted : Service (List Reply)
  | [], _ => (.answered 0 (.ok .null), [])
  | reply :: rest, _ => (reply, rest)

end Service

end WorkflowEditor
