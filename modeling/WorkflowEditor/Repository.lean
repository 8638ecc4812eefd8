import WorkflowEditor.Service.Dialogue
import WorkflowEditor.Service.Envelope

/-!
# WorkflowEditor.Repository

The workflows that are stored with the service, and the copies of them that
were seen last.  An operation is a dialogue that ends with a result and the
repository afterwards; after an error the repository is the one before.

How a reply is read is said apart from the dialogues (`created`, `fetched`,
`listed`, `saved`).
-/

namespace WorkflowEditor

/-- The copies of stored workflows that were seen last. -/
structure Repository where
  copies : List (WorkflowId × Workflow)

namespace Repository

def empty : Repository := ⟨[]⟩

/-! ## copies -/

/-- The copy of a workflow that was seen last. -/
def cached? (r : Repository) (id : WorkflowId) : Option Workflow :=
  (r.copies.find? fun c => c.1 == id).map (·.2)

/-- Forgets the copy of a workflow. -/
def forget (r : Repository) (id : WorkflowId) : Repository :=
  ⟨r.copies.filter fun c => c.1 != id⟩

/-- Keeps a copy in place of any earlier one. -/
def keep (r : Repository) (id : WorkflowId) (w : Workflow) : Repository :=
  ⟨(id, w) :: (r.forget id).copies⟩

theorem cached?_forget (r : Repository) (id other : WorkflowId) :
    (r.forget id).cached? other = if id = other then none else r.cached? other := by
  obtain ⟨copies⟩ := r
  simp only [cached?, forget]
  induction copies with
  | nil => simp
  | cons c rest ih => grind

theorem cached?_keep (r : Repository) (id : WorkflowId) (w : Workflow) (other : WorkflowId) :
    (r.keep id w).cached? other = if id = other then some w else r.cached? other := by
  have h := r.cached?_forget id other
  simp only [cached?, keep, List.find?_cons] at h ⊢
  grind

/-! ## replies -/

/-- The payload in a reply. -/
def readPayload (v : Json) : Except ServiceError Payload :=
  match v with
  | .obj _ => (Payload.ofJson v).mapError fun e => .malformed e.message
  | _ => .error (.malformed "expected a workflow object")

/-- The document that was sent, with the reply to its creation merged over it;
it must have an id then. -/
def created (w : Workflow) (body : Json) : Except ServiceError (WorkflowId × Workflow) := do
  let stored := (← readPayload (Envelope.unwrap body)).mergeInto w
  match stored.id with
  | some id => return (id, stored)
  | none => throw (.malformed "create response carries no workflow id")

/-- The document in a reply; one that does not name its id has the id it was asked for by. -/
def fetched (id : WorkflowId) (body : Json) : Except ServiceError Workflow := do
  let w := Workflow.ofPayload (← readPayload (Envelope.unwrap body))
  return { w with id := w.id.or (some id) }

/-- The summaries of all documents in a reply. -/
def listed (body : Json) : Except ServiceError (List Summary) :=
  match Envelope.unwrap body with
  | .arr items => items.mapM fun v => return (Workflow.ofPayload (← readPayload v)).summary
  | _ => throw (.malformed "expected a list of workflows")

/-- The document that was sent, with the reply merged over it if that is a document. -/
def saved (id : WorkflowId) (w : Workflow) (body : Json) : Except ServiceError Workflow := do
  let sent := { w with id := some id }
  let reply := Envelope.unwrap body
  if Payload.isDocument reply then return (← readPayload reply).mergeInto sent else return sent

/-! ## operations -/

/-- Sends a request; what is accepted of the reply may change the repository. -/
def exchange (r : Repository) (request : Request)
    (accept : Json → Except ServiceError (α × Repository)) :
    Dialogue (Except ServiceError α × Repository) :=
  .ask request fun reply => .done <|
    match reply.result.bind accept with
    | .ok (a, r) => (.ok a, r)
    | .error e => (.error e, r)

/-- Stores a document for the first time; the service assigns the id. -/
def create (r : Repository) (w : Workflow) :
    Dialogue (Except ServiceError WorkflowId × Repository) :=
  r.exchange (.create (.ofWorkflow w)) fun body => do
    let (id, stored) ← created w body
    return (id, r.keep id stored)

/-- Fetches a document. -/
def fetch (r : Repository) (id : WorkflowId) :
    Dialogue (Except ServiceError Workflow × Repository) :=
  r.exchange (.fetch id) fun body => do
    let w ← fetched id body
    return (w, r.keep id w)

/-- Lists all documents. -/
def list (r : Repository) : Dialogue (Except ServiceError (List Summary) × Repository) :=
  r.exchange .list fun body => return (← listed body, r)

/-- Deletes a document, whatever the body of the reply. -/
def delete (r : Repository) (id : WorkflowId) :
    Dialogue (Except ServiceError Unit × Repository) :=
  r.exchange (.delete id) fun _ => return ((), r.forget id)

/-- Stores a document again under its id. -/
def save (r : Repository) (id : WorkflowId) (w : Workflow) :
    Dialogue (Except ServiceError Workflow × Repository) :=
  r.exchange (.update id (.ofWorkflow w)) fun body => do
    let w ← saved id w body
    return (w, r.keep id w)

/-- Stores a document again for the sake of what the service makes from it. -/
def saveForGeneration (r : Repository) (id : WorkflowId) (w : Workflow) :
    Dialogue (Except ServiceError Json × Repository) :=
  r.exchange (.update id (.ofWorkflow w)) fun body =>
    return (Envelope.unwrap body, r.keep id { w with id := some id })

end Repository

end WorkflowEditor
