import WorkflowEditor.Proofs.Session.Course

/-!
# WorkflowEditor.Proofs.Session.Creation

How often a session stores its document for the first time.  A save creates a
document that has no id and then updates it.  If the update fails, the document
is left as it was, still without an id, and the next save creates it again; a
save that succeeds leaves an id, and nothing is created after it.

* `Step.cases_of_keeps` — what a step creates that does not replace the document;
* `creates_once` — of two saves that create, the first one failed in its update;
* `creates_twice` — and then there are two documents with the service.
-/

namespace WorkflowEditor

/-- The id in a reply to a creation, if it can be read and carries one. -/
def Reply.assigned? (reply : Reply) : Option WorkflowId :=
  (reply.read fun body => Repository.readPayload (Envelope.unwrap body)).toOption.bind Payload.id

/-- The id under which a document is stored for the first time. -/
def Event.created? : Event → Option WorkflowId
  | asked (.create _) reply => reply.assigned?
  | _ => none

/-- A document without an id is created under the id in the reply. -/
theorem Reply.assigned?_eq {reply : Reply} {w : Workflow} (hid : w.id = none) :
    reply.assigned? = (reply.read (Repository.created w)).toOption.map Prod.fst := by
  rw [assigned?, read, read]
  cases reply.result with
  | error e => rfl
  | ok body =>
      simp only [Except.bind, Repository.created]
      cases Repository.readPayload (Envelope.unwrap body) with
      | error e => rfl
      | ok p =>
          have hmerged : (p.mergeInto w).id = p.id := by simp [Payload.mergeInto, hid]
          simp only [bind, Except.bind, hmerged, Except.toOption, Option.bind_some]
          cases p.id with
          | none => rfl
          | some id => rfl

theorem Reply.assigned?_of_created {reply : Reply} {w stored : Workflow} {id : WorkflowId}
    (h : reply.read (Repository.created w) = .ok (id, stored)) (hid : w.id = none) :
    reply.assigned? = some id := by
  rw [assigned?_eq hid, h]
  rfl

theorem Reply.assigned?_of_not_created {reply : Reply} {w : Workflow} {e : ServiceError}
    (h : reply.read (Repository.created w) = .error e) (hid : w.id = none) :
    reply.assigned? = none := by
  rw [assigned?_eq hid, h]
  rfl

namespace Session

/-- The document has an id. -/
def IsStored (s : Session) : Prop := s.document.id.isSome = true

/-- A save leaves a document that has an id. -/
theorem isStored_adoptAs (s : Session) {reply : Reply} {w copy : Workflow} {id : WorkflowId}
    (h : reply.read (Repository.saved id w) = .ok copy) : (s.adoptAs id copy).IsStored := by
  obtain ⟨body, -, hcopy⟩ := Reply.read_eq_ok_iff.mp h
  rw [IsStored, document_adoptAs]
  exact Repository.isSome_id_of_saved hcopy

namespace Step

/-- The ids under which a step stores documents for the first time. -/
def created (x : Step) : List WorkflowId := x.events.filterMap Event.created?

/-- Is the document another one after the step?  It is when one was opened,
started or deleted, or when its id was changed by hand. -/
def Replaces (x : Step) : Prop :=
  match x.operation, x.outcome with
  | .openWorkflow _, .opened => True
  | .newWorkflow _ _, .stored _ => True
  | .delete, .deleted true => True
  | .revise _, _ => x.after.document.id ≠ x.before.document.id
  | _, _ => False

/-- A save that creates a document and cannot update it: it fails, and leaves
the document as it was, still without an id. -/
structure Abandons (x : Step) : Prop where
  operation : x.operation = .save
  update_fails : ∃ id first second e,
    x.events = [.asked (.create (.ofWorkflow x.before.outgoing)) first,
      .asked (.update id (.ofWorkflow x.before.outgoing)) second] ∧
    first.assigned? = some id ∧
    second.read (Repository.saved id x.before.outgoing) = .error e ∧ x.outcome = .failed e
  document : x.after.document = x.before.document
  unstored : x.after.document.id = none

/-! ## one step -/

/-- A save replaces no document. -/
theorem not_replaces_of_save {x : Step} (h : x.operation = .save) : ¬x.Replaces := by
  rw [Replaces, h]
  exact id

/-- What a step creates that does not replace the document: nothing, and then an
id stays; or one document, which has its id then unless it is abandoned. -/
theorem cases_of_keeps (x : Step) (h : ¬x.Replaces) :
    (x.created = [] ∧ (x.before.IsStored → x.after.IsStored)) ∨
      (x.before.document.id = none ∧ x.created.length = 1 ∧ (x.after.IsStored ∨ x.Abandons)) := by
  obtain ⟨⟨s, o, outcome, events, after⟩, effect⟩ := x
  change Effect s o outcome events after at effect
  cases effect with
  | opened | created | deleted => exact (h trivial).elim
  | revised =>
      have hkept := not_not.mp h
      exact .inl ⟨rfl, fun hsome => (congrArg Option.isSome hkept).trans hsome⟩
  | notCreated read =>
      have hnone := Reply.assigned?_of_not_created read rfl
      exact .inl ⟨by simp [created, Event.created?, hnone], id⟩
  | saved _ read =>
      exact .inl ⟨rfl, fun _ => s.isStored_adoptAs read⟩
  | savedFirst unstored create update =>
      have hassigned := Reply.assigned?_of_created create unstored
      exact .inr ⟨unstored, by simp [created, Event.created?, hassigned],
        .inl (isStored_adoptAs _ update)⟩
  | createdNotSaved unstored create update =>
      have hassigned := Reply.assigned?_of_created create unstored
      exact .inr ⟨unstored, by simp [created, Event.created?, hassigned],
        .inr ⟨rfl, ⟨_, _, _, _, rfl, hassigned, update, rfl⟩, rfl, unstored⟩⟩
  | notSavedFirst unstored create =>
      have hnone := Reply.assigned?_of_not_created create unstored
      exact .inl ⟨by simp [created, Event.created?, hnone], id⟩
  | ran _ read =>
      exact .inl ⟨rfl, fun _ => s.isStored_adoptAs read⟩
  | notOpened | notDeleted | nothingToDelete | listed | notListed | edited | notSaved | notRan |
      refusedRun => exact .inl ⟨rfl, id⟩

end Step

/-! ## every step -/

variable {s : Session} {serve : Service σ} {t : σ} {operations : List Operation}

/-- Once the document has an id, nothing is created any more. -/
theorem created_of_course (hstored : s.IsStored)
    (hkeeps : ∀ x ∈ s.course serve t operations, ¬x.Replaces) :
    ∀ x ∈ s.course serve t operations, x.created = [] := by
  have hstep (x : Step) (h : ¬x.Replaces) (hbefore : x.before.IsStored) :
      x.created = [] ∧ x.after.IsStored := by
    obtain ⟨hnone, hafter⟩ | ⟨hunstored, -, -⟩ := x.cases_of_keeps h
    · exact ⟨hnone, hafter hbefore⟩
    · rw [IsStored, hunstored] at hbefore
      exact nomatch hbefore
  have hids := s.forall_course serve t hstored hkeeps fun x h hbefore => (hstep x h hbefore).2
  exact fun x hx => (hstep x (hkeeps x hx) (hids x hx).1).1

/-- **A document is created once**, but for saves that fail after they created
it.  While the document is not replaced, no operation creates more than one, and
of two that do so the first is a save whose update failed, which left the
document without an id. -/
theorem creates_once {s : Session} {operations : List Operation} {σ : Type} {serve : Service σ}
    {t : σ} (hkeeps : ∀ x ∈ s.course serve t operations, ¬x.Replaces) :
    (∀ x ∈ s.course serve t operations, x.created.length ≤ 1) ∧
      (s.course serve t operations).Pairwise fun earlier later =>
        earlier.created ≠ [] → later.created ≠ [] → earlier.Abandons := by
  refine ⟨fun x hx => ?_, ?_⟩
  · obtain ⟨hnone, -⟩ | ⟨-, hone, -⟩ := x.cases_of_keeps (hkeeps x hx)
    · rw [hnone]
      exact Nat.zero_le 1
    · exact Nat.le_of_eq hone
  · induction operations generalizing s t with
    | nil => exact List.Pairwise.nil
    | cons o rest ih =>
        rw [course_cons, List.forall_mem_cons] at hkeeps
        obtain ⟨hfirst, hrest⟩ := hkeeps
        rw [course_cons, List.pairwise_cons]
        refine ⟨fun later hlater hcreated hagain => ?_, ih hrest⟩
        obtain ⟨hnone, -⟩ | ⟨-, -, hstored | habandons⟩ := (s.step serve t o).cases_of_keeps hfirst
        · exact (hcreated hnone).elim
        · -- the first step has left an id, under which nothing is created
          exact (hagain (created_of_course hstored hrest later hlater)).elim
        · exact habandons

/-- The service creates the document and fails to update it; the next save
creates it again, and neither of the two replaces the document. -/
theorem creates_twice :
    let reply (key id : String) := Reply.answered 0 (.ok (.object [(key, .str id)]))
    let replies := [reply "_id" "a", .answered 0 (.error (.network "down")), reply "id" "b"]
    let steps := (Session.new 0).course Service.scripted replies [.save, .save]
    (∀ x ∈ steps, x.operation = .save ∧ ¬x.Replaces) ∧
      steps.flatMap Step.created = [⟨"a"⟩, ⟨"b"⟩] := by
  intro reply replies steps
  refine ⟨fun x hx => ?_, rfl⟩
  have hsave : x.operation = .save := by
    simpa using operation_of_course _ _ _ x hx
  exact ⟨hsave, Step.not_replaces_of_save hsave⟩

/-- The first of the two saves has abandoned what it created. -/
theorem creates_once_abandoned :
    let reply (key id : String) := Reply.answered 0 (.ok (.object [(key, .str id)]))
    let replies := [reply "_id" "a", .answered 0 (.error (.network "down")), reply "id" "b"]
    let steps := (Session.new 0).course Service.scripted replies [.save, .save]
    ∃ first second, steps = [first, second] ∧ first.created = [⟨"a"⟩] ∧
      second.created = [⟨"b"⟩] ∧ first.Abandons := by
  intro reply replies steps
  have hkeeps : ∀ x ∈ steps, ¬x.Replaces := fun x hx =>
    Step.not_replaces_of_save (by simpa using operation_of_course _ _ _ x hx)
  obtain ⟨-, hpairs⟩ := creates_once hkeeps
  refine ⟨_, _, rfl, rfl, rfl, ?_⟩
  exact List.rel_of_pairwise_cons hpairs List.mem_cons_self (List.cons_ne_nil _ _)
    (List.cons_ne_nil _ _)

end Session

end WorkflowEditor
