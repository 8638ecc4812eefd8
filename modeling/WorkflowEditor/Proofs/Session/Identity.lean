import WorkflowEditor.Proofs.Session.Adoption
import WorkflowEditor.Proofs.Session.Creation
import WorkflowEditor.Proofs.Session.Failure
import WorkflowEditor.Proofs.Workflow.RoundTrip

/-!
# WorkflowEditor.Proofs.Session.Identity

Which workflow is edited after a save.  A reply is merged over the document
member by member, and the id is a member like the others: a document that comes
back under another id is edited under that id from then on.  A reply that is no
document, or names no id, leaves the id that was saved under.

* `Repository.id_of_saved` — the id that a save leaves;
* `Effect.exists_update` — under which id a session has saved;
* `Step.LeavesId.id_eq`, `Effect.addresses` — what leaves the id alone, and what
  the next save, run or delete is about;
* `edits_what_was_saved` — the id after a save, in a repository and in a session;
* `saved_under_another_id` — the service moves a session to another workflow.
-/

namespace WorkflowEditor

/-- The stored workflow that a request is about, if it is about one. -/
def Request.addressee? : Request → Option WorkflowId
  | fetch id | update id _ | delete id | execute id _ => some id
  | create _ | list => none

/-! ## replies to an update -/

namespace Repository

/-- The id that the reply to an update names: that of a document, if it has one.
Any other reply names none, whatever it has under `id`. -/
def named? (body : Json) : Option WorkflowId :=
  let reply := Envelope.unwrap body
  if Payload.isDocument reply then
    (((reply.nonNull? Payload.idKey).or (reply.nonNull? Payload.idAlias)).bind Json.string?).map
      Id.mk
  else none

/-- A save leaves the id that the reply names, or else the one it was made under. -/
theorem id_of_saved {id : WorkflowId} {w copy : Workflow} {body : Json}
    (h : saved id w body = .ok copy) : copy.id = some ((named? body).getD id) := by
  rw [saved_eq_ok_iff] at h
  rw [named?]
  split at h
  · next hdocument =>
    obtain ⟨p, hread, rfl⟩ := h
    simp only [if_pos hdocument, Payload.id_of_ofJson hread]
    cases hid : p.id <;> simp [Payload.mergeInto, hid, Id.toJson, Json.string?]
  · next hdocument =>
    simp only [if_neg hdocument]
    rw [← h]
    rfl

/-- The copy that a save returns is the one that is kept under the id it was made under. -/
theorem kept_of_save {r : Repository} {id : WorkflowId} {w copy : Workflow} {serve : Service σ}
    {t : σ} (h : ((r.save id w).run serve t).1.1 = .ok copy) :
    ((r.save id w).run serve t).1.2.cached? id = some copy ∧
      (serve t (.update id (.ofWorkflow w))).1.read (saved id w) = .ok copy := by
  rw [run_save] at h ⊢
  cases hread : (serve t (.update id (.ofWorkflow w))).1.read (saved id w) with
  | error e =>
      rw [hread] at h
      cases h
  | ok stored =>
      rw [hread] at h
      obtain rfl := Except.ok.inj h
      refine ⟨?_, rfl⟩
      exact (r.cached?_keep id stored id).trans (if_pos rfl)

end Repository

namespace Session

/-! ## one operation -/

/-- Is the operation about the stored document, if there is one? -/
def Operation.IsAboutStored : Operation → Prop
  | save | run _ | delete => True
  | openWorkflow _ | newWorkflow _ _ | list | edit _ | revise _ => False

namespace Effect

variable {s after : Session} {o : Operation} {outcome : Outcome} {events : List Event}

/-- A save, and a run that got as far, leaves what is read of the reply to its
update, which went to the document's id if it had one.  A save answers with that id. -/
theorem exists_update (h : Effect s o outcome events after) (ho : o.Saves)
    (hdone : ¬outcome.IsFailure) :
    ∃ id reply, .asked (.update id (.ofWorkflow s.outgoing)) reply ∈ events ∧
      reply.read (Repository.saved id s.outgoing) = .ok after.document ∧
      (∀ stored, s.document.id = some stored → stored = id) ∧
      (o = .save → outcome = .stored id) := by
  cases h with
  | @saved id reply copy stored read =>
      rw [document_adoptAs]
      refine ⟨id, reply, by simp, read, fun other hother => ?_, fun _ => rfl⟩
      exact Option.some.inj (hother.symm.trans stored)
  | @savedFirst id first second w copy unstored create update =>
      rw [document_adoptAs]
      refine ⟨id, second, by simp, update, fun other hother => ?_, fun _ => rfl⟩
      exact nomatch unstored.symm.trans hother
  | @ran input id reply answer copy state stored read ended =>
      dsimp only
      rw [document_adoptAs]
      refine ⟨id, reply, by simp, read, fun other hother => ?_, nofun⟩
      exact Option.some.inj (hother.symm.trans stored)
  | notSaved | createdNotSaved | notSavedFirst | notRan | refusedRun => exact (hdone trivial).elim
  | opened | notOpened | created | notCreated | deleted | notDeleted | nothingToDelete | listed |
      notListed | edited | revised => exact ho.elim

/-- With a stored document a save, a run and a delete are about that document only. -/
theorem addresses (h : Effect s o outcome events after) {id : WorkflowId}
    (hid : s.document.id = some id) (ho : o.IsAboutStored) :
    Event.requests events ≠ [] ∧
      ∀ request ∈ Event.requests events, request.addressee? = some id := by
  have hsame {other : WorkflowId} (stored : s.document.id = some other) : other = id :=
    Option.some.inj (stored.symm.trans hid)
  cases h with
  | saved stored | notSaved stored | ran stored | notRan stored | deleted stored
  | notDeleted stored => simp [Event.requests, Request.addressee?, hsame stored]
  | savedFirst unstored | createdNotSaved unstored | notSavedFirst unstored
  | refusedRun unstored | nothingToDelete unstored =>
      exact absurd (hid.symm.trans unstored) (Option.some_ne_none id)
  | opened | notOpened | created | notCreated | listed | notListed | edited | revised =>
      exact ho.elim

end Effect

namespace Step

/-- A step that leaves the id of the document alone: it neither replaces nor saves it. -/
structure LeavesId (x : Step) : Prop where
  keeps : ¬x.Replaces
  unsaved : x.operation.Saves → x.outcome.IsFailure

theorem LeavesId.id_eq {x : Step} (h : x.LeavesId) :
    x.after.document.id = x.before.document.id := by
  by_cases hfails : x.outcome.IsFailure
  · rw [(x.effect.unchanged_of_isFailure hfails).1]
  · obtain ⟨⟨s, o, outcome, events, after⟩, effect⟩ := x
    change Effect s o outcome events after at effect
    cases effect with
    | opened | created | deleted => exact (h.keeps trivial).elim
    | saved | savedFirst | ran => exact (hfails (h.unsaved trivial)).elim
    | revised => exact not_not.mp h.keeps
    | notOpened | notCreated | notSaved | createdNotSaved | notSavedFirst | notRan | refusedRun |
        notDeleted | nothingToDelete | listed | notListed | edited => rfl

/-- Everything that the step asks is about one workflow, and it asks something. -/
structure Addresses (x : Step) (id : WorkflowId) : Prop where
  asks : Event.requests x.events ≠ []
  about : ∀ request ∈ Event.requests x.events, request.addressee? = some id

/-- The step has saved the document under an id, and the reply had this body. -/
structure SavedUnder (x : Step) (id : WorkflowId) (body : Json) : Prop where
  asked : ∃ reply, .asked (.update id (.ofWorkflow x.before.outgoing)) reply ∈ x.events ∧
    reply.result = .ok body
  stored : ∀ other, x.before.document.id = some other → other = id
  answered : x.operation = .save → x.outcome = .stored id

end Step

/-! ## what comes next -/

/-- The first save, run or delete after steps that leave the id alone is about
the document with that id. -/
theorem addresses_of_course {s : Session} {id : WorkflowId} (hid : s.document.id = some id)
    {serve : Service σ} {t : σ} {operations : List Operation} {between rest : List Step} {y : Step}
    (hcourse : s.course serve t operations = between ++ y :: rest)
    (hleaves : ∀ x ∈ between, x.LeavesId) (hy : y.operation.IsAboutStored) : y.Addresses id := by
  induction operations generalizing s t between with
  | nil => exact (List.append_ne_nil_of_right_ne_nil _ (List.cons_ne_nil _ _) hcourse.symm).elim
  | cons o later ih =>
      rw [course_cons] at hcourse
      cases between with
      | nil =>
          obtain ⟨rfl, -⟩ := List.cons.inj hcourse
          obtain ⟨hasks, habout⟩ := (s.step serve t o).effect.addresses hid hy
          exact ⟨hasks, habout⟩
      | cons x between =>
          rw [List.cons_append] at hcourse
          obtain ⟨rfl, hlater⟩ := List.cons.inj hcourse
          rw [List.forall_mem_cons] at hleaves
          exact ih (hleaves.1.id_eq.trans hid) hlater hleaves.2

/-- **What was saved is edited on.**  The copy that a save returns is kept under
the id it was made under.  It has that id, unless the reply is a document that
names another one, which it has then.  In a session the document has this id
afterwards, and the next save, run or delete is about the workflow with it. -/
theorem edits_what_was_saved :
    (∀ (r : Repository) (id : WorkflowId) (w copy : Workflow) {σ : Type} (serve : Service σ)
        (t : σ),
      ((r.save id w).run serve t).1.1 = .ok copy →
        ((r.save id w).run serve t).1.2.cached? id = some copy ∧
        ∃ body, (serve t (.update id (.ofWorkflow w))).1.result = .ok body ∧
          copy.id = some ((Repository.named? body).getD id)) ∧
    ∀ x : Step, x.operation.Saves → ¬x.outcome.IsFailure →
      ∃ id body, x.SavedUnder id body ∧
        x.after.document.id = some ((Repository.named? body).getD id) ∧
        ∀ {σ : Type} (serve : Service σ) (t : σ) (operations : List Operation) (between rest y),
          x.after.course serve t operations = between ++ y :: rest →
          (∀ z ∈ between, z.LeavesId) → y.operation.IsAboutStored →
            y.Addresses ((Repository.named? body).getD id) := by
  refine ⟨fun r id w copy σ serve t hsaved => ?_, fun x ho hdone => ?_⟩
  · obtain ⟨hkept, hread⟩ := Repository.kept_of_save hsaved
    obtain ⟨body, hresult, hcopy⟩ := Reply.read_eq_ok_iff.mp hread
    exact ⟨hkept, body, hresult, Repository.id_of_saved hcopy⟩
  · obtain ⟨id, reply, hasked, hread, hstored, hanswered⟩ := x.effect.exists_update ho hdone
    obtain ⟨body, hresult, hcopy⟩ := Reply.read_eq_ok_iff.mp hread
    have hid := Repository.id_of_saved hcopy
    refine ⟨id, body, ⟨⟨reply, hasked, hresult⟩, hstored, hanswered⟩, hid, ?_⟩
    intro σ serve t operations between rest y hcourse hleaves hy
    exact addresses_of_course hid hcourse hleaves hy

/-- A generator names an id and a title: its reply counts as a document.  After
an edit and a save that fails the session deletes the workflow with that id. -/
theorem edits_what_was_saved_title :
    let body := Json.object [("id", .str "b"), ("status", .str "done"), ("title", .str "Final")]
    let s := { Session.new 0 with document := { Workflow.new "Draft" with id := some ⟨"a"⟩ } }
    let kept := (s.repository.save ⟨"a"⟩ s.document).run Service.scripted [.answered 0 (.ok body)]
    let x := s.step Service.scripted [.answered 0 (.ok body)] .save
    (∃ copy, kept.1.1 = .ok copy ∧ kept.1.2.cached? ⟨"a"⟩ = some copy) ∧
      x.outcome = .stored ⟨"a"⟩ ∧ x.after.document.id = some ⟨"b"⟩ ∧
      ∃ edited failed deleted,
        x.after.course Service.scripted [.never] [.edit .reset, .save, .delete] =
          [edited, failed, deleted] ∧
        failed.outcome = .failed .timeout ∧ deleted.Addresses ⟨"b"⟩ := by
  intro body s kept x
  obtain ⟨hrepository, hsession⟩ := edits_what_was_saved
  have hid : x.after.document.id = some ⟨"b"⟩ := rfl
  obtain ⟨saved, answer, -, hafter, hnext⟩ := hsession x trivial id
  rw [hid] at hafter
  have hkept := hrepository s.repository ⟨"a"⟩ s.document _ Service.scripted
    [.answered 0 (.ok body)] rfl
  refine ⟨⟨_, rfl, hkept.1⟩, rfl, rfl, _, _, _, rfl, rfl, ?_⟩
  rw [Option.some.inj hafter]
  refine hnext Service.scripted [.never] [.edit .reset, .save, .delete] [_, _] [] _ rfl ?_ trivial
  simp only [List.mem_cons, List.not_mem_nil, or_false, forall_eq_or_imp, forall_eq]
  exact ⟨⟨id, nofun⟩, ⟨id, fun _ => trivial⟩⟩

/-- A reply that is no document names nothing. -/
example : Repository.named? (.object [("id", .str "b"), ("status", .str "done")]) = none := rfl

/-- A document that is saved under one id and comes back with another is edited,
and deleted, under the other. -/
theorem saved_under_another_id :
    let body := Json.object [("_id", .str "b")]
    let s := { Session.new 0 with document := { Workflow.new "Draft" with id := some ⟨"a"⟩ } }
    let kept := (s.repository.save ⟨"a"⟩ s.document).run Service.scripted [.answered 0 (.ok body)]
    let x := s.step Service.scripted [.answered 0 (.ok body)] .save
    let y := x.after.step Service.scripted [] .delete
    (∃ copy, kept.1.1 = .ok copy ∧ kept.1.2.cached? ⟨"a"⟩ = some copy ∧
      copy.id = some ⟨"b"⟩ ∧ copy.id ≠ some ⟨"a"⟩) ∧
      x.outcome = .stored ⟨"a"⟩ ∧ x.after.document.id = some ⟨"b"⟩ ∧
      Event.requests y.events = [.delete ⟨"b"⟩] := by
  intro body s kept x y
  exact ⟨⟨_, rfl, rfl, rfl, by decide⟩, rfl, rfl, rfl⟩

end Session

end WorkflowEditor
