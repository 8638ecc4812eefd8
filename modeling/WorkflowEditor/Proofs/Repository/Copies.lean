import WorkflowEditor.Proofs.Repository
import WorkflowEditor.Proofs.Stages
import WorkflowEditor.Repository.History

/-!
# WorkflowEditor.Proofs.Repository.Copies

Which copy a repository keeps under an id, told from the operations that took
place: the one of the last operation that stored a document under that id,
unless the document was deleted since.

* `Effect`, `hasEffect` — all that an operation can come to;
* `Effect.cached?_of_stores`, `Effect.cached?_of_forgets`,
  `Effect.cached?_of_neither` — what one operation does to the copy under an id;
* `cached?_history` — the copy after any operations;
* `save_eq_saveForGeneration` — when the two ways to store a document again
  leave the same copies.
-/

namespace WorkflowEditor.Repository

/-! ## the ways an operation can go -/

/-- The request that an operation makes. -/
def Operation.request : Operation → Request
  | create w => .create (.ofWorkflow w)
  | fetch id => .fetch id
  | list => .list
  | delete id => .delete id
  | save id w | saveForGeneration id w => .update id (.ofWorkflow w)

/-- What an operation can come to with a reply: its outcome and the repository afterwards. -/
inductive Effect (r : Repository) (reply : Reply) : Operation → Outcome → Repository → Prop
  | created {w stored : Workflow} {id : WorkflowId}
      (read : reply.read (Repository.created w) = .ok (id, stored)) :
      Effect r reply (.create w) (.created id) (r.keep id stored)
  | fetched {id : WorkflowId} {w : Workflow} (read : reply.read (Repository.fetched id) = .ok w) :
      Effect r reply (.fetch id) (.fetched w) (r.keep id w)
  | listed {workflows : List Summary} (read : reply.read Repository.listed = .ok workflows) :
      Effect r reply .list (.listed workflows) r
  | deleted {id : WorkflowId} {body : Json} (answered : reply.result = .ok body) :
      Effect r reply (.delete id) .deleted (r.forget id)
  | saved {id : WorkflowId} {w copy : Workflow}
      (read : reply.read (Repository.saved id w) = .ok copy) :
      Effect r reply (.save id w) (.saved copy) (r.keep id copy)
  | generated {id : WorkflowId} {w : Workflow} {body : Json} (answered : reply.result = .ok body) :
      Effect r reply (.saveForGeneration id w) (.generated (Envelope.unwrap body))
        (r.keep id { w with id := some id })
  | failed {o : Operation} {e : ServiceError} : Effect r reply o (.failed e) r

/-- **An operation goes one of the ways** that an operation can go, and makes one request. -/
theorem hasEffect (r : Repository) (serve : Service σ) (t : σ) (o : Operation) :
    let x := (o.perform r).run serve t
    let reply := (serve t o.request).1
    Effect r reply o x.1.1 x.1.2 ∧ x.2.1 = [.asked o.request reply] := by
  cases o with
  | create w =>
      simp only [Operation.perform, Dialogue.run_report, run_create, Operation.request, and_true]
      cases hread : (serve t (.create (.ofWorkflow w))).1.read (Repository.created w) with
      | ok x => exact .created hread
      | error e => exact .failed
  | fetch id =>
      simp only [Operation.perform, Dialogue.run_report, run_fetch, Operation.request, and_true]
      cases hread : (serve t (.fetch id)).1.read (Repository.fetched id) with
      | ok w => exact .fetched hread
      | error e => exact .failed
  | list =>
      simp only [Operation.perform, Dialogue.run_report, run_list, Operation.request, and_true]
      cases hread : (serve t .list).1.read Repository.listed with
      | ok workflows => exact .listed hread
      | error e => exact .failed
  | delete id =>
      simp only [Operation.perform, Dialogue.run_report, delete, run_exchange, Reply.read,
        Operation.request, and_true]
      cases hanswer : (serve t (.delete id)).1.result with
      | ok body => exact .deleted hanswer
      | error e => exact .failed
  | save id w =>
      simp only [Operation.perform, Dialogue.run_report, run_save, Operation.request, and_true]
      cases hread : (serve t (.update id (.ofWorkflow w))).1.read (Repository.saved id w) with
      | ok copy => exact .saved hread
      | error e => exact .failed
  | saveForGeneration id w =>
      simp only [Operation.perform, Dialogue.run_report, saveForGeneration, run_exchange,
        Reply.read, Operation.request, and_true]
      cases hanswer : (serve t (.update id (.ofWorkflow w))).1.result with
      | ok body => exact .generated hanswer
      | error e => exact .failed

/-! ## operations that touch a copy -/

/-- Has an operation stored a document under an id?  A creation has done so
under the id that the service assigned. -/
def Stores (id : WorkflowId) : Operation → Outcome → Prop
  | .create _, .created assigned => assigned = id
  | .fetch asked, .fetched _ => asked = id
  | .save under _, .saved _ => under = id
  | .saveForGeneration under _, .generated _ => under = id
  | _, _ => False

/-- Has an operation deleted the document of an id? -/
def Forgets (id : WorkflowId) : Operation → Outcome → Prop
  | .delete asked, .deleted => asked = id
  | _, _ => False

/-- Is an operation about the document of an id?  A creation is about the id
that the service assigned, if it assigned one. -/
def Concerns (id : WorkflowId) : Operation → Outcome → Prop
  | .create _, .created assigned => assigned = id
  | .create _, _ => False
  | .list, _ => False
  | .fetch asked, _ | .delete asked, _ => asked = id
  | .save under _, _ | .saveForGeneration under _, _ => under = id

/-- The copy that an operation has stored under an id: the document that it
came to, or for a product made from it the one that was sent, or for a creation
the one that was sent with the reply merged over it. -/
inductive Keeps (id : WorkflowId) : Operation → Outcome → List Event → Workflow → Prop
  | fetched {w : Workflow} {events : List Event} : Keeps id (.fetch id) (.fetched w) events w
  | saved {sent copy : Workflow} {events : List Event} :
      Keeps id (.save id sent) (.saved copy) events copy
  | generated {sent : Workflow} {product : Json} {events : List Event} :
      Keeps id (.saveForGeneration id sent) (.generated product) events { sent with id := some id }
  | created {sent : Workflow} {request : Request} {reply : Reply} {body : Json} {p : Payload}
      (answered : reply.result = .ok body)
      (read : Payload.ofJson (Envelope.unwrap body) = .ok p) :
      Keeps id (.create sent) (.created id) [.asked request reply] (p.mergeInto sent)

section
variable {r after : Repository} {reply : Reply} {o : Operation} {outcome : Outcome}
  {id : WorkflowId}

theorem cached?_keep_self (r : Repository) (id : WorkflowId) (w : Workflow) :
    (r.keep id w).cached? id = some w := by rw [cached?_keep, if_pos rfl]

theorem cached?_keep_of_ne {other : WorkflowId} {w : Workflow} (h : other ≠ id) :
    (r.keep other w).cached? id = r.cached? id := by rw [cached?_keep, if_neg h]

theorem Stores.concerns (h : Stores id o outcome) : Concerns id o outcome := by
  unfold Stores at h
  split at h
  · exact h
  · exact h
  · exact h
  · exact h
  · exact h.elim

theorem Forgets.concerns (h : Forgets id o outcome) : Concerns id o outcome := by
  unfold Forgets at h
  split at h
  · exact h
  · exact h.elim

/-- What has stored a document leaves its copy. -/
theorem Effect.cached?_of_stores (h : Effect r reply o outcome after)
    (hstores : Stores id o outcome) (request : Request) :
    ∃ w, Keeps id o outcome [.asked request reply] w ∧ after.cached? id = some w := by
  cases h with
  | created hread =>
      cases hstores
      obtain ⟨body, hanswer, hcreated⟩ := Reply.read_eq_ok_iff.mp hread
      obtain ⟨p, hp, rfl, -⟩ := created_eq_ok_iff.mp hcreated
      exact ⟨_, .created hanswer hp, cached?_keep_self ..⟩
  | fetched _ =>
      cases hstores
      exact ⟨_, .fetched, cached?_keep_self ..⟩
  | listed _ => exact hstores.elim
  | deleted _ => exact hstores.elim
  | saved _ =>
      cases hstores
      exact ⟨_, .saved, cached?_keep_self ..⟩
  | generated _ =>
      cases hstores
      exact ⟨_, .generated, cached?_keep_self ..⟩
  | failed => cases o <;> exact hstores.elim

/-- What has deleted a document leaves no copy. -/
theorem Effect.cached?_of_forgets (h : Effect r reply o outcome after)
    (hforgets : Forgets id o outcome) : after.cached? id = none := by
  cases h with
  | deleted _ =>
      cases hforgets
      rw [cached?_forget, if_pos rfl]
  | created _ => exact hforgets.elim
  | fetched _ => exact hforgets.elim
  | listed _ => exact hforgets.elim
  | saved _ => exact hforgets.elim
  | generated _ => exact hforgets.elim
  | failed => cases o <;> exact hforgets.elim

/-- What has neither stored nor deleted a document leaves its copy alone. -/
theorem Effect.cached?_of_neither (h : Effect r reply o outcome after)
    (hstores : ¬ Stores id o outcome) (hforgets : ¬ Forgets id o outcome) :
    after.cached? id = r.cached? id := by
  cases h with
  | created _ => exact cached?_keep_of_ne hstores
  | fetched _ => exact cached?_keep_of_ne hstores
  | listed _ => rfl
  | deleted _ => exact (cached?_forget ..).trans (if_neg hforgets)
  | saved _ => exact cached?_keep_of_ne hstores
  | generated _ => exact cached?_keep_of_ne hstores
  | failed => rfl

theorem Effect.eq_of_failed {e : ServiceError} (h : Effect r reply o (.failed e) after) :
    after = r := by
  cases h
  rfl

end

/-! ## operations one after the other -/

/-- An operation that took place. -/
abbrev Step : Type := Stage Repository Operation Outcome

/-- The operations of a history one by one. -/
def course (r : Repository) (serve : Service σ) (t : σ) (operations : List Operation) : List Step :=
  stages Operation.perform serve r t operations

/-- Every step of a course goes one of the ways that its operation can go. -/
theorem effect_of_course (r : Repository) (serve : Service σ) (t : σ)
    (operations : List Operation) : ∀ x ∈ r.course serve t operations, ∃ reply,
      Effect x.before reply x.operation x.outcome x.after ∧
        x.events = [.asked x.operation.request reply] :=
  forall_stages _ serve (fun r t o => ⟨_, r.hasEffect serve t o⟩) r t operations

/-- Steps that follow on each other, each going one of the ways that its operation can go. -/
def IsCourse (r : Repository) (steps : List Step) : Prop :=
  Stage.Linked r steps ∧ ∀ x ∈ steps, ∃ reply, Effect x.before reply x.operation x.outcome x.after

section
variable {r : Repository} {id : WorkflowId} {steps : List Step}

theorem isCourse_cons {x : Step} (h : IsCourse r (x :: steps)) :
    x.before = r ∧ (∃ reply, Effect r reply x.operation x.outcome x.after) ∧
      IsCourse x.after steps := by
  obtain ⟨⟨rfl, hrest⟩, heffect⟩ := h
  rw [List.forall_mem_cons] at heffect
  exact ⟨rfl, heffect.1, hrest, heffect.2⟩

/-- From any of its steps on, a course is one. -/
theorem isCourse_append {earlier later : List Step} (h : IsCourse r (earlier ++ later)) :
    IsCourse (Stage.ending r earlier) later :=
  ⟨(Stage.linked_append.mp h.1).2, fun x hx => h.2 x (List.mem_append_right earlier hx)⟩

/-- Steps that store no document under an id leave it without a copy. -/
theorem cached?_ending_eq_none (h : IsCourse r steps)
    (hstores : ∀ x ∈ steps, ¬ Stores id x.operation x.outcome) (hstart : r.cached? id = none) :
    (Stage.ending r steps).cached? id = none := by
  induction steps generalizing r with
  | nil => exact hstart
  | cons x rest ih =>
      rw [List.forall_mem_cons] at hstores
      obtain ⟨-, ⟨reply, hx⟩, hrest⟩ := isCourse_cons h
      refine ih hrest hstores.2 ?_
      by_cases hforgets : Forgets id x.operation x.outcome
      · exact hx.cached?_of_forgets hforgets
      · rw [hx.cached?_of_neither hstores.1 hforgets, hstart]

/-- Steps that neither store nor delete a document leave its copy alone. -/
theorem cached?_ending_eq (h : IsCourse r steps)
    (hneither : ∀ x ∈ steps,
      ¬ Stores id x.operation x.outcome ∧ ¬ Forgets id x.operation x.outcome) :
    (Stage.ending r steps).cached? id = r.cached? id := by
  induction steps generalizing r with
  | nil => rfl
  | cons x rest ih =>
      rw [List.forall_mem_cons] at hneither
      obtain ⟨-, ⟨reply, hx⟩, hrest⟩ := isCourse_cons h
      obtain ⟨hstores, hforgets⟩ := hneither.1
      exact (ih hrest hneither.2).trans (hx.cached?_of_neither hstores hforgets)

end

/-! ## the same copies from two operations -/

/-- Whatever is replied, unless it is a document, storing a document again comes
to the same copies whether or not something is made from it. -/
theorem save_eq_saveForGeneration (r : Repository) (serve : Service σ) (t : σ) (id : WorkflowId)
    (w : Workflow)
    (hreply : ∀ body, (serve t (.update id (.ofWorkflow w))).1.result = .ok body →
      Payload.isDocument (Envelope.unwrap body) = false) :
    ((r.save id w).run serve t).1.2 = ((r.saveForGeneration id w).run serve t).1.2 := by
  rw [save, saveForGeneration, run_exchange, run_exchange, Reply.read_bind, Reply.read, Reply.read]
  cases hanswer : (serve t (.update id (.ofWorkflow w))).1.result with
  | error e => rfl
  | ok body =>
      have hsaved : saved id w body = .ok { w with id := some id } :=
        saved_eq_ok_iff.mpr (by rw [hreply body hanswer]; rfl)
      simp only [Except.bind, hsaved]
      rfl

/-! ## the copy under an id -/

/-- **The copy kept under an id**, after any operations with any service.
There is none if no document was stored under the id since the start, or since
it was deleted.  Otherwise it is the copy of the operation that stored one
last.  Operations on other ids, lists and failures leave it alone, and storing
a document again leaves the same copies for either purpose if the reply is no
document. -/
theorem cached?_history (serve : Service σ) (t : σ) (operations : List Operation)
    (id : WorkflowId) :
    let steps := empty.course serve t operations
    let kept := ((empty.history operations).run serve t).1.2.cached? id
    ((∀ x ∈ steps, ¬ Stores id x.operation x.outcome) → kept = none) ∧
      (∀ earlier x later, steps = earlier ++ x :: later → Forgets id x.operation x.outcome →
        (∀ y ∈ later, ¬ Stores id y.operation y.outcome) → kept = none) ∧
      (∀ earlier x later, steps = earlier ++ x :: later → Stores id x.operation x.outcome →
        (∀ y ∈ later, ¬ Stores id y.operation y.outcome ∧ ¬ Forgets id y.operation y.outcome) →
        ∃ w, Keeps id x.operation x.outcome x.events w ∧ kept = some w) ∧
      (∀ x ∈ steps, ¬ Concerns id x.operation x.outcome ∨ (∃ e, x.outcome = .failed e) →
        x.after.cached? id = x.before.cached? id) ∧
      ∀ (r : Repository) (u : σ) (w : Workflow),
        (∀ body, (serve u (.update id (.ofWorkflow w))).1.result = .ok body →
          Payload.isDocument (Envelope.unwrap body) = false) →
        ((r.save id w).run serve u).1.2 = ((r.saveForGeneration id w).run serve u).1.2 := by
  intro steps kept
  obtain ⟨-, -, hend⟩ := history_eq_stages Operation.perform serve empty t operations
  have hkept : kept = (Stage.ending empty steps).cached? id :=
    congrArg (fun r : Repository => r.cached? id) hend
  have hsteps := empty.effect_of_course serve t operations
  have hcourse : IsCourse empty steps :=
    ⟨linked_stages _ serve empty t operations,
      fun x hx => (hsteps x hx).imp fun _ => And.left⟩
  refine ⟨fun hstores => ?_, fun earlier x later hsplit hforgets hstores => ?_,
    fun earlier x later hsplit hstores hneither => ?_, fun x hx hother => ?_,
    fun r u w hreply => r.save_eq_saveForGeneration serve u id w hreply⟩
  · rw [hkept]
    exact cached?_ending_eq_none hcourse hstores rfl
  · rw [hsplit] at hcourse hkept
    obtain ⟨-, ⟨reply, hx⟩, hlater⟩ := isCourse_cons (isCourse_append hcourse)
    rw [hkept, Stage.ending_append, Stage.ending]
    exact cached?_ending_eq_none hlater hstores (hx.cached?_of_forgets hforgets)
  · obtain ⟨reply, hx, hevents⟩ := hsteps x (by
      change x ∈ steps
      rw [hsplit]
      exact List.mem_append_cons_self)
    rw [hsplit] at hcourse hkept
    obtain ⟨-, -, hlater⟩ := isCourse_cons (isCourse_append hcourse)
    obtain ⟨w, hkeeps, hcopy⟩ := hx.cached?_of_stores hstores x.operation.request
    rw [hkept, Stage.ending_append]
    exact ⟨w, hevents ▸ hkeeps, (cached?_ending_eq hlater hneither).trans hcopy⟩
  · obtain ⟨reply, heffect, -⟩ := hsteps x hx
    obtain hconcerns | ⟨e, hfailed⟩ := hother
    · exact heffect.cached?_of_neither (fun h => hconcerns h.concerns)
        fun h => hconcerns h.concerns
    · rw [hfailed] at heffect
      rw [heffect.eq_of_failed]

/-- A document is created, and sent again for a product.  The copy is then the
one that was sent, whatever becomes of another document; it is gone once the
document is deleted. -/
theorem cached?_history_product :
    let revised := Workflow.new "Revised"
    let replies :=
      [.answered 0 (.ok (.object [("_id", .str "a")])), .answered 0 (.ok (.str "done"))]
    let operations := [.create (.new "Draft"), .saveForGeneration ⟨"a"⟩ revised]
    let kept (last : Operation) :=
      ((empty.history (operations ++ [last])).run Service.scripted replies).1.2.cached? ⟨"a"⟩
    kept (.fetch ⟨"b"⟩) = some { revised with id := some ⟨"a"⟩ } ∧ kept (.delete ⟨"a"⟩) = none := by
  intro revised replies operations kept
  constructor
  · obtain ⟨-, -, hstored, -, -⟩ := cached?_history Service.scripted replies
      (operations ++ [.fetch ⟨"b"⟩]) ⟨"a"⟩
    obtain ⟨w, hkeeps, hkept⟩ := hstored [_] _ [_] rfl rfl
      (List.forall_mem_singleton.mpr ⟨nofun, nofun⟩)
    cases hkeeps
    exact hkept
  · obtain ⟨-, hdeleted, -, -, -⟩ := cached?_history Service.scripted replies
      (operations ++ [.delete ⟨"a"⟩]) ⟨"a"⟩
    exact hdeleted [_, _] _ [] rfl rfl (List.forall_mem_nil _)

end WorkflowEditor.Repository
