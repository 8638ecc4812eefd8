import WorkflowEditor.Proofs.Repository
import WorkflowEditor.Proofs.Stages
import WorkflowEditor.Session.History

/-!
# WorkflowEditor.Proofs.Session.Effect

All that an operation in a session can come to, whatever the service replies:
its outcome, what an observer sees of it, and the session afterwards.  The
replies are read by the readers of the repository (`Reply.read`), and one that
cannot be read fails the operation like an error.

* `Effect` — the ways an operation can go;
* `hasEffect` — an operation that takes place with some service goes one
  of them.
-/

namespace WorkflowEditor

/-! ## the ways an operation can go -/

/-- A run that comes to its execution has saved its workflow. -/
theorem Repository.isSaved_executed (deadline : Nat) (reply : Reply) :
    (executed deadline reply).isSaved = true := by
  rw [executed]
  split
  · rfl
  · split
    · rfl
    · next e _ => cases e <;> rfl

namespace Session

/-- The document that a new workflow starts from. -/
def draft (title description : String) : Workflow :=
  { Workflow.new title with description := description }

/-- Takes over a document that is kept under an id, and its graph. -/
def loadAs (s : Session) (id : WorkflowId) (w : Workflow) : Session :=
  { s with repository := s.repository.keep id w }.load w

/-- Takes over the copy of a save under an id, and its graph if that differs
from the one being edited. -/
def adoptAs (s : Session) (id : WorkflowId) (copy : Workflow) : Session :=
  { s with repository := s.repository.keep id copy }.adopt copy

/-- Taking over a copy changes the document and the store only. -/
theorem adopt_eq (s : Session) (w : Workflow) :
    s.adopt w = { s with document := w, store := (s.adopt w).store } := by
  rw [adopt]
  split
  · rfl
  · rfl

theorem document_adoptAs (s : Session) (id : WorkflowId) (copy : Workflow) :
    (s.adoptAs id copy).document = copy := by
  rw [adoptAs, adopt_eq]

theorem repository_adoptAs (s : Session) (id : WorkflowId) (copy : Workflow) :
    (s.adoptAs id copy).repository = s.repository.keep id copy := by
  rw [adoptAs, adopt_eq]

theorem store_adoptAs (s : Session) (id : WorkflowId) (copy : Workflow) :
    (s.adoptAs id copy).store =
      if copy.graph.same s.store.graph then s.store else s.store.load copy.nodes copy.edges := by
  rw [adoptAs, adopt]
  split
  · rfl
  · rfl

/-- Where the run stands is kept when a copy is taken over. -/
theorem adopt_runState (s : Session) (r : Repository) (state : RunState) (copy : Workflow) :
    ({ s with repository := r, runState := state } : Session).adopt copy =
      { ({ s with repository := r } : Session).adopt copy with runState := state } := by
  simp only [adopt]
  split
  · rfl
  · rfl

/-- What an operation can come to: its outcome, what happens, and the session afterwards. -/
inductive Effect (s : Session) : Operation → Outcome → List Event → Session → Prop
  | opened {id : WorkflowId} {reply : Reply} {w : Workflow}
      (read : reply.read (Repository.fetched id) = .ok w) :
      Effect s (.openWorkflow id) .opened [.asked (.fetch id) reply] (s.loadAs id w)
  | notOpened {id : WorkflowId} {reply : Reply} {e : ServiceError}
      (read : reply.read (Repository.fetched id) = .error e) :
      Effect s (.openWorkflow id) (.failed e) [.asked (.fetch id) reply] s
  | created {title description : String} {reply : Reply} {id : WorkflowId} {w : Workflow}
      (read : reply.read (Repository.created (draft title description)) = .ok (id, w)) :
      Effect s (.newWorkflow title description) (.stored id)
        [.asked (.create (.ofWorkflow (draft title description))) reply] (s.loadAs id w)
  | notCreated {title description : String} {reply : Reply} {e : ServiceError}
      (read : reply.read (Repository.created (draft title description)) = .error e) :
      Effect s (.newWorkflow title description) (.failed e)
        [.asked (.create (.ofWorkflow (draft title description))) reply] s
  | saved {id : WorkflowId} {reply : Reply} {copy : Workflow} (stored : s.document.id = some id)
      (read : reply.read (Repository.saved id s.outgoing) = .ok copy) :
      Effect s .save (.stored id) [.asked (.update id (.ofWorkflow s.outgoing)) reply]
        (s.adoptAs id copy)
  | notSaved {id : WorkflowId} {reply : Reply} {e : ServiceError} (stored : s.document.id = some id)
      (read : reply.read (Repository.saved id s.outgoing) = .error e) :
      Effect s .save (.failed e) [.asked (.update id (.ofWorkflow s.outgoing)) reply] s
  /-- a document without an id is created and then saved -/
  | savedFirst {id : WorkflowId} {first second : Reply} {w copy : Workflow}
      (unstored : s.document.id = none)
      (create : first.read (Repository.created s.outgoing) = .ok (id, w))
      (update : second.read (Repository.saved id s.outgoing) = .ok copy) :
      Effect s .save (.stored id)
        [.asked (.create (.ofWorkflow s.outgoing)) first,
          .asked (.update id (.ofWorkflow s.outgoing)) second]
        ({ s with repository := s.repository.keep id w }.adoptAs id copy)
  /-- a document without an id is created, and only the repository knows of it -/
  | createdNotSaved {id : WorkflowId} {first second : Reply} {w : Workflow} {e : ServiceError}
      (unstored : s.document.id = none)
      (create : first.read (Repository.created s.outgoing) = .ok (id, w))
      (update : second.read (Repository.saved id s.outgoing) = .error e) :
      Effect s .save (.failed e)
        [.asked (.create (.ofWorkflow s.outgoing)) first,
          .asked (.update id (.ofWorkflow s.outgoing)) second]
        { s with repository := s.repository.keep id w }
  | notSavedFirst {reply : Reply} {e : ServiceError} (unstored : s.document.id = none)
      (create : reply.read (Repository.created s.outgoing) = .error e) :
      Effect s .save (.failed e) [.asked (.create (.ofWorkflow s.outgoing)) reply] s
  | ran {input : String} {id : WorkflowId} {reply answer : Reply} {copy : Workflow}
      {state : RunState} (stored : s.document.id = some id)
      (read : reply.read (Repository.saved id s.outgoing) = .ok copy)
      (ended : state = Repository.executed s.deadline answer) :
      Effect s (.run input) (.ran state)
        [.announced .idle, .announced .saving,
          .asked (.update id (.ofWorkflow s.outgoing)) reply, .announced .executing,
          .asked (.execute id input) answer, .announced state]
        { s.adoptAs id copy with runState := state }
  | notRan {input : String} {id : WorkflowId} {reply : Reply} {e : ServiceError}
      (stored : s.document.id = some id)
      (read : reply.read (Repository.saved id s.outgoing) = .error e) :
      Effect s (.run input) (.ran (.failed (.save e)))
        [.announced .idle, .announced .saving,
          .asked (.update id (.ofWorkflow s.outgoing)) reply, .announced (.failed (.save e))]
        { s with runState := .failed (.save e) }
  | refusedRun {input : String} (unstored : s.document.id = none) :
      Effect s (.run input) (.ran (.failed .missingId))
        [.announced .idle, .announced (.failed .missingId)]
        { s with runState := .failed .missingId }
  | deleted {id : WorkflowId} {reply : Reply} {body : Json} (stored : s.document.id = some id)
      (answered : reply.result = .ok body) :
      Effect s .delete (.deleted true) [.asked (.delete id) reply]
        { s with
          document := .new untitled
          store := (s.store.apply .reset).2
          repository := s.repository.forget id }
  | notDeleted {id : WorkflowId} {reply : Reply} {e : ServiceError}
      (stored : s.document.id = some id) (answered : reply.result = .error e) :
      Effect s .delete (.failed e) [.asked (.delete id) reply] s
  | nothingToDelete (unstored : s.document.id = none) : Effect s .delete (.deleted false) [] s
  | listed {reply : Reply} {workflows : List Summary}
      (read : reply.read Repository.listed = .ok workflows) :
      Effect s .list (.listed workflows) [.asked .list reply] s
  | notListed {reply : Reply} {e : ServiceError} (read : reply.read Repository.listed = .error e) :
      Effect s .list (.failed e) [.asked .list reply] s
  | edited {edit : Edit} :
      Effect s (.edit edit) (.edited (s.store.apply edit).1) []
        { s with store := (s.store.apply edit).2 }
  | revised {change : Workflow → Workflow} : Effect s (.revise change) .revised [] (s.revise change)

/-! ## operations that take place -/

section
variable (s : Session) (serve : Service σ) (t : σ)

/-- An operation that takes place with a service has one of its effects. -/
def HasEffect (o : Operation) : Prop :=
  let x := (o.perform s).run serve t
  Effect s o x.1.1 x.2.1 x.1.2

theorem hasEffect_openWorkflow (id : WorkflowId) : s.HasEffect serve t (.openWorkflow id) := by
  simp only [HasEffect, Operation.perform, Dialogue.run_report, openWorkflow, Dialogue.run_bind,
    Repository.run_fetch]
  cases hread : (serve t (.fetch id)).1.read (Repository.fetched id) with
  | ok w => exact .opened hread
  | error e => exact .notOpened hread

theorem hasEffect_newWorkflow (title description : String) :
    s.HasEffect serve t (.newWorkflow title description) := by
  have hdraft : { Workflow.new title with description := description } = draft title description :=
    rfl
  simp only [HasEffect, Operation.perform, Dialogue.run_report, newWorkflow, hdraft,
    Dialogue.run_bind, Repository.run_create]
  cases hread : (serve t (.create (.ofWorkflow (draft title description)))).1.read
      (Repository.created (draft title description)) with
  | ok x =>
      obtain ⟨id, w⟩ := x
      -- what is loaded is the copy that the creation has kept
      have hkept : (s.repository.keep id w).cached? id = some w := by
        rw [Repository.cached?_keep, if_pos rfl]
      have heffect := Effect.created (s := s) hread
      rw [loadAs] at heffect
      simp only [Dialogue.run, Dialogue.outcome, hkept]
      exact heffect
  | error e => exact .notCreated hread

theorem hasEffect_save : s.HasEffect serve t .save := by
  simp only [HasEffect, Operation.perform, Dialogue.run_report, save, Dialogue.run_bind]
  cases hid : s.document.id with
  | some id =>
      have hout : s.outgoing.id = some id := hid
      simp only [ensureId, hout, Dialogue.run, Dialogue.run_bind, Repository.run_save]
      cases hread : (serve t (.update id (.ofWorkflow s.outgoing))).1.read
          (Repository.saved id s.outgoing) with
      | ok copy => exact .saved hid hread
      | error e => exact .notSaved hid hread
  | none =>
      have hout : s.outgoing.id = none := hid
      simp only [ensureId, hout, Repository.run_create]
      cases hcreate : (serve t (.create (.ofWorkflow s.outgoing))).1.read
          (Repository.created s.outgoing) with
      | error e => exact .notSavedFirst hid hcreate
      | ok x =>
          obtain ⟨id, w⟩ := x
          simp only [Dialogue.run_bind, Repository.run_save]
          cases hupdate : (serve (serve t (.create (.ofWorkflow s.outgoing))).2
              (.update id (.ofWorkflow s.outgoing))).1.read (Repository.saved id s.outgoing) with
          | ok copy => exact .savedFirst hid hcreate hupdate
          | error e => exact .createdNotSaved hid hcreate hupdate

theorem hasEffect_run (input : String) : s.HasEffect serve t (.run input) := by
  simp only [HasEffect, Operation.perform, run, Dialogue.run_bind, Repository.run, Dialogue.run]
  cases hid : s.document.id with
  | none =>
      have hout : s.outgoing.id = none := hid
      simp only [hout, Repository.conclude, Dialogue.run]
      exact .refusedRun hid
  | some id =>
      have hout : s.outgoing.id = some id := hid
      simp only [hout, Dialogue.run, Dialogue.run_bind, Repository.run_save]
      cases hread : (serve t (.update id (.ofWorkflow s.outgoing))).1.read
          (Repository.saved id s.outgoing) with
      | error e => exact .notRan hid hread
      | ok copy =>
          -- the run is over when the copy is looked up, and nothing has replaced it since
          have hkept : (s.repository.keep id copy).cached? id = some copy := by
            rw [Repository.cached?_keep, if_pos rfl]
          simp only [Repository.execute, Repository.conclude, Dialogue.run,
            Option.filter_some, Repository.isSaved_executed, if_true, Option.bind_some, hkept]
          rw [adopt_runState]
          exact .ran hid hread rfl

theorem hasEffect_delete : s.HasEffect serve t .delete := by
  simp only [HasEffect, Operation.perform, Dialogue.run_report, delete]
  cases hid : s.document.id with
  | none => exact .nothingToDelete hid
  | some id =>
      simp only [Dialogue.run_bind, Repository.delete, Repository.run_exchange]
      cases hanswer : (serve t (.delete id)).1.result with
      | ok body =>
          simp only [Reply.read, hanswer]
          exact .deleted hid hanswer
      | error e =>
          simp only [Reply.read, hanswer]
          exact .notDeleted hid hanswer

theorem hasEffect_list : s.HasEffect serve t .list := by
  simp only [HasEffect, Operation.perform, Dialogue.run_report, list, Dialogue.run_bind,
    Repository.list, Repository.run_exchange, Reply.read_bind]
  cases hread : (serve t .list).1.read Repository.listed with
  | ok workflows => exact .listed hread
  | error e => exact .notListed hread

/-- **An operation goes one of the ways** that an operation can go. -/
theorem hasEffect (o : Operation) : s.HasEffect serve t o := by
  cases o with
  | openWorkflow id => exact s.hasEffect_openWorkflow serve t id
  | newWorkflow title description => exact s.hasEffect_newWorkflow serve t title description
  | save => exact s.hasEffect_save serve t
  | run input => exact s.hasEffect_run serve t input
  | delete => exact s.hasEffect_delete serve t
  | list => exact s.hasEffect_list serve t
  | edit e => exact .edited
  | revise change => exact .revised

end

end Session

end WorkflowEditor
