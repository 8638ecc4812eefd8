import WorkflowEditor.Proofs.Session.Effect
import WorkflowEditor.Proofs.Stages

/-!
# WorkflowEditor.Proofs.Session.Course

The course of a history in a session: its stages, each with the proof that it
goes one of the ways that its operation can go.

* `toStage_course` — the course is the stages of the history;
* `history_eq_course`, `asked_of_mem_requests` — it has what an observer of the
  history sees;
* `forall_course` — what every step keeps holds at every step.
-/

namespace WorkflowEditor.Session

/-- Did an operation fail?  A run did if it ended before its workflow was saved;
one that fails in its execution has saved it. -/
def Outcome.IsFailure : Outcome → Prop
  | failed _ => True
  | ran (.failed .missingId) => True
  | ran (.failed (.save _)) => True
  | _ => False

/-- An operation in a session that took place. -/
structure Step extends Stage Session Operation Outcome where
  effect : Effect before operation outcome events after

variable (s : Session) (serve : Service σ) (t : σ)

/-- An operation that takes place with a service. -/
def step (o : Operation) : Step :=
  ⟨stage Operation.perform serve s t o, s.hasEffect serve t o⟩

/-- The steps of operations that take place one after the other. -/
def course (operations : List Operation) : List Step :=
  (stages Operation.perform serve s t operations).pmap Step.mk
    (forall_stages _ serve (fun s t o => s.hasEffect serve t o) s t operations)

theorem course_cons (o : Operation) (rest : List Operation) :
    s.course serve t (o :: rest) = s.step serve t o ::
      (s.step serve t o).after.course serve ((o.perform s).run serve t).2.2 rest := rfl

theorem toStage_course (operations : List Operation) :
    (s.course serve t operations).map Step.toStage =
      stages Operation.perform serve s t operations := by
  rw [course, List.map_pmap, List.pmap_eq_map, List.map_id']

/-- The course of a history has its outcomes and its events. -/
theorem history_eq_course (operations : List Operation) :
    let x := (s.history operations).run serve t
    let steps := s.course serve t operations
    x.1.1 = steps.map (fun x => x.outcome) ∧ x.2.1 = steps.flatMap fun x => x.events := by
  intro x steps
  obtain ⟨houtcomes, hevents, -⟩ := history_eq_stages Operation.perform serve s t operations
  rw [← toStage_course] at houtcomes hevents
  rw [List.map_map] at houtcomes
  rw [List.flatMap_map] at hevents
  exact ⟨houtcomes, hevents⟩

/-- Every request of a history is asked by one of its steps. -/
theorem asked_of_mem_requests {operations : List Operation} {request : Request}
    (h : request ∈ Event.requests ((s.history operations).run serve t).2.1) :
    ∃ x ∈ s.course serve t operations, ∃ reply, .asked request reply ∈ x.events := by
  obtain ⟨reply, hasked⟩ := Event.mem_requests_iff.mp h
  rw [(s.history_eq_course serve t operations).2] at hasked
  obtain ⟨x, hx, hasked⟩ := List.mem_flatMap.mp hasked
  exact ⟨x, hx, reply, hasked⟩

/-! ## what holds at every step -/

variable {operations : List Operation}

/-- What holds of every stage of a history holds at every step of its course. -/
theorem forall_course_of_stages {holds : Stage Session Operation Outcome → Prop}
    (h : ∀ x ∈ stages Operation.perform serve s t operations, holds x) :
    ∀ x ∈ s.course serve t operations, holds x.toStage := by
  rw [← toStage_course] at h
  exact List.forall_mem_map.mp h

/-- Only the operations of a history take place. -/
theorem operation_of_course : ∀ x ∈ s.course serve t operations, x.operation ∈ operations :=
  s.forall_course_of_stages serve t (operation_of_stages _ serve s t operations)

/-- Every reply in a course is one that the service gave. -/
theorem reply_of_course {request : Request} {reply : Reply} :
    ∀ x ∈ s.course serve t operations, .asked request reply ∈ x.events →
      ∃ u, (serve u request).1 = reply :=
  s.forall_course_of_stages serve t (reply_of_stages _ serve s t operations)

/-- What the start satisfies and every step keeps holds before and after every step. -/
theorem forall_course {holds : Session → Prop} {allowed : Step → Prop} (hstart : holds s)
    (hallowed : ∀ x ∈ s.course serve t operations, allowed x)
    (hkeep : ∀ x, allowed x → holds x.before → holds x.after) :
    ∀ x ∈ s.course serve t operations, holds x.before ∧ holds x.after := by
  have hlinked := linked_stages Operation.perform serve s t operations
  rw [← toStage_course] at hlinked
  have hall := hlinked.holds hstart
    (List.forall_mem_map.mpr fun x hx => hkeep x (hallowed x hx))
  exact List.forall_mem_map.mp hall

end WorkflowEditor.Session
