import WorkflowEditor.Proofs.Session.Course
import WorkflowEditor.Proofs.Stages
import WorkflowEditor.Session.History

/-!
# WorkflowEditor.Proofs.Run.Course

How runs go: the states that a run announces and the requests that it makes,
for any calls one after the other and whatever the service replies.

* `Ran`, `hasRan` — the three ways a run can go;
* `run_course` — every run announces one of four sequences of states, ends in
  the last of them and makes the requests that belong to it;
* `runState_history` — a session stands where the last run has ended.
-/

namespace WorkflowEditor

/-- Where a run stands after what an observer saw; `state` is where it stood before. -/
def Event.standing (state : RunState) : List Event → RunState
  | [] => state
  | asked _ _ :: rest => standing state rest
  | announced state :: rest => standing state rest

theorem Event.standing_append (state : RunState) (first second : List Event) :
    standing state (first ++ second) = standing (standing state first) second := by
  induction first generalizing state with
  | nil => rfl
  | cons x rest ih =>
      cases x with
      | asked request reply => exact ih state
      | announced next => exact ih next

/-- If every stage ends where the run in it has ended, so does a row of stages. -/
theorem Stage.Linked.standing {place : ρ → RunState} {start : ρ} {steps : List (Stage ρ α ω)}
    (h : Linked start steps)
    (hstanding : ∀ x ∈ steps, place x.after = Event.standing (place x.before) x.events) :
    place (ending start steps) = Event.standing (place start) (steps.flatMap Stage.events) := by
  induction steps generalizing start with
  | nil => rfl
  | cons x rest ih =>
      obtain ⟨rfl, hrest⟩ := h
      rw [List.forall_mem_cons] at hstanding
      rw [ending, List.flatMap_cons, Event.standing_append, ← hstanding.1]
      exact ih hrest hstanding.2

namespace Repository

/-! ## the ways a run can go -/

/-- A call to run a workflow under an id, if it has one. -/
structure Call where
  id : Option WorkflowId
  workflow : Workflow
  input : String

/-- The run that is called for. -/
def Call.perform (deadline : Nat) (r : Repository) (c : Call) : Dialogue (RunState × Repository) :=
  r.run deadline c.id c.workflow c.input

/-- What a run can come to: the state it ends in, and what happens. -/
inductive Ran (deadline : Nat) (c : Call) : RunState → List Event → Prop
  | refused (unstored : c.id = none) :
      Ran deadline c (.failed .missingId) [.announced .idle, .announced (.failed .missingId)]
  | unsaved {id : WorkflowId} {reply : Reply} {e : ServiceError} (stored : c.id = some id)
      (read : reply.read (saved id c.workflow) = .error e) :
      Ran deadline c (.failed (.save e))
        [.announced .idle, .announced .saving,
          .asked (.update id (.ofWorkflow c.workflow)) reply, .announced (.failed (.save e))]
  | executed {id : WorkflowId} {reply answer : Reply} {copy : Workflow} {state : RunState}
      (stored : c.id = some id) (read : reply.read (saved id c.workflow) = .ok copy)
      (ended : state = Repository.executed deadline answer) :
      Ran deadline c state
        [.announced .idle, .announced .saving,
          .asked (.update id (.ofWorkflow c.workflow)) reply, .announced .executing,
          .asked (.execute id c.input) answer, .announced state]

/-- **A run goes one of the ways** that a run can go. -/
theorem hasRan (deadline : Nat) (r : Repository) (serve : Service σ) (t : σ) (c : Call) :
    let x := stage (Call.perform deadline) serve r t c
    Ran deadline c x.outcome x.events := by
  obtain ⟨id, w, input⟩ := c
  simp only [stage, Call.perform, run, Dialogue.run]
  cases id with
  | none => exact .refused rfl
  | some id =>
      simp only [Dialogue.run, Dialogue.run_bind, run_save]
      cases hread : (serve t (.update id (.ofWorkflow w))).1.read (saved id w) with
      | error e => exact .unsaved rfl hread
      | ok copy => exact .executed rfl hread rfl

/-! ## what an execution comes to -/

/-- An execution ends completed, or failed for a reason of its own. -/
theorem executed_eq (deadline : Nat) (reply : Reply) :
    (∃ content, executed deadline reply = .completed content) ∨
      ∃ f, f ≠ .missingId ∧ (∀ e, f ≠ .save e) ∧ executed deadline reply = .failed f := by
  have hsaved := isSaved_executed deadline reply
  have hends : (∃ content, executed deadline reply = .completed content) ∨
      ∃ f, executed deadline reply = .failed f := by
    rw [executed]
    split
    · exact .inr ⟨_, rfl⟩
    · split
      · exact .inl ⟨_, rfl⟩
      · exact .inr ⟨_, rfl⟩
  obtain hcompleted | ⟨f, hf⟩ := hends
  · exact .inl hcompleted
  · rw [hf] at hsaved
    refine .inr ⟨f, ?_, fun e => ?_, hf⟩
    · rintro rfl
      simp [RunState.isSaved] at hsaved
    · rintro rfl
      simp [RunState.isSaved] at hsaved

/-- A reply is read as a saved copy if it is no document, or one that can be read. -/
theorem readable_of_saved {id : WorkflowId} {w copy : Workflow} {body : Json}
    (h : saved id w body = .ok copy) :
    Payload.isDocument (Envelope.unwrap body) = false ∨
      ∃ p, Payload.ofJson (Envelope.unwrap body) = .ok p := by
  rw [saved_eq_ok_iff] at h
  split at h
  · obtain ⟨p, hp, -⟩ := h
    exact .inr ⟨p, hp⟩
  · next hno => exact .inl (Bool.not_eq_true _ ▸ hno)

theorem executed_of_isLate {deadline : Nat} {reply : Reply} (h : reply.isLate deadline = true) :
    executed deadline reply = .failed (.timeout deadline) := by rw [executed, if_pos h]

/-! ## runs one after the other -/

/-- What a run announces and asks for. -/
theorem Ran.sequence {deadline : Nat} {c : Call} {state : RunState} {events : List Event}
    (h : Ran deadline c state events) :
    (c.id = none ∧ Event.states events = [.idle, .failed .missingId] ∧
        Event.requests events = []) ∨
      ∃ id, c.id = some id ∧
        ((∃ e, Event.states events = [.idle, .saving, .failed (.save e)] ∧
            Event.requests events = [.update id (.ofWorkflow c.workflow)]) ∨
          ((∃ content, Event.states events = [.idle, .saving, .executing, .completed content]) ∨
              ∃ f, f ≠ .missingId ∧ (∀ e, f ≠ .save e) ∧
                Event.states events = [.idle, .saving, .executing, .failed f]) ∧
            Event.requests events =
              [.update id (.ofWorkflow c.workflow), .execute id c.input]) := by
  cases h with
  | refused hunstored => exact .inl ⟨hunstored, rfl, rfl⟩
  | unsaved hstored _ => exact .inr ⟨_, hstored, .inl ⟨_, rfl, rfl⟩⟩
  | @executed id reply answer copy state hstored _ hended =>
      refine .inr ⟨_, hstored, .inr ⟨?_, rfl⟩⟩
      obtain ⟨content, hcontent⟩ | ⟨f, hid, hsave, hf⟩ := executed_eq deadline answer
      · exact .inl ⟨content, by rw [← hcontent, ← hended]; rfl⟩
      · exact .inr ⟨f, hid, hsave, by rw [← hf, ← hended]; rfl⟩

/-- A run ends in the state that it announces last, and stays there. -/
theorem Ran.standing {deadline : Nat} {c : Call} {state : RunState} {events : List Event}
    (h : Ran deadline c state events) :
    (Event.states events).getLast? = some state ∧
      ∀ before, Event.standing before events = state := by
  cases h with
  | refused _ => exact ⟨rfl, fun _ => rfl⟩
  | unsaved _ _ => exact ⟨rfl, fun _ => rfl⟩
  | executed _ _ _ => exact ⟨rfl, fun _ => rfl⟩

/-- What a run has executed it has saved before, and an answer that comes late fails it. -/
theorem Ran.saved {deadline : Nat} {c : Call} {state : RunState} {events : List Event}
    (h : Ran deadline c state events) {id : WorkflowId} {input : String} {answer : Reply}
    (hasked : .asked (.execute id input) answer ∈ events) :
    (∃ payload reply body, .asked (.update id payload) reply ∈ events ∧ reply.result = .ok body ∧
      (Payload.isDocument (Envelope.unwrap body) = false ∨
        ∃ p, Payload.ofJson (Envelope.unwrap body) = .ok p)) ∧
      (answer.isLate deadline = true → state = .failed (.timeout deadline)) := by
  cases h with
  | refused _ => simp at hasked
  | unsaved _ _ => simp at hasked
  | @executed _ reply _ copy _ _ hread hended =>
      simp only [List.mem_cons, reduceCtorEq, Event.asked.injEq, Request.execute.injEq,
        List.not_mem_nil, false_and, false_or, or_false] at hasked
      obtain ⟨⟨rfl, rfl⟩, rfl⟩ := hasked
      obtain ⟨body, hanswer, hsaved⟩ := Reply.read_eq_ok_iff.mp hread
      refine ⟨⟨.ofWorkflow c.workflow, reply, body, ?_, hanswer, readable_of_saved hsaved⟩,
        fun hlate => ?_⟩
      · exact .tail _ (.tail _ (.head _))
      · rw [hended, executed_of_isLate hlate]

/-- **The course of runs**: any calls one after the other, with any service.
Every run announces one of four sequences of states, ends in the last of them
and stays there, and makes no requests but those that belong to the sequence.
It is executed only if it was saved, by a reply that is no document or can be
read, and fails with the deadline if that has passed before the answer. -/
theorem run_course (r : Repository) (deadline : Nat) (serve : Service σ) (t : σ)
    (calls : List Call) {x : Stage Repository Call RunState}
    (hx : x ∈ stages (Call.perform deadline) serve r t calls) :
    let states := Event.states x.events
    let requests := Event.requests x.events
    ((x.operation.id = none ∧ states = [.idle, .failed .missingId] ∧ requests = []) ∨
      ∃ id, x.operation.id = some id ∧
        ((∃ e, states = [.idle, .saving, .failed (.save e)] ∧
            requests = [.update id (.ofWorkflow x.operation.workflow)]) ∨
          ((∃ content, states = [.idle, .saving, .executing, .completed content]) ∨
              ∃ f, f ≠ .missingId ∧ (∀ e, f ≠ .save e) ∧
                states = [.idle, .saving, .executing, .failed f]) ∧
            requests =
              [.update id (.ofWorkflow x.operation.workflow), .execute id x.operation.input])) ∧
      states.getLast? = some x.outcome ∧
      (∀ before, Event.standing before x.events = x.outcome) ∧
      ∀ id input answer, .asked (.execute id input) answer ∈ x.events →
        (∃ payload reply body, .asked (.update id payload) reply ∈ x.events ∧
          reply.result = .ok body ∧
          (Payload.isDocument (Envelope.unwrap body) = false ∨
            ∃ p, Payload.ofJson (Envelope.unwrap body) = .ok p)) ∧
        (answer.isLate deadline = true → x.outcome = .failed (.timeout deadline)) := by
  have hruns : ∀ x ∈ stages (Call.perform deadline) serve r t calls,
      Ran deadline x.operation x.outcome x.events :=
    forall_stages _ serve (fun r t c => hasRan deadline r serve t c) r t calls
  have hran := hruns x hx
  exact ⟨hran.sequence, hran.standing.1, hran.standing.2, fun _ _ _ => hran.saved⟩

/-- A run without an id is refused, and the next one fails when its deadline has passed. -/
theorem run_course_late :
    let calls := [⟨none, .new "Draft", "hi"⟩, ⟨some ⟨"a"⟩, .new "Draft", "hi"⟩]
    let replies := [.answered 0 (.ok .null), .answered 1001 (.ok (.str "done"))]
    ∃ first second, stages (Call.perform 1000) Service.scripted empty replies calls =
        [first, second] ∧
      Event.states first.events = [.idle, .failed .missingId] ∧
      second.outcome = .failed (.timeout 1000) := by
  intro calls replies
  refine ⟨_, _, rfl, ?_, ?_⟩
  · obtain ⟨⟨-, hstates, -⟩ | ⟨id, hid, -⟩, -⟩ :=
      run_course empty 1000 Service.scripted replies calls List.mem_cons_self
    · exact hstates
    · exact nomatch hid
  · obtain ⟨-, -, -, hexecuted⟩ := run_course empty 1000 Service.scripted replies calls
      (List.mem_cons_of_mem _ List.mem_cons_self)
    refine (hexecuted ⟨"a"⟩ "hi" (.answered 1001 (.ok (.str "done"))) ?_).2 rfl
    exact .tail _ (.tail _ (.tail _ (.tail _ (.head _))))

end Repository

/-! ## runs of a session -/

namespace Session

theorem runState_adoptAs (s : Session) (id : WorkflowId) (copy : Workflow) :
    (s.adoptAs id copy).runState = s.runState := by
  rw [adoptAs, adopt_eq]

/-- An operation leaves the session where the run in it has ended. -/
theorem Effect.runState {s after : Session} {o : Operation} {outcome : Outcome}
    {events : List Event} (h : Effect s o outcome events after) :
    after.runState = Event.standing s.runState events := by
  cases h with
  | saved _ _ => exact runState_adoptAs ..
  | savedFirst _ _ _ => exact runState_adoptAs ..
  | _ => rfl

/-- **A session stands where its last run has ended**, after any operations
with any service. -/
theorem runState_history (s : Session) (serve : Service σ) (t : σ) (operations : List Operation) :
    let x := (s.history operations).run serve t
    x.1.2.runState = Event.standing s.runState x.2.1 := by
  intro x
  obtain ⟨-, hevents, hend⟩ := history_eq_stages Operation.perform serve s t operations
  have hstanding : ∀ x ∈ stages Operation.perform serve s t operations,
      x.after.runState = Event.standing x.before.runState x.events :=
    forall_stages _ serve (fun s t o => (s.hasEffect serve t o).runState) s t operations
  have hstands := (linked_stages Operation.perform serve s t operations).standing hstanding
  rwa [← hevents, ← hend] at hstands

end Session

end WorkflowEditor
