import WorkflowEditor.Proofs.Session.Course

/-!
# WorkflowEditor.Proofs.Session.Agreement

A run and a save agree.  Both send the document once under its id, and what is
made of the reply is the same (`Session.updated`), though a save has the copy
from the reply and a run finds it in the repository when it is over.

* `Effect.of_save`, `Effect.of_run` — both lead to what the update's reply says;
* `run_agrees_with_save` — so does the same reply, whatever the execution
  comes to.
-/

namespace WorkflowEditor.Session

/-- The request that stores a document again with the graph as it is edited. -/
def updateRequest (s : Session) (id : WorkflowId) : Request := .update id (.ofWorkflow s.outgoing)

/-- The session after an update, by what is read of its reply. -/
def updated (s : Session) (id : WorkflowId) : Except ServiceError Workflow → Session
  | .ok copy => s.adoptAs id copy
  | .error _ => s

/-- The requests of a run after its update: it is executed if it was saved. -/
def executions (id : WorkflowId) (input : String) : Except ServiceError Workflow → List Request
  | .ok _ => [.execute id input]
  | .error _ => []

namespace Effect

variable {s after : Session} {outcome : Outcome} {events : List Event} {id : WorkflowId}

/-- A save asks one request, and its reply says what the session is then. -/
theorem of_save (h : Effect s .save outcome events after) (hid : s.document.id = some id) :
    ∃ reply, events.findSome? Event.exchange? = some (s.updateRequest id, reply) ∧
      after = s.updated id (reply.read (Repository.saved id s.outgoing)) ∧
      Event.requests events = [s.updateRequest id] := by
  cases h with
  | @saved _ reply _ stored read =>
      obtain rfl := Option.some.inj (hid.symm.trans stored)
      refine ⟨reply, rfl, ?_, rfl⟩
      rw [read, updated]
  | @notSaved _ reply _ stored read =>
      obtain rfl := Option.some.inj (hid.symm.trans stored)
      refine ⟨reply, rfl, ?_, rfl⟩
      rw [read, updated]
  | savedFirst unstored | createdNotSaved unstored | notSavedFirst unstored =>
      exact nomatch hid.symm.trans unstored

/-- The first request of a run is the same one, and its reply says what document,
store and copies are then. -/
theorem of_run {input : String} (h : Effect s (.run input) outcome events after)
    (hid : s.document.id = some id) :
    ∃ reply state, events.findSome? Event.exchange? = some (s.updateRequest id, reply) ∧
      after =
        { s.updated id (reply.read (Repository.saved id s.outgoing)) with runState := state } ∧
      Event.requests events = s.updateRequest id ::
        executions id input (reply.read (Repository.saved id s.outgoing)) := by
  cases h with
  | @ran _ _ reply answer _ state stored read ended =>
      obtain rfl := Option.some.inj (hid.symm.trans stored)
      refine ⟨reply, state, rfl, ?_⟩
      rw [read]
      exact ⟨rfl, rfl⟩
  | @notRan _ _ reply e stored read =>
      obtain rfl := Option.some.inj (hid.symm.trans stored)
      refine ⟨reply, .failed (.save e), rfl, ?_⟩
      rw [read]
      exact ⟨rfl, rfl⟩
  | refusedRun unstored => exact nomatch hid.symm.trans unstored

end Effect

/-- **A run and a save agree.**  With the same outcome of their update they leave
the same document, store and copies, whatever the input and whatever becomes of
the execution, and the update they send is the same. -/
theorem run_agrees_with_save {s : Session} {id : WorkflowId} (hid : s.document.id = some id)
    {σ τ : Type} {serve : Service σ} {t : σ} {server : Service τ} {u : τ}
    (hreply : (serve t (s.updateRequest id)).1.result = (server u (s.updateRequest id)).1.result)
    (input : String) :
    let saved := (Operation.save.perform s).run serve t
    let ran := ((Operation.run input).perform s).run server u
    (ran.1.2.document = saved.1.2.document ∧ ran.1.2.store = saved.1.2.store ∧
      ran.1.2.repository = saved.1.2.repository) ∧
    Event.requests saved.2.1 = [s.updateRequest id] ∧
    (Event.requests ran.2.1 = [s.updateRequest id] ∨
      Event.requests ran.2.1 = [s.updateRequest id, .execute id input]) := by
  intro saved ran
  obtain ⟨first, hfirst, hsaved, hasked⟩ := (s.hasEffect serve t .save).of_save hid
  obtain ⟨second, state, hsecond, hran, hsent⟩ :=
    (s.hasEffect server u (.run input)).of_run hid
  obtain rfl := Dialogue.reply_of_first_asked hfirst
  obtain rfl := Dialogue.reply_of_first_asked hsecond
  have hsaved : saved.1.2 = s.updated id _ := hsaved
  have hran : ran.1.2 = { s.updated id _ with runState := state } := hran
  have hread : (serve t (s.updateRequest id)).1.read (Repository.saved id s.outgoing) =
      (server u (s.updateRequest id)).1.read (Repository.saved id s.outgoing) := by
    rw [Reply.read, hreply, Reply.read]
  refine ⟨?_, hasked, ?_⟩
  · rw [hsaved, hran, hread]
    exact ⟨rfl, rfl, rfl⟩
  · rw [show Event.requests ran.2.1 = _ from hsent]
    cases (server u (s.updateRequest id)).1.read (Repository.saved id s.outgoing) with
    | ok copy => exact .inr rfl
    | error e => exact .inl rfl

/-- A run whose execution is never answered takes over the copy that a save takes over. -/
theorem run_agrees_with_save_unanswered :
    let s := { Session.new 1000 with document := { Workflow.new "Draft" with id := some ⟨"w"⟩ } }
    let body := Json.object [("title", .str "Final")]
    let saved := (Operation.save.perform s).run Service.scripted [.answered 0 (.ok body)]
    let ran := ((Operation.run "hello").perform s).run Service.scripted
      [.answered 7 (.ok body), .never]
    saved.1.1 = .stored ⟨"w"⟩ ∧ ran.1.1 = .ran (.failed (.timeout 1000)) ∧
      saved.1.2.document.title = "Final" ∧ ran.1.2.document = saved.1.2.document ∧
      ran.1.2.store = saved.1.2.store ∧ ran.1.2.repository = saved.1.2.repository := by
  intro s body saved ran
  have hid : s.document.id = some ⟨"w"⟩ := rfl
  have hreply : (Service.scripted [.answered 0 (.ok body)] (s.updateRequest ⟨"w"⟩)).1.result =
      (Service.scripted [.answered 7 (.ok body), .never] (s.updateRequest ⟨"w"⟩)).1.result := rfl
  exact ⟨rfl, rfl, rfl, (run_agrees_with_save hid hreply "hello").1⟩

end WorkflowEditor.Session
