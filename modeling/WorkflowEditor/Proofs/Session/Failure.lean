import WorkflowEditor.Proofs.Repository.Copies
import WorkflowEditor.Proofs.Session.Course

/-!
# WorkflowEditor.Proofs.Session.Failure

What fails leaves no trace on this side.  A failure can strike at any stage:
no answer, an answer that cannot be read although the service has already
stored the document, the second request of a save that comes after a create.

* `Repository.unchanged_of_failed` — a failed operation leaves every copy as it was;
* `Effect.unchanged_of_isFailure` — a failed operation in a session leaves the
  document and the store as they were;
* `unchanged_of_failure` — both, and what is refused without a request.
-/

namespace WorkflowEditor

/-! ## copies -/

namespace Repository

variable {serve : Service σ} {t : σ} {e : ServiceError}

/-- A failed operation leaves the repository as it was. -/
theorem unchanged_of_failed {r : Repository} (o : Operation)
    (h : ((o.perform r).run serve t).1.1 = .failed e) : ((o.perform r).run serve t).1.2 = r := by
  obtain ⟨heffect, -⟩ := r.hasEffect serve t o
  rw [h] at heffect
  exact heffect.eq_of_failed

end Repository

namespace Session

/-! ## document and store -/

theorem isFailure_ran {state : RunState} :
    (Outcome.ran state).IsFailure ↔ state.isSaved = false := by
  rw [Outcome.IsFailure.eq_def, RunState.isSaved.eq_def]
  cases state with
  | failed failure => cases failure <;> simp
  | _ => simp

/-- An operation that fails leaves the document and the store as they were. -/
theorem Effect.unchanged_of_isFailure {s after : Session} {o : Operation} {outcome : Outcome}
    {events : List Event} (h : Effect s o outcome events after) (hfails : outcome.IsFailure) :
    after.document = s.document ∧ after.store = s.store := by
  cases h with
  | opened | created | saved | savedFirst | deleted | nothingToDelete | listed | edited |
      revised => exact hfails.elim
  | ran _ _ hended =>
      rw [isFailure_ran, hended, Repository.isSaved_executed] at hfails
      exact nomatch hfails
  | notOpened | notCreated | notSaved | createdNotSaved | notSavedFirst | notRan | refusedRun |
      notDeleted | notListed => exact ⟨rfl, rfl⟩

/-! ## without a request -/

/-- A document that was never stored is left alone by a delete. -/
theorem run_delete_of_unstored {s : Session} (hid : s.document.id = none) (serve : Service σ)
    (t : σ) : s.delete.run serve t = ((.ok false, s), [], t) := by
  rw [delete, hid]
  rfl

/-- A document that was never stored is not run. -/
theorem run_run_of_unstored {s : Session} (hid : s.document.id = none) (input : String)
    (serve : Service σ) (t : σ) :
    (s.run input).run serve t =
      ((.failed .missingId, { s with runState := .failed .missingId }),
        [.announced .idle, .announced (.failed .missingId)], t) := by
  have hout : s.outgoing.id = none := hid
  rw [run, hout]
  rfl

/-- **What fails leaves no trace.**  An operation on a repository that fails
leaves every copy as it was, and one in a session the document and the store,
whatever the service replies.  A delete and a run of a document without an id
ask nothing, and all that changes is where the run stands. -/
theorem unchanged_of_failure :
    (∀ (r : Repository) (o : Repository.Operation) {σ : Type} (serve : Service σ) (t : σ) (e),
      ((o.perform r).run serve t).1.1 = .failed e → ((o.perform r).run serve t).1.2 = r) ∧
    (∀ (s : Session) (o : Operation) {σ : Type} (serve : Service σ) (t : σ),
      ((o.perform s).run serve t).1.1.IsFailure →
        ((o.perform s).run serve t).1.2.document = s.document ∧
        ((o.perform s).run serve t).1.2.store = s.store) ∧
    ∀ s : Session, s.document.id = none → ∀ {σ : Type} (serve : Service σ) (t : σ),
      s.delete.run serve t = ((.ok false, s), [], t) ∧
      ∀ input, (s.run input).run serve t =
        ((.failed .missingId, { s with runState := .failed .missingId }),
          [.announced .idle, .announced (.failed .missingId)], t) :=
  ⟨fun _ o _ _ _ _ h => Repository.unchanged_of_failed o h,
    fun s o _ serve t h => (s.hasEffect serve t o).unchanged_of_isFailure h,
    fun _ hid _ serve t => ⟨run_delete_of_unstored hid serve t,
      fun input => run_run_of_unstored hid input serve t⟩⟩

/-- A save whose second request is never answered, a save under an id whose
answer cannot be read, and a delete of what was never stored. -/
theorem unchanged_of_failure_after_create :
    let s := { Session.new 0 with
      store := Store.new.run [.addNode (Node.new ⟨"n"⟩ "agent" .origin)] }
    let stored := (Operation.save.perform s).run Service.scripted
      [.answered 0 (.ok (.object [("_id", .str "a")])), .never]
    let kept := ((Repository.Operation.save ⟨"a"⟩ s.document).perform s.repository).run
      Service.scripted [.answered 0 (.ok (.object [("title", .bool true)]))]
    (Event.requests stored.2.1).map Request.name = ["create", "update a"] ∧
      stored.1.1 = .failed .timeout ∧
      stored.1.2.document = s.document ∧ stored.1.2.store = s.store ∧
      (∃ e, kept.1.1 = .failed e) ∧ kept.1.2 = s.repository ∧
      s.delete.run Service.scripted [] = ((.ok false, s), [], []) := by
  intro s stored kept
  obtain ⟨hrepository, hsession, hunstored⟩ := unchanged_of_failure
  have hstored : stored.1.1 = .failed .timeout := rfl
  have hkept : kept.1.1 = .failed
      (.malformed "invalid type: boolean `true`, expected a string") := rfl
  have hfails : stored.1.1.IsFailure := trivial
  obtain ⟨hdocument, hstore⟩ := hsession s .save Service.scripted _ hfails
  exact ⟨rfl, hstored, hdocument, hstore, ⟨_, hkept⟩, hrepository _ _ _ _ _ hkept,
    (hunstored s rfl Service.scripted []).1⟩

end Session

end WorkflowEditor
