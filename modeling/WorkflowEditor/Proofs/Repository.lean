import WorkflowEditor.Proofs.Json.Reading
import WorkflowEditor.Repository

/-!
# WorkflowEditor.Proofs.Repository

What the replies to a repository's requests come to.  A reply is read by one of
four readers, and a request comes to what its reader makes of the reply.

* `run_exchange` — a single request; `run_create`, `run_fetch`, `run_save` —
  those whose reply is kept; `run_list` — the one whose reply is not;
* `fetched_eq_ok_iff`, `created_eq_ok_iff`, `saved_eq_ok_iff` — the documents
  that the readers make.
-/

namespace WorkflowEditor

/-! ## replies that are read -/

/-- What is read of the answer to a request; an error is none. -/
def Reply.read (reply : Reply) (reader : Json → Except ServiceError α) : Except ServiceError α :=
  reply.result.bind reader

theorem Reply.read_bind (reply : Reply) (reader : Json → Except ServiceError α)
    (next : α → Except ServiceError β) :
    (reply.read fun body => reader body >>= next) = reply.read reader >>= next := by
  rw [read, read]
  cases reply.result with
  | error e => rfl
  | ok body => rfl

theorem Reply.read_eq_ok_iff {reply : Reply} {reader : Json → Except ServiceError α} {a : α} :
    reply.read reader = .ok a ↔ ∃ body, reply.result = .ok body ∧ reader body = .ok a := by
  rw [read]
  cases reply.result with
  | error e => simp [Except.bind]
  | ok body => simp [Except.bind]

theorem Reply.read_eq_error_iff {reply : Reply} {reader : Json → Except ServiceError α} :
    (∃ e, reply.read reader = .error e) ↔
      (∃ e, reply.result = .error e) ∨
        ∃ body, reply.result = .ok body ∧ ∃ e, reader body = .error e := by
  rw [read]
  cases reply.result with
  | error e => simp [Except.bind]
  | ok body => simp [Except.bind]

/-- What a single request comes to. -/
theorem Repository.run_exchange (r : Repository) (request : Request)
    (accept : Json → Except ServiceError (α × Repository)) (serve : Service σ) (t : σ) :
    (r.exchange request accept).run serve t =
      (match (serve t request).1.read accept with
        | .ok (a, r) => (.ok a, r)
        | .error e => (.error e, r),
        [.asked request (serve t request).1], (serve t request).2) := rfl

namespace Repository

/-- What a creation comes to. -/
theorem run_create (r : Repository) (w : Workflow) (serve : Service σ) (t : σ) :
    let reply := (serve t (.create (.ofWorkflow w))).1
    (r.create w).run serve t =
      (match reply.read (created w) with
        | .ok (id, stored) => (.ok id, r.keep id stored)
        | .error e => (.error e, r),
        [.asked (.create (.ofWorkflow w)) reply], (serve t (.create (.ofWorkflow w))).2) := by
  intro reply
  rw [create, run_exchange, Reply.read_bind]
  cases reply.read (created w) with
  | error e => rfl
  | ok x => rfl

/-- What a fetch comes to. -/
theorem run_fetch (r : Repository) (id : WorkflowId) (serve : Service σ) (t : σ) :
    let reply := (serve t (.fetch id)).1
    (r.fetch id).run serve t =
      (match reply.read (fetched id) with
        | .ok w => (.ok w, r.keep id w)
        | .error e => (.error e, r),
        [.asked (.fetch id) reply], (serve t (.fetch id)).2) := by
  intro reply
  rw [fetch, run_exchange, Reply.read_bind]
  cases reply.read (fetched id) with
  | error e => rfl
  | ok w => rfl

/-- What a save comes to. -/
theorem run_save (r : Repository) (id : WorkflowId) (w : Workflow) (serve : Service σ) (t : σ) :
    let reply := (serve t (.update id (.ofWorkflow w))).1
    (r.save id w).run serve t =
      (match reply.read (saved id w) with
        | .ok copy => (.ok copy, r.keep id copy)
        | .error e => (.error e, r),
        [.asked (.update id (.ofWorkflow w)) reply], (serve t (.update id (.ofWorkflow w))).2) := by
  intro reply
  rw [save, run_exchange, Reply.read_bind]
  cases reply.read (saved id w) with
  | error e => rfl
  | ok copy => rfl

/-- What a listing comes to. -/
theorem run_list (r : Repository) (serve : Service σ) (t : σ) :
    let reply := (serve t .list).1
    r.list.run serve t = ((reply.read listed, r), [.asked .list reply], (serve t .list).2) := by
  intro reply
  rw [list, run_exchange, Reply.read_bind]
  cases reply.read listed with
  | error e => rfl
  | ok summaries => rfl

/-! ## documents in replies -/

variable {body : Json} {id : WorkflowId} {w : Workflow}

/-- Only an object is read as a payload. -/
theorem readPayload_eq_ok_iff {v : Json} {p : Payload} :
    readPayload v = .ok p ↔ Payload.ofJson v = .ok p := by
  constructor
  · intro h
    rw [readPayload.eq_def] at h
    split at h
    · next fields =>
      cases hread : Payload.ofJson (.obj fields) with
      | ok q =>
          rw [hread] at h
          cases h
          rfl
      | error e =>
          rw [hread] at h
          exact nomatch h
    · exact nomatch h
  · intro h
    obtain ⟨fields, rfl⟩ := Json.exists_fields_of_asRecord h
    rw [readPayload, h]
    rfl

/-- What does not read as a payload is malformed. -/
theorem readPayload_eq_error {v : Json} (h : ∀ p, Payload.ofJson v ≠ .ok p) :
    ∃ details, readPayload v = .error (.malformed details) := by
  cases v with
  | obj fields =>
      cases hread : Payload.ofJson (.obj fields) with
      | ok p => exact (h p hread).elim
      | error fault => exact ⟨fault.message, by rw [readPayload, hread]; rfl⟩
  | _ => exact ⟨_, rfl⟩

theorem fetched_eq_ok_iff : fetched id body = .ok w ↔
    ∃ p, Payload.ofJson (Envelope.unwrap body) = .ok p ∧
      { Workflow.ofPayload p with id := (Workflow.ofPayload p).id.or (some id) } = w := by
  rw [fetched, bind_eq_ok_iff]
  simp only [readPayload_eq_ok_iff, pure_eq_ok_iff]

/-- A document that is fetched has an id. -/
theorem isSome_id_of_fetched (h : fetched id body = .ok w) : w.id.isSome = true := by
  obtain ⟨p, -, rfl⟩ := fetched_eq_ok_iff.mp h
  rw [Option.isSome_or, Option.isSome_some, Bool.or_true]

theorem created_eq_ok_iff {stored : Workflow} : created w body = .ok (id, stored) ↔
    ∃ p, Payload.ofJson (Envelope.unwrap body) = .ok p ∧
      p.mergeInto w = stored ∧ stored.id = some id := by
  rw [created, bind_eq_ok_iff]
  simp only [readPayload_eq_ok_iff]
  refine exists_congr fun p => and_congr_right fun _ => ?_
  cases hid : (p.mergeInto w).id with
  | none =>
      refine ⟨nofun, ?_⟩
      rintro ⟨rfl, hsome⟩
      rw [hid] at hsome
      exact nomatch hsome
  | some assigned =>
      simp only [pure_eq_ok_iff, Prod.mk.injEq]
      constructor
      · rintro ⟨rfl, rfl⟩
        exact ⟨rfl, hid⟩
      · rintro ⟨rfl, hsome⟩
        exact ⟨Option.some.inj (hid.symm.trans hsome), rfl⟩

/-- A reply that is no document confirms the one that was sent. -/
theorem saved_eq_ok_iff {copy : Workflow} : saved id w body = .ok copy ↔
    if Payload.isDocument (Envelope.unwrap body) then
      ∃ p, Payload.ofJson (Envelope.unwrap body) = .ok p ∧
        p.mergeInto { w with id := some id } = copy
    else { w with id := some id } = copy := by
  rw [saved]
  split
  · rw [bind_eq_ok_iff]
    simp only [readPayload_eq_ok_iff, pure_eq_ok_iff]
  · rw [pure_eq_ok_iff]

/-- A document that is saved has an id. -/
theorem isSome_id_of_saved {copy : Workflow} (h : saved id w body = .ok copy) :
    copy.id.isSome = true := by
  rw [saved_eq_ok_iff] at h
  split at h
  · obtain ⟨p, -, rfl⟩ := h
    cases hid : p.id <;> simp [Payload.mergeInto, hid]
  · rw [← h]
    rfl

end Repository

end WorkflowEditor
