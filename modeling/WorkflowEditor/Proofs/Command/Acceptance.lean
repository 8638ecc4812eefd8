import WorkflowEditor.Proofs.Http.Recording
import WorkflowEditor.Proofs.Repository

/-!
# WorkflowEditor.Proofs.Command.Acceptance

Which answers the program can go on from: those in time, with a status of
success and a body that can be used for what was asked.

* `isAccepted_reply` — the same said of what comes of a message and of the reply
  that is made from it;
* `isAccepted_fetch`, `isAccepted_create`, `isAccepted_update`, `isAccepted_list`,
  `isAccepted_delete` — a reply is accepted exactly if its reader can read it.
-/

namespace WorkflowEditor

/-! ## answers that are accepted -/

/-- Can the answer to a request be used? -/
def Request.Accepts (body : Json) : Request → Prop
  | create _ => ∃ p, Payload.ofJson (Envelope.unwrap body) = .ok p ∧ p.id.isSome = true
  | list => ∃ items, Envelope.unwrap body = .arr items ∧ ∀ v ∈ items, ∃ p, Payload.ofJson v = .ok p
  | fetch _ => ∃ p, Payload.ofJson (Envelope.unwrap body) = .ok p
  | update _ _ =>
      Payload.isDocument (Envelope.unwrap body) = true →
        ∃ p, Payload.ofJson (Envelope.unwrap body) = .ok p
  | delete _ | execute _ _ => True

/-- A reply is accepted if it is a success that can be used; that of an
execution must come before the deadline, too. -/
def Reply.IsAccepted (deadline : Nat) (r : Request) (reply : Reply) : Prop :=
  (∃ body, reply.result = .ok body ∧ r.Accepts body) ∧
    (r.isTimed = false → reply.isLate deadline = false)

namespace Http

/-- How long the answer to a request is waited for, in milliseconds. -/
def patience (settings : Settings) (r : Request) : Nat :=
  if r.isTimed then settings.requestTimeoutSecs * 1000 else settings.deadline

/-- An outcome is accepted if it is an answer in time, with a status of success
and a body that can be used. -/
def Outcome.IsAccepted (settings : Settings) (r : Request) : Outcome → Prop
  | answered millis status text =>
      millis ≤ patience settings r ∧ 200 ≤ status ∧ status < 300 ∧ r.Accepts (readBody text)
  | failed _ | silent => False

/-- The body of the first answer. -/
def Record.answer : Record → Json
  | (_, .answered _ _ text) :: _ => readBody text
  | _ => .null

variable {settings : Settings} {r : Request}

theorem readAnswer_eq_ok_iff {status : Nat} {text : String} {body : Json} :
    readAnswer r status text = .ok body ↔ (200 ≤ status ∧ status < 300) ∧ readBody text = body := by
  rw [readAnswer]
  split
  · next h => simp [h]
  · next h => simp [h]

theorem isAccepted_reply {outcome : Outcome} :
    (reply (settings.requestTimeoutSecs * 1000) r outcome).IsAccepted settings.deadline r ↔
      outcome.IsAccepted settings r := by
  cases outcome with
  | failed details => simp [reply, Reply.IsAccepted, Reply.result, Outcome.IsAccepted]
  | silent =>
      cases htimed : r.isTimed <;>
        simp [reply, Reply.IsAccepted, Reply.result, Outcome.IsAccepted, htimed]
  | answered millis status text =>
      have hanswer : (∃ body, readAnswer r status text = .ok body ∧ r.Accepts body) ↔
          200 ≤ status ∧ status < 300 ∧ r.Accepts (readBody text) := by
        simp only [readAnswer_eq_ok_iff, and_assoc]
        simp
      cases htimed : r.isTimed with
      | true =>
          simp only [reply, htimed, true_and, Outcome.IsAccepted, patience, if_true,
            Reply.IsAccepted]
          split
          · next hlate => simp [Reply.result, Nat.not_le.mpr hlate]
          · next htime => simp [Reply.result, hanswer, Nat.not_lt.mp htime]
      | false =>
          simp only [reply, htimed, Outcome.IsAccepted, patience, Reply.IsAccepted, Reply.result,
            Reply.isLate, Bool.false_eq_true, false_and, if_false, hanswer, forall_const,
            decide_eq_false_iff_not, Nat.not_lt]
          rw [and_comm]

theorem not_isAccepted_unsendable (deadline : Nat) : ¬unsendable.IsAccepted deadline r := by
  rintro ⟨⟨body, hanswer, -⟩, -⟩
  exact nomatch hanswer

/-- The first answer is the one to the first request. -/
theorem OnWire.answer_eq {reply : Reply} {rest : List (Request × Reply)} {record : Record}
    (h : OnWire settings ((r, reply) :: rest) record) {body : Json}
    (hbody : reply.result = .ok body) : record.answer = body := by
  cases h with
  | unsent _ _ => exact nomatch hbody
  | @sent _ m outcome _ _ _ _ =>
      cases outcome with
      | failed details => exact nomatch hbody
      | silent =>
          rw [Http.reply] at hbody
          split at hbody
          · exact nomatch hbody
          · exact nomatch hbody
      | answered millis status text =>
          rw [Http.reply] at hbody
          split at hbody
          · exact nomatch hbody
          · exact (readAnswer_eq_ok_iff.mp hbody).2

end Http

/-! ## replies that are read -/

namespace Reply

/-- A reply to a timed request is accepted exactly if its reader can read it. -/
theorem isAccepted_iff_read {deadline : Nat} {r : Request} {reply : Reply}
    {reader : Json → Except ServiceError α} (htimed : r.isTimed = true)
    (hreader : ∀ body, r.Accepts body ↔ ∃ a, reader body = .ok a) :
    reply.IsAccepted deadline r ↔ ∃ a, reply.read reader = .ok a := by
  simp only [IsAccepted, htimed, hreader, read_eq_ok_iff, Bool.true_eq_false, false_implies,
    and_true]
  constructor
  · rintro ⟨body, hanswer, a, hread⟩
    exact ⟨a, body, hanswer, hread⟩
  · rintro ⟨a, body, hanswer, hread⟩
    exact ⟨body, hanswer, a, hread⟩

variable {deadline : Nat} {id : WorkflowId} {reply : Reply}

theorem isAccepted_fetch :
    reply.IsAccepted deadline (.fetch id) ↔ ∃ w, reply.read (Repository.fetched id) = .ok w := by
  refine isAccepted_iff_read rfl fun body => ?_
  simp only [Request.Accepts, Repository.fetched_eq_ok_iff]
  constructor
  · rintro ⟨p, hread⟩
    exact ⟨_, p, hread, rfl⟩
  · rintro ⟨w, p, hread, -⟩
    exact ⟨p, hread⟩

theorem isAccepted_create {w : Workflow} (hid : w.id = none) :
    reply.IsAccepted deadline (.create (.ofWorkflow w)) ↔
      ∃ x, reply.read (Repository.created w) = .ok x := by
  refine isAccepted_iff_read rfl fun body => ?_
  have hmerged (p : Payload) : (p.mergeInto w).id = p.id := by
    simp [Payload.mergeInto, hid]
  simp only [Request.Accepts, Prod.exists, Repository.created_eq_ok_iff, Option.isSome_iff_exists]
  constructor
  · rintro ⟨p, hread, id, hassigned⟩
    exact ⟨id, _, p, hread, rfl, (hmerged p).trans hassigned⟩
  · rintro ⟨id, _, p, hread, rfl, hassigned⟩
    exact ⟨p, hread, id, (hmerged p).symm.trans hassigned⟩

theorem isAccepted_update {w : Workflow} {p : Payload} :
    reply.IsAccepted deadline (.update id p) ↔
      ∃ copy, reply.read (Repository.saved id w) = .ok copy := by
  refine isAccepted_iff_read rfl fun body => ?_
  simp only [Request.Accepts, Repository.saved_eq_ok_iff]
  split
  · next hdocument =>
    constructor
    · intro haccepted
      obtain ⟨p, hread⟩ := haccepted hdocument
      exact ⟨_, p, hread, rfl⟩
    · rintro ⟨copy, p, hread, -⟩ -
      exact ⟨p, hread⟩
  · next hno => exact ⟨fun _ => ⟨_, rfl⟩, fun _ hdocument => (hno hdocument).elim⟩

theorem isAccepted_list :
    reply.IsAccepted deadline .list ↔ ∃ all, reply.read Repository.listed = .ok all := by
  refine isAccepted_iff_read rfl fun body => ?_
  have hitem (v : Json) : (∃ summary, (do
      return (Workflow.ofPayload (← Repository.readPayload v)).summary :
        Except ServiceError Summary) = .ok summary) ↔ ∃ p, Payload.ofJson v = .ok p := by
    simp only [bind_eq_ok_iff, Repository.readPayload_eq_ok_iff, pure_eq_ok_iff]
    exact ⟨fun ⟨_, p, hread, _⟩ => ⟨p, hread⟩, fun ⟨p, hread⟩ => ⟨_, p, hread, rfl⟩⟩
  rw [Repository.listed.eq_def, Request.Accepts]
  split
  · next items hitems =>
    simp only [hitems, exists_mapM_eq_ok_iff, hitem, Json.arr.injEq, exists_eq_left']
  · next hno => exact ⟨fun ⟨items, hitems, _⟩ => (hno items hitems).elim, nofun⟩

theorem isAccepted_delete :
    reply.IsAccepted deadline (.delete id) ↔ ∃ body, reply.result = .ok body := by
  simp [IsAccepted, Request.Accepts, Request.isTimed]

end Reply

end WorkflowEditor
