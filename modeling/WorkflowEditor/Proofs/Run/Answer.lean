import WorkflowEditor.Proofs.Http.Recording
import WorkflowEditor.Proofs.Repository
import WorkflowEditor.Run.Sequence

/-!
# WorkflowEditor.Proofs.Run.Answer

What the answer to an execution makes of a run.  The status alone tells whether
the run ends completed, with a workflow that is not there, or with a message,
and any body will do.

* `isMessage_iff` — the message that an error body has for the user;
* `executed_reply` — the state that an answer leads to;
* `run_of_saved` — a run that has saved its workflow ends where the execution ends;
* `run_of_answer` — the end of a run, by the status of the answer.
-/

namespace WorkflowEditor

namespace ServiceError

/-- The message of an error body: of the members `message` and `error` the first
that is a text and not blank, and else a text that names the status. -/
inductive IsMessage (status : Nat) (body : Json) : String → Prop
  | message {s : String} (found : body.get? "message" = some (.str s))
      (filled : Text.isBlankText s = false) : IsMessage status body s
  | error {s : String}
      (noMessage : ∀ t, body.get? "message" = some (.str t) → Text.isBlankText t = true)
      (found : body.get? "error" = some (.str s)) (filled : Text.isBlankText s = false) :
      IsMessage status body s
  | status (noMessage : ∀ t, body.get? "message" = some (.str t) → Text.isBlankText t = true)
      (noError : ∀ t, body.get? "error" = some (.str t) → Text.isBlankText t = true) :
      IsMessage status body ("server error: " ++ toString status)

/-- The text under a key of an error body, if there is one that is not blank. -/
def messageAt? (body : Json) (key : String) : Option String :=
  ((body.get? key).bind Json.string?).filter fun s => !Text.isBlankText s

theorem messageAt?_eq_some_iff {body : Json} {key s : String} :
    messageAt? body key = some s ↔
      body.get? key = some (.str s) ∧ Text.isBlankText s = false := by
  rw [messageAt?, Option.filter_eq_some_iff, Bool.not_eq_true']
  refine and_congr_left fun _ => ?_
  cases body.get? key with
  | none => simp
  | some v => cases v <;> simp [Json.string?]

theorem messageAt?_eq_none_iff {body : Json} {key : String} :
    messageAt? body key = none ↔
      ∀ s, body.get? key = some (.str s) → Text.isBlankText s = true := by
  rw [Option.eq_none_iff_forall_ne_some]
  simp only [ne_eq, messageAt?_eq_some_iff, not_and, Bool.not_eq_false]

/-- The keys are looked at one after the other. -/
theorem find?_messages (body : Json) (keys : List String) :
    ((keys.filterMap fun key => (body.get? key).bind Json.string?).find?
      fun s => !Text.isBlankText s) = keys.findSome? (messageAt? body) := by
  induction keys with
  | nil => rfl
  | cons key rest ih =>
      rw [List.filterMap_cons, List.findSome?_cons, messageAt?, ← ih]
      cases (body.get? key).bind Json.string? with
      | none => rfl
      | some s =>
          rw [List.find?_cons, Option.filter_some]
          cases Text.isBlankText s <;> rfl

theorem serverMessage_eq (status : Nat) (body : Json) : serverMessage status body =
    ((messageAt? body "message").or (messageAt? body "error")).getD
      ("server error: " ++ toString status) := by
  rw [serverMessage, find?_messages, messageKeys, List.findSome?_cons, List.findSome?_singleton]
  cases messageAt? body "message" with
  | some s => rfl
  | none => cases messageAt? body "error" <;> rfl

/-- Every error body has one message. -/
theorem isMessage_iff {status : Nat} {body : Json} {m : String} :
    IsMessage status body m ↔ serverMessage status body = m := by
  rw [serverMessage_eq, getD_or_eq_iff]
  simp only [messageAt?_eq_some_iff, messageAt?_eq_none_iff]
  constructor
  · intro h
    cases h with
    | message found filled => exact .inl ⟨found, filled⟩
    | error noMessage found filled => exact .inr (.inl ⟨noMessage, found, filled⟩)
    | status noMessage noError => exact .inr (.inr ⟨noMessage, noError, rfl⟩)
  · rintro (⟨found, filled⟩ | ⟨noMessage, found, filled⟩ | ⟨noMessage, noError, rfl⟩)
    · exact .message found filled
    · exact .error noMessage found filled
    · exact .status noMessage noError

end ServiceError

/-- An error status fails a run for a workflow that is not there, or with a message. -/
theorem RunFailure.ofServiceError_ofStatus (status : Nat) (resource : String) (body : Json) :
    ofServiceError (.ofStatus status resource body) =
      if status = 404 then .notFound
      else .http status (ServiceError.serverMessage status body) := by
  rw [ServiceError.ofStatus]
  split
  · rfl
  · split
    · rfl
    · rfl

namespace Http

/-- **An answer in time** completes the run if its status is one of success, and
else fails it for a workflow that is not there or with the message of the body. -/
theorem executed_reply {deadline limit millis status : Nat} {id : WorkflowId}
    {input text : String} (h : millis ≤ deadline) :
    Repository.executed deadline (reply limit (.execute id input) (.answered millis status text)) =
      if 200 ≤ status ∧ status < 300 then .completed (Envelope.executionContent (readBody text))
      else if status = 404 then .failed .notFound
      else .failed (.http status (ServiceError.serverMessage status (readBody text))) := by
  have hintime : (Reply.answered millis (readAnswer (.execute id input) status text)).isLate
      deadline = false := decide_eq_false (Nat.not_lt.mpr h)
  rw [reply, if_neg fun hlimit => Bool.false_ne_true hlimit.1, Repository.executed, hintime,
    if_neg Bool.false_ne_true, Reply.result, readAnswer]
  by_cases hsuccess : 200 ≤ status ∧ status < 300
  · rw [if_pos hsuccess, if_pos hsuccess]
  · rw [if_neg hsuccess, if_neg hsuccess]
    simp only [RunFailure.ofServiceError_ofStatus]
    split
    · rfl
    · rfl

end Http

/-- A run that has saved its workflow ends where the execution ends. -/
theorem Repository.run_of_saved {r : Repository} {deadline : Nat} {id : WorkflowId} {w : Workflow}
    {input : String} {serve : Service σ} {t : σ}
    (hsaved : ((r.save id w).run serve t).1.1.isOk = true) :
    ((r.run deadline (some id) w input).run serve t).1.1 =
      executed deadline (serve ((r.save id w).run serve t).2.2 (.execute id input)).1 := by
  rw [run]
  simp only [Dialogue.run, Dialogue.run_bind]
  generalize (r.save id w).run serve t = saved at hsaved ⊢
  obtain ⟨⟨result, after⟩, events, u⟩ := saved
  cases result with
  | error e => exact absurd hsaved Bool.false_ne_true
  | ok copy => rfl

/-- **The end of a run, by the status of the answer.**  A run that has saved its
workflow, and whose execution is answered before the deadline, completes with the
content of the answer just if the status is one of success, and fails for a
workflow that is not there just if the status is 404.  Any other status fails it
with that status and the message of the body, which is not blank.  The answer is
never one that cannot be read. -/
theorem Http.run_of_answer (settings : Settings) (peer : Peer σ) (s : σ) (r : Repository)
    (deadline : Nat) (id : WorkflowId) (w : Workflow) (input : String)
    (hsaved : ((r.save id w).run (service settings peer) s).1.1.isOk = true)
    {m : Message} (hsent : message? settings.baseUrl (.execute id input) = some m)
    {millis status : Nat} {text : String}
    (hanswer : (peer ((r.save id w).run (service settings peer) s).2.2 m).1 =
      .answered millis status text)
    (hintime : millis ≤ deadline) :
    let state := ((r.run deadline (some id) w input).run (service settings peer) s).1.1
    let body := readBody text
    ((∃ content, state = .completed content) ↔ 200 ≤ status ∧ status < 300) ∧
      (∀ content, state = .completed content → content = Envelope.executionContent body) ∧
      (state = .failed .notFound ↔ status = 404) ∧
      (¬(200 ≤ status ∧ status < 300) → status ≠ 404 →
        ∃ message, state = .failed (.http status message) ∧
          ServiceError.IsMessage status body message ∧ Text.isBlankText message = false) ∧
      ∀ details, state ≠ .failed (.unknown details) := by
  intro state body
  have hreply : (service settings peer ((r.save id w).run (service settings peer) s).2.2
      (.execute id input)).1 =
      reply (settings.requestTimeoutSecs * 1000) (.execute id input)
        (.answered millis status text) := by
    rw [service_eq settings hsent, hanswer]
  have hstate : state =
      if 200 ≤ status ∧ status < 300 then .completed (Envelope.executionContent body)
      else if status = 404 then .failed .notFound
      else .failed (.http status (ServiceError.serverMessage status body)) :=
    (Repository.run_of_saved hsaved).trans (hreply ▸ executed_reply hintime)
  by_cases hsuccess : 200 ≤ status ∧ status < 300
  · rw [if_pos hsuccess] at hstate
    rw [hstate]
    refine ⟨⟨fun _ => hsuccess, fun _ => ⟨_, rfl⟩⟩, ?_, ⟨nofun, ?_⟩, ?_, nofun⟩
    · rintro content ⟨⟩
      rfl
    · rintro rfl
      exact absurd hsuccess (by decide)
    · exact fun hno => absurd hsuccess hno
  · rw [if_neg hsuccess] at hstate
    have hfailed : (∃ content, state = .completed content) ↔ 200 ≤ status ∧ status < 300 := by
      refine ⟨?_, fun h => absurd h hsuccess⟩
      rintro ⟨content, hcontent⟩
      rw [hstate] at hcontent
      split at hcontent <;> exact nomatch hcontent
    split at hstate
    · next habsent =>
      rw [hstate] at hfailed ⊢
      refine ⟨hfailed, nofun, ⟨fun _ => habsent, fun _ => rfl⟩, ?_, nofun⟩
      exact fun _ hthere => absurd habsent hthere
    · next hthere =>
      rw [hstate] at hfailed ⊢
      refine ⟨hfailed, nofun, ⟨nofun, fun habsent => absurd habsent hthere⟩, fun _ _ => ?_, nofun⟩
      exact ⟨_, rfl, ServiceError.isMessage_iff.mpr rfl,
        ServiceError.isBlankText_serverMessage status body⟩

/-- A save that is answered with nothing, and an execution that is answered with a
status of failure: a blank message is passed over. -/
theorem Http.run_of_answer_blank :
    let peer : Peer (List Outcome) := fun outcomes _ => (outcomes.headD .silent, outcomes.tail)
    let text := "\x7b\"message\":\" \",\"error\":\"cast failed\"\x7d"
    let outcomes : List Outcome := [.answered 5 200 "", .answered 900 500 text]
    let state := ((Repository.empty.run 1000 (some ⟨"a"⟩) (.new "Draft") "hi").run
      (service {} peer) outcomes).1.1
    state = .failed (.http 500 "cast failed") ∧
      ServiceError.IsMessage 500 (readBody text) "cast failed" := by
  intro peer text outcomes state
  have hsaved : ((Repository.empty.save ⟨"a"⟩ (.new "Draft")).run
      (service {} peer) outcomes).1.1.isOk = true := by decide +kernel
  have hleft : ((Repository.empty.save ⟨"a"⟩ (.new "Draft")).run (service {} peer) outcomes).2.2 =
      [.answered 900 500 text] := by decide +kernel
  obtain ⟨m, hsent⟩ : ∃ m, message? ({} : Settings).baseUrl (.execute ⟨"a"⟩ "hi") = some m :=
    Option.isSome_iff_exists.mp (by decide +kernel)
  obtain ⟨-, -, -, hfailed, -⟩ := run_of_answer {} peer outcomes .empty 1000 ⟨"a"⟩ (.new "Draft")
    "hi" hsaved hsent (by rw [hleft]; rfl) (by decide)
  obtain ⟨message, hmessage, hmeant, -⟩ := hfailed (by decide) (by decide)
  have hend : state = .failed (.http 500 "cast failed") := by decide +kernel
  cases hend.symm.trans hmessage
  exact ⟨hend, hmeant⟩

end WorkflowEditor
