import WorkflowEditor.Http.Client
import WorkflowEditor.Proofs.Dialogue

/-!
# WorkflowEditor.Proofs.Http.Recording

What goes over the wire when a dialogue takes place with the service at a peer.
A peer that keeps a record answers like one that does not, so what is recorded
is what is sent.  A message is recorded as it is handed to the peer; what the
peer does until it has an answer is its own affair.

* `service_eq` — a request that is sent;
* `OnWire` — how the requests and replies of a dialogue appear on the wire;
* `onWire_run` — a dialogue that takes place leaves them on the record.
-/

namespace WorkflowEditor.Http

/-- What was sent, in order, each message with what came of it. -/
abbrev Record := List (Message × Outcome)

/-- The peer that adds everything it is sent to a record. -/
def Peer.recorded (peer : Peer σ) : Peer (σ × Record) := fun (s, record) m =>
  let (outcome, s) := peer s m
  (outcome, s, record ++ [(m, outcome)])

variable (settings : Settings)

/-- A request that has an address is answered by the peer. -/
theorem service_eq {r : Request} {m : Message} (h : message? settings.baseUrl r = some m)
    (peer : Peer σ) (s : σ) : service settings peer s r =
      (reply (settings.requestTimeoutSecs * 1000) r (peer s m).1, (peer s m).2) := by
  rw [service, h]

/-- How exchanges appear on the wire: a request that has an address as a
message, from whose outcome the reply is made; one that has none not at all. -/
inductive OnWire : List (Request × Reply) → Record → Prop
  | nil : OnWire [] []
  | unsent {r : Request} {rest : List (Request × Reply)} {record : Record}
      (noAddress : message? settings.baseUrl r = none) (behind : OnWire rest record) :
      OnWire ((r, unsendable) :: rest) record
  | sent {r : Request} {m : Message} {outcome : Outcome} {rest : List (Request × Reply)}
      {record : Record} (isMessage : message? settings.baseUrl r = some m)
      (behind : OnWire rest record) :
      OnWire ((r, reply (settings.requestTimeoutSecs * 1000) r outcome) :: rest)
        ((m, outcome) :: record)

/-- **A dialogue that takes place** leaves its exchanges on the record, and
comes to the same as without a record. -/
theorem onWire_run (d : Dialogue α) (peer : Peer σ) (s : σ) (record : Record) :
    ∃ sent, OnWire settings ((d.run (service settings peer) s).2.1.filterMap Event.exchange?) sent ∧
      d.run (service settings peer.recorded) (s, record) =
        ((d.run (service settings peer) s).1, (d.run (service settings peer) s).2.1,
          (d.run (service settings peer) s).2.2, record ++ sent) := by
  induction d generalizing s record with
  | done a => exact ⟨[], .nil, by rw [List.append_nil]; rfl⟩
  | announce state next ih =>
      obtain ⟨sent, hwire, hrun⟩ := ih s record
      exact ⟨sent, hwire, by rw [Dialogue.run, hrun]; rfl⟩
  | ask r next ih =>
      cases hmessage : message? settings.baseUrl r with
      | none =>
          have hserve (τ : Type) (any : Peer τ) (t : τ) :
              service settings any t r = (unsendable, t) := by
            rw [service, hmessage]
          obtain ⟨sent, hwire, hrun⟩ := ih unsendable s record
          refine ⟨sent, ?_, ?_⟩
          · simp only [Dialogue.run, hserve]
            exact .unsent hmessage hwire
          · simp only [Dialogue.run, hserve, hrun]
      | some m =>
          let outcome := (peer s m).1
          have hserve : service settings peer s r =
              (reply (settings.requestTimeoutSecs * 1000) r outcome, (peer s m).2) :=
            service_eq settings hmessage peer s
          have hrecorded : service settings peer.recorded (s, record) r =
              (reply (settings.requestTimeoutSecs * 1000) r outcome, (peer s m).2,
                record ++ [(m, outcome)]) := service_eq settings hmessage peer.recorded (s, record)
          obtain ⟨sent, hwire, hrun⟩ := ih (reply (settings.requestTimeoutSecs * 1000) r outcome)
            (peer s m).2 (record ++ [(m, outcome)])
          refine ⟨(m, outcome) :: sent, ?_, ?_⟩
          · simp only [Dialogue.run, hserve]
            exact .sent hmessage hwire
          · simp only [Dialogue.run, hserve, hrecorded, hrun, List.append_assoc,
              List.singleton_append]

end WorkflowEditor.Http
