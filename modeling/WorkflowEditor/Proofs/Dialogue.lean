import WorkflowEditor.Service.Dialogue

/-!
# WorkflowEditor.Proofs.Dialogue

What an observer of a dialogue sees: requests, and replies that the service gave.

* `Event.mem_requests_iff` — the requests are those that are asked;
* `reply_of_asked`, `reply_of_first_asked` — who gave the replies that an observer sees.
-/

namespace WorkflowEditor

namespace Event

/-- The request and the reply that an observer sees, if it sees any. -/
def exchange? : Event → Option (Request × Reply)
  | asked request reply => some (request, reply)
  | announced _ => none

theorem mem_requests_iff {events : List Event} {request : Request} :
    request ∈ requests events ↔ ∃ reply, asked request reply ∈ events := by
  induction events with
  | nil => simp [requests]
  | cons event rest ih =>
      cases event with
      | asked other reply => simp [requests, ih, exists_or]
      | announced state => simp [requests, ih]

end Event

namespace Dialogue

/-- Every reply that an observer sees is one that the service gave. -/
theorem reply_of_asked {d : Dialogue α} {serve : Service σ} {s : σ} {request : Request}
    {reply : Reply} (h : Event.asked request reply ∈ (d.run serve s).2.1) :
    ∃ u, (serve u request).1 = reply := by
  induction d generalizing s with
  | done a => exact (List.not_mem_nil h).elim
  | ask asked next ih =>
      obtain heq | hmem := List.mem_cons.mp h
      · obtain ⟨rfl, rfl⟩ := Event.asked.inj heq
        exact ⟨s, rfl⟩
      · exact ih _ hmem
  | announce state next ih =>
      obtain heq | hmem := List.mem_cons.mp h
      · exact nomatch heq
      · exact ih hmem

/-- The first request is answered by the service as it is at the start. -/
theorem reply_of_first_asked {d : Dialogue α} {serve : Service σ} {s : σ} {request : Request}
    {reply : Reply}
    (h : (d.run serve s).2.1.findSome? Event.exchange? = some (request, reply)) :
    (serve s request).1 = reply := by
  induction d generalizing s with
  | done a => exact nomatch h
  | ask asked next ih =>
      obtain ⟨rfl, rfl⟩ := Prod.mk.inj (Option.some.inj h)
      rfl
  | announce state next ih => exact ih h

end Dialogue

end WorkflowEditor
