import WorkflowEditor.Proofs.Repository
import WorkflowEditor.Proofs.Workflow.Shared

/-!
# WorkflowEditor.Proofs.Dialogue.Alike

Dialogues that look alike from outside: they ask for the same and announce the
same, whatever is replied, and end with values that agree.  Requests count as
the same if they differ at most in the signs of zeros.

* `Request.body_of_unsigned` — what requests that count as the same have in common;
* `Alike.bind` — one dialogue after another;
* `Alike.run` — dialogues that look alike take place alike, with a service that
  answers requests that count as the same in the same way.
-/

namespace WorkflowEditor

/-! ## results that agree -/

/-- Two results agree: they are related values, or the same error. -/
inductive Agreed (values : α → β → Prop) : Except ε α → Except ε β → Prop
  | ok {a : α} {b : β} (related : values a b) : Agreed values (.ok a) (.ok b)
  | error {e : ε} : Agreed values (.error e) (.error e)

theorem Agreed.refl {values : α → α → Prop} (h : ∀ a, values a a) (x : Except ε α) :
    Agreed values x x := by
  cases x with
  | ok a => exact .ok (h a)
  | error e => exact .error

theorem Agreed.bind {values : α → β → Prop} {later : γ → δ → Prop} {x : Except ε α} {y : Except ε β}
    (h : Agreed values x y) {f : α → Except ε γ} {g : β → Except ε δ}
    (hnext : ∀ a b, values a b → Agreed later (f a) (g b)) : Agreed later (x >>= f) (y >>= g) := by
  cases h with
  | ok related => exact hnext _ _ related
  | error => exact .error

/-! ## requests -/

/-- The request with no sign at the zeros of the nodes and edges it sends along. -/
def Request.unsigned : Request → Request
  | create payload => create payload.unsigned
  | update id payload => update id payload.unsigned
  | list => list
  | fetch id => fetch id
  | delete id => delete id
  | execute id input => execute id input

/-- What an observer sees, with no sign at the zeros that are sent along. -/
def Event.unsigned : Event → Event
  | asked request reply => asked request.unsigned reply
  | announced state => announced state

theorem Payload.canonical_toJson_of_unsigned {p q : Payload} (h : p.unsigned = q.unsigned) :
    p.toJson.canonical = q.toJson.canonical := by
  have hmetadata : p.metadata = q.metadata :=
    (congrArg Payload.metadata h : p.unsigned.metadata = q.unsigned.metadata)
  have hextra : p.extra = q.extra :=
    (congrArg Payload.extra h : p.unsigned.extra = q.unsigned.extra)
  rw [canonical_toJson, canonical_toJson, h, hmetadata, hextra]

/-- **Requests that count as the same** are the same call, with bodies that
have one canonical form. -/
theorem Request.body_of_unsigned {q q' : Request} (h : q.unsigned = q'.unsigned) :
    q.name = q'.name ∧ q.body.map Json.canonical = q'.body.map Json.canonical := by
  have hname (q : Request) : q.unsigned.name = q.name := by cases q <;> rfl
  refine ⟨by rw [← hname q, h, hname], ?_⟩
  cases q with
  | create p =>
      cases q' with
      | create p' => exact congrArg some (Payload.canonical_toJson_of_unsigned (create.inj h))
      | _ => exact nomatch h
  | update id p =>
      cases q' with
      | update id' p' =>
          exact congrArg some (Payload.canonical_toJson_of_unsigned (update.inj h).2)
      | _ => exact nomatch h
  | execute id input =>
      cases q' with
      | execute id' input' =>
          obtain ⟨-, rfl⟩ := execute.inj h
          rfl
      | _ => exact nomatch h
  | _ =>
      cases q' with
      | create | update | execute => exact nomatch h
      | _ => rfl

/-- The call that a request is, and its body with no sign at any zero. -/
def Request.seen (q : Request) : String × Option Json := (q.name, q.body.map Json.canonical)

/-- Where the same is seen, up to the signs of zeros, the same calls are made
with bodies that have one canonical form. -/
theorem Event.seen_of_unsigned {events events' : List Event}
    (h : events.map unsigned = events'.map unsigned) :
    (requests events).map Request.seen = (requests events').map Request.seen := by
  induction events generalizing events' with
  | nil =>
      cases events' with
      | nil => rfl
      | cons x' rest' => exact nomatch h
  | cons x rest ih =>
      cases events' with
      | nil => exact nomatch h
      | cons x' rest' =>
          obtain ⟨hfirst, hrest⟩ := List.cons.inj h
          cases x with
          | asked q reply =>
              cases x' with
              | asked q' reply' =>
                  obtain ⟨hname, hbody⟩ := Request.body_of_unsigned (asked.inj hfirst).1
                  have hseen : q.seen = q'.seen := Prod.ext hname hbody
                  rw [requests, requests, List.map_cons, List.map_cons, hseen, ih hrest]
              | announced state' => exact nomatch hfirst
          | announced state =>
              cases x' with
              | asked q' reply' => exact nomatch hfirst
              | announced state' =>
                  exact (ih hrest : (requests rest).map Request.seen =
                    (requests rest').map Request.seen)

/-- The service answers requests that count as the same in the same way. -/
def Service.IgnoresSigns (serve : Service σ) : Prop :=
  ∀ t q q', q.unsigned = q'.unsigned → serve t q = serve t q'

/-! ## dialogues -/

namespace Dialogue

/-- The two dialogues look alike from outside, and end with related values. -/
def Alike (ends : α → β → Prop) : Dialogue α → Dialogue β → Prop
  | done a, done b => ends a b
  | ask request next, ask request' next' =>
      request.unsigned = request'.unsigned ∧ ∀ reply, Alike ends (next reply) (next' reply)
  | announce state next, announce state' next' => state = state' ∧ Alike ends next next'
  | _, _ => False

/-- Dialogues that look alike go on alike. -/
theorem Alike.bind {ends : α → β → Prop} {later : γ → δ → Prop} {d : Dialogue α} {d' : Dialogue β}
    {f : α → Dialogue γ} {f' : β → Dialogue δ} (h : Alike ends d d')
    (hnext : ∀ a b, ends a b → Alike later (f a) (f' b)) :
    Alike later (d.bind f) (d'.bind f') := by
  induction d generalizing d' with
  | done a =>
      cases d' with
      | done b => exact hnext a b h
      | _ => exact h.elim
  | ask request next ih =>
      cases d' with
      | ask request' next' => exact ⟨h.1, fun reply => ih reply (h.2 reply)⟩
      | _ => exact h.elim
  | announce state next ih =>
      cases d' with
      | announce state' next' => exact ⟨h.1, ih h.2⟩
      | _ => exact h.elim

/-- **Dialogues that look alike take place alike** with a service that answers
requests that count as the same in the same way. -/
theorem Alike.run {ends : α → β → Prop} {d : Dialogue α} {d' : Dialogue β} (h : Alike ends d d')
    {serve : Service σ} (hserve : serve.IgnoresSigns) (t : σ) :
    let x := d.run serve t
    let x' := d'.run serve t
    ends x.1 x'.1 ∧ x.2.1.map Event.unsigned = x'.2.1.map Event.unsigned ∧ x.2.2 = x'.2.2 := by
  induction d generalizing d' t with
  | done a =>
      cases d' with
      | done b => exact ⟨h, rfl, rfl⟩
      | _ => exact h.elim
  | ask request next ih =>
      cases d' with
      | ask request' next' =>
          obtain ⟨hrequest, hnext⟩ := h
          have hanswer := hserve t request request' hrequest
          obtain ⟨hend, hevents, hstate⟩ :=
            ih (serve t request).1 (hnext (serve t request).1) (serve t request).2
          simp only [Dialogue.run, ← hanswer, List.map_cons, Event.unsigned, hrequest, hevents]
          exact ⟨hend, trivial, hstate⟩
      | _ => exact h.elim
  | announce state next ih =>
      cases d' with
      | announce state' next' =>
          obtain ⟨rfl, hnext⟩ := h
          obtain ⟨hend, hevents, hstate⟩ := ih hnext t
          simp only [Dialogue.run, List.map_cons, hevents]
          exact ⟨hend, trivial, hstate⟩
      | _ => exact h.elim

end Dialogue

end WorkflowEditor
