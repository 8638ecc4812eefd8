import WorkflowEditor.Proofs.Dialogue.Alike
import WorkflowEditor.Run.Sequence

/-!
# WorkflowEditor.Proofs.Repository.Alike

Operations on repositories whose copies share all, with documents that share
all: they look alike, succeed or fail with the same error, and leave
repositories whose copies share all.

* `Alike.exchange` — a single request;
* `Alike.create`, `Alike.fetch`, `Alike.list`, `Alike.delete`, `Alike.save`,
  `Alike.run` — the operations.
-/

namespace WorkflowEditor.Repository

/-- Under every id the two repositories keep copies that share all, or both none. -/
def Alike (r r' : Repository) : Prop :=
  ∀ id, (r.cached? id).map Workflow.shared = (r'.cached? id).map Workflow.shared

/-- Results of two operations agree: related values, or the same error, and
repositories whose copies share all. -/
def Ends (values : α → β → Prop) (x : Except ServiceError α × Repository)
    (y : Except ServiceError β × Repository) : Prop :=
  Agreed values x.1 y.1 ∧ Alike x.2 y.2

/-- Two documents share all. -/
def SharesAll (w w' : Workflow) : Prop := w.shared = w'.shared

variable {r r' : Repository} (h : r.Alike r')
include h

theorem Alike.keep {w w' : Workflow} (id : WorkflowId) (hshared : w.shared = w'.shared) :
    (r.keep id w).Alike (r'.keep id w') := by
  intro other
  rw [cached?_keep, cached?_keep]
  split
  · exact congrArg some hshared
  · exact h other

theorem Alike.forget (id : WorkflowId) : (r.forget id).Alike (r'.forget id) := by
  intro other
  rw [cached?_forget, cached?_forget]
  split
  · rfl
  · exact h other

/-- Single requests look alike if what is accepted of any body agrees. -/
theorem Alike.exchange {values : α → β → Prop} {request request' : Request}
    (hrequest : request.unsigned = request'.unsigned)
    {accept : Json → Except ServiceError (α × Repository)}
    {accept' : Json → Except ServiceError (β × Repository)}
    (haccept : ∀ body, Agreed (fun x y => values x.1 y.1 ∧ Alike x.2 y.2)
      (accept body) (accept' body)) :
    (r.exchange request accept).Alike (Ends values) (r'.exchange request' accept') := by
  refine ⟨hrequest, fun reply => ?_⟩
  have hresult : Agreed (fun x y => values x.1 y.1 ∧ Alike x.2 y.2)
      (reply.result.bind accept) (reply.result.bind accept') :=
    (Agreed.refl (fun _ => rfl) reply.result).bind fun body _ hbody => hbody ▸ haccept body
  rw [Dialogue.Alike]
  generalize reply.result.bind accept = x at hresult ⊢
  generalize reply.result.bind accept' = y at hresult ⊢
  cases hresult with
  | ok related => exact ⟨.ok related.1, related.2⟩
  | error => exact ⟨.error, h⟩

/-! ## operations -/

theorem Alike.fetch (id : WorkflowId) : (r.fetch id).Alike (Ends SharesAll) (r'.fetch id) := by
  refine h.exchange rfl fun body => ?_
  refine (Agreed.refl (fun _ => rfl) (fetched id body)).bind fun w _ hw => ?_
  obtain rfl : w = _ := hw
  exact .ok ⟨rfl, h.keep id rfl⟩

theorem Alike.list : r.list.Alike (Ends Eq) r'.list := by
  refine h.exchange rfl fun body => ?_
  refine (Agreed.refl (fun _ => rfl) (listed body)).bind fun workflows _ hw => ?_
  exact .ok ⟨hw, h⟩

theorem Alike.delete (id : WorkflowId) : (r.delete id).Alike (Ends Eq) (r'.delete id) :=
  h.exchange rfl fun _ => .ok ⟨rfl, h.forget id⟩

variable {w w' : Workflow} (hshared : w.shared = w'.shared)

omit h in
include hshared in
/-- What is stored first is stored under one id. -/
theorem agreed_created (body : Json) :
    Agreed (fun x y => x.1 = y.1 ∧ SharesAll x.2 y.2) (created w body) (created w' body) := by
  refine (Agreed.refl (fun _ => rfl) (readPayload (Envelope.unwrap body))).bind fun p q hp => ?_
  obtain rfl : p = q := hp
  have hstored := p.shared_mergeInto hshared
  have hid := Workflow.id_of_shared hstored
  cases hcase : (p.mergeInto w).id with
  | none =>
      rw [hcase] at hid
      simp only [hcase, ← hid]
      exact .error
  | some id =>
      rw [hcase] at hid
      simp only [hcase, ← hid]
      exact .ok ⟨rfl, hstored⟩

omit h in
include hshared in
theorem agreed_saved (id : WorkflowId) (body : Json) :
    Agreed SharesAll (saved id w body) (saved id w' body) := by
  have hsent : ({ w with id := some id } : Workflow).shared =
      ({ w' with id := some id } : Workflow).shared :=
    congrArg (fun w : Workflow => { w with id := some id }) hshared
  rw [saved, saved]
  split
  · refine (Agreed.refl (fun _ => rfl) (readPayload (Envelope.unwrap body))).bind fun p q hp => ?_
    obtain rfl : p = q := hp
    exact .ok (p.shared_mergeInto hsent)
  · exact .ok hsent

include hshared

theorem Alike.create : (r.create w).Alike (Ends Eq) (r'.create w') := by
  have hsent : (Request.create (.ofWorkflow w)).unsigned =
      (Request.create (.ofWorkflow w')).unsigned :=
    congrArg Request.create (Payload.unsigned_ofWorkflow hshared)
  refine h.exchange hsent fun body => ?_
  refine (agreed_created hshared body).bind fun x y hxy => ?_
  obtain ⟨id, stored⟩ := x
  obtain ⟨id', stored'⟩ := y
  obtain ⟨rfl, hstored⟩ := hxy
  exact .ok ⟨rfl, h.keep id hstored⟩

theorem Alike.save (id : WorkflowId) : (r.save id w).Alike (Ends SharesAll) (r'.save id w') := by
  have hsent : (Request.update id (.ofWorkflow w)).unsigned =
      (Request.update id (.ofWorkflow w')).unsigned :=
    congrArg (Request.update id) (Payload.unsigned_ofWorkflow hshared)
  refine h.exchange hsent fun body => ?_
  refine (agreed_saved hshared id body).bind fun copy copy' hcopy => ?_
  exact .ok ⟨hcopy, h.keep id hcopy⟩

/-- Runs look alike, and end in one state. -/
theorem Alike.run (deadline : Nat) (id : Option WorkflowId) (input : String) :
    (r.run deadline id w input).Alike (fun x y => x.1 = y.1 ∧ Alike x.2 y.2)
      (r'.run deadline id w' input) := by
  refine ⟨rfl, ?_⟩
  cases id with
  | none => exact ⟨rfl, rfl, h⟩
  | some id =>
      refine ⟨rfl, (h.save hshared id).bind ?_⟩
      rintro ⟨x, r⟩ ⟨y, r'⟩ ⟨hresult, hr⟩
      cases hresult with
      | ok related => exact ⟨rfl, rfl, fun reply => ⟨rfl, rfl, hr⟩⟩
      | error => exact ⟨rfl, rfl, hr⟩

end WorkflowEditor.Repository
