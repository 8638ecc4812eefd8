import WorkflowEditor.Proofs.Repository
import WorkflowEditor.Proofs.Workflow.RoundTrip

/-!
# WorkflowEditor.Proofs.Repository.Creating

Under which id a document is stored for the first time.  The reply is merged
over the document, and the id is looked for in what comes of it: an id that the
reply names counts first, but one that the document had before counts as well.

* `read_created_iff` — when the reply to a creation is read, and as what;
* `create_under_id` — when it succeeds, under which id, and what is kept then;
* `create_takes_own_id` — a reply without an id, to a document that has one.
-/

namespace WorkflowEditor

namespace Repository

/-- The reply names the id, under either of the two names that an id has. -/
def Assigns (reply : Json) (id : WorkflowId) : Prop :=
  (reply.nonNull? Payload.idKey).or (reply.nonNull? Payload.idAlias) = some id.toJson

/-- The reply has no id, or only null, under either name. -/
def AssignsNone (reply : Json) : Prop :=
  reply.nonNull? Payload.idKey = none ∧ reply.nonNull? Payload.idAlias = none

variable {reply : Json} {p : Payload} {w : Workflow} {id : WorkflowId}

/-- The id of a document after a merge is the reply's, or else the document's own. -/
theorem id_mergeInto_iff (h : Payload.ofJson reply = .ok p) :
    (p.mergeInto w).id = some id ↔ Assigns reply id ∨ (AssignsNone reply ∧ w.id = some id) := by
  rw [Assigns, AssignsNone, ← Option.or_eq_none_iff, Payload.id_of_ofJson h, Payload.mergeInto]
  cases p.id with
  | none => simp
  | some named =>
      have htext : named.toJson = id.toJson ↔ named = id := by
        rw [Id.toJson, Id.toJson, Json.str.injEq, Id.mk.injEq]
      simp [htext]

/-- A reply to a creation is read if it reads as a payload and there is an id. -/
theorem read_created_iff {answer : Reply} {stored : Workflow} :
    answer.read (created w) = .ok (id, stored) ↔
      ∃ body p, answer.result = .ok body ∧ Payload.ofJson (Envelope.unwrap body) = .ok p ∧
        p.mergeInto w = stored ∧ stored.id = some id := by
  simp only [Reply.read_eq_ok_iff, created_eq_ok_iff, exists_and_left]

/-- **A creation succeeds** exactly if the reply reads as a payload and there is
an id: the one that the reply names or, if it names none, the document's own.
The document with the reply merged over it is then kept under this id, and all
other copies stay.  A creation that fails leaves the repository as it was. -/
theorem create_under_id (r : Repository) (w : Workflow) (serve : Service σ) (t : σ) :
    let answer := (serve t (.create (.ofWorkflow w))).1
    let result := ((r.create w).run serve t).1.1
    let after := ((r.create w).run serve t).1.2
    (∀ id, result = .ok id ↔ ∃ body p, answer.result = .ok body ∧
      Payload.ofJson (Envelope.unwrap body) = .ok p ∧
        (Assigns (Envelope.unwrap body) id ∨
          (AssignsNone (Envelope.unwrap body) ∧ w.id = some id))) ∧
    (∀ id, result = .ok id → ∃ body p, answer.result = .ok body ∧
      Payload.ofJson (Envelope.unwrap body) = .ok p ∧
        after.cached? id = some (p.mergeInto w) ∧ (p.mergeInto w).id = some id ∧
        ∀ other, other ≠ id → after.cached? other = r.cached? other) ∧
    ∀ e, result = .error e → after = r := by
  intro answer result after
  have hrun : (result, after) = _ := congrArg Prod.fst (r.run_create w serve t)
  cases hread : answer.read (created w) with
  | error e =>
      rw [hread] at hrun
      obtain ⟨hresult, hafter⟩ := Prod.mk.inj hrun
      have hfailed (id : WorkflowId) : result ≠ .ok id := hresult ▸ nofun
      refine ⟨fun id => ⟨fun hok => absurd hok (hfailed id), ?_⟩,
        fun id hok => absurd hok (hfailed id), fun _ _ => hafter⟩
      rintro ⟨body, p, hanswer, hp, hid⟩
      have hmerged := (id_mergeInto_iff hp).mpr hid
      have hstored := read_created_iff.mpr ⟨body, p, hanswer, hp, rfl, hmerged⟩
      exact nomatch hread.symm.trans hstored
  | ok x =>
      obtain ⟨assigned, stored⟩ := x
      rw [hread] at hrun
      obtain ⟨hresult, hafter⟩ := Prod.mk.inj hrun
      obtain ⟨body, p, hanswer, hp, rfl, hid⟩ := read_created_iff.mp hread
      have hsame (id : WorkflowId) : result = .ok id ↔ (p.mergeInto w).id = some id := by
        rw [hresult, hid, Except.ok.injEq, Option.some.injEq]
      refine ⟨fun id => ?_, fun id hok => ?_, fun e he => nomatch hresult.symm.trans he⟩
      · rw [hsame]
        constructor
        · intro hmerged
          exact ⟨body, p, hanswer, hp, (id_mergeInto_iff hp).mp hmerged⟩
        · rintro ⟨body', p', hanswer', hp', hid'⟩
          obtain rfl := Except.ok.inj (hanswer.symm.trans hanswer')
          exact (id_mergeInto_iff hp).mpr hid'
      · have hmerged := (hsame id).mp hok
        obtain rfl := Option.some.inj (hid.symm.trans hmerged)
        refine ⟨body, p, hanswer, hp, ?_, hid, fun other hother => ?_⟩
        · rw [hafter, cached?_keep, if_pos rfl]
        · rw [hafter, cached?_keep, if_neg (Ne.symm hother)]

/-- A document that has an id of its own is stored under the one that the reply
names; the copy under the other stays. -/
theorem create_under_id_named :
    let w (id : WorkflowId) (title : String) := { Workflow.new title with id := some id }
    let r := Repository.empty.keep ⟨"mine"⟩ (w ⟨"mine"⟩ "before")
    let created := ((r.create (w ⟨"mine"⟩ "after")).run Service.scripted
      [.answered 0 (.ok (.object [("data", .object [("id", .str "theirs")])]))]).1
    created.1 = .ok ⟨"theirs"⟩ ∧
      created.2.cached? ⟨"mine"⟩ = some (w ⟨"mine"⟩ "before") ∧
      ∃ stored, created.2.cached? ⟨"theirs"⟩ = some stored ∧ stored.id = some ⟨"theirs"⟩ := by
  intro w r created
  obtain ⟨-, hstored, -⟩ := r.create_under_id (w ⟨"mine"⟩ "after") Service.scripted
    [.answered 0 (.ok (.object [("data", .object [("id", .str "theirs")])]))]
  have hok : created.1 = .ok ⟨"theirs"⟩ := rfl
  obtain ⟨-, p, -, -, hcopy, hid, hothers⟩ := hstored _ hok
  refine ⟨hok, ?_, _, hcopy, hid⟩
  exact (hothers ⟨"mine"⟩ (by decide)).trans (r.cached?_keep _ _ _)

/-- A reply that only reports success names no id.  A document with an id of its
own counts as stored under this id all the same. -/
theorem create_takes_own_id :
    let body := Json.object [("message", .str "created"), ("success", .bool true)]
    let w := { Workflow.new "t" with id := some ⟨"mine"⟩ }
    let created := (Repository.empty.create w).run Service.scripted [.answered 0 (.ok body)]
    AssignsNone (Envelope.unwrap body) ∧ created.1.1 = .ok ⟨"mine"⟩ ∧
      ∃ stored, created.1.2.cached? ⟨"mine"⟩ = some stored ∧
        stored.extra = [("message", .str "created"), ("success", .bool true)] := by
  intro body w created
  exact ⟨⟨rfl, rfl⟩, rfl, _, rfl, rfl⟩

end Repository

end WorkflowEditor
