import WorkflowEditor.Proofs.Repository.Creating
import WorkflowEditor.Proofs.Repository.Merging
import WorkflowEditor.Proofs.Session.Effect

/-!
# WorkflowEditor.Proofs.Session.FirstSave

The first save of a document: two requests, the creation and the update that
follows, both of the document as it was before.  The reply to the creation is
merged over that document and kept, but the reply to the update is merged over
the document as it was too, and takes its place.  So of the members that are not
known, the reply to the creation is heard only in the copy kept in between.

* `run_save_first` — what a first save comes to;
* `members_after_first_save` — where each member of the document comes from, and
  when one of the reply to the creation is lost;
* `first_save_loses_members` — a timestamp of the creation is lost.
-/

namespace WorkflowEditor.Session

/-- The creation of the document was answered by `created`, which names the id,
and its update by `updated`, which is no document or one that reads. -/
structure AcceptedFirst (s : Session) (serve : Service σ) (t : σ) (id : WorkflowId)
    (created updated : Json) : Prop where
  first : (serve t (.create (.ofWorkflow s.outgoing))).1.result = .ok created
  assigned : ∃ p, Payload.ofJson (Envelope.unwrap created) = .ok p ∧ p.id = some id
  second : (serve (serve t (.create (.ofWorkflow s.outgoing))).2
    (.update id (.ofWorkflow s.outgoing))).1.result = .ok updated
  reads : Payload.isDocument (Envelope.unwrap updated) = true →
    ∃ p, Payload.ofJson (Envelope.unwrap updated) = .ok p

variable {s : Session} {serve : Service σ} {t : σ} {id : WorkflowId}

/-- A first save whose two replies are read keeps one copy after the other. -/
theorem run_save_first (hid : s.document.id = none) {stored copy : Workflow}
    (hcreate : (serve t (.create (.ofWorkflow s.outgoing))).1.read
      (Repository.created s.outgoing) = .ok (id, stored))
    (hupdate : (serve (serve t (.create (.ofWorkflow s.outgoing))).2
      (.update id (.ofWorkflow s.outgoing))).1.read (Repository.saved id s.outgoing) = .ok copy) :
    (s.save.run serve t).1 =
      (.ok id, { s with repository := s.repository.keep id stored }.adoptAs id copy) := by
  have hout : s.outgoing.id = none := hid
  simp only [save, ensureId, hout, Dialogue.run_bind, Repository.run_create, hcreate,
    Repository.run_save, hupdate, Dialogue.run, adoptAs]

/-- Two replies that are read as such make a first save succeed. -/
theorem AcceptedFirst.exists_copy (hid : s.document.id = none) {created updated : Json}
    (h : s.AcceptedFirst serve t id created updated) :
    ∃ stored copy, Repository.created s.outgoing created = .ok (id, stored) ∧
      Repository.saved id s.outgoing updated = .ok copy ∧
      (s.save.run serve t).1 =
        (.ok id, { s with repository := s.repository.keep id stored }.adoptAs id copy) := by
  obtain ⟨p, hp, hassigned⟩ := h.assigned
  have hmerged : (p.mergeInto s.outgoing).id = some id := by
    rw [Payload.mergeInto, hassigned, Option.some_or]
  have hstored := Repository.created_eq_ok_iff.mpr ⟨p, hp, rfl, hmerged⟩
  have hcreate := Reply.read_eq_ok_iff.mpr ⟨created, h.first, hstored⟩
  cases hsaved : Repository.saved id s.outgoing updated with
  | error e =>
      obtain ⟨hdocument, hnone⟩ := Repository.saved_eq_error_iff.mp ⟨e, hsaved⟩
      obtain ⟨q, hq⟩ := h.reads hdocument
      exact (hnone q hq).elim
  | ok copy =>
      have hupdate := Reply.read_eq_ok_iff.mpr ⟨updated, h.second, hsaved⟩
      exact ⟨_, copy, hstored, rfl, run_save_first hid hcreate hupdate⟩

/-- What a creation stores has every member of the reply that is not known. -/
theorem get?_extra_of_created {w stored : Workflow} {body : Json} (hbody : body.WellFormed)
    (h : Repository.created w body = .ok (id, stored)) {key : String}
    (hkey : key ∉ Payload.fieldNames) {v : Json} (hv : (Envelope.unwrap body).get? key = some v) :
    stored.extra.get? key = some v := by
  obtain ⟨p, hp, rfl, -⟩ := Repository.created_eq_ok_iff.mp h
  have hunwrapped := Envelope.wellFormed_unwrap hbody
  obtain ⟨fields, hfields⟩ := Json.exists_fields_of_asRecord hp
  rw [hfields] at hp hv hunwrapped
  have hmerged := Repository.merged_of_reads (Fields.WellFormed.ascending hunwrapped)
    (Payload.reads_of_ofJson hp) w
  have hmember : Fields.get? fields key = some v := hv
  rw [hmerged.unknown hkey, hmember, Option.some_or]

/-- **The members after a first save.**  A save of a document without an id whose
replies are both accepted answers with the id of the creation.  A member that is
not known is then, in the document and in the copy that is kept, the one of the
reply to the update, if that is a document and has it, and else the one that the
document had before.  So a member of the reply to the creation, although it was
in the copy kept in between, counts exactly if the reply to the update replaces
it or the document had it already. -/
theorem members_after_first_save (hid : s.document.id = none) {created updated : Json}
    (hcreated : created.WellFormed) (hupdated : updated.WellFormed)
    (h : s.AcceptedFirst serve t id created updated) :
    ∃ stored after, Repository.created s.outgoing created = .ok (id, stored) ∧
      (s.save.run serve t).1 = (.ok id, after) ∧
      after.repository.cached? id = some after.document ∧
      ∀ key, key ∉ Payload.fieldNames →
        let replaced := Fields.get? (Payload.documentMembers (Envelope.unwrap updated)) key
        after.document.extra.get? key = replaced.or (s.document.extra.get? key) ∧
        ∀ v, (Envelope.unwrap created).get? key = some v →
          stored.extra.get? key = some v ∧
          (after.document.extra.get? key = replaced.or (some v) ↔
            replaced.isSome = true ∨ s.document.extra.get? key = some v) := by
  obtain ⟨stored, copy, hstored, hsaved, hrun⟩ := h.exists_copy hid
  obtain ⟨q, hreads, rfl⟩ := Repository.reads_of_saved hsaved
  have hmembers := Payload.ascending_documentMembers (Envelope.wellFormed_unwrap hupdated)
  have hmerged := Repository.merged_of_reads hmembers hreads { s.outgoing with id := some id }
  refine ⟨stored, _, hstored, hrun, ?_, fun key hkey => ?_⟩
  · rw [repository_adoptAs, document_adoptAs]
    exact (Repository.cached?_keep _ _ _ _).trans (if_pos rfl)
  intro replaced
  have hafter : _ = replaced.or (s.document.extra.get? key) := hmerged.unknown hkey
  rw [document_adoptAs]
  refine ⟨hafter, fun v hv => ⟨get?_extra_of_created hcreated hstored hkey hv, ?_⟩⟩
  rw [hafter]
  cases replaced with
  | none => simp
  | some u => simp

/-- The reply to the update has a version and the document had a mark: both are
there, and the owner that the reply to the creation named is not. -/
theorem members_after_first_save_marked :
    let created := Json.obj [("_id", .str "a"), ("owner", .str "o")]
    let updated := Json.obj [("__v", .ofNat 1), ("_id", .str "a")]
    let s := { Session.new 0 with
      document := { Workflow.new "Draft" with extra := [("mark", .bool true)] } }
    let x := (s.save.run Service.scripted [.answered 0 (.ok created), .answered 0 (.ok updated)]).1
    x.1 = .ok ⟨"a"⟩ ∧ x.2.document.extra.get? "__v" = some (.ofNat 1) ∧
      x.2.document.extra.get? "mark" = some (.bool true) ∧
      x.2.document.extra.get? "owner" = none := by
  intro created updated s x
  have hcreated : created.WellFormed := Fields.wellFormed_pair (by decide) (.str _) (.str _)
  have hupdated : updated.WellFormed :=
    Fields.wellFormed_pair (by decide) (.num (by decide)) (.str _)
  have haccepted : s.AcceptedFirst Service.scripted
      [.answered 0 (.ok created), .answered 0 (.ok updated)] ⟨"a"⟩ created updated :=
    ⟨rfl, ⟨_, rfl, rfl⟩, rfl, fun _ => ⟨_, rfl⟩⟩
  obtain ⟨stored, after, -, hrun, -, hmembers⟩ :=
    members_after_first_save rfl hcreated hupdated haccepted
  have hx : x = (.ok ⟨"a"⟩, after) := hrun
  rw [hx]
  exact ⟨rfl, (hmembers "__v" (by decide)).1, (hmembers "mark" (by decide)).1,
    (hmembers "owner" (by decide)).1⟩

/-- The creation reports a timestamp, the update that follows only a version:
the timestamp was kept in between and is lost. -/
theorem first_save_loses_members :
    let created := Json.obj [("__v", .ofNat 0), ("_id", .str "a"),
      ("createdAt", .str "2025-01-15T10:30:00.000Z")]
    let updated := Json.obj [("__v", .ofNat 1), ("_id", .str "a")]
    let s := Session.new 0
    let after := (s.save.run Service.scripted
      [.answered 0 (.ok created), .answered 0 (.ok updated)]).1.2
    (∃ stored, Repository.created s.outgoing created = .ok (⟨"a"⟩, stored) ∧
      stored.extra.get? "createdAt" = some (.str "2025-01-15T10:30:00.000Z")) ∧
      after.document.extra = [("__v", .ofNat 1)] ∧
      ∃ copy, after.repository.cached? ⟨"a"⟩ = some copy ∧ copy.extra = [("__v", .ofNat 1)] := by
  intro created updated s after
  exact ⟨⟨_, rfl, rfl⟩, rfl, _, rfl, rfl⟩

end WorkflowEditor.Session
