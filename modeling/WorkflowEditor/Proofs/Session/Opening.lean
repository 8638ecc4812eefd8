import WorkflowEditor.Proofs.Repository.Merging
import WorkflowEditor.Proofs.Session.Effect
import WorkflowEditor.Proofs.Session.RoundTrip

/-!
# WorkflowEditor.Proofs.Session.Opening

Opening with a reply that is no workflow document, such as an envelope without
data.  A save takes such a reply as a mere confirmation, but a fetch asks only
whether it reads as a payload, and every field of a payload may be absent.  So
any object reads as one whose `id` is absent, null or a text, and all its
members become members of the document.

* `ofJson_of_not_document` — when a value that is no document reads as a
  payload, and as which;
* `run_openWorkflow_eq` — what opening comes to with any reply;
* `open_of_not_document` — a reply that is no document is refused without a
  trace, or empties the graph;
* `open_takes_envelope` — an envelope that reports a failure empties the graph,
  and the next save sends the empty graph.
-/

namespace WorkflowEditor

/-! ## replies that are no documents -/

namespace Payload

/-- Of these members `id`, if it is there and not null, is a text. -/
def NamesId (fields : Fields) (named : Option WorkflowId) : Prop :=
  fields.optional idAlias Id.ofJson = .ok named

variable {fields : Fields}

/-- An object that is no workflow document has none of the fields of one, but for `id`. -/
theorem get?_of_not_document (h : isDocument (.obj fields) = false) :
    ∀ key ∈ documentKeys, fields.get? key = none := by
  intro key hkey
  rw [isDocument, List.any_eq_false] at h
  have habsent := h key hkey
  rw [Fields.contains, Bool.not_eq_true, Option.isSome_eq_false_iff, Option.isNone_iff_eq_none]
    at habsent
  exact habsent

/-- **What is no document** reads as a payload if its `id` is absent, null or a
text, and then carries that id and all its other members. -/
theorem ofJson_of_not_document (hfields : fields.Ascending)
    (h : isDocument (.obj fields) = false) {p : Payload} :
    ofJson (.obj fields) = .ok p ↔ ∃ named, NamesId fields named ∧
      p = { empty with id := named, extra := fields.without fieldNames } := by
  have hget := get?_of_not_document h
  have hkey : fields.contains idKey = false := by
    rw [Fields.contains, hget idKey (by decide), Option.isSome_none]
  have hname : idName fields = idAlias := by rw [idName, hkey]; rfl
  have habsent {α : Type} (key : String) (hmem : key ∈ documentKeys)
      (read : Json → Except ReadError α) : fields.optional key read = .ok none := by
    rw [Fields.optional, Fields.defaulted, hget key hmem]
  rw [ofJson_eq_ok_iff hfields]
  constructor
  · intro hreads
    obtain ⟨-, hid, htitle, hversion, hdescription, hicons, hnodes, hedges, hmetadata, hextra⟩ :=
      hreads
    rw [hname] at hid
    rw [habsent _ (by decide)] at htitle hversion hdescription hicons hnodes hedges hmetadata
    obtain ⟨id, title, version, description, icons, nodes, edges, metadata, extra⟩ := p
    cases htitle
    cases hversion
    cases hdescription
    cases hicons
    cases hnodes
    cases hedges
    cases hmetadata
    cases hextra
    exact ⟨id, hid, rfl⟩
  · rintro ⟨named, hid, rfl⟩
    refine ⟨by rw [hkey, Bool.false_and], by rw [hname]; exact hid, ?_, ?_, ?_, ?_, ?_, ?_, ?_, rfl⟩
    all_goals exact habsent _ (by decide) _

end Payload

namespace Repository

theorem fetched_eq_error {id : WorkflowId} {body : Json}
    (h : ∀ p, Payload.ofJson (Envelope.unwrap body) ≠ .ok p) :
    ∃ details, fetched id body = .error (.malformed details) := by
  obtain ⟨details, hread⟩ := readPayload_eq_error h
  exact ⟨details, by rw [fetched, hread]; rfl⟩

end Repository

namespace Session

/-! ## opening -/

/-- What opening comes to with any reply. -/
theorem run_openWorkflow_eq (s : Session) (id : WorkflowId) (serve : Service σ) (t : σ) :
    (s.openWorkflow id).run serve t =
      (match (serve t (.fetch id)).1.read (Repository.fetched id) with
        | .ok w => (.ok (), s.loadAs id w)
        | .error e => (.error e, s),
        [.asked (.fetch id) (serve t (.fetch id)).1], (serve t (.fetch id)).2) := by
  simp only [openWorkflow, Dialogue.run_bind, Repository.run_fetch]
  cases (serve t (.fetch id)).1.read (Repository.fetched id) with
  | ok w => rfl
  | error e => rfl

/-- The document that a reply stands for that is none: an empty one with the
reply's members, under the id that it names or else the one asked for. -/
def stray (id : WorkflowId) (reply : Fields) (named : Option WorkflowId) : Workflow :=
  { Workflow.new "" with
    id := some (named.getD id), extra := reply.without Payload.fieldNames }

/-- The session has opened a reply that was no document: its graph is empty, the
members of the reply are members of its document, and it saves the two together. -/
structure Emptied (s : Session) (id : WorkflowId) (reply : Fields) (after : Session) : Prop where
  document : ∃ named, Payload.NamesId reply named ∧ after.document = stray id reply named
  graph : after.store.graph = .empty
  revision : after.store.revision = s.store.revision + 1
  kept : after.repository.cached? id = some after.document
  saves : ∀ {τ : Type} (serve : Service τ) (u : τ), ∃ saved payload sent,
    Event.requests (after.save.run serve u).2.1 = [.update saved payload] ∧
      after.document.id = some saved ∧ payload.toJson = .obj sent ∧
      Fields.get? sent "nodes" = some (.arr []) ∧
      Fields.get? sent "edges" = some (.arr []) ∧
      ∀ key, key ∉ Payload.fieldNames → Fields.get? sent key = reply.get? key

/-- Loading such a document empties the graph. -/
theorem emptied_loadAs (s : Session) (id : WorkflowId) {reply : Fields} (hreply : reply.Ascending)
    {named : Option WorkflowId} (hnamed : Payload.NamesId reply named) :
    s.Emptied id reply (s.loadAs id (stray id reply named)) where
  document := ⟨named, hnamed, rfl⟩
  graph := rfl
  revision := rfl
  kept := (s.repository.cached?_keep id _ id).trans (if_pos rfl)
  saves serve u := by
    have hextra := Fields.unknown_without hreply Payload.fieldNames
    refine ⟨named.getD id, _, _, requests_save rfl serve u, rfl, Payload.toJson_eq _, ?_, ?_, ?_⟩
    · exact (Payload.writes_members _ hextra).nodes
    · exact (Payload.writes_members _ hextra).edges
    · intro key hkey
      refine ((Payload.isRecord_members _ hextra).unknown key hkey).trans ?_
      exact (Fields.get?_without _ _ _).trans (if_neg hkey)

/-- A reply that is no document and names an id, or none, is fetched. -/
theorem fetched_stray {id : WorkflowId} {body : Json} {reply : Fields} {named : Option WorkflowId}
    (hbody : Envelope.unwrap body = .obj reply) (hreply : reply.Ascending)
    (hno : Payload.isDocument (.obj reply) = false) (hnamed : Payload.NamesId reply named) :
    Repository.fetched id body = .ok (stray id reply named) := by
  have hread := (Payload.ofJson_of_not_document hreply hno).mpr ⟨named, hnamed, rfl⟩
  have hextra : Fields.extend [] (reply.without Payload.fieldNames) =
      reply.without Payload.fieldNames := (hreply.without _).extend_nil
  rw [Repository.fetched_eq_ok hbody hread, Workflow.ofReply, Workflow.ofPayload,
    Payload.mergeInto]
  simp only [Payload.empty, Workflow.new, hextra]
  cases named with
  | none => rfl
  | some other => rfl

/-- **Opening with a reply that is no document** is refused and leaves the session
as it was exactly if the reply is no object, or one whose `id` is neither absent
nor null nor a text.  Any other such reply empties the graph. -/
theorem open_of_not_document (s : Session) (id : WorkflowId) {serve : Service σ} {t : σ}
    {body : Json} (hreply : (serve t (.fetch id)).1.result = .ok body) (hbody : body.WellFormed)
    (hno : Payload.isDocument (Envelope.unwrap body) = false) :
    let opened := ((s.openWorkflow id).run serve t).1
    ((∃ details, opened = (.error (.malformed details), s)) ↔
      ∀ fields named, Envelope.unwrap body = .obj fields → ¬Payload.NamesId fields named) ∧
    ∀ fields named, Envelope.unwrap body = .obj fields → Payload.NamesId fields named →
      ∃ after, opened = (.ok (), after) ∧ s.Emptied id fields after := by
  intro opened
  have hanswered (e : Except ServiceError Workflow) (he : Repository.fetched id body = e) :
      (serve t (.fetch id)).1.read (Repository.fetched id) = e := by
    rw [Reply.read, hreply]
    exact he
  have hordered (fields : Fields) (hfields : Envelope.unwrap body = .obj fields) :
      fields.Ascending := by
    have hunwrapped := Envelope.wellFormed_unwrap hbody
    rw [hfields] at hunwrapped
    exact Fields.WellFormed.ascending hunwrapped
  have hempties (fields : Fields) (named : Option WorkflowId)
      (hfields : Envelope.unwrap body = .obj fields) (hnamed : Payload.NamesId fields named) :
      ∃ after, opened = (.ok (), after) ∧ s.Emptied id fields after := by
    have hascending := hordered fields hfields
    have hfetched := hanswered _ (fetched_stray hfields hascending (hfields ▸ hno) hnamed)
    refine ⟨_, ?_, s.emptied_loadAs id hascending hnamed⟩
    simp only [opened, run_openWorkflow_eq, hfetched]
  refine ⟨⟨?_, fun hnone => ?_⟩, hempties⟩
  · rintro ⟨details, hrefused⟩ fields named hfields hnamed
    obtain ⟨after, hopened, -⟩ := hempties fields named hfields hnamed
    have hdiffer := hrefused.symm.trans hopened
    cases hdiffer
  · have hunread : ∀ p, Payload.ofJson (Envelope.unwrap body) ≠ .ok p := by
      intro p hread
      obtain ⟨fields, hfields⟩ := Json.exists_fields_of_asRecord hread
      rw [hfields] at hread hno
      obtain ⟨named, hnamed, -⟩ :=
        (Payload.ofJson_of_not_document (hordered fields hfields) hno).mp hread
      exact hnone fields named hfields hnamed
    have hfails : ∃ details, Repository.fetched id body = .error (.malformed details) :=
      Repository.fetched_eq_error hunread
    obtain ⟨details, hrefused⟩ := hfails
    exact ⟨details, by simp only [opened, run_openWorkflow_eq, hanswered _ hrefused]⟩

/-- A generator's reply under a number is refused; one under a text is opened. -/
theorem open_of_not_document_generated :
    let body (id : Json) := Json.obj [("id", id), ("status", .str "done")]
    let opened (id : Json) := (((Session.new 0).openWorkflow ⟨"a"⟩).run Service.scripted
      [.answered 0 (.ok (body id))]).1
    (∃ details, opened (.ofNat 5) = (.error (.malformed details), .new 0)) ∧
      ∃ after, opened (.str "b") = (.ok (), after) ∧ after.document.id = some ⟨"b"⟩ ∧
        after.document.extra = [("status", .str "done")] ∧ after.store.graph = .empty := by
  intro body opened
  have hbody (id : Json) (hid : id.WellFormed) : (body id).WellFormed := by
    refine .obj (Fields.ascending_pair (by decide)) ?_
    simp only [List.mem_cons, List.not_mem_nil, or_false, forall_eq_or_imp, forall_eq]
    exact ⟨hid, .str _⟩
  have hreply (id : Json) : (Service.scripted [.answered 0 (.ok (body id))]
      (.fetch ⟨"a"⟩)).1.result = .ok (body id) := rfl
  obtain ⟨hrefused, -⟩ := open_of_not_document (.new 0) ⟨"a"⟩ (hreply (.ofNat 5))
    (hbody _ (.num (by decide))) rfl
  obtain ⟨-, hempties⟩ := open_of_not_document (.new 0) ⟨"a"⟩ (hreply (.str "b"))
    (hbody _ (.str _)) rfl
  obtain ⟨after, hopened, hemptied⟩ := hempties _ (some ⟨"b"⟩) rfl rfl
  refine ⟨hrefused.mpr ?_, after, hopened, ?_⟩
  · rintro fields named ⟨rfl⟩ hnamed
    exact nomatch hnamed
  · obtain ⟨named, hnamed, hdocument⟩ := hemptied.document
    obtain rfl : some ⟨"b"⟩ = named := Except.ok.inj hnamed
    rw [hdocument]
    exact ⟨rfl, rfl, hemptied.graph⟩

/-- An envelope that reports a failure is no document.  It is opened all the same:
the node that was edited is gone, the report is part of the document, and the
next save sends both to the service. -/
theorem open_takes_envelope :
    let report : Fields := [("message", .str "no such workflow"), ("success", .bool false)]
    let s := { Session.new 0 with
      store := Store.new.run [.addNode (Node.new ⟨"n"⟩ "agent" .origin)] }
    let opened := ((s.openWorkflow ⟨"a"⟩).run Service.scripted [.answered 0 (.ok (.obj report))]).1
    Payload.isDocument (Envelope.unwrap (.obj report)) = false ∧
      opened.1 = .ok () ∧ opened.2.document.extra = report ∧
      s.store.graph.nodes.length = 1 ∧ opened.2.store.graph.nodes = [] ∧
      ∃ payload, Event.requests (opened.2.save.run Service.scripted []).2.1 =
          [.update ⟨"a"⟩ payload] ∧
        payload.nodes.map List.length = some 0 ∧ payload.edges.map List.length = some 0 ∧
        payload.extra = report := by
  intro report s opened
  exact ⟨rfl, rfl, rfl, rfl, rfl, _, rfl, rfl, rfl, rfl⟩

end Session

end WorkflowEditor
