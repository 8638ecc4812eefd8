import WorkflowEditor.Proofs.Repository
import WorkflowEditor.Proofs.Workflow.Comparable

/-!
# WorkflowEditor.Proofs.Repository.Merging

What a save makes of its reply.  A reply that is a workflow document is merged
over the document that was sent, field by field: a field that it carries
replaces the one that was sent, and one that is absent or null leaves it.  Any
other reply leaves all as it was sent.

* `mergeInto_mergeInto` — two payloads merged one after the other are one payload;
* `saved_eq_error_iff`, `Merged` — when a reply cannot be read, and where each
  field comes from if it can;
* `save_merges` — both for a save that takes place, and how merges compose.
-/

namespace WorkflowEditor

/-! ## one payload over another -/

namespace Payload

/-- A payload that carries nothing. -/
def empty : Payload := ⟨none, none, none, none, none, none, none, none, []⟩

theorem mergeInto_empty (w : Workflow) : empty.mergeInto w = w := by
  obtain ⟨id, title, version, description, icons, nodes, edges, metadata, extra⟩ := w
  rw [mergeInto, empty, Option.none_or]
  rfl

/-- The payload that carries what either of two carries; where both do the second counts. -/
def overlay (p q : Payload) : Payload where
  id := q.id.or p.id
  title := q.title.or p.title
  version := q.version.or p.version
  description := q.description.or p.description
  icons := q.icons.or p.icons
  nodes := q.nodes.or p.nodes
  edges := q.edges.or p.edges
  metadata := q.metadata.or p.metadata
  extra := p.extra.extend q.extra

variable {p q : Payload} {w : Workflow}

/-- **Merges compose**: two payloads merged one after the other are one payload. -/
theorem mergeInto_mergeInto (hp : p.extra.Ascending) (hq : q.extra.Ascending)
    (hw : w.extra.Ascending) : q.mergeInto (p.mergeInto w) = (p.overlay q).mergeInto w := by
  have hextra : (w.extra.extend p.extra).extend q.extra = w.extra.extend (p.extra.extend q.extra) :=
    hw.extend_extend hp hq
  simp only [mergeInto, overlay, Option.getD_or, Option.or_assoc, hextra]

/-- A payload that is laid over itself is the same payload. -/
theorem overlay_self (hp : p.extra.Ascending) : p.overlay p = p := by
  simp only [overlay, Option.or_self, hp.extend_self]

/-- Merging a payload twice is merging it once. -/
theorem mergeInto_mergeInto_self (hp : p.extra.Ascending) (hw : w.extra.Ascending) :
    p.mergeInto (p.mergeInto w) = p.mergeInto w := by
  rw [mergeInto_mergeInto hp hp hw, overlay_self hp]

/-! ## what a reply carries -/

/-- The members of a value that is a workflow document; any other value has none
that count. -/
def documentMembers : Json → Fields
  | .obj fields => if isDocument (.obj fields) then fields else []
  | _ => []

theorem documentMembers_of_document {fields : Fields} (h : isDocument (.obj fields) = true) :
    documentMembers (.obj fields) = fields := by rw [documentMembers, if_pos h]

theorem documentMembers_of_not_document {v : Json} (h : isDocument v = false) :
    documentMembers v = [] := by
  cases v with
  | obj fields => rw [documentMembers, h]; rfl
  | _ => rfl

theorem ascending_documentMembers {v : Json} (h : v.WellFormed) :
    (documentMembers v).Ascending := by
  cases h with
  | obj ascending each =>
      rw [documentMembers]
      split
      · exact ascending
      · exact Fields.ascending_nil
  | _ => exact Fields.ascending_nil

/-- Members of which none is there read as a payload that carries nothing. -/
theorem reads_nil : Reads [] empty := ⟨rfl, rfl, rfl, rfl, rfl, rfl, rfl, rfl, rfl, rfl⟩

end Payload

/-- The value of a field that is kept is read from its member, or is the one that
was sent if the member is absent or null. -/
def Fields.Replaces (members : Fields) (key : String) (read : Json → Except ReadError α)
    (sent kept : α) : Prop :=
  match (Json.obj members).nonNull? key with
  | some v => read v = .ok kept
  | none => kept = sent

theorem Fields.replaces_of_optional {members : Fields} {key : String}
    {read : Json → Except ReadError α} {o : Option α} (h : members.optional key read = .ok o)
    (sent : α) : members.Replaces key read sent (o.getD sent) := by
  rw [Replaces]
  obtain ⟨hnone, rfl⟩ | ⟨v, a, hsome, ha, rfl⟩ := optional_eq_ok_iff.mp h
  · rw [hnone]
    rfl
  · rw [hsome]
    exact ha

namespace Repository

/-- The copy is the document that was sent with the members of a reply merged over it. -/
structure Merged (members : Fields) (sent copy : Workflow) : Prop where
  id : ∃ named, members.optional (Payload.idName members) Id.ofJson = .ok named ∧
    copy.id = named.or sent.id
  title : members.Replaces "title" Json.asString sent.title copy.title
  version : members.Replaces "version" Json.asString sent.version copy.version
  description : members.Replaces "description" Json.asString sent.description copy.description
  icons : members.Replaces "icons" Json.asString sent.icons copy.icons
  nodes : members.Replaces "nodes" (Json.asListOf Node.ofJson) sent.nodes copy.nodes
  edges : members.Replaces "edges" (Json.asListOf Edge.ofJson) sent.edges copy.edges
  metadata : members.Replaces "metadata" Json.asMap sent.metadata copy.metadata
  extra : copy.extra = sent.extra.extend (members.without Payload.fieldNames)
  entry : ∀ key, copy.extra.get? key =
    ((members.without Payload.fieldNames).get? key).or (sent.extra.get? key)

theorem merged_of_reads {members : Fields} (hmembers : members.Ascending) {p : Payload}
    (h : Payload.Reads members p) (sent : Workflow) : Merged members sent (p.mergeInto sent) where
  id := ⟨p.id, h.id, rfl⟩
  title := Fields.replaces_of_optional h.title _
  version := Fields.replaces_of_optional h.version _
  description := Fields.replaces_of_optional h.description _
  icons := Fields.replaces_of_optional h.icons _
  nodes := Fields.replaces_of_optional h.nodes _
  edges := Fields.replaces_of_optional h.edges _
  metadata := Fields.replaces_of_optional h.metadata _
  extra := by rw [h.extra]; rfl
  entry key := by
    rw [h.extra]
    exact Fields.get?_extend_of_ascending _ (h.extra ▸ hmembers.without _) key

/-- A member that is not known is the one of the reply or else the one that was sent. -/
theorem Merged.unknown {members : Fields} {sent copy : Workflow} (h : Merged members sent copy)
    {key : String} (hkey : key ∉ Payload.fieldNames) :
    copy.extra.get? key = (members.get? key).or (sent.extra.get? key) := by
  rw [h.entry, Fields.get?_without, if_neg hkey]

/-! ## what a save returns -/

variable {id : WorkflowId} {w copy : Workflow} {body : Json}

/-- What a save returns is the document that was sent with a payload merged over
it; the payload carries nothing unless the reply is a document. -/
theorem reads_of_saved (h : saved id w body = .ok copy) :
    ∃ p, Payload.Reads (Payload.documentMembers (Envelope.unwrap body)) p ∧
      p.mergeInto { w with id := some id } = copy := by
  rw [saved_eq_ok_iff] at h
  split at h
  · next hdocument =>
    obtain ⟨p, hread, hcopy⟩ := h
    obtain ⟨fields, hfields⟩ := Json.exists_fields_of_asRecord hread
    rw [hfields] at hread hdocument ⊢
    rw [Payload.documentMembers_of_document hdocument]
    exact ⟨p, Payload.reads_of_ofJson hread, hcopy⟩
  · next hno =>
    rw [Payload.documentMembers_of_not_document (Bool.not_eq_true _ ▸ hno)]
    exact ⟨.empty, Payload.reads_nil, by rw [Payload.mergeInto_empty, h]⟩

/-- A reply cannot be read exactly if it is a workflow document but no payload. -/
theorem saved_eq_error_iff : (∃ e, saved id w body = .error e) ↔
    Payload.isDocument (Envelope.unwrap body) = true ∧
      ∀ p, Payload.ofJson (Envelope.unwrap body) ≠ .ok p := by
  constructor
  · rintro ⟨e, herror⟩
    have hno (copy : Workflow) : saved id w body ≠ .ok copy :=
      fun hok => nomatch herror.symm.trans hok
    simp only [ne_eq, saved_eq_ok_iff] at hno
    split at hno
    · next hdocument => exact ⟨hdocument, fun p hp => hno _ ⟨p, hp, rfl⟩⟩
    · exact (hno _ rfl).elim
  · rintro ⟨hdocument, hno⟩
    cases hsaved : saved id w body with
    | error e => exact ⟨e, rfl⟩
    | ok copy =>
        rw [saved_eq_ok_iff, if_pos hdocument] at hsaved
        obtain ⟨p, hp, -⟩ := hsaved
        exact (hno p hp).elim

/-- A save comes to what is read of its reply. -/
theorem result_save (r : Repository) (id : WorkflowId) (w : Workflow) (serve : Service σ) (t : σ) :
    ((r.save id w).run serve t).1.1 =
      (serve t (.update id (.ofWorkflow w))).1.read (saved id w) := by
  rw [run_save]
  cases (serve t (.update id (.ofWorkflow w))).1.read (saved id w) with
  | error e => rfl
  | ok copy => rfl

/-- **A save merges its reply over what was sent.**  It fails exactly if the
request does or the reply is a workflow document that cannot be read.  Otherwise
it returns the document that was sent, with each field that the reply carries in
place of the one sent.  Two merges are one merge, two merges of one payload are
the same as one, and a payload without nodes or edges leaves those that there are. -/
theorem save_merges :
    (∀ (r : Repository) (id : WorkflowId) (w : Workflow) {σ : Type} (serve : Service σ) (t : σ),
      let result := ((r.save id w).run serve t).1.1
      let reply := (serve t (.update id (.ofWorkflow w))).1
      ((∃ e, result = .error e) ↔
        (∃ e, reply.result = .error e) ∨ ∃ body, reply.result = .ok body ∧
          Payload.isDocument (Envelope.unwrap body) = true ∧
          ∀ p, Payload.ofJson (Envelope.unwrap body) ≠ .ok p) ∧
      ∀ copy, result = .ok copy → ∃ body, reply.result = .ok body ∧
        (body.WellFormed →
          Merged (Payload.documentMembers (Envelope.unwrap body)) { w with id := some id } copy)) ∧
    (∀ (p q : Payload) (w : Workflow), p.extra.Ascending → q.extra.Ascending →
      w.extra.Ascending →
        q.mergeInto (p.mergeInto w) = (p.overlay q).mergeInto w ∧
        p.mergeInto (p.mergeInto w) = p.mergeInto w) ∧
    ∀ (p : Payload) (w : Workflow),
      (p.nodes = none → (p.mergeInto w).nodes = w.nodes) ∧
      (p.edges = none → (p.mergeInto w).edges = w.edges) := by
  refine ⟨fun r id w σ serve t => ⟨?_, fun copy hcopy => ?_⟩, fun p q w hp hq hw => ?_,
    fun p w => ⟨fun hnodes => ?_, fun hedges => ?_⟩⟩
  · rw [result_save, Reply.read_eq_error_iff]
    simp only [saved_eq_error_iff]
  · rw [result_save] at hcopy
    obtain ⟨body, hanswered, hsaved⟩ := Reply.read_eq_ok_iff.mp hcopy
    refine ⟨body, hanswered, fun hbody => ?_⟩
    have hmembers := Payload.ascending_documentMembers (Envelope.wellFormed_unwrap hbody)
    obtain ⟨p, hreads, rfl⟩ := reads_of_saved hsaved
    exact merged_of_reads hmembers hreads { w with id := some id }
  · exact ⟨Payload.mergeInto_mergeInto hp hq hw, Payload.mergeInto_mergeInto_self hp hw⟩
  · rw [Payload.mergeInto, hnodes, Option.getD_none]
  · rw [Payload.mergeInto, hedges, Option.getD_none]

/-- A reply in an envelope names a new title and a new revision, and has null for
the nodes. -/
theorem save_merges_title :
    let document : Fields := [("__v", .ofNat 2), ("nodes", .null), ("title", .str "Final")]
    let body := Json.obj [("data", .obj document), ("success", .bool true)]
    let node := Node.new ⟨"n"⟩ "agent" .origin
    let w := { Workflow.new "Draft" with
      nodes := [node], extra := [("__v", .ofNat 1), ("owner", .str "me")] }
    let p : Payload := { Payload.empty with title := some "Final", extra := [("__v", .ofNat 2)] }
    ∃ copy, ((empty.save ⟨"a"⟩ w).run Service.scripted [.answered 0 (.ok body)]).1.1 = .ok copy ∧
      copy.title = "Final" ∧ copy.nodes = [node] ∧
      copy.extra.get? "__v" = some (.ofNat 2) ∧ copy.extra.get? "owner" = some (.str "me") ∧
      p.mergeInto (p.mergeInto w) = p.mergeInto w := by
  intro document body node w p
  have hdocument : Fields.WellFormed document := by
    refine .obj (by decide : List.Pairwise (fun a b => a.1 < b.1) document) ?_
    simp only [document, List.mem_cons, List.not_mem_nil, or_false, forall_eq_or_imp, forall_eq]
    exact ⟨.num (by decide), .null, .str _⟩
  have hbody : body.WellFormed := by
    refine .obj (Fields.ascending_pair (by decide)) ?_
    simp only [List.mem_cons, List.not_mem_nil, or_false, forall_eq_or_imp, forall_eq]
    exact ⟨hdocument, .bool _⟩
  obtain ⟨hsave, hmerges, -⟩ := save_merges
  obtain ⟨-, hcopies⟩ := hsave empty ⟨"a"⟩ w Service.scripted [.answered 0 (.ok body)]
  obtain ⟨answer, hanswer, hmerged⟩ := hcopies _ rfl
  obtain rfl : body = answer := Except.ok.inj hanswer
  have hcopy := hmerged hbody
  have htwice := (hmerges p p w (List.pairwise_singleton _ _) (List.pairwise_singleton _ _)
    (Fields.ascending_pair (by decide))).2
  have hread : Json.asString (.str "Final") = .ok _ := hcopy.title
  exact ⟨_, rfl, (Except.ok.inj hread).symm, hcopy.nodes, hcopy.entry "__v", hcopy.entry "owner",
    htwice⟩

end Repository

end WorkflowEditor
