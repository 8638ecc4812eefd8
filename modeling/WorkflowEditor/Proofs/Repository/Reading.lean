import WorkflowEditor.Proofs.Repository
import WorkflowEditor.Proofs.Workflow.Grammar

/-!
# WorkflowEditor.Proofs.Repository.Reading

Which replies are read as documents, and as what.  A document is accepted if it
has the form of one; a list of documents only if each of its items does, and
the first that does not is the error.

* `reads_documents` — the values that are documents, and what is taken from one;
* `lists_every_document` — a list is summarized item by item, or not at all.
-/

namespace WorkflowEditor

open Json

/-! ## summaries -/

/-- A summary tells the id of a document, its texts or their defaults, and how
many nodes and edges are in its lists, if it has any. -/
inductive Summary.Describes : Json → Summary → Prop
  | object {fields : Fields} {s : Summary}
      (id : ((Json.obj fields).nonNull? "_id").or ((Json.obj fields).nonNull? "id") =
        s.id.map Id.toJson)
      (title : ((Json.obj fields).nonNull? "title").getD (.str "") = .str s.title)
      (version : ((Json.obj fields).nonNull? "version").getD (.str "1.0.0") = .str s.version)
      (description : ((Json.obj fields).nonNull? "description").getD (.str "") =
        .str s.description)
      (nodeCount : s.nodeCount = (fields.items "nodes").length)
      (edgeCount : s.edgeCount = (fields.items "edges").length)
      (updatedAt : fields.Ascending →
        s.updatedAt = ((fields.get? "updatedAt").bind Json.string?).bind Instant.ofText?) :
      Describes (.obj fields) s

theorem Payload.describes_of_ofJson {v : Json} {p : Payload} (h : ofJson v = .ok p) :
    Summary.Describes v (Workflow.ofPayload p).summary := by
  obtain ⟨fields, rfl⟩ := Json.exists_fields_of_asRecord h
  have hreads := reads_of_ofJson h
  have hcarries := carries_of_ofJson h
  refine .object ?_ ?_ ?_ ?_ ?_ ?_ fun hfields => ?_
  · rw [hcarries.id, Workflow.summary, Workflow.ofPayload, mergeInto, Workflow.new, Option.or_none]
  · rw [hcarries.title, Option.getD_map]
    rfl
  · rw [hcarries.version, Option.getD_map]
    rfl
  · rw [hcarries.description, Option.getD_map]
    rfl
  · exact (Fields.forall₂_items_of_optional hreads.nodes).length_eq.symm
  · exact (Fields.forall₂_items_of_optional hreads.edges).length_eq.symm
  · have hextra : (Workflow.ofPayload p).extra = p.extra :=
      (hreads.extra ▸ hfields.without fieldNames).extend_nil
    have hget := hcarries.extra "updatedAt"
    rw [if_neg (by decide)] at hget
    rw [Workflow.summary, Workflow.updatedAt, Workflow.timestamp?, hextra, hget]
    rfl

namespace Repository

/-! ## documents -/

theorem exists_readPayload_iff {v : Json} : (∃ p, readPayload v = .ok p) ↔ Payload.Form v := by
  simp only [readPayload_eq_ok_iff]
  exact Payload.readable_iff

/-- **The reader accepts exactly the documents**, and takes from a document its
fields that are not null and all its other members. -/
theorem reads_documents (v : Json) :
    ((∃ p, readPayload v = .ok p) ↔ Payload.Form v) ∧
      ∀ p, readPayload v = .ok p → Payload.Carries v p :=
  ⟨exists_readPayload_iff, fun _ h => Payload.carries_of_ofJson (readPayload_eq_ok_iff.mp h)⟩

/-- Null stands for an absent member, and a member that is not known is kept; but an id under
both of its names is refused even if one of them is null. -/
theorem reads_documents_with_nulls :
    let v := Json.obj [("_id", .null), ("nodes", .arr [.obj [("id", .str "a"),
      ("position", .arr [.num (.whole 1), .num (.whole 2)]), ("type", .str "agent")]]),
      ("tags", .null), ("title", .null)]
    (∃ p, readPayload v = .ok p ∧ Payload.Carries v p ∧ p.id = none ∧ p.title = none ∧
      p.nodes.map List.length = some 1 ∧ p.extra.get? "tags" = some .null) ∧
      ¬∃ p, readPayload (.obj [("_id", .str "a"), ("id", .null)]) = .ok p := by
  intro v
  obtain ⟨p, hread⟩ : ∃ p, readPayload v = .ok p := ⟨_, rfl⟩
  refine ⟨⟨p, hread, (reads_documents v).2 p hread, ?_⟩, ?_⟩
  · obtain rfl := Except.ok.inj hread
    exact ⟨rfl, rfl, rfl, rfl⟩
  · rw [(reads_documents _).1]
    rintro ⟨once, -⟩
    exact once (by decide)

/-! ## lists of documents -/

/-- Why a value is refused as a list of documents: it is none, or the first of
its items that is no document is malformed. -/
inductive Refuses : Json → ServiceError → Prop
  | noList {v : Json} (h : ∀ items, v ≠ .arr items) :
      Refuses v (.malformed "expected a list of workflows")
  | item {before after : List Json} {v : Json} {details : String}
      (documents : ∀ w ∈ before, Payload.Form w) (other : ¬Payload.Form v)
      (fault : readPayload v = .error (.malformed details)) :
      Refuses (.arr (before ++ v :: after)) (.malformed details)

/-- What is no document is malformed. -/
theorem not_form_of_readPayload_eq_error {v : Json} {e : ServiceError}
    (h : readPayload v = .error e) : ¬Payload.Form v ∧ ∃ details, e = .malformed details := by
  have hform : ¬Payload.Form v := fun hform => by
    obtain ⟨p, hp⟩ := exists_readPayload_iff.mpr hform
    rw [h] at hp
    exact nomatch hp
  obtain ⟨details, hread⟩ := readPayload_eq_error fun p hp =>
    hform (Payload.readable_iff.mp ⟨p, hp⟩)
  rw [h] at hread
  exact ⟨hform, details, Except.error.inj hread⟩

/-- The summary of a document in a list. -/
def readSummary (v : Json) : Except ServiceError Summary :=
  return (Workflow.ofPayload (← readPayload v)).summary

theorem readSummary_eq_ok_iff {v : Json} {s : Summary} : readSummary v = .ok s ↔
    ∃ p, Payload.ofJson v = .ok p ∧ (Workflow.ofPayload p).summary = s := by
  rw [readSummary, bind_eq_ok_iff]
  simp only [readPayload_eq_ok_iff, pure_eq_ok_iff]

theorem readSummary_eq_error_iff {v : Json} {e : ServiceError} :
    readSummary v = .error e ↔ readPayload v = .error e := by
  rw [readSummary]
  cases readPayload v with
  | error fault => simp [bind, Except.bind]
  | ok p => simp [bind, Except.bind, pure, Except.pure]

theorem exists_readSummary_iff {v : Json} :
    (∃ s, readSummary v = .ok s) ↔ Payload.Form v := by
  simp only [readSummary_eq_ok_iff, ← Payload.readable_iff, Readable]
  constructor
  · rintro ⟨s, p, hp, -⟩
    exact ⟨p, hp⟩
  · rintro ⟨p, hp⟩
    exact ⟨_, p, hp, rfl⟩

section
variable {body : Json} {items : List Json}

theorem listed_of_arr (h : Envelope.unwrap body = .arr items) :
    listed body = items.mapM readSummary := by
  rw [listed, h]
  rfl

theorem listed_of_not_arr (h : ∀ items, Envelope.unwrap body ≠ .arr items) :
    listed body = .error (.malformed "expected a list of workflows") := by
  rw [listed]
  split
  · next items heq => exact absurd heq (h items)
  · rfl

/-- A list is summarized exactly when each of its items is a document. -/
theorem exists_listed_iff :
    (∃ summaries, listed body = .ok summaries) ↔ (Envelope.unwrap body).IsListOf Payload.Form := by
  by_cases harr : ∃ items, Envelope.unwrap body = .arr items
  · obtain ⟨items, hitems⟩ := harr
    rw [listed_of_arr hitems, exists_mapM_eq_ok_iff, hitems]
    simp [IsListOf, exists_readSummary_iff]
  · rw [not_exists] at harr
    rw [listed_of_not_arr harr]
    simp [IsListOf, harr]

/-- A list is summarized item by item. -/
theorem describes_of_listed {summaries : List Summary} (h : listed body = .ok summaries) :
    CarriesAll Summary.Describes (Envelope.unwrap body) summaries := by
  obtain ⟨items, hitems, -⟩ := exists_listed_iff.mp ⟨summaries, h⟩
  rw [listed_of_arr hitems, mapM_eq_ok_iff] at h
  refine ⟨items, hitems, h.imp fun v s hs => ?_⟩
  obtain ⟨p, hp, rfl⟩ := readSummary_eq_ok_iff.mp hs
  exact Payload.describes_of_ofJson hp

/-- What is not summarized is refused for its first item that is no document. -/
theorem refuses_of_listed {e : ServiceError} (h : listed body = .error e) :
    Refuses (Envelope.unwrap body) e := by
  by_cases harr : ∃ items, Envelope.unwrap body = .arr items
  · obtain ⟨items, hitems⟩ := harr
    rw [listed_of_arr hitems, mapM_eq_error_iff] at h
    obtain ⟨before, v, after, rfl, hbefore, hv⟩ := h
    have hfault := readSummary_eq_error_iff.mp hv
    obtain ⟨hform, details, rfl⟩ := not_form_of_readPayload_eq_error hfault
    rw [hitems]
    exact .item (fun w hw => exists_readSummary_iff.mp (hbefore w hw)) hform hfault
  · rw [not_exists] at harr
    rw [listed_of_not_arr harr] at h
    cases h
    exact .noList harr

end

/-- **A list is summarized item by item or not at all**: it is refused for the
first item that is no document.  The repository stays as it was. -/
theorem lists_every_document (r : Repository) (serve : Service σ) (t : σ) :
    let reply := (serve t .list).1
    let out := (r.list.run serve t).1
    out.2 = r ∧ (∀ e, reply.result = .error e → out.1 = .error e) ∧
      ∀ body, reply.result = .ok body →
        ((∃ summaries, out.1 = .ok summaries) ↔
          (Envelope.unwrap body).IsListOf Payload.Form) ∧
        (∀ summaries, out.1 = .ok summaries →
          CarriesAll Summary.Describes (Envelope.unwrap body) summaries) ∧
        ∀ e, out.1 = .error e → Refuses (Envelope.unwrap body) e := by
  intro reply out
  have hout : out = (reply.read listed, r) := congrArg Prod.fst (run_list r serve t)
  rw [hout]
  refine ⟨rfl, fun e he => ?_, fun body hbody => ?_⟩
  · rw [Reply.read, he]
    rfl
  · have hread : reply.read listed = listed body := by
      rw [Reply.read, hbody]
      rfl
    rw [hread]
    exact ⟨exists_listed_iff, fun _ => describes_of_listed, fun _ => refuses_of_listed⟩

/-- One item that is no document is enough to refuse a list, whatever follows it. -/
theorem lists_every_document_stops :
    let first := Json.obj [("_id", .str "a"), ("nodes", .null)]
    let second := Json.obj [("title", .bool true)]
    let body (items : List Json) := Json.obj [("data", .arr items)]
    let out (items : List Json) :=
      (Repository.empty.list.run Service.scripted [.answered 0 (.ok (body items))]).1
    (∃ s, (out [first]).1 = .ok [s] ∧ Summary.Describes first s ∧ s.id = some ⟨"a"⟩ ∧
      s.version = "1.0.0" ∧ s.nodeCount = 0) ∧
    ∃ details, (out [first, second, .null]).1 = .error (.malformed details) ∧
      Refuses (.arr [first, second, .null]) (.malformed details) := by
  intro first second body out
  have hlists (items : List Json) := (lists_every_document Repository.empty Service.scripted
    [.answered 0 (.ok (body items))]).2.2 (body items) rfl
  refine ⟨⟨_, rfl, ?_, rfl, rfl, rfl⟩, _, rfl, (hlists _).2.2 _ rfl⟩
  obtain ⟨items, hitems, hdescribes⟩ := (hlists [first]).2.1 _ rfl
  cases hitems
  exact (List.forall₂_cons.mp hdescribes).1

end Repository

end WorkflowEditor
