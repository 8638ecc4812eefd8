import WorkflowEditor.Proofs.Graph.Comparable
import WorkflowEditor.Proofs.Session.Effect
import WorkflowEditor.Proofs.Session.RoundTrip

/-!
# WorkflowEditor.Proofs.Session.Confirmation

Saves that the service merely confirms, by answering with the document that was
sent.  The copy that comes back is the live document without the marks of the
canvas; the live graph is loaded again only if the two differ.

* `Repository.saved_of_confirms` — the copy of a save that is confirmed;
* `Node.same_returned` — what comes back of a node without marks equals it;
* `save_of_confirms` — a save that is confirmed leaves a graph without marks
  untouched, and of any other its edges and all of its nodes but the marks;
* `save_of_confirms_reloads` — with a mark, or with an unknown member that has
  the name of a field, the graph is loaded again.
-/

namespace WorkflowEditor

/-- The body of the reply is what was sent: bare, and then without a member
`data`, or as the data of an envelope. -/
def Json.Confirms (body sent : Json) : Prop :=
  (body = sent ∧ body.get? Envelope.dataKey = none) ∨ body.get? Envelope.dataKey = some sent

theorem Json.Confirms.unwrap {body sent : Json} (h : body.Confirms sent)
    (hnull : sent.isNull = false) : Envelope.unwrap body = sent := by
  obtain ⟨rfl, hbare⟩ | hdata := h
  · rw [Envelope.unwrap, Json.nonNull?, hbare]
    rfl
  · exact Envelope.unwrap_of_data hdata hnull

/-! ## what comes back -/

/-- A document that is sent carries its title. -/
theorem Payload.isDocument_toJson {w : Workflow} (h : Fields.Unknown Payload.fieldNames w.extra) :
    Payload.isDocument (Payload.ofWorkflow w).toJson = true := by
  have htitle : (Payload.ofWorkflow w).members.get? "title" = some (.str w.title) :=
    ((Payload.ofWorkflow w).writes_members h).title
  rw [Payload.toJson_eq, Payload.isDocument, List.any_eq_true]
  refine ⟨"title", by decide, ?_⟩
  rw [Fields.contains, htitle]
  rfl

/-- **The copy of a save that is confirmed** is the document that was sent,
without the marks of the canvas. -/
theorem Repository.saved_of_confirms {w : Workflow} {id : WorkflowId} {body : Json}
    (hid : w.id = some id) (h : w.Sendable)
    (hbody : body.Confirms (Payload.ofWorkflow w).toJson) :
    Repository.saved id w body = .ok w.returned := by
  rw [saved_eq_ok_iff, hbody.unwrap rfl, if_pos (Payload.isDocument_toJson h.extra)]
  refine ⟨_, Payload.ofJson_toJson h.extra ?_ ?_, ?_⟩
  · rintro nodes ⟨rfl⟩ n hn
    obtain ⟨m, hm, rfl⟩ := List.mem_map.mp hn
    have hm := h.nodes m hm
    exact ⟨hm.extra.without Node.localKeys, hm.position⟩
  · rintro edges ⟨rfl⟩
    exact h.edges
  · obtain ⟨id', title, version, description, icons, nodes, edges, metadata, extra⟩ := w
    have hextra : Fields.extend extra extra = extra := h.extra.ascending.extend_self
    obtain rfl : id' = some id := hid
    simp [Payload.mergeInto, Payload.ofWorkflow, Workflow.returned, Node.returned, hextra,
      Function.comp_def]

namespace Node

/-- A node without the marks of the canvas. -/
def Unmarked (n : Node) : Prop := ∀ key ∈ localKeys, n.extra.get? key = none

/-- What comes back of a node without marks equals it. -/
theorem same_returned {n : Node} (h : n.Sendable) (hcomparable : n.Comparable)
    (hunmarked : n.Unmarked) : n.returned.same n = true := by
  have hextra : n.extra.without localKeys = n.extra :=
    h.extra.ascending.without_eq_self hunmarked
  simp [returned, canonical, withoutLocalState, same, hextra, hcomparable.data.same_self,
    hcomparable.extra.same_self, Position.same_canonical h.position]

/-- What has come back once comes back as it is. -/
theorem returned_returned (n : Node) : n.returned.returned = n.returned := by
  simp only [returned, canonical, withoutLocalState, Position.canonical,
    Double.canonical_canonical, Fields.without_without]

end Node

namespace Session

/-- The document that comes back to a session has the graph being edited, if no
node bears a mark. -/
theorem same_returned_outgoing {s : Session} (hsendable : s.outgoing.Sendable)
    (hcomparable : s.store.graph.Comparable) (hunmarked : ∀ n ∈ s.store.graph.nodes, n.Unmarked) :
    s.outgoing.returned.graph.same s.store.graph = true := by
  rw [Graph.same_iff]
  constructor
  · refine List.forall₂_map_left_iff.mpr (List.forall₂_same.mpr fun n hn => ?_)
    exact Node.same_returned (hsendable.nodes n hn) (hcomparable.nodes n hn) (hunmarked n hn)
  · exact List.forall₂_same.mpr fun e he => (hcomparable.edges e he).same_self

/-- A save of a document with an id takes over the copy that its reply stands for. -/
theorem run_save {s : Session} {id : WorkflowId} (hid : s.document.id = some id)
    {serve : Service σ} {t : σ} {millis : Nat} {body : Json} {copy : Workflow}
    (hreply : (serve t (.update id (.ofWorkflow s.outgoing))).1 = .answered millis (.ok body))
    (hsaved : Repository.saved id s.outgoing body = .ok copy) :
    (s.save.run serve t).1 = (.ok id, s.adoptAs id copy) := by
  have hout : s.outgoing.id = some id := hid
  have hread : (serve t (.update id (.ofWorkflow s.outgoing))).1.read
      (Repository.saved id s.outgoing) = .ok copy :=
    Reply.read_eq_ok_iff.mpr ⟨body, by rw [hreply, Reply.result], hsaved⟩
  simp only [save, ensureId, hout, Dialogue.run, Dialogue.run_bind, Repository.run_save, hread,
    adoptAs]

/-- **A save that is confirmed** succeeds and leaves the edges as they are, and
the nodes but for the marks of the canvas.  If no node bears a mark the store
is left as it was, its revision with it, and nothing is published. -/
theorem save_of_confirms {s : Session} {id : WorkflowId} {edits : List Edit}
    (hid : s.document.id = some id) (hstore : s.store = Store.new.run edits)
    (hsendable : s.outgoing.Sendable) (hcomparable : s.store.graph.Comparable) {σ : Type}
    (serve : Service σ) (t : σ) {millis : Nat} {body : Json}
    (hreply : (serve t (.update id (.ofWorkflow s.outgoing))).1 = .answered millis (.ok body))
    (hbody : body.Confirms (Payload.ofWorkflow s.outgoing).toJson) :
    ∃ after, (s.save.run serve t).1 = (.ok id, after) ∧
      after.store.graph.edges = s.store.graph.edges ∧
      after.store.graph.nodes.map Node.returned = s.store.graph.nodes.map Node.returned ∧
      ((∀ n ∈ s.store.graph.nodes, n.Unmarked) → after.store = s.store ∧
        ∀ receiver, after.store.feed.hasChanged receiver = s.store.feed.hasChanged receiver) := by
  have hsaved := Repository.saved_of_confirms (w := s.outgoing) hid hsendable hbody
  refine ⟨_, run_save hid hreply hsaved, ?_⟩
  rw [adoptAs, adopt]
  split
  · exact ⟨rfl, rfl, fun _ => ⟨rfl, fun _ => rfl⟩⟩
  · next hdiffers =>
    have hgraph : s.store.graph.WellFormed :=
      hstore ▸ Store.wellFormed_run Store.wellFormed_new edits
    have hloaded := hasSaved_load hgraph hsendable
      { s with repository := s.repository.keep id s.outgoing.returned }
    refine ⟨hloaded.edges, ?_, fun hunmarked => ?_⟩
    · have htwice : Node.returned ∘ Node.returned = Node.returned := funext Node.returned_returned
      rw [hloaded.nodes, List.map_map, htwice]
    · exact absurd (same_returned_outgoing hsendable hcomparable hunmarked) hdiffers

/-- A node at a negative zero that bears no mark is saved, and the service
answers with what was sent. -/
theorem save_of_confirms_negative_zero :
    let node : Node := ⟨⟨"n"⟩, "agent", ⟨Double.zero.negate, .zero⟩, [("k", .bool true)],
      [("measured", .null)]⟩
    let s := { Session.new 0 with
      document := { Workflow.new "Draft" with id := some ⟨"w"⟩ }
      store := Store.new.run [.addNode node] }
    let sent := (Payload.ofWorkflow s.outgoing).toJson
    ∃ after, (s.save.run Service.scripted
        [.answered 0 (.ok (.object [("data", sent)]))]).1 = (.ok ⟨"w"⟩, after) ∧
      after.store = s.store ∧ after.store.revision = 1 := by
  intro node s sent
  have hascending (f : String × Json) : Fields.Ascending [f] := List.pairwise_singleton _ _
  have hfinite : node.position.IsFinite := ⟨by decide, by decide⟩
  have hsendable : s.outgoing.Sendable := by
    refine ⟨fun n hn => ?_, fun e he => (List.not_mem_nil he).elim, Fields.ascending_nil,
      fun _ _ => rfl⟩
    obtain rfl := List.mem_singleton.mp (show n ∈ [node] from hn)
    exact ⟨hfinite, hascending _, by simp [Node.fieldNames, node, Fields.get?_cons]⟩
  have hcomparable : s.store.graph.Comparable := by
    refine ⟨fun n hn => ?_, fun e he => (List.not_mem_nil he).elim⟩
    obtain rfl := List.mem_singleton.mp (show n ∈ [node] from hn)
    exact ⟨⟨by decide, by decide⟩, .obj (hascending _) (by simp [node, Json.WellFormed.bool]),
      .obj (hascending _) (by simp [node, Json.WellFormed.null])⟩
  have hunmarked : ∀ n ∈ s.store.graph.nodes, n.Unmarked := by
    intro n hn
    obtain rfl := List.mem_singleton.mp (show n ∈ [node] from hn)
    simp [Node.Unmarked, Node.localKeys, node, Fields.get?_cons]
  have hid : s.document.id = some ⟨"w"⟩ := rfl
  obtain ⟨after, hrun, -, -, hsame⟩ := save_of_confirms hid rfl hsendable
    hcomparable Service.scripted [.answered 0 (.ok (.object [("data", sent)]))] rfl (.inr rfl)
  have hstore := (hsame hunmarked).1
  exact ⟨after, hrun, hstore, by rw [hstore]; rfl⟩

/-- A mark of the canvas does not come back, and an unknown member that has the
name of a field comes back as that field: the graph differs from what was sent,
is loaded again and published. -/
theorem save_of_confirms_reloads :
    let saving (extra : Fields) : Session := { Session.new 0 with
      document := { Workflow.new "Draft" with id := some ⟨"w"⟩ }
      store := Store.new.run [.addNode ⟨⟨"n"⟩, "agent", .origin, [], extra⟩] }
    let sent (s : Session) := (Payload.ofWorkflow s.outgoing).toJson
    let x (s : Session) := (s.save.run Service.scripted [.answered 0 (.ok (sent s))]).1
    let marked := saving [("selected", .bool true)]
    let renamed := saving [("type", .str "tool")]
    (sent marked).Confirms (sent marked) ∧ (sent renamed).Confirms (sent renamed) ∧
      (x marked).1.toOption = some ⟨"w"⟩ ∧
      marked.store.revision = 1 ∧ (x marked).2.store.revision = 2 ∧
      marked.store.graph.nodes.map (fun n => n.extra.keys) = [["selected"]] ∧
      (x marked).2.store.graph.nodes.map (fun n => n.extra.keys) = [[]] ∧
      (x marked).2.store.feed.hasChanged marked.store.feed.subscribe = true ∧
      (x renamed).1.toOption = some ⟨"w"⟩ ∧
      renamed.store.revision = 1 ∧ (x renamed).2.store.revision = 2 ∧
      renamed.store.graph.nodes.map Node.typeId = ["agent"] ∧
      (x renamed).2.store.graph.nodes.map Node.typeId = ["tool"] := by
  intro saving sent x marked renamed
  have hbare (s : Session) (h : ((sent s).get? Envelope.dataKey).isNone = true) :
      (sent s).Confirms (sent s) := .inl ⟨rfl, Option.isNone_iff_eq_none.mp h⟩
  have hmarked := hbare marked (by decide +kernel)
  have hrenamed := hbare renamed (by decide +kernel)
  exact ⟨hmarked, hrenamed, by decide +kernel⟩

end Session

end WorkflowEditor
