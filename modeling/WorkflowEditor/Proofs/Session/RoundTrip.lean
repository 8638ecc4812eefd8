import WorkflowEditor.Proofs.Repository
import WorkflowEditor.Proofs.Workflow.RoundTrip
import WorkflowEditor.Session

/-!
# WorkflowEditor.Proofs.Session.RoundTrip

Saving and opening.  A session that saves sends one document; a session that
opens what was sent has the same document and the same graph, less the marks of
the canvas, and a session that opens a document and saves it sends all the
document had.

* `requests_save`, `run_openWorkflow` — what a save sends, and what opening
  ends with;
* `open_after_save` — what was saved is opened as it was;
* `save_after_open` — what was opened is saved as it was received.
-/

namespace WorkflowEditor

/-! ## replies -/

/-- An envelope carries its data. -/
theorem Envelope.unwrap_of_data {body data : Json} (h : body.get? dataKey = some data)
    (hnull : data.isNull = false) : unwrap body = data := by
  rw [unwrap, Json.nonNull?, h, Option.filter_some, hnull]
  rfl

/-- A document that is fetched is the one that the reply stands for. -/
theorem Repository.fetched_eq_ok {id : WorkflowId} {body : Json} {fields : Fields} {p : Payload}
    (hbody : Envelope.unwrap body = .obj fields) (hread : Payload.ofJson (.obj fields) = .ok p) :
    Repository.fetched id body = .ok (Workflow.ofReply id p) :=
  fetched_eq_ok_iff.mpr ⟨p, hbody ▸ hread, rfl⟩

namespace Session

/-! ## what is sent and what is loaded -/

/-- A save of a document that has an id is one request that sends the document
as it is edited, whatever the service replies. -/
theorem requests_save {s : Session} {id : WorkflowId} (hid : s.document.id = some id)
    (serve : Service σ) (t : σ) :
    Event.requests (s.save.run serve t).2.1 = [.update id (.ofWorkflow s.outgoing)] := by
  have hout : s.outgoing.id = some id := hid
  simp only [save, ensureId, hout, Dialogue.run, Dialogue.run_bind, Repository.run_save]
  cases (serve t (.update id (.ofWorkflow s.outgoing))).1.read (Repository.saved id s.outgoing) with
  | ok copy => rfl
  | error e => rfl

/-- Opening a document that is answered loads what the reply stands for. -/
theorem run_openWorkflow (s : Session) {id : WorkflowId} {serve : Service σ} {t : σ} {millis : Nat}
    {body : Json} {w : Workflow} (hreply : (serve t (.fetch id)).1 = .answered millis (.ok body))
    (hfetched : Repository.fetched id body = .ok w) :
    ((s.openWorkflow id).run serve t).1 =
      (.ok (), { s with repository := s.repository.keep id w }.load w) := by
  have hread : (serve t (.fetch id)).1.read (Repository.fetched id) = .ok w :=
    Reply.read_eq_ok_iff.mpr ⟨body, by rw [hreply, Reply.result], hfetched⟩
  simp only [openWorkflow, Dialogue.run_bind, Repository.run_fetch, hread, Dialogue.run]

/-! ## saved, then opened -/

/-- The session has what the other one saved: its document, its nodes in order
at the same points and without the marks of the canvas, its edges in order, and
nothing left out. -/
structure HasSaved (reopened s : Session) : Prop where
  document : reopened.document = s.document.withGraph reopened.store.graph
  nodes : reopened.store.graph.nodes = s.store.graph.nodes.map Node.returned
  points : ∀ n ∈ s.store.graph.nodes, n.returned.position.same n.position = true
  edges : reopened.store.graph.edges = s.store.graph.edges
  complete : Graph.siftedOut reopened.document.nodes reopened.document.edges = 0

/-- The document that was saved loads completely when it comes back. -/
theorem hasSaved_load {s : Session} (hgraph : s.store.graph.WellFormed)
    (hsendable : s.outgoing.Sendable) (fresh : Session) :
    (fresh.load s.outgoing.returned).HasSaved s := by
  have hids : (s.store.graph.nodes.map Node.returned).map Node.id =
      s.store.graph.nodes.map Node.id := by
    rw [List.map_map]
    rfl
  have hreturned : s.outgoing.returned.graph.WellFormed := hgraph.congr_nodes hids
  have hload : (fresh.load s.outgoing.returned).store.graph = s.outgoing.returned.graph :=
    hreturned.sift_eq
  constructor
  · rw [hload]
    rfl
  · rw [hload]
    rfl
  · intro n hn
    exact Position.same_canonical (hsendable.nodes n hn).position
  · rw [hload]
    rfl
  · exact hreturned.siftedOut_eq_zero

/-- **What was opened is saved as it was received.**  A reply whose body carries
a document is opened, and a save of it sends one payload that has all the
document had, under the id that it names. -/
theorem save_after_open {id : WorkflowId} {millis : Nat} {body : Json} {received : Fields}
    {p : Payload} {σ : Type} (server : Service σ) (t : σ)
    (hreply : (server t (.fetch id)).1 = .answered millis (.ok body))
    (hbody : Envelope.unwrap body = .obj received) (hreceived : received.WellFormed)
    (hread : Payload.ofJson (.obj received) = .ok p) (s : Session) :
    ∃ opened, ((s.openWorkflow id).run server t).1 = (.ok (), opened) ∧
      ∀ {τ : Type} (serve : Service τ) (u : τ), ∃ saved payload sent,
        Event.requests (opened.save.run serve u).2.1 = [.update saved payload] ∧
          payload.toJson = .obj sent ∧ Fields.get? sent "_id" = some saved.toJson ∧
          Workflow.Kept id received sent := by
  have hkept := Workflow.kept_of_received hreceived hread id
  have hsaved := hkept.id
  rw [Workflow.getD_nonNull?_id hreceived hread] at hsaved
  refine ⟨_, run_openWorkflow s hreply (Repository.fetched_eq_ok hbody hread),
    fun serve u => ⟨p.id.getD id, Payload.ofWorkflow (Workflow.ofReply id p).sifted, _, ?_,
      Payload.toJson_eq _, hsaved, hkept⟩⟩
  exact requests_save (Workflow.ofReply_id id p) serve u

/-- A node with a mark of the canvas and a member that is not known are opened and saved. -/
theorem save_after_open_unknown_member :
    let node : Fields := [("id", .str "n"), ("selected", .bool true), ("type", .str "agent")]
    let received : Fields := [("__v", .ofNat 3), ("nodes", .arr [.obj node])]
    ∃ opened saved payload sent,
      (((Session.new 0).openWorkflow ⟨"a"⟩).run Service.scripted
        [.answered 0 (.ok (.obj received))]).1 = (.ok (), opened) ∧
      Event.requests (opened.save.run Service.scripted []).2.1 = [.update saved payload] ∧
      payload.toJson = .obj sent ∧ Workflow.Kept ⟨"a"⟩ received sent := by
  intro node received
  have hnode : Fields.WellFormed node := by
    refine .obj (by decide : List.Pairwise (fun a b => a.1 < b.1) node) ?_
    simp [node, Json.WellFormed.str, Json.WellFormed.bool]
  have hreceived : Fields.WellFormed received := by
    refine .obj (by decide : List.Pairwise (fun a b => a.1 < b.1) received) ?_
    simp only [received, List.mem_cons, List.not_mem_nil, or_false, forall_eq_or_imp, forall_eq]
    refine ⟨.num (by decide), .arr fun v hv => ?_⟩
    obtain rfl := List.mem_singleton.mp hv
    exact hnode
  have hreply : (Service.scripted [.answered 0 (.ok (.obj received))] (.fetch ⟨"a"⟩)).1 =
      .answered 0 (.ok (.obj received)) := rfl
  obtain ⟨opened, hopen, hsave⟩ := save_after_open _ _ hreply rfl hreceived rfl (.new 0)
  obtain ⟨saved, payload, sent, hsent, hbody, -, hkept⟩ := hsave Service.scripted []
  exact ⟨opened, saved, payload, sent, hopen, hsent, hbody, hkept⟩

/-- A coordinate that no double is, is sent as the double nearest to it. -/
theorem save_after_open_rounds :
    let position : Fields := [("x", .ofInt 9007199254740993), ("y", .ofInt 0)]
    let node : Fields := [("id", .str "n"), ("position", .obj position), ("type", .str "agent")]
    let received : Fields := [("_id", .str "a"), ("nodes", .arr [.obj node])]
    let opened := (((Session.new 0).openWorkflow ⟨"a"⟩).run Service.scripted
      [.answered 0 (.ok (.obj received))]).1.2
    ∃ payload sent x, Event.requests (opened.save.run Service.scripted []).2.1 =
        [.update ⟨"a"⟩ payload] ∧
      payload.nodes.map (fun nodes => nodes.map Node.toJson) = some [sent] ∧
      (sent.get? "position").bind (fun v => v.get? "x") = some (.num x) ∧
      x.equals (.whole 9007199254740993) = false := by
  intro position node received opened
  have hx : Double.ofInt 9007199254740993 = ⟨0x4340000000000000⟩ := by decide +kernel
  have hwritten : Position.coordinateToJson ⟨0x4340000000000000⟩ =
      .num (.double ⟨0x4340000000000000⟩) := rfl
  have hposition (n : Node) (h : n.extra = []) :
      n.toJson.get? "position" = some n.position.toJson := by
    have hrecord := n.isRecord_members (h ▸ ⟨Fields.ascending_nil, fun _ _ => rfl⟩)
    exact hrecord.field "position" (by decide)
  refine ⟨_, _, .double ⟨0x4340000000000000⟩, rfl, rfl, ?_, by decide⟩
  rw [hposition _ rfl, Option.bind_some, Position.toJson, Json.object, Json.get?,
    Fields.get?_ofPairs]
  exact congrArg some ((congrArg Position.coordinateToJson hx).trans hwritten)

end Session

end WorkflowEditor
