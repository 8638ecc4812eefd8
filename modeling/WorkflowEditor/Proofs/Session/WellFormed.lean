import WorkflowEditor.Proofs.Connection
import WorkflowEditor.Proofs.Session.Contents
import WorkflowEditor.Proofs.Workflow.Body

/-!
# WorkflowEditor.Proofs.Session.WellFormed

The graphs that a session holds and sends.  The graph in its store is
well-formed after every operation, whatever the service replies, and what is
sent is that graph, the nodes without the marks of the canvas.  The body lists
the same graph unless a member that is not known is written over it, and no
reply brings a member that would be.

* `Effect.payload_of_asked` — what an operation sends: the document as it is
  edited, or a new one;
* `listsGraph_of_history`, `isPlain_of_history` — what is sent in a history carries
  a well-formed graph, and is plain if edits and changes by hand are;
* `wellFormed_store_and_requests` — the graphs in stores and bodies.
-/

namespace WorkflowEditor

/-! ## requests -/

/-- The payload that a request sends along, if it sends one. -/
def Request.payload? : Request → Option Payload
  | create payload | update _ payload => some payload
  | list | fetch _ | delete _ | execute _ _ => none

theorem Request.body_of_payload? {request : Request} {payload : Payload}
    (h : request.payload? = some payload) : request.body = some payload.toJson := by
  cases request with
  | create | update => exact congrArg (Option.map Payload.toJson) h
  | list | fetch | delete | execute => exact nomatch h

/-- The body of the request lists a well-formed graph. -/
def Request.SendsGraph (request : Request) : Prop :=
  ∃ body, request.body = some body ∧ body.ListsGraph

theorem Request.sendsGraph {request : Request} {payload : Payload}
    (h : request.payload? = some payload) (hlists : payload.ListsGraph)
    (hplain : payload.IsPlain) : request.SendsGraph :=
  ⟨payload.toJson, body_of_payload? h, Payload.listsGraph_toJson hlists hplain⟩

/-! ## operations with plain nodes and edges -/

/-- No member that comes with the edit writes over an id or an end. -/
def Edit.IsPlain : Edit → Prop
  | addNode node => node.IsPlain
  | addEdges edges => ∀ e ∈ edges, e.IsPlain
  | replace nodes edges => Graph.Each Node.IsPlain Edge.IsPlain ⟨nodes, edges⟩
  | removeNode _ | removeEdge _ | removeEdgesAt _ | updateData _ _ | moveNode _ _ |
      fillDefaults _ | reset | connect _ _ _ | drop _ _ _ _ _ => True

theorem Edit.IsPlain.brings {edit : Edit} (h : edit.IsPlain) :
    edit.Brings Node.IsPlain Edge.IsPlain := by
  cases edit with
  | addNode | addEdges | replace => exact h
  | updateData | moveNode => exact fun _ hn => hn
  | fillDefaults => exact fun _ _ hn => hn
  | connect =>
      intro g edges planned e he
      rw [Edge.IsPlain, Registry.extra_of_mem_plan planned e he]
      exact Fields.lacks_nil _
  | drop =>
      intro node made
      obtain ⟨d, -, rfl⟩ := Option.map_eq_some_iff.mp made
      exact Fields.lacks_nil _
  | removeNode | removeEdge | removeEdgesAt | reset => trivial

namespace Session

/-- Edits are plain, and a change by hand adds no second graph to the document's members. -/
def Operation.IsPlain : Operation → Prop
  | edit e => e.IsPlain
  | revise change => ∀ w, Fields.Lacks ["nodes", "edges"] w.extra →
      Fields.Lacks ["nodes", "edges"] (change w).extra
  | openWorkflow _ | newWorkflow _ _ | save | run _ | delete | list => True

theorem Operation.IsPlain.brings {o : Operation} (h : o.IsPlain) :
    o.Brings Node.IsPlain Edge.IsPlain (Fields.Lacks ["nodes", "edges"]) := by
  cases o with
  | edit e => exact Edit.IsPlain.brings h
  | revise change => exact h
  | openWorkflow | newWorkflow | save | run | delete | list => trivial

/-! ## what is sent -/

/-- The document as it is sent lists the graph of the store. -/
theorem listsGraph_outgoing {s : Session} (h : s.store.graph.WellFormed) :
    (Payload.ofWorkflow s.outgoing).ListsGraph := by
  refine ⟨⟨s.store.graph.nodes.map Node.withoutLocalState, s.store.graph.edges⟩, ?_, rfl, rfl⟩
  refine h.congr_nodes ?_
  rw [List.map_map]
  rfl

theorem listsGraph_draft (title description : String) :
    (Payload.ofWorkflow (draft title description)).ListsGraph :=
  ⟨.empty, Graph.wellFormed_empty, rfl, rfl⟩

/-- A plain document is sent as one, the marks of the canvas being other members. -/
theorem isPlain_ofWorkflow {w : Workflow} (h : w.IsPlain) : (Payload.ofWorkflow w).IsPlain where
  nodes := by
    refine List.forall_mem_map.mpr fun n hn => ?_
    exact Fields.Lacks.without (h.graph.nodes n hn) Node.localKeys
  edges := h.graph.edges
  extra := h.extra

theorem isPlain_draft (title description : String) :
    (Payload.ofWorkflow (draft title description)).IsPlain :=
  isPlain_ofWorkflow (Workflow.each_of_nil (Fields.merges_lacks _) rfl rfl rfl)

/-- **What an operation sends** is the document as it is edited, or a new one. -/
theorem Effect.payload_of_asked {s after : Session} {o : Operation} {outcome : Outcome}
    {events : List Event} (h : Effect s o outcome events after) {request : Request} {reply : Reply}
    (hasked : .asked request reply ∈ events) {payload : Payload}
    (hpayload : request.payload? = some payload) :
    payload = .ofWorkflow s.outgoing ∨
      ∃ title description, payload = .ofWorkflow (draft title description) := by
  cases h with
  | saved | notSaved | notSavedFirst =>
      obtain ⟨rfl, -⟩ := Event.asked.inj (List.mem_singleton.mp hasked)
      exact .inl (Option.some.inj hpayload).symm
  | savedFirst | createdNotSaved =>
      simp only [List.mem_cons, Event.asked.injEq, List.not_mem_nil, or_false] at hasked
      obtain ⟨rfl, -⟩ | ⟨rfl, -⟩ := hasked
      · exact .inl (Option.some.inj hpayload).symm
      · exact .inl (Option.some.inj hpayload).symm
  | notRan =>
      simp only [List.mem_cons, Event.asked.injEq, reduceCtorEq, List.not_mem_nil, or_false,
        false_or] at hasked
      obtain ⟨rfl, -⟩ := hasked
      exact .inl (Option.some.inj hpayload).symm
  | ran =>
      simp only [List.mem_cons, Event.asked.injEq, reduceCtorEq, List.not_mem_nil, or_false,
        false_or] at hasked
      obtain ⟨rfl, -⟩ | ⟨rfl, -⟩ := hasked
      · exact .inl (Option.some.inj hpayload).symm
      · exact nomatch hpayload
  | created | notCreated =>
      obtain ⟨rfl, -⟩ := Event.asked.inj (List.mem_singleton.mp hasked)
      exact .inr ⟨_, _, (Option.some.inj hpayload).symm⟩
  | opened | notOpened | deleted | notDeleted | listed | notListed =>
      obtain ⟨rfl, -⟩ := Event.asked.inj (List.mem_singleton.mp hasked)
      exact nomatch hpayload
  | refusedRun => simp at hasked
  | nothingToDelete | edited | revised => exact (List.not_mem_nil hasked).elim

/-! ## histories -/

section
variable {start : Session} {operations : List Operation} {serve : Service σ} {t : σ}
  {request : Request} {payload : Payload}
  (hrequest : request ∈ Event.requests ((start.history operations).run serve t).2.1)
  (hpayload : request.payload? = some payload)
include hrequest hpayload

/-- Whatever is sent in a history lists the graph that some run of edits leads to. -/
theorem listsGraph_of_history (hstart : start.store = .new) : payload.ListsGraph := by
  obtain ⟨x, hx, reply, hasked⟩ := start.asked_of_mem_requests serve t hrequest
  have hbefore := (start.isEdited_of_course hstart serve t x hx).1
  obtain rfl | ⟨title, description, rfl⟩ := x.effect.payload_of_asked hasked hpayload
  · exact listsGraph_outgoing hbefore.wellFormed
  · exact listsGraph_draft title description

/-- Plain operations lead to plain documents, whatever the service replies. -/
theorem isPlain_of_history (hstart : start.outgoing.IsPlain)
    (hoperations : ∀ o ∈ operations, o.IsPlain) : payload.IsPlain := by
  obtain ⟨x, hx, reply, hasked⟩ := start.asked_of_mem_requests serve t hrequest
  have hbefore := (each_of_course (Fields.merges_lacks _) hstart
    (fun o ho => (hoperations o ho).brings) (fun _ _ => Reply.brings_plain _) t x hx).1
  obtain rfl | ⟨title, description, rfl⟩ := x.effect.payload_of_asked hasked hpayload
  · exact isPlain_ofWorkflow hbefore
  · exact isPlain_draft title description

end

/-- **No broken graph**, neither in a store nor on the wire.  After any run of
edits a store's graph is well-formed.  Whatever is done in a session and
whatever the service replies, every document it sends carries a well-formed
graph, and its body lists only edges between nodes that it lists too, and no id
twice, if no member that is not known is written over an id, an end of an edge
or one of the two lists.  No reply brings such a member: if no edit and no
change by hand does, the body of every document that is sent lists a
well-formed graph. -/
theorem wellFormed_store_and_requests :
    (∀ edits : List Edit, (Store.new.run edits).graph.WellFormed) ∧
    ∀ (r : Repository) (deadline : Nat) (state : RunState) (operations : List Operation)
      {σ : Type} (serve : Service σ) (t : σ),
      let start := { Session.new deadline with repository := r, runState := state }
      ∀ request ∈ Event.requests ((start.history operations).run serve t).2.1,
        ∀ payload, request.payload? = some payload →
          payload.ListsGraph ∧ (payload.IsPlain → request.SendsGraph) ∧
          ((∀ o ∈ operations, o.IsPlain) → request.SendsGraph) := by
  refine ⟨Store.wellFormed_run Store.wellFormed_new, ?_⟩
  intro r deadline state operations σ serve t start request hrequest payload hpayload
  have hlists := listsGraph_of_history hrequest hpayload rfl
  refine ⟨hlists, Request.sendsGraph hpayload hlists, fun hoperations => ?_⟩
  have hstart : start.outgoing.IsPlain :=
    Workflow.each_of_nil (Fields.merges_lacks _) rfl rfl rfl
  exact Request.sendsGraph hpayload hlists (isPlain_of_history hrequest hpayload hstart hoperations)

/-- Two nodes and an edge between them are sent by a save. -/
theorem wellFormed_store_and_requests_saved :
    let start := { Session.new 0 with repository := .empty, runState := .idle }
    let node (id : String) := Node.new ⟨id⟩ "agent" .origin
    let edge : Edge := ⟨⟨"ab"⟩, ⟨"a"⟩, none, ⟨"b"⟩, none, .simple, []⟩
    let operations : List Operation :=
      [.edit (.addNode (node "a")), .edit (.addNode (node "b")), .edit (.addEdges [edge]),
        .revise fun w => { w with id := some ⟨"w"⟩ }, .save]
    ∃ payload, Event.requests ((start.history operations).run Service.scripted []).2.1 =
        [.update ⟨"w"⟩ payload] ∧ payload.IsPlain ∧ (∀ o ∈ operations, o.IsPlain) ∧
      payload.ListsGraph ∧ (Request.update ⟨"w"⟩ payload).SendsGraph := by
  intro start node edge operations
  let w := { Workflow.new untitled with
    id := some ⟨"w"⟩, nodes := [node "a", node "b"], edges := [edge] }
  have hsent : Event.requests ((start.history operations).run Service.scripted []).2.1 =
      [.update ⟨"w"⟩ (.ofWorkflow w)] := rfl
  have hnode (id : String) : (node id).IsPlain := Fields.lacks_nil _
  have hedge : edge.IsPlain := Fields.lacks_nil _
  have hpayload : (Payload.ofWorkflow w).IsPlain :=
    isPlain_ofWorkflow ⟨⟨by simp [w, Workflow.graph, hnode], by simp [w, Workflow.graph, hedge]⟩,
      Fields.lacks_nil _⟩
  have hoperations : ∀ o ∈ operations, o.IsPlain := by
    simp [operations, Operation.IsPlain, Edit.IsPlain, hnode, hedge]
  obtain ⟨hlists, hplain, -⟩ := wellFormed_store_and_requests.2 .empty 0 .idle operations
    Service.scripted [] (.update ⟨"w"⟩ (.ofWorkflow w)) (hsent ▸ List.mem_singleton_self _) _ rfl
  exact ⟨.ofWorkflow w, hsent, hpayload, hoperations, hlists, hplain hpayload⟩

/-- A node whose member `id` is written over its id, and an edge whose member
`source` is written over its source: the body lists one id twice, and an edge
from no node. -/
theorem wellFormed_store_and_requests_overwritten :
    let start := { Session.new 0 with repository := .empty, runState := .idle }
    let node (id : String) (extra : Fields) : Node := ⟨⟨id⟩, "agent", .origin, [], extra⟩
    let edge : Edge :=
      ⟨⟨"ab"⟩, ⟨"a"⟩, none, ⟨"b"⟩, none, .simple, [("source", .str "ghost")]⟩
    let operations : List Operation :=
      [.edit (.addNode (node "a" [])), .edit (.addNode (node "b" [("id", .str "a")])),
        .edit (.addEdges [edge]), .revise fun w => { w with id := some ⟨"w"⟩ }, .save]
    ∃ payload nodes edges,
      Event.requests ((start.history operations).run Service.scripted []).2.1 =
        [.update ⟨"w"⟩ payload] ∧
      (Request.update ⟨"w"⟩ payload).body = some payload.toJson ∧
      payload.toJson.get? "nodes" = some (.arr nodes) ∧
      payload.toJson.get? "edges" = some (.arr edges) ∧
      (nodes.map fun v => v.text? "id") = [some "a", some "a"] ∧
      (edges.map fun v => v.text? "source") = [some "ghost"] ∧
      ¬(Request.update ⟨"w"⟩ payload).SendsGraph := by
  intro start node edge operations
  let w := { Workflow.new untitled with
    id := some ⟨"w"⟩, nodes := [node "a" [], node "b" [("id", .str "a")]], edges := [edge] }
  -- the lists stand in the body as they are: it is inside of them that members are written over
  have hnodes := Payload.get?_nodes_toJson (p := .ofWorkflow w) rfl rfl
  have hedges := Payload.get?_edges_toJson (p := .ofWorkflow w) rfl rfl
  have hsecond : (node "b" [("id", .str "a")]).withoutLocalState.toJson.text? "id" = some "a" :=
    Json.text?_extend_of_get? (List.pairwise_singleton _ _) rfl
  have hplain : (node "a" []).withoutLocalState.IsPlain := Fields.lacks_nil _
  have hfirst : (node "a" []).withoutLocalState.toJson.text? "id" = some "a" := hplain.text?_id
  have hsource : edge.toJson.text? "source" = some "ghost" :=
    Json.text?_extend_of_get? (List.pairwise_singleton _ _) rfl
  have hids : (((w.nodes.map Node.withoutLocalState).map Node.toJson).map fun v => v.text? "id") =
      [some "a", some "a"] := by
    simp only [w, List.map_cons, List.map_nil, hfirst, hsecond]
  refine ⟨.ofWorkflow w, _, _, rfl, rfl, hnodes, hedges, hids, ?_, ?_⟩
  · simp only [w, List.map_cons, List.map_nil, hsource]
  · rintro ⟨body, ⟨rfl⟩, nodes, edges, hget, -, hmake⟩
    rw [hnodes] at hget
    obtain rfl := Json.arr.inj (Option.some.inj hget)
    have hnodup := hmake.nodup_nodes
    rw [hids] at hnodup
    exact absurd hnodup (by decide)

end Session

end WorkflowEditor
