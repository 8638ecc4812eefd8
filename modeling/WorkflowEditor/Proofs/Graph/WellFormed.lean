import WorkflowEditor.Proofs.Graph.Editing

/-!
# WorkflowEditor.Proofs.Graph.WellFormed

Every edit keeps a graph well-formed, whatever its arguments: no id twice, and
no edge without its ends.

Each change that an edit can make has one lemma that says why the graph is
well-formed again (`WellFormed.addNode`, `WellFormed.addEdges`, …).

* `wellFormed_sift` — what `sift` keeps of any nodes and edges is well-formed;
* `Edit.Commits.wellFormed` — one edit keeps a graph well-formed;
* `wellFormed_run` — so does every run of edits;
* `holds_run_new` — so a run keeps what edits of well-formed graphs keep.
-/

namespace WorkflowEditor

namespace Graph

/-! ## the graph is well-formed again -/

theorem wellFormed_empty : empty.WellFormed where
  nodup_nodes := List.nodup_nil
  nodup_edges := List.nodup_nil
  source_mem := fun _ he => (List.not_mem_nil he).elim
  target_mem := fun _ he => (List.not_mem_nil he).elim

/-- Only the ids of the nodes matter. -/
theorem WellFormed.congr_nodes {g : Graph} (h : g.WellFormed) {nodes : List Node}
    (hids : nodes.map Node.id = g.nodes.map Node.id) : WellFormed ⟨nodes, g.edges⟩ where
  nodup_nodes := hids ▸ h.nodup_nodes
  nodup_edges := h.nodup_edges
  source_mem := fun e he => hids ▸ h.source_mem e he
  target_mem := fun e he => hids ▸ h.target_mem e he

theorem WellFormed.updateNode {g : Graph} (h : g.WellFormed) (id : NodeId) {change : Node → Node}
    (hid : ∀ n, (change n).id = n.id) : (g.updateNode id change).WellFormed :=
  h.congr_nodes (map_updateFirst hid _ _)

/-- Edges may be taken out at will. -/
theorem WellFormed.sublist_edges {g : Graph} (h : g.WellFormed) {edges : List Edge}
    (hsub : edges.Sublist g.edges) : WellFormed ⟨g.nodes, edges⟩ where
  nodup_nodes := h.nodup_nodes
  nodup_edges := h.nodup_edges.sublist (hsub.map Edge.id)
  source_mem := fun e he => h.source_mem e (hsub.subset he)
  target_mem := fun e he => h.target_mem e (hsub.subset he)

theorem WellFormed.addNode {g : Graph} (h : g.WellFormed) {node : Node}
    (hnew : node.id ∉ g.nodes.map Node.id) :
    WellFormed { g with nodes := g.nodes ++ [node] } where
  nodup_nodes := by
    rw [List.map_append, List.map_singleton, List.nodup_append]
    refine ⟨h.nodup_nodes, by simp, fun a ha b hb => ?_⟩
    rw [List.mem_singleton.mp hb]
    exact fun heq => hnew (heq ▸ ha)
  nodup_edges := h.nodup_edges
  source_mem := fun e he => by
    rw [List.map_append]; exact List.mem_append_left _ (h.source_mem e he)
  target_mem := fun e he => by
    rw [List.map_append]; exact List.mem_append_left _ (h.target_mem e he)

/-- The ids of other nodes stay when a node is taken out. -/
theorem mem_map_eraseP {nodes : List Node} {id other : NodeId} (hne : other ≠ id)
    (hmem : other ∈ nodes.map Node.id) :
    other ∈ (nodes.eraseP fun n => n.id == id).map Node.id := by
  obtain ⟨n, hn, rfl⟩ := List.mem_map.mp hmem
  refine List.mem_map_of_mem ?_
  rw [List.mem_eraseP_of_neg (by simpa using hne)]
  exact hn

theorem WellFormed.removeNode {g : Graph} (h : g.WellFormed) (id : NodeId) :
    WellFormed ⟨g.nodes.eraseP fun n => n.id == id, g.edges.filter fun e => !e.touches id⟩ := by
  have hedges := h.sublist_edges (List.filter_sublist (p := fun e => !e.touches id))
  have hapart : ∀ e ∈ g.edges.filter fun e => !e.touches id, e.source ≠ id ∧ e.target ≠ id := by
    intro e he
    have hnot := (List.mem_filter.mp he).2
    rwa [Bool.not_eq_true', ← Bool.not_eq_true, touches_iff, not_or] at hnot
  exact {
    nodup_nodes := h.nodup_nodes.sublist (List.eraseP_sublist.map Node.id)
    nodup_edges := hedges.nodup_edges
    source_mem := fun e he => mem_map_eraseP (hapart e he).1 (hedges.source_mem e he)
    target_mem := fun e he => mem_map_eraseP (hapart e he).2 (hedges.target_mem e he) }

theorem WellFormed.addEdges {g : Graph} (h : g.WellFormed) {edges : List Edge}
    (hadd : g.Addable edges) : WellFormed { g with edges := g.edges ++ edges } where
  nodup_nodes := h.nodup_nodes
  nodup_edges := by
    rw [List.map_append, List.nodup_append]
    refine ⟨h.nodup_edges, hadd.nodup, fun a ha b hb heq => ?_⟩
    obtain ⟨e, he, rfl⟩ := List.mem_map.mp hb
    exact hadd.fresh e he (heq ▸ ha)
  source_mem := fun e he => (List.mem_append.mp he).elim (h.source_mem e)
    fun hnew => (hasEnds_iff.mp (hadd.ends e hnew)).1
  target_mem := fun e he => (List.mem_append.mp he).elim (h.target_mem e)
    fun hnew => (hasEnds_iff.mp (hadd.ends e hnew)).2

/-- What `sift` keeps of any nodes and edges is well-formed. -/
theorem wellFormed_sift (nodes : List Node) (edges : List Edge) :
    (sift nodes edges).WellFormed := by
  have hends : ∀ e ∈ (sift nodes edges).edges, hasEnds ⟨(sift nodes edges).nodes, []⟩ e = true :=
    fun e he => (List.mem_filter.mp ((keepFirst_sublist [] _).subset he)).2
  exact {
    nodup_nodes := nodup_map_keepFirst [] nodes
    nodup_edges := nodup_map_keepFirst [] _
    source_mem := fun e he => (hasEnds_iff.mp (hends e he)).1
    target_mem := fun e he => (hasEnds_iff.mp (hends e he)).2 }

/-- A well-formed graph passes `sift` as it is. -/
theorem WellFormed.sift_eq {g : Graph} (h : g.WellFormed) : sift g.nodes g.edges = g := by
  have hnodes : keepFirst Node.id [] g.nodes = g.nodes :=
    keepFirst_eq_self h.nodup_nodes fun _ _ => List.not_mem_nil
  have hfilter : (g.edges.filter fun e => hasEnds ⟨g.nodes, []⟩ e) = g.edges :=
    List.filter_eq_self.mpr fun e he => hasEnds_iff.mpr ⟨h.source_mem e he, h.target_mem e he⟩
  have hedges : keepFirst Edge.id [] g.edges = g.edges :=
    keepFirst_eq_self h.nodup_edges fun _ _ => List.not_mem_nil
  rw [sift, hnodes, hfilter, hedges]

theorem WellFormed.siftedOut_eq_zero {g : Graph} (h : g.WellFormed) :
    siftedOut g.nodes g.edges = 0 := by
  rw [siftedOut, h.sift_eq]
  omega

end Graph

open WorkflowEditor.Graph in
/-- One edit keeps a graph well-formed, whatever its arguments. -/
theorem Edit.Commits.wellFormed {g g' : Graph} {edit : Edit} (h : edit.Commits g g')
    (hg : g.WellFormed) : g'.WellFormed := by
  cases h with
  | addNode fresh => exact hg.addNode fresh
  | removeNode => exact hg.removeNode _
  | addEdges _ addable => exact hg.addEdges addable
  | removeEdge => exact hg.sublist_edges List.eraseP_sublist
  | removeEdgesAt => exact hg.sublist_edges List.filter_sublist
  | updateData | moveNode | fillDefaults => exact hg.updateNode _ fun _ => rfl
  | replace => exact wellFormed_sift _ _
  | reset => exact wellFormed_empty
  | connect _ addable => exact hg.addEdges addable
  | drop _ fresh => exact hg.addNode fresh

/-! ## runs -/

namespace Store

theorem wellFormed_apply {store : Store} (h : store.graph.WellFormed) (edit : Edit) :
    (store.apply edit).2.graph.WellFormed := by
  obtain hsame | hcommits := store.graph_apply edit
  · exact hsame ▸ h
  · exact hcommits.wellFormed h

theorem wellFormed_new : new.graph.WellFormed := Graph.wellFormed_empty

/-- Every run of edits keeps the graph well-formed. -/
theorem wellFormed_run {store : Store} (h : store.graph.WellFormed) (edits : List Edit) :
    (store.run edits).graph.WellFormed :=
  holds_run Graph.WellFormed (fun _ _ _ _ hcommits => hcommits.wellFormed) h

/-- What every commit to a well-formed graph keeps holds after every run from an empty store. -/
theorem holds_run_new (holds : Graph → Prop) {edits : List Edit}
    (hkeep : ∀ edit ∈ edits, ∀ {g g' : Graph},
      edit.Commits g g' → g.WellFormed → holds g → holds g')
    (h : holds .empty) : (new.run edits).graph.WellFormed ∧ holds (new.run edits).graph := by
  refine holds_run (fun g => g.WellFormed ∧ holds g) ?_ ⟨wellFormed_new, h⟩
  intro edit hedit g g' hcommits ⟨hg, hholds⟩
  exact ⟨hcommits.wellFormed hg, hkeep edit hedit hcommits hg hholds⟩

theorem wellFormed_load (store : Store) (nodes : List Node) (edges : List Edge) :
    (store.load nodes edges).graph.WellFormed :=
  Graph.wellFormed_sift nodes edges

end Store

end WorkflowEditor
