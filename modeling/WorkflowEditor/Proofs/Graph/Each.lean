import WorkflowEditor.Proofs.Graph.Editing

/-!
# WorkflowEditor.Proofs.Graph.Each

What is said of every node of a graph and of every edge.  An edit keeps it if it
holds of the nodes and edges that come with the edit and of the nodes that it
changes.

* `Edit.Brings` — all that an edit brings into a graph satisfies the two properties;
* `Edit.Commits.each` — such an edit keeps them;
* `Store.each_apply` — so does a store to which it is applied.
-/

namespace WorkflowEditor

/-- Every node of a graph satisfies the one property, every edge the other. -/
structure Graph.Each (onNode : Node → Prop) (onEdge : Edge → Prop) (g : Graph) : Prop where
  nodes : ∀ n ∈ g.nodes, onNode n
  edges : ∀ e ∈ g.edges, onEdge e

variable {onNode : Node → Prop} {onEdge : Edge → Prop}

namespace Graph

theorem each_empty : empty.Each onNode onEdge where
  nodes := fun _ hn => (List.not_mem_nil hn).elim
  edges := fun _ he => (List.not_mem_nil he).elim

namespace Each

variable {g : Graph} (h : g.Each onNode onEdge)
include h

/-- Nodes and edges may be taken out at will. -/
theorem sublist {nodes : List Node} {edges : List Edge} (hnodes : nodes.Sublist g.nodes)
    (hedges : edges.Sublist g.edges) : Each onNode onEdge ⟨nodes, edges⟩ where
  nodes := fun n hn => h.nodes n (hnodes.subset hn)
  edges := fun e he => h.edges e (hedges.subset he)

theorem sift : (sift g.nodes g.edges).Each onNode onEdge :=
  h.sublist (keepFirst_sublist [] _) ((keepFirst_sublist [] _).trans List.filter_sublist)

theorem addNode {node : Node} (hnode : onNode node) :
    Each onNode onEdge { g with nodes := g.nodes ++ [node] } where
  nodes := fun n hn => by
    obtain hn | hn := List.mem_append.mp hn
    · exact h.nodes n hn
    · rw [List.mem_singleton.mp hn]
      exact hnode
  edges := h.edges

theorem addEdges {edges : List Edge} (hedges : ∀ e ∈ edges, onEdge e) :
    Each onNode onEdge { g with edges := g.edges ++ edges } where
  nodes := h.nodes
  edges := fun e he => (List.mem_append.mp he).elim (h.edges e) (hedges e)

theorem updateNode (id : NodeId) {change : Node → Node}
    (hchange : ∀ n, onNode n → onNode (change n)) :
    (g.updateNode id change).Each onNode onEdge where
  nodes := fun n hn => by
    obtain hn | ⟨m, hm, rfl⟩ := mem_updateFirst hn
    · exact h.nodes n hn
    · exact hchange m (h.nodes m hm)
  edges := h.edges

end Each

end Graph

/-! ## edits -/

/-- The nodes and edges that come with an edit satisfy the two properties, and so
does what the edit makes of a node that does. -/
def Edit.Brings (onNode : Node → Prop) (onEdge : Edge → Prop) : Edit → Prop
  | addNode node => onNode node
  | addEdges edges => ∀ e ∈ edges, onEdge e
  | updateData _ overlay => ∀ n, onNode n → onNode { n with data := n.data.extend overlay }
  | moveNode _ position => ∀ n, onNode n → onNode { n with position := position }
  | fillDefaults _ => ∀ n node, onNode n →
      onNode { n with data := n.data.extend (Graph.missingDefaults node) }
  | replace nodes edges => Graph.Each onNode onEdge ⟨nodes, edges⟩
  | connect registry c stamp => ∀ g edges, registry.plan g c stamp = .ok edges →
      ∀ e ∈ edges, onEdge e
  | drop registry payload point toCanvas stamp => ∀ node,
      registry.dropped? payload (toCanvas point) stamp = some node → onNode node
  | removeNode _ | removeEdge _ | removeEdgesAt _ | reset => True

/-- **What holds of every node and every edge is kept** by an edit that brings
nothing else. -/
theorem Edit.Commits.each {g g' : Graph} {edit : Edit} (h : edit.Commits g g')
    (hedit : edit.Brings onNode onEdge) (hg : g.Each onNode onEdge) : g'.Each onNode onEdge := by
  cases h with
  | addNode => exact hg.addNode hedit
  | removeNode => exact hg.sublist List.eraseP_sublist List.filter_sublist
  | addEdges => exact hg.addEdges hedit
  | removeEdge => exact hg.sublist (List.Sublist.refl _) List.eraseP_sublist
  | removeEdgesAt => exact hg.sublist (List.Sublist.refl _) List.filter_sublist
  | updateData | moveNode => exact hg.updateNode _ hedit
  | @fillDefaults _ node => exact hg.updateNode _ fun n => hedit n node
  | replace => exact hedit.sift
  | reset => exact Graph.each_empty
  | connect planned => exact hg.addEdges (hedit _ _ planned)
  | drop made => exact hg.addNode (hedit _ made)

theorem Store.each_apply {store : Store} {edit : Edit} (hedit : edit.Brings onNode onEdge)
    (h : store.graph.Each onNode onEdge) : (store.apply edit).2.graph.Each onNode onEdge := by
  obtain hsame | hcommits := store.graph_apply edit
  · exact hsame ▸ h
  · exact hcommits.each hedit h

end WorkflowEditor
