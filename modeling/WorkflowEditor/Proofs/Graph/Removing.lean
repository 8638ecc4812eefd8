import WorkflowEditor.Proofs.Connection
import WorkflowEditor.Proofs.Graph.WellFormed

/-!
# WorkflowEditor.Proofs.Graph.Removing

Removals overlap: an edge may be taken out itself, or go with either of its
ends.  They leave what none of them is about, whatever their order.

* `Removal.graph_apply` — one removal leaves what it is not about;
* `Removal.graph_run` — so do any number of them, one after the other;
* `Store.removals_in_any_order` — so their order does not matter.
-/

namespace WorkflowEditor

/-- A removal from a graph. -/
inductive Removal where
  /-- of a node, and of the edges at it -/
  | node (id : NodeId)
  /-- of one edge -/
  | edge (id : EdgeId)
  /-- of the edges at a node -/
  | edgesAt (id : NodeId)
deriving DecidableEq

def Removal.edit : Removal → Edit
  | node id => .removeNode id
  | edge id => .removeEdge id
  | edgesAt id => .removeEdgesAt id

namespace Graph

variable {removals others : List Removal} {g : Graph}

/-- What of a graph no removal is about: its nodes but those to be removed, and its
edges but those to be removed themselves or at one of their ends. -/
def spared (g : Graph) (removals : List Removal) : Graph where
  nodes := g.nodes.filter fun n => .node n.id ∉ removals
  edges := g.edges.filter fun e => .edge e.id ∉ removals ∧
    ∀ id ∈ [e.source, e.target], .node id ∉ removals ∧ .edgesAt id ∉ removals

/-- Only which removals there are matters. -/
theorem spared_congr (h : ∀ r, r ∈ removals ↔ r ∈ others) :
    g.spared removals = g.spared others := by
  simp only [spared, h]

/-- Removals that are about nothing in a graph spare all of it. -/
theorem spared_eq_self (hnodes : ∀ n ∈ g.nodes, .node n.id ∉ removals)
    (hedges : ∀ e ∈ g.edges, .edge e.id ∉ removals ∧
      ∀ id ∈ [e.source, e.target], .node id ∉ removals ∧ .edgesAt id ∉ removals) :
    g.spared removals = g := by
  rw [spared, List.filter_eq_self.mpr fun n hn => decide_eq_true (hnodes n hn),
    List.filter_eq_self.mpr fun e he => decide_eq_true (hedges e he)]

/-- What one removal spares and then others do is what all of them spare. -/
theorem spared_spared (r : Removal) (g : Graph) (removals : List Removal) :
    (g.spared [r]).spared removals = g.spared (r :: removals) := by
  simp only [spared, List.filter_filter]
  congr 1
  · exact List.filter_congr fun n _ => by grind
  · exact List.filter_congr fun e _ => by grind

/-! ## one removal -/

theorem spared_node (h : g.WellFormed) (id : NodeId) : g.spared [.node id] =
    ⟨g.nodes.eraseP fun n => n.id == id, g.edges.filter fun e => !e.touches id⟩ := by
  rw [eraseP_eq_filter_of_nodup h.nodup_nodes, spared]
  congr 1
  · exact List.filter_congr fun n _ => by simp
  · exact List.filter_congr fun e _ => by grind [Edge.touches]

theorem spared_edge (h : g.WellFormed) (id : EdgeId) :
    g.spared [.edge id] = { g with edges := g.edges.eraseP fun e => e.id == id } := by
  rw [eraseP_eq_filter_of_nodup h.nodup_edges, spared]
  congr 1
  · exact List.filter_eq_self.mpr fun n _ => by simp
  · exact List.filter_congr fun e _ => by simp

theorem spared_edgesAt (g : Graph) (id : NodeId) :
    g.spared [.edgesAt id] = g.removeEdgesAt id := by
  rw [removeEdgesAt, spared]
  congr 1
  · exact List.filter_eq_self.mpr fun n _ => by simp
  · exact List.filter_congr fun e _ => by grind [Edge.touches]

end Graph

namespace Removal

open WorkflowEditor.Graph

variable {store : Store}

/-- **One removal** leaves of a well-formed graph what it is not about. -/
theorem graph_apply (h : store.graph.WellFormed) (r : Removal) :
    (store.apply r.edit).2.graph = store.graph.spared [r] := by
  cases r with
  | node id =>
      rw [edit, Store.apply, Edit.perform, removeNode?]
      cases hnode : store.graph.node? id with
      | some node => exact (spared_node h id).symm
      | none =>
          have haway : ∀ other ∈ store.graph.nodes.map Node.id, other ≠ id :=
            fun other hother heq => node?_eq_none_iff.mp hnode (heq ▸ hother)
          refine (spared_eq_self (fun n hn => ?_) fun e he => ?_).symm
          · simpa using haway n.id (List.mem_map_of_mem hn)
          · simpa using ⟨haway _ (h.source_mem e he), haway _ (h.target_mem e he)⟩
  | edge id =>
      rw [edit, Store.apply, Edit.perform, removeEdge?]
      cases hedge : store.graph.edge? id with
      | some edge => exact (spared_edge h id).symm
      | none =>
          refine (spared_eq_self (fun n _ => by simp) fun e he => ?_).symm
          simpa using List.find?_eq_none.mp hedge e he
  | edgesAt id =>
      rw [edit, Store.apply, Edit.perform, spared_edgesAt]
      by_cases hdegree : store.graph.degree id = 0
      · have hnone : ∀ e ∈ store.graph.edges, (!e.touches id) = true := by
          simpa using List.countP_eq_zero.mp hdegree
        rw [if_pos hdegree, removeEdgesAt, List.filter_eq_self.mpr hnone]
      · rw [if_neg hdegree]
        rfl

/-- **Removals one after the other** leave of a well-formed graph what none is about. -/
theorem graph_run (h : store.graph.WellFormed) (removals : List Removal) :
    (store.run (removals.map edit)).graph = store.graph.spared removals := by
  induction removals generalizing store with
  | nil => exact (spared_eq_self (by simp) (by simp)).symm
  | cons r rest ih =>
      rw [List.map_cons, Store.run_cons, ih (Store.wellFormed_apply h r.edit), graph_apply h r,
        spared_spared]

end Removal

/-- **Removals may come in any order.**  After every run, any removals of nodes, of
edges and of the edges at nodes leave, in their order, the nodes that are not to be
removed, and the edges that are not to be removed and have no end at which nodes or
edges are. -/
theorem Store.removals_in_any_order (edits : List Edit) (removals : List Removal) :
    let reached := new.run edits
    ∀ order : List Removal, order.Perm removals → (reached.run (order.map Removal.edit)).graph =
      { nodes := reached.graph.nodes.filter fun n => .node n.id ∉ removals
        edges := reached.graph.edges.filter fun e => .edge e.id ∉ removals ∧
          ∀ id ∈ [e.source, e.target], .node id ∉ removals ∧ .edgesAt id ∉ removals } := by
  intro reached order hperm
  rw [Removal.graph_run (wellFormed_run wellFormed_new edits)]
  exact Graph.spared_congr fun r => hperm.mem_iff

/-- Of a loop, two edges to one node and two between others, one alone is left by
removals of a node, of the edges at another one, of edges that go anyway, and of nothing. -/
theorem Store.removals_in_any_order_overlapping :
    let edge (id source target : String) : Edge :=
      ⟨⟨id⟩, ⟨source⟩, none, ⟨target⟩, none, .simple, []⟩
    let node (id : String) : Edit := .addNode (.new ⟨id⟩ "agent" .origin)
    let edits : List Edit := [node "a", node "b", node "c", node "d",
      .addEdges [edge "0" "a" "a", edge "1" "a" "b", edge "2" "c" "b", edge "3" "c" "d",
        edge "4" "d" "c"]]
    let removals : List Removal :=
      [.node ⟨"a"⟩, .edgesAt ⟨"b"⟩, .edge ⟨"1"⟩, .edge ⟨"3"⟩, .node ⟨"x"⟩]
    let after (order : List Removal) := ((new.run edits).run (order.map Removal.edit)).graph
    removals.reverse.Perm removals ∧ after removals.reverse = after removals ∧
      (after removals).nodes.map (·.id.text) = ["b", "c", "d"] ∧
      (after removals).edges.map (·.id.text) = ["4"] := by
  intro edge node edits removals after
  have hperm : removals.reverse.Perm removals := List.reverse_perm removals
  have hany := removals_in_any_order edits removals
  exact ⟨hperm, (hany _ hperm).trans (hany _ (List.Perm.refl _)).symm, by decide +kernel,
    by decide +kernel⟩

end WorkflowEditor
