import WorkflowEditor.Proofs.Graph.Batch
import WorkflowEditor.Proofs.Graph.WellFormed

/-!
# WorkflowEditor.Proofs.Graph.Rebuilding

A graph can be taken over at once or built again from nothing, one item after
the other, where each edit is refused that has no place for its item.  Both ways
lead to the same graph.

Nodes and edges are added by edits of one kind (`Edit.Adds`): an item that fits
and has a new key comes last, and any other is refused.

* `Edit.Adds.run` — a run of such edits keeps the first fitting item of each key,
  and the rest are its refusals;
* `Store.replace_as_one_by_one` — a graph that is taken over is the graph that
  is built item by item, and leaves out as many items as are refused there.
-/

namespace WorkflowEditor

/-! ## runs and their refusals -/

/-- The edits that build a graph from nothing, one item after the other. -/
def Edit.oneByOne (nodes : List Node) (edges : List Edge) : List Edit :=
  .reset :: (nodes.map .addNode ++ edges.map fun e => .addEdges [e])

namespace Store

/-- The errors of those edits of a run that are refused. -/
def refusals (store : Store) : List Edit → List GraphError
  | [] => []
  | edit :: rest => (store.apply edit).1.refusal?.toList ++ (store.apply edit).2.refusals rest

theorem refusals_append (store : Store) (earlier later : List Edit) :
    store.refusals (earlier ++ later) =
      store.refusals earlier ++ (store.run earlier).refusals later := by
  induction earlier generalizing store with
  | nil => rfl
  | cons edit rest ih => rw [List.cons_append, refusals, refusals, ih, run_cons, List.append_assoc]

end Store

/-! ## adding items one by one -/

namespace Edit

open WorkflowEditor.Graph

variable [DecidableEq κ] {add : α → Edit} {key : α → κ} {fits : α → Bool}
  {graphOf : List α → Graph}

/-- An edit adds an item to those that make up a graph if it fits and its key is
new, and is refused otherwise. -/
structure Adds (add : α → Edit) (key : α → κ) (fits : α → Bool) (graphOf : List α → Graph) :
    Prop where
  taken {store : Store} {items : List α} {a : α} (graph : store.graph = graphOf items)
    (fit : fits a = true) (new : key a ∉ items.map key) :
    (store.apply (add a)).1.refusal? = none ∧
      (store.apply (add a)).2.graph = graphOf (items ++ [a])
  refused {store : Store} {items : List α} {a : α} (graph : store.graph = graphOf items)
    (not : ¬(fits a = true ∧ key a ∉ items.map key)) :
    (store.apply (add a)).1.refusal?.isSome = true ∧ (store.apply (add a)).2 = store

/-- **A run that adds items** keeps of those that fit the first of each new key, and
refuses the others. -/
theorem Adds.run (h : Adds add key fits graphOf) {store : Store} {items : List α}
    (hgraph : store.graph = graphOf items) (more : List α) :
    (store.run (more.map add)).graph =
        graphOf (items ++ keepFirst key (items.map key) (more.filter fits)) ∧
      (store.refusals (more.map add)).length +
        (keepFirst key (items.map key) (more.filter fits)).length = more.length := by
  induction more generalizing store items with
  | nil =>
      rw [List.filter_nil, keepFirst, List.append_nil]
      exact ⟨hgraph, rfl⟩
  | cons a rest ih =>
      rw [List.map_cons, Store.run_cons, Store.refusals]
      by_cases hnew : fits a = true ∧ key a ∉ items.map key
      · obtain ⟨hanswer, hafter⟩ := h.taken hgraph hnew.1 hnew.2
        have hkept : keepFirst key (items.map key) ((a :: rest).filter fits) =
            a :: keepFirst key ((items ++ [a]).map key) (rest.filter fits) := by
          rw [List.filter_cons_of_pos hnew.1, keepFirst, if_neg hnew.2]
          refine congrArg (a :: ·) (keepFirst_congr (fun k => ?_) _)
          simp [or_comm]
        obtain ⟨hrun, hcount⟩ := ih hafter
        rw [hkept, hanswer]
        refine ⟨by rw [hrun, List.append_assoc, List.singleton_append], ?_⟩
        rw [Option.toList_none, List.nil_append, List.length_cons, List.length_cons, ← hcount]
        omega
      · obtain ⟨hanswer, hafter⟩ := h.refused hgraph hnew
        obtain ⟨error, herror⟩ := Option.isSome_iff_exists.mp hanswer
        have hkept : keepFirst key (items.map key) ((a :: rest).filter fits) =
            keepFirst key (items.map key) (rest.filter fits) := by
          by_cases hfit : fits a = true
          · have hseen := not_not.mp fun hfresh => hnew ⟨hfit, hfresh⟩
            rw [List.filter_cons_of_pos hfit, keepFirst, if_pos hseen]
          · rw [List.filter_cons_of_neg hfit]
        obtain ⟨hrun, hcount⟩ := ih hgraph
        rw [hkept, hafter, herror]
        refine ⟨hrun, ?_⟩
        rw [Option.toList_some, List.length_append, List.length_singleton, List.length_cons,
          ← hcount]
        omega

/-- Nodes fit whatever they are. -/
theorem adds_addNode (edges : List Edge) :
    Adds .addNode Node.id (fun _ => true) fun nodes => ⟨nodes, edges⟩ where
  taken {store nodes node} hgraph _ hnew := by
    have hadd : store.graph.addNode node = .ok ⟨nodes ++ [node], edges⟩ := by
      rw [hgraph]
      exact addNode_eq_ok_iff.mpr ⟨hnew, rfl⟩
    rw [Store.apply, perform, hadd]
    exact ⟨rfl, rfl⟩
  refused {store nodes node} hgraph hnot := by
    have htaken : store.graph.contains node.id = true := by
      rw [hgraph, contains_iff]
      exact not_not.mp fun hnew => hnot ⟨rfl, hnew⟩
    rw [Store.apply, perform, Graph.addNode, if_pos htaken]
    exact ⟨rfl, rfl⟩

/-- An edge fits if its ends are among the nodes. -/
theorem adds_addEdges (nodes : List Node) :
    Adds (fun e => .addEdges [e]) Edge.id (fun e => hasEnds ⟨nodes, []⟩ e)
      fun edges => ⟨nodes, edges⟩ where
  taken {store edges e} hgraph hends hnew := by
    have hadd : store.graph.addEdges [e] = .ok ⟨nodes, edges ++ [e]⟩ := by
      rw [hgraph]
      refine addEdges_eq_ok_iff.mpr ⟨⟨?_, List.pairwise_singleton _ _, ?_⟩, rfl⟩
      · exact List.forall_mem_singleton.mpr hends
      · exact List.forall_mem_singleton.mpr hnew
    rw [Store.apply_addEdges, hadd]
    exact ⟨rfl, rfl⟩
  refused {store edges e} hgraph hnot := by
    obtain ⟨error, hfault⟩ := exists_fault_iff (g := ⟨nodes, edges⟩).mpr hnot
    have hrefused : store.graph.addEdges [e] = .error error := by
      rw [hgraph, Graph.addEdges, checkEdges_of_fault hfault]
    rw [Store.apply_addEdges, hrefused]
    exact ⟨rfl, rfl⟩

end Edit

/-! ## the whole graph -/

open WorkflowEditor.Graph

namespace Store

/-- **A graph is taken over as if it were built one by one.**  From any store the
nodes and edges that are taken over are those that a cleared store ends up with
when they are added one at a time, and as many are left out as are refused.  The
graph of a store that was run from empty is taken over as it is. -/
theorem replace_as_one_by_one (store : Store) (nodes : List Node) (edges : List Edge) :
    let edits := Edit.oneByOne nodes edges
    let replaced := store.apply (.replace nodes edges)
    replaced.2.graph = (store.run edits).graph ∧
    replaced.1 = .count (store.refusals edits).length ∧
    ∀ history, let reached := new.run history
      let again := reached.apply (.replace reached.graph.nodes reached.graph.edges)
      again.2.graph = reached.graph ∧ again.1 = .count 0 := by
  let g := sift nodes edges
  let cleared := (store.apply .reset).2
  have hcleared : cleared.graph = ⟨[], []⟩ := rfl
  obtain ⟨hnodes, hrefusedNodes⟩ := (Edit.adds_addNode []).run hcleared nodes
  rw [List.map_nil, List.filter_true] at hnodes hrefusedNodes
  obtain ⟨hedges, hrefusedEdges⟩ := (Edit.adds_addEdges g.nodes).run hnodes edges
  refine ⟨?_, congrArg Answer.count ?_, fun history => ?_⟩
  · rw [Edit.oneByOne, run_cons, run_append]
    exact hedges.symm
  · have hsifted : siftedOut nodes edges =
        nodes.length + edges.length - g.nodes.length - g.edges.length := rfl
    have hrefusals : store.refusals (Edit.oneByOne nodes edges) =
        cleared.refusals (nodes.map .addNode) ++
          (cleared.run (nodes.map .addNode)).refusals (edges.map fun e => .addEdges [e]) :=
      cleared.refusals_append _ _
    rw [hsifted, hrefusals, List.length_append, ← hrefusedNodes, ← hrefusedEdges]
    show _ + g.nodes.length + (_ + g.edges.length) - g.nodes.length - g.edges.length = _
    omega
  · have hg := wellFormed_run wellFormed_new history
    exact ⟨hg.sift_eq, congrArg Answer.count hg.siftedOut_eq_zero⟩

-- the id of an edge that is left out is free for the next, and then taken
example :
    let node (id : String) : Node := .new ⟨id⟩ "agent" .origin
    let edge (source target : String) : Edge :=
      ⟨⟨"1"⟩, ⟨source⟩, none, ⟨target⟩, none, .simple, []⟩
    let edges := [edge "a" "c", edge "a" "b", edge "b" "a"]
    (sift [node "a", node "b", node "a"] edges).edges.map (·.target.text) = ["b"] ∧
      siftedOut [node "a", node "b", node "a"] edges = 3 := by
  decide +kernel

end Store

end WorkflowEditor
