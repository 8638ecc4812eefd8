import Mathlib
import WorkflowEditor.Graph.Topology
import WorkflowEditor.Proofs.Connection
import WorkflowEditor.Proofs.Graph.WellFormed

/-!
# WorkflowEditor.Proofs.Graph.Neighbours

The neighbours of a node are what the list of edges says they are, although they
are looked up in a second graph, of places and indices.

* `Multigraphs.Lawful` — what is asked of a library of graphs of numbers;
* `Graph.Placed`, `Graph.StandsFor` — an index is the place of a node, and an arc
  stands for an edge between such indices;
* `Graph.forall₂_arcsAt` — so the arcs at an index stand for the edges at its node;
* `Graph.forall₂_neighbours` — and the neighbours found are those of the edges,
  the last edge first;
* `Store.neighbours_of_run` — what this makes of all the questions that are asked.
-/

namespace WorkflowEditor

/-! ## lists -/

/-- Items can be chosen by their places. -/
theorem filterMap_filter_range {items : List α} {p : Nat → Bool} {q : α → Bool}
    (h : ∀ i a, items[i]? = some a → p i = q a) :
    ((List.range items.length).filter p).filterMap (fun i => items[i]?) = items.filter q := by
  induction items using List.reverseRecOn with
  | nil => rfl
  | append_singleton items a ih =>
      have hearlier : ∀ i ∈ (List.range items.length).filter p,
          (items ++ [a])[i]? = items[i]? := fun i hi =>
        List.getElem?_append_left (List.mem_range.mp (List.mem_filter.mp hi).1)
      have hitems := ih fun i b hi => h i b <| by
        rw [List.getElem?_append_left (List.getElem?_eq_some_iff.mp hi).1, hi]
      have hlast := h items.length a (by simp)
      rw [List.length_append, List.length_singleton, List.range_succ, List.filter_append,
        List.filterMap_append, List.filter_append, List.filterMap_congr hearlier, hitems]
      congr 1
      cases hq : q a with
      | true => simp [hlast, hq]
      | false => simp [hlast, hq]

/-- Keys counted kind by kind are all counted once. -/
theorem sum_count_of_nodup [DecidableEq κ] {kinds keys : List κ} (h : kinds.Nodup)
    (hmem : ∀ k ∈ keys, k ∈ kinds) : (kinds.map fun k => keys.count k).sum = keys.length := by
  have hcard := Multiset.sum_count_eq_card (s := kinds.toFinset) (m := keys)
    fun k hk => List.mem_toFinset.mpr (hmem k hk)
  rw [List.sum_toFinset _ h] at hcard
  simpa using hcard

/-! ## libraries -/

/-- What is asked of a library of graphs of numbers: indices are given out one after
the other from zero, weights and edges are kept, and of the edges that go one way
from a node the one added last is listed first. -/
structure Multigraphs.Lawful {γ : Type} (lib : Multigraphs γ) : Prop where
  indices_empty : lib.indices lib.empty = []
  arcsAt_empty (d : Direction) (i : Nat) : lib.arcsAt lib.empty d i = []
  index_addNode (m : γ) (weight : Nat) : (lib.addNode m weight).1 = (lib.indices m).length
  indices_addNode (m : γ) (weight : Nat) :
    lib.indices (lib.addNode m weight).2 = lib.indices m ++ [(lib.addNode m weight).1]
  weight?_addNode (m : γ) (weight i : Nat) : lib.weight? (lib.addNode m weight).2 i =
    if i = (lib.addNode m weight).1 then some weight else lib.weight? m i
  arcsAt_addNode (m : γ) (weight : Nat) (d : Direction) (i : Nat) :
    lib.arcsAt (lib.addNode m weight).2 d i = lib.arcsAt m d i
  indices_addArc (m : γ) (arc : Arc) (ends : ∀ d, arc.near d ∈ lib.indices m) :
    lib.indices (lib.addArc m arc) = lib.indices m
  weight?_addArc (m : γ) (arc : Arc) (ends : ∀ d, arc.near d ∈ lib.indices m) (i : Nat) :
    lib.weight? (lib.addArc m arc) i = lib.weight? m i
  arcsAt_addArc (m : γ) (arc : Arc) (ends : ∀ d, arc.near d ∈ lib.indices m) (d : Direction)
    (i : Nat) : lib.arcsAt (lib.addArc m arc) d i =
      if arc.near d = i then arc :: lib.arcsAt m d i else lib.arcsAt m d i

theorem Multigraphs.lawful_latestFirst : latestFirst.Lawful where
  indices_empty := rfl
  arcsAt_empty _ _ := rfl
  index_addNode m _ := List.length_range.symm
  indices_addNode m weight := by simp [latestFirst, List.range_succ]
  weight?_addNode m weight i := by
    simp only [latestFirst, List.getElem?_append]
    grind
  arcsAt_addNode _ _ _ _ := rfl
  indices_addArc _ _ _ := rfl
  weight?_addArc _ _ _ _ := rfl
  arcsAt_addArc m arc _ d i := by
    simp only [latestFirst, List.filter_cons]
    grind

namespace Graph

variable {γ : Type} {lib : Multigraphs γ} {g : Graph} {m : γ} {indexOf : List (NodeId × Nat)}

/-! ## nodes -/

/-- The nodes of a list have their places for indices and for weights. -/
structure Placed (lib : Multigraphs γ) (nodes : List Node) (m : γ)
    (indexOf : List (NodeId × Nat)) : Prop where
  indices : lib.indices m = List.range nodes.length
  weight (i : Nat) (h : i < nodes.length) : lib.weight? m i = some i
  lookup (id : NodeId) (i : Nat) :
    indexOf.lookup id = some i ↔ (nodes.map Node.id)[i]? = some id

theorem Placed.placeNode (hlib : lib.Lawful) {nodes : List Node} (h : Placed lib nodes m indexOf)
    {node : Node} (hnew : node.id ∉ nodes.map Node.id) :
    let placed := placeNode lib (m, indexOf) (node, nodes.length)
    Placed lib (nodes ++ [node]) placed.1 placed.2 := by
  have hindex : (lib.addNode m nodes.length).1 = nodes.length := by
    rw [hlib.index_addNode, h.indices, List.length_range]
  exact {
    indices := by
      rw [List.length_append, List.length_singleton, List.range_succ, ← h.indices]
      exact (hlib.indices_addNode m _).trans (by rw [hindex])
    weight := fun i hi => by
      refine (hlib.weight?_addNode m _ i).trans ?_
      rw [hindex]
      split
      · next heq => rw [heq]
      · next hne =>
        rw [List.length_append, List.length_singleton] at hi
        exact h.weight i (by omega)
    lookup := fun id i => by
      have hbefore : (nodes.map Node.id)[i]? = some id → i < nodes.length ∧ id ≠ node.id := by
        intro hi
        have hlt := (List.getElem?_eq_some_iff.mp hi).1
        rw [List.length_map] at hlt
        exact ⟨hlt, fun heq => hnew (heq ▸ List.mem_of_getElem? hi)⟩
      have hplace := h.lookup id i
      rw [List.map_append, List.map_singleton, List.getElem?_append, List.length_map,
        List.getElem?_singleton]
      simp only [Graph.placeNode, hindex, List.lookup_cons]
      grind }

/-- Nodes that are placed one after the other have their places, and no arcs yet. -/
theorem Placed.foldl (hlib : lib.Lawful) {before rest : List Node}
    (h : Placed lib before m indexOf) (harcs : ∀ d i, lib.arcsAt m d i = [])
    (hnodup : ((before ++ rest).map Node.id).Nodup) :
    let placed := (rest.zipIdx before.length).foldl (Graph.placeNode lib) (m, indexOf)
    Placed lib (before ++ rest) placed.1 placed.2 ∧ ∀ d i, lib.arcsAt placed.1 d i = [] := by
  induction rest generalizing before m indexOf with
  | nil =>
      rw [List.append_nil]
      exact ⟨h, harcs⟩
  | cons node rest ih =>
      rw [List.zipIdx_cons, List.foldl_cons]
      have hnew : node.id ∉ before.map Node.id := by
        rw [List.map_append, List.nodup_append] at hnodup
        exact fun hmem => hnodup.2.2 _ hmem _ (List.mem_map_of_mem List.mem_cons_self) rfl
      have hnext := h.placeNode hlib hnew
      have hall := ih hnext (fun d i => (hlib.arcsAt_addNode m _ d i).trans (harcs d i))
        (by rwa [List.append_assoc, List.singleton_append])
      rwa [List.length_append, List.length_singleton, List.append_assoc,
        List.singleton_append] at hall

/-! ## edges -/

/-- An arc stands for an edge: its ends are the places of the edge's ends, and its
weight is the place of the edge. -/
structure StandsFor (g : Graph) (arc : Arc) (e : Edge) : Prop where
  ends (d : Direction) : (g.nodes.map Node.id)[arc.near d]? = some (e.near d)
  weight : g.edges[arc.weight]? = some e

/-- The arcs at the place of a node stand for the edges at it, the last of them first. -/
def Joined (lib : Multigraphs γ) (g : Graph) (edges : List Edge) (m : γ) : Prop :=
  ∀ d i id, (g.nodes.map Node.id)[i]? = some id →
    List.Forall₂ g.StandsFor (lib.arcsAt m d i) (edges.reverse.filter fun e => e.near d = id)

/-- An edge between nodes that have places is placed between them. -/
theorem Placed.placeEdge (hlib : lib.Lawful) (h : Placed lib g.nodes m indexOf)
    (hg : g.WellFormed) {edges : List Edge} {e : Edge} (hedge : g.edges[edges.length]? = some e)
    (hjoined : Joined lib g edges m) :
    let next := Graph.placeEdge lib indexOf m (e, edges.length)
    Placed lib g.nodes next indexOf ∧ Joined lib g (edges ++ [e]) next := by
  have hmem := List.mem_of_getElem? hedge
  obtain ⟨source, hsource⟩ := List.mem_iff_getElem?.mp (hg.source_mem e hmem)
  obtain ⟨target, htarget⟩ := List.mem_iff_getElem?.mp (hg.target_mem e hmem)
  let arc : Arc := ⟨source, target, edges.length⟩
  have hnext : Graph.placeEdge lib indexOf m (e, edges.length) = lib.addArc m arc := by
    rw [Graph.placeEdge, (h.lookup _ _).mpr hsource, (h.lookup _ _).mpr htarget]
  have hstands : g.StandsFor arc e := ⟨fun d => by cases d <;> assumption, hedge⟩
  have hends : ∀ d, arc.near d ∈ lib.indices m := fun d => by
    have hlt := (List.getElem?_eq_some_iff.mp (hstands.ends d)).1
    rw [List.length_map] at hlt
    rw [h.indices]
    exact List.mem_range.mpr hlt
  simp only [hnext]
  refine ⟨⟨?_, fun i hi => ?_, h.lookup⟩, fun d i id hi => ?_⟩
  · rw [hlib.indices_addArc m arc hends, h.indices]
  · rw [hlib.weight?_addArc m arc hends, h.weight i hi]
  · -- an index and an id stand at one place, so the arc is listed where the edge is
    have hplace : arc.near d = i ↔ e.near d = id := by
      have hlt := (List.getElem?_eq_some_iff.mp hi).1
      rw [eq_comm, ← List.getElem?_inj hlt hg.nodup_nodes, hi, hstands.ends d, Option.some.injEq,
        eq_comm]
    rw [hlib.arcsAt_addArc m arc hends, List.reverse_append, List.reverse_singleton,
      List.singleton_append]
    by_cases heq : e.near d = id
    · rw [if_pos (hplace.mpr heq), List.filter_cons_of_pos (by simpa using heq)]
      exact .cons hstands (hjoined d i id hi)
    · rw [if_neg (hplace.not.mpr heq), List.filter_cons_of_neg (by simpa using heq)]
      exact hjoined d i id hi

/-- Edges that are placed one after the other are all joined. -/
theorem Placed.joined_foldl (hlib : lib.Lawful) (h : Placed lib g.nodes m indexOf)
    (hg : g.WellFormed) {before rest : List Edge} (hedges : g.edges = before ++ rest)
    (hjoined : Joined lib g before m) :
    let all := (rest.zipIdx before.length).foldl (Graph.placeEdge lib indexOf) m
    Placed lib g.nodes all indexOf ∧ Joined lib g g.edges all := by
  induction rest generalizing before m with
  | nil =>
      rw [hedges, List.append_nil]
      exact ⟨h, hjoined⟩
  | cons e rest ih =>
      rw [List.zipIdx_cons, List.foldl_cons]
      have hedge : g.edges[before.length]? = some e := by
        rw [hedges, List.getElem?_append_right (Nat.le_refl _), Nat.sub_self]
        rfl
      obtain ⟨hplaced, hnext⟩ := h.placeEdge hlib hg hedge hjoined
      have hall := ih hplaced (by rw [hedges, List.append_assoc, List.singleton_append]) hnext
      rwa [List.length_append, List.length_singleton] at hall

/-- **The graph of places** of a well-formed graph has its nodes and its edges. -/
theorem placed_topology (hlib : lib.Lawful) (hg : g.WellFormed) :
    Placed lib g.nodes (g.topology lib).1 (g.topology lib).2 ∧
      Joined lib g g.edges (g.topology lib).1 := by
  have hempty : Placed lib [] lib.empty [] := ⟨hlib.indices_empty, nofun, by simp⟩
  obtain ⟨hplaced, harcs⟩ := hempty.foldl hlib hlib.arcsAt_empty hg.nodup_nodes
  refine hplaced.joined_foldl hlib hg (List.nil_append _).symm fun d i id _ => ?_
  rw [harcs]
  exact .nil

/-! ## neighbours -/

theorem WellFormed.near_mem (hg : g.WellFormed) (d : Direction) {e : Edge} (he : e ∈ g.edges) :
    e.near d ∈ g.nodes.map Node.id := by
  cases d with
  | outgoing => exact hg.source_mem e he
  | incoming => exact hg.target_mem e he

/-- What is found for an edge: the node at its other end. -/
def FoundAt (g : Graph) (d : Direction) (found : Node × Edge) (e : Edge) : Prop :=
  found.2 = e ∧ found.1 ∈ g.nodes ∧ found.1.id = e.near d

/-- **The neighbours of a node** are those at the other ends of its edges, the last edge first. -/
theorem forall₂_neighbours (hlib : lib.Lawful) (hg : g.WellFormed) (d : Direction) (id : NodeId) :
    List.Forall₂ (g.FoundAt d.opposite) (g.neighbours lib d id)
      (g.edges.reverse.filter fun e => e.near d = id) := by
  obtain ⟨hplaced, hjoined⟩ := placed_topology hlib hg
  simp only [neighbours]
  generalize (g.topology lib).1 = m at *
  generalize (g.topology lib).2 = indexOf at *
  cases hlookup : indexOf.lookup id with
  | none =>
      have hnone : ∀ e ∈ g.edges.reverse, ¬decide (e.near d = id) = true := by
        intro e he hnear
        have hmem := hg.near_mem d (List.mem_reverse.mp he)
        rw [of_decide_eq_true hnear] at hmem
        obtain ⟨i, hi⟩ := List.mem_iff_getElem?.mp hmem
        exact nomatch hlookup.symm.trans ((hplaced.lookup id i).mpr hi)
      rw [List.filter_eq_nil_iff.mpr hnone]
      exact .nil
  | some i =>
      refine forall₂_filterMap (fun arc e hstands => ?_)
        (hjoined d i id ((hplaced.lookup id i).mp hlookup))
      have hfar := hstands.ends d.opposite
      rw [List.getElem?_map] at hfar
      obtain ⟨node, hnode, hid⟩ := Option.map_eq_some_iff.mp hfar
      have hweight := hplaced.weight _ (List.getElem?_eq_some_iff.mp hnode).1
      refine ⟨(node, e), ?_, rfl, List.mem_of_getElem? hnode, hid⟩
      simp [hweight, hnode, hstands.weight]

variable {d : Direction} {id : NodeId} {n : Node} {e : Edge}

theorem mem_neighbours_iff (hlib : lib.Lawful) (hg : g.WellFormed) :
    (n, e) ∈ g.neighbours lib d id ↔
      e ∈ g.edges ∧ e.near d = id ∧ n ∈ g.nodes ∧ n.id = e.near d.opposite := by
  have hall := forall₂_neighbours hlib hg d id
  constructor
  · intro hmem
    obtain ⟨own, hown, rfl, hn, hid⟩ := exists_mem_of_forall₂ hall hmem
    obtain ⟨hedge, hnear⟩ := List.mem_filter.mp hown
    exact ⟨List.mem_reverse.mp hedge, of_decide_eq_true hnear, hn, hid⟩
  · rintro ⟨hedge, hnear, hn, hid⟩
    have hown : e ∈ g.edges.reverse.filter fun e => e.near d = id :=
      List.mem_filter.mpr ⟨List.mem_reverse.mpr hedge, decide_eq_true hnear⟩
    obtain ⟨⟨m, own⟩, hfound, rfl, hm, hmid⟩ := exists_mem_of_forall₂ hall.flip hown
    rwa [List.inj_on_of_nodup_map hg.nodup_nodes hn hm (hid.trans hmid.symm)]

/-- An id that is not in the graph has no neighbours. -/
theorem neighbours_eq_nil (hlib : lib.Lawful) (hg : g.WellFormed) (h : id ∉ g.nodes.map Node.id) :
    g.neighbours lib d id = [] := by
  refine List.eq_nil_iff_forall_not_mem.mpr fun found hfound => ?_
  obtain ⟨hedge, rfl, -⟩ := (mem_neighbours_iff hlib hg).mp hfound
  exact h (hg.near_mem d hedge)

/-- One way and the other a node is found by the same edge. -/
theorem mem_neighbours_opposite (hlib : lib.Lawful) (hg : g.WellFormed) {a b : Node}
    (ha : a ∈ g.nodes) (hb : b ∈ g.nodes) :
    (b, e) ∈ g.neighbours lib d a.id ↔ (a, e) ∈ g.neighbours lib d.opposite b.id := by
  have hback : d.opposite.opposite = d := by cases d <;> rfl
  rw [mem_neighbours_iff hlib hg, mem_neighbours_iff hlib hg, hback]
  constructor
  · rintro ⟨hedge, hnear, -, hfar⟩
    exact ⟨hedge, hfar.symm, ha, hnear.symm⟩
  · rintro ⟨hedge, hfar, -, hnear⟩
    exact ⟨hedge, hnear.symm, hb, hfar.symm⟩

theorem length_neighbours (hlib : lib.Lawful) (hg : g.WellFormed) (d : Direction) (id : NodeId) :
    (g.neighbours lib d id).length = (g.edges.map fun e => e.near d).count id := by
  rw [(forall₂_neighbours hlib hg d id).length_eq, ← List.countP_eq_length_filter,
    List.countP_reverse, List.count_eq_countP, List.countP_map]
  rfl

/-- All neighbours of all nodes are as many as the edges. -/
theorem sum_length_neighbours (hlib : lib.Lawful) (hg : g.WellFormed) (d : Direction) :
    (g.nodes.map fun n => (g.neighbours lib d n.id).length).sum = g.edges.length := by
  have hmem : ∀ id ∈ g.edges.map fun e => e.near d, id ∈ g.nodes.map Node.id := by
    intro id hid
    obtain ⟨e, he, rfl⟩ := List.mem_map.mp hid
    exact hg.near_mem d he
  have hsum := sum_count_of_nodup hg.nodup_nodes hmem
  rw [List.map_map, List.length_map] at hsum
  simp only [length_neighbours hlib hg]
  exact hsum

/-- **A graph begins and ends** with the nodes without neighbours one way. -/
theorem nodesWithout_eq (hlib : lib.Lawful) (hg : g.WellFormed) (d : Direction) :
    g.nodesWithout lib d = g.nodes.filter fun n => (g.neighbours lib d n.id).isEmpty := by
  obtain ⟨hplaced, hjoined⟩ := placed_topology hlib hg
  simp only [nodesWithout]
  generalize (g.topology lib).1 = m at *
  rw [hplaced.indices]
  have hnodes : ∀ i ∈ (List.range g.nodes.length).filter fun i => (lib.arcsAt m d i).isEmpty,
      ((lib.weight? m i).bind fun place => g.nodes[place]?) = g.nodes[i]? := by
    intro i hi
    rw [hplaced.weight i (List.mem_range.mp (List.mem_filter.mp hi).1)]
    rfl
  refine (List.filterMap_congr hnodes).trans (filterMap_filter_range fun i n hn => ?_)
  have hid : (g.nodes.map Node.id)[i]? = some n.id := by rw [List.getElem?_map, hn]; rfl
  have hlength := (hjoined d i n.id hid).length_eq
  rw [← (forall₂_neighbours hlib hg d n.id).length_eq] at hlength
  rw [Bool.eq_iff_iff, List.isEmpty_iff_length_eq_zero, List.isEmpty_iff_length_eq_zero, hlength]

end Graph

/-! ## runs -/

/-- **The neighbours in every graph** that a run leads to.  Of the successors of a node
there is one for every edge that leaves it, with the last edge first: the node that
the edge leads to, with the edge; and likewise of its predecessors.  An id that is not
in the graph has none.  The graph begins with the nodes without predecessors and ends
with those without successors, in the order of the nodes.  So a node is a successor of
another by an edge exactly if that one is a predecessor of it by the edge, and the
successors of all nodes are as many as the edges, as are the predecessors. -/
theorem Store.neighbours_of_run {γ : Type} {lib : Multigraphs γ} (hlib : lib.Lawful)
    (edits : List Edit) :
    let g := (new.run edits).graph
    let successors := g.neighbours lib .outgoing
    let predecessors := g.neighbours lib .incoming
    (∀ id, List.Forall₂ (fun found e => found.2 = e ∧ found.1 ∈ g.nodes ∧ found.1.id = e.target)
      (successors id) (g.edges.reverse.filter fun e => e.source = id)) ∧
    (∀ id, List.Forall₂ (fun found e => found.2 = e ∧ found.1 ∈ g.nodes ∧ found.1.id = e.source)
      (predecessors id) (g.edges.reverse.filter fun e => e.target = id)) ∧
    (∀ id, id ∉ g.nodes.map Node.id → successors id = [] ∧ predecessors id = []) ∧
    g.nodesWithout lib .incoming = g.nodes.filter (fun n => (predecessors n.id).isEmpty) ∧
    g.nodesWithout lib .outgoing = g.nodes.filter (fun n => (successors n.id).isEmpty) ∧
    (∀ a ∈ g.nodes, ∀ b ∈ g.nodes, ∀ e,
      (b, e) ∈ successors a.id ↔ (a, e) ∈ predecessors b.id) ∧
    (g.nodes.map fun n => (successors n.id).length).sum = g.edges.length ∧
    (g.nodes.map fun n => (predecessors n.id).length).sum = g.edges.length := by
  intro g successors predecessors
  have hg : g.WellFormed := wellFormed_run wellFormed_new edits
  exact ⟨Graph.forall₂_neighbours hlib hg .outgoing, Graph.forall₂_neighbours hlib hg .incoming,
    fun id hid => ⟨Graph.neighbours_eq_nil hlib hg hid, Graph.neighbours_eq_nil hlib hg hid⟩,
    Graph.nodesWithout_eq hlib hg .incoming, Graph.nodesWithout_eq hlib hg .outgoing,
    fun a ha b hb e => Graph.mem_neighbours_opposite hlib hg ha hb,
    Graph.sum_length_neighbours hlib hg .outgoing, Graph.sum_length_neighbours hlib hg .incoming⟩

/-- Two parallel edges with a loop between them, one edge on, and a node apart, in the
library that the editor uses. -/
theorem Store.neighbours_of_run_parallel :
    let edge (id source target : String) : Edge :=
      ⟨⟨id⟩, ⟨source⟩, none, ⟨target⟩, none, .simple, []⟩
    let node (id : String) : Edit := .addNode (.new ⟨id⟩ "agent" .origin)
    let g := (new.run [node "a", node "b", node "c", node "d",
      .addEdges [edge "0" "a" "b", edge "1" "a" "a", edge "2" "a" "b", edge "3" "b" "c"]]).graph
    let shown (found : List (Node × Edge)) := found.map fun f => (f.1.id.text, f.2.id.text)
    Multigraphs.latestFirst.Lawful ∧
      shown (g.successors ⟨"a"⟩) = [("b", "2"), ("a", "1"), ("b", "0")] ∧
      shown (g.predecessors ⟨"b"⟩) = [("a", "2"), ("a", "0")] ∧
      g.entryNodes.map (·.id.text) = ["d"] ∧ g.terminalNodes.map (·.id.text) = ["c", "d"] ∧
      (∀ a ∈ g.nodes, ∀ b ∈ g.nodes, ∀ e,
        (b, e) ∈ g.successors a.id ↔ (a, e) ∈ g.predecessors b.id) ∧
      (g.nodes.map fun n => (g.successors n.id).length).sum = g.edges.length := by
  intro edge node g shown
  have hlib := Multigraphs.lawful_latestFirst
  obtain ⟨-, -, -, -, -, hopposite, hsum, -⟩ := neighbours_of_run hlib [node "a", node "b",
    node "c", node "d",
    .addEdges [edge "0" "a" "b", edge "1" "a" "a", edge "2" "a" "b", edge "3" "b" "c"]]
  exact ⟨hlib, by decide +kernel, by decide +kernel, by decide +kernel, by decide +kernel,
    hopposite, hsum⟩

end WorkflowEditor
