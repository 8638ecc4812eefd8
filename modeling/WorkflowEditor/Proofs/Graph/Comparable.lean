import WorkflowEditor.Proofs.Connection
import WorkflowEditor.Proofs.Graph.Each
import WorkflowEditor.Proofs.Graph.WellFormed
import WorkflowEditor.Proofs.Json.WellFormed

/-!
# WorkflowEditor.Proofs.Graph.Comparable

Graphs that can be compared.  A NaN is the same number as nothing, so a graph
with a NaN in it does not even equal itself; any other graph does.

* `Graph.same_self` — a graph without a NaN equals itself;
* `sameNodes_iff`, `sameEdges_iff` — graphs are equal item by item, so equal
  graphs are both well-formed or neither is (`WellFormed.of_same`);
* `Edit.Comparable.brings` — edits without a NaN bring none.
-/

namespace WorkflowEditor

/-! ## nodes and edges -/

/-- Neither coordinate is a NaN. -/
structure Position.IsNumber (p : Position) : Prop where
  x : p.x.isNaN = false
  y : p.y.isNaN = false

/-- A node without a NaN, in its position or in its data. -/
structure Node.Comparable (n : Node) : Prop where
  position : n.position.IsNumber
  data : n.data.WellFormed
  extra : n.extra.WellFormed

/-- An edge without a NaN among the members that are not known. -/
def Edge.Comparable (e : Edge) : Prop := e.extra.WellFormed

/-- A graph without a NaN. -/
abbrev Graph.Comparable (g : Graph) : Prop := g.Each Node.Comparable Edge.Comparable

theorem Double.same_self_of_isNaN {d : Double} (h : d.isNaN = false) : d.same d = true := by
  simp [same, h]

theorem Double.isNaN_of_isFinite {d : Double} (h : d.isFinite = true) : d.isNaN = false := by
  rw [isFinite, bne_iff_ne] at h
  simp [isNaN, h]

theorem Position.IsNumber.same_self {p : Position} (h : p.IsNumber) : p.same p = true := by
  rw [same, Double.same_self_of_isNaN h.x, Double.same_self_of_isNaN h.y]
  rfl

theorem Node.Comparable.same_self {n : Node} (h : n.Comparable) : n.same n = true := by
  simp [same, h.position.same_self, h.data.same_self, h.extra.same_self]

theorem Edge.Comparable.same_self {e : Edge} (h : e.Comparable) : e.same e = true := by
  have hextra := Fields.WellFormed.same_self h
  simp [same, hextra]

theorem Node.id_of_same (a b : Node) (h : a.same b = true) : a.id = b.id := by
  simp only [same, Bool.and_eq_true, beq_iff_eq] at h
  exact h.1.1.1.1

/-- What makes edges of a graph well-formed. -/
def Edge.ends (e : Edge) : EdgeId × NodeId × NodeId := (e.id, e.source, e.target)

theorem Edge.ends_of_same (a b : Edge) (h : a.same b = true) : a.ends = b.ends := by
  simp only [same, Bool.and_eq_true, beq_iff_eq] at h
  obtain ⟨⟨⟨⟨⟨⟨hid, hsource⟩, -⟩, htarget⟩, -⟩, -⟩, -⟩ := h
  rw [ends, ends, hid, hsource, htarget]

namespace Graph

/-! ## equality -/

theorem sameNodes_iff {as bs : List Node} :
    sameNodes as bs = true ↔ List.Forall₂ (fun a b => a.same b = true) as bs := by
  induction as generalizing bs with
  | nil => cases bs <;> simp [sameNodes]
  | cons a rest ih => cases bs <;> simp [sameNodes, ih]

theorem sameEdges_iff {as bs : List Edge} :
    sameEdges as bs = true ↔ List.Forall₂ (fun a b => a.same b = true) as bs := by
  induction as generalizing bs with
  | nil => cases bs <;> simp [sameEdges]
  | cons a rest ih => cases bs <;> simp [sameEdges, ih]

theorem same_iff {g h : Graph} : g.same h = true ↔
    List.Forall₂ (fun a b => a.same b = true) g.nodes h.nodes ∧
      List.Forall₂ (fun a b => a.same b = true) g.edges h.edges := by
  rw [same, Bool.and_eq_true, sameNodes_iff, sameEdges_iff]

/-- A graph without a NaN equals itself. -/
theorem same_self {g : Graph} (h : g.Comparable) : g.same g = true := by
  rw [same_iff, List.forall₂_same, List.forall₂_same]
  exact ⟨fun n hn => (h.nodes n hn).same_self, fun e he => (h.edges e he).same_self⟩

/-- Whether a graph is well-formed depends on the ids of its nodes and the ends
of its edges only. -/
theorem WellFormed.congr {g h : Graph} (hh : h.WellFormed)
    (hnodes : g.nodes.map Node.id = h.nodes.map Node.id)
    (hedges : g.edges.map Edge.ends = h.edges.map Edge.ends) : g.WellFormed := by
  have hids : g.edges.map Edge.id = h.edges.map Edge.id := by
    have hfst := congrArg (List.map Prod.fst) hedges
    rw [List.map_map, List.map_map] at hfst
    exact hfst
  have hends : ∀ e ∈ g.edges, e.source ∈ g.nodes.map Node.id ∧ e.target ∈ g.nodes.map Node.id := by
    intro e he
    have hmem := List.mem_map_of_mem (f := Edge.ends) he
    rw [hedges] at hmem
    obtain ⟨e', he', heq⟩ := List.mem_map.mp hmem
    simp only [Edge.ends, Prod.mk.injEq] at heq
    rw [hnodes, ← heq.2.1, ← heq.2.2]
    exact ⟨hh.source_mem e' he', hh.target_mem e' he'⟩
  exact {
    nodup_nodes := hnodes ▸ hh.nodup_nodes
    nodup_edges := hids ▸ hh.nodup_edges
    source_mem := fun e he => (hends e he).1
    target_mem := fun e he => (hends e he).2 }

/-- What equals a well-formed graph is well-formed. -/
theorem WellFormed.of_same {g h : Graph} (hh : h.WellFormed) (hsame : g.same h = true) :
    g.WellFormed := by
  obtain ⟨hnodes, hedges⟩ := same_iff.mp hsame
  exact hh.congr (map_eq_of_forall₂ Node.id_of_same hnodes)
    (map_eq_of_forall₂ Edge.ends_of_same hedges)

end Graph

/-! ## edits -/

theorem Node.comparable_new (id : NodeId) (typeId : String) {place : Position}
    (h : place.IsNumber) : (Node.new id typeId place).Comparable :=
  ⟨h, Fields.wellFormed_nil, Fields.wellFormed_nil⟩

theorem Node.Comparable.withCategory {node : Node} (h : node.Comparable) (category : String) :
    (node.withCategory category).Comparable :=
  ⟨h.position, h.data.insert categoryKey (.str category), h.extra⟩

theorem Kind.wellFormed_defaultData (kind : Kind) : kind.defaultData.WellFormed := by
  refine Fields.wellFormed_ofPairs ?_
  have hheaders : (Json.object [("Content-Type", .str "application/json")]).WellFormed :=
    Json.wellFormed_object (by simp [Json.WellFormed.str])
  cases kind <;> simp [defaultPairs, Json.WellFormed.str, hheaders]

/-- The defaults that a node lacks are well-formed. -/
theorem Graph.wellFormed_missingDefaults (node : Node) :
    ∀ f ∈ missingDefaults node, f.2.WellFormed := by
  rw [missingDefaults]
  split
  · exact fun f hf => (List.not_mem_nil hf).elim
  · next kind _ => exact fun f hf => kind.wellFormed_defaultData.each f (List.mem_filter.mp hf).1

/-- The node that a drop makes is where it was dropped. -/
theorem Registry.comparable_dropped? {registry : Registry} {payload : DragPayload}
    {place : Position} {stamp : Stamp} {node : Node} (hplace : place.IsNumber)
    (h : registry.dropped? payload place stamp = some node) : node.Comparable := by
  obtain ⟨d, -, rfl⟩ := Option.map_eq_some_iff.mp h
  exact (Node.comparable_new _ _ hplace).withCategory _

namespace Edit

/-- No NaN comes with the edit. -/
def Comparable : Edit → Prop
  | addNode node => node.Comparable
  | addEdges edges => ∀ e ∈ edges, e.Comparable
  | updateData _ overlay => overlay.WellFormed
  | moveNode _ position => position.IsNumber
  | replace nodes edges => Graph.Comparable ⟨nodes, edges⟩
  | drop _ _ point toCanvas _ => (toCanvas point).IsNumber
  | removeNode _ | removeEdge _ | removeEdgesAt _ | fillDefaults _ | reset | connect _ _ _ => True

open WorkflowEditor.Graph

/-- **An edit without a NaN brings none.** -/
theorem Comparable.brings {edit : Edit} (h : edit.Comparable) :
    edit.Brings Node.Comparable Edge.Comparable := by
  cases edit with
  | addNode | addEdges | replace => exact h
  | updateData => exact fun n hn => ⟨hn.position, hn.data.extend h.each, hn.extra⟩
  | moveNode => exact fun n hn => ⟨h, hn.data, hn.extra⟩
  | fillDefaults =>
      exact fun n node hn =>
        ⟨hn.position, hn.data.extend (wellFormed_missingDefaults node), hn.extra⟩
  | connect =>
      intro g edges planned e he
      rw [Edge.Comparable, Registry.extra_of_mem_plan planned e he]
      exact Fields.wellFormed_nil
  | drop => exact fun node made => Registry.comparable_dropped? h made
  | removeNode | removeEdge | removeEdgesAt | reset => trivial

end Edit

end WorkflowEditor
