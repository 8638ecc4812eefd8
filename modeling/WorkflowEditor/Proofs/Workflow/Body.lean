import Mathlib.Data.List.Nodup
import WorkflowEditor.Proofs.Graph.WellFormed
import WorkflowEditor.Proofs.Workflow.Each
import WorkflowEditor.Proofs.Workflow.RoundTrip

/-!
# WorkflowEditor.Proofs.Workflow.Body

The graph that the body of a document lists.  Members that are not known are
written over the fields, so a body lists the graph of its document as long as
none of them has the name of an id, of an end of an edge or of one of the two
lists; any other name does no harm.

* `Json.ListsGraph` — a body lists a well-formed graph;
* `Payload.listsGraph_toJson` — the body of a plain payload does if the payload does;
* `Reply.brings_plain` — what is read of a reply is plain.
-/

namespace WorkflowEditor

/-! ## graphs in JSON -/

/-- Nodes and edges, as they are listed in a body, make up a well-formed graph. -/
structure Json.MakeGraph (nodes edges : List Json) : Prop where
  nodes_named : ∀ v ∈ nodes, (v.text? "id").isSome = true
  edges_named : ∀ v ∈ edges, (v.text? "id").isSome = true
  nodup_nodes : (nodes.map fun v => v.text? "id").Nodup
  nodup_edges : (edges.map fun v => v.text? "id").Nodup
  source_mem : ∀ v ∈ edges, v.text? "source" ∈ nodes.map fun n => n.text? "id"
  target_mem : ∀ v ∈ edges, v.text? "target" ∈ nodes.map fun n => n.text? "id"

/-- A body lists nodes and edges that make up a well-formed graph. -/
def Json.ListsGraph (body : Json) : Prop :=
  ∃ nodes edges, body.get? "nodes" = some (.arr nodes) ∧ body.get? "edges" = some (.arr edges) ∧
    MakeGraph nodes edges

/-- The nodes and edges that a payload carries make up a well-formed graph. -/
def Payload.ListsGraph (p : Payload) : Prop :=
  ∃ g : Graph, g.WellFormed ∧ p.nodes = some g.nodes ∧ p.edges = some g.edges

/-! ## members that write over no id and no end -/

/-- None of the members has one of the names. -/
def Fields.Lacks (names : List String) (fields : Fields) : Prop :=
  ∀ key ∈ names, fields.get? key = none

/-- No member writes over the id of the node. -/
def Node.IsPlain (node : Node) : Prop := Fields.Lacks ["id"] node.extra

/-- No member writes over the id of the edge or over one of its ends. -/
def Edge.IsPlain (edge : Edge) : Prop := Fields.Lacks ["id", "source", "target"] edge.extra

/-- No member writes over the graph, nor over an id or an end in it. -/
abbrev Payload.IsPlain (p : Payload) : Prop :=
  p.Each Node.IsPlain Edge.IsPlain (Fields.Lacks ["nodes", "edges"])

/-- No member of the document will write over its graph, nor over an id or an end in it. -/
abbrev Workflow.IsPlain (w : Workflow) : Prop :=
  w.Each Node.IsPlain Edge.IsPlain (Fields.Lacks ["nodes", "edges"])

theorem Fields.lacks_nil (names : List String) : Lacks names [] := fun _ _ => rfl

theorem Fields.Lacks.without {names : List String} {fields : Fields} (h : Lacks names fields)
    (others : List String) : Lacks names (fields.without others) := by
  intro key hkey
  rw [get?_without, h key hkey, ite_self]

/-- Members that have been read have no name of a field. -/
theorem Fields.lacks_without {names fieldNames : List String} (h : names ⊆ fieldNames)
    (fields : Fields) : Lacks names (fields.without fieldNames) := by
  intro key hkey
  rw [get?_without, if_pos (h hkey)]

theorem Fields.merges_lacks (names : List String) : Merges (Lacks names) where
  nil := lacks_nil names
  extend := fun hbase hoverlay key hkey => by
    rw [get?_extend_of_get?_eq_none _ (hoverlay key hkey), hbase key hkey]

/-! ## written -/

/-- What is written under a name that no other member has. -/
theorem Json.text?_extend {pairs extra : Fields} {key : String} (h : extra.get? key = none) :
    (Json.obj ((Fields.ofPairs pairs).extend extra)).text? key =
      (Fields.get? pairs.reverse key).bind Json.string? := by
  rw [text?, get?, Fields.get?_extend_of_get?_eq_none _ h, Fields.get?_ofPairs]

/-- A member that is not known is written over the field of its name. -/
theorem Json.text?_extend_of_get? {pairs extra : Fields} (h : extra.Ascending) {key text : String}
    (hget : extra.get? key = some (.str text)) :
    (Json.obj ((Fields.ofPairs pairs).extend extra)).text? key = some text := by
  rw [text?, get?, Fields.get?_extend_of_ascending _ h, hget, Option.some_or]
  rfl

theorem Node.IsPlain.text?_id {node : Node} (h : node.IsPlain) :
    node.toJson.text? "id" = some node.id.text :=
  Json.text?_extend (h "id" (by simp))

theorem Edge.IsPlain.text?_id {edge : Edge} (h : edge.IsPlain) :
    edge.toJson.text? "id" = some edge.id.text :=
  Json.text?_extend (h "id" (by simp))

theorem Edge.IsPlain.text?_source {edge : Edge} (h : edge.IsPlain) :
    edge.toJson.text? "source" = some edge.source.text :=
  Json.text?_extend (h "source" (by simp))

theorem Edge.IsPlain.text?_target {edge : Edge} (h : edge.IsPlain) :
    edge.toJson.text? "target" = some edge.target.text :=
  Json.text?_extend (h "target" (by simp))

/-- A well-formed graph is written as one. -/
theorem Graph.WellFormed.makeGraph {g : Graph} (h : g.WellFormed)
    (hplain : g.Each Node.IsPlain Edge.IsPlain) :
    Json.MakeGraph (g.nodes.map Node.toJson) (g.edges.map Edge.toJson) := by
  -- the texts that are listed are those of the ids, and no two ids have one text
  have hnodes : (g.nodes.map Node.toJson).map (fun v => v.text? "id") =
      (g.nodes.map Node.id).map fun id => some id.text := by
    rw [List.map_map, List.map_map]
    exact List.map_congr_left fun n hn => (hplain.nodes n hn).text?_id
  have hedges : (g.edges.map Edge.toJson).map (fun v => v.text? "id") =
      (g.edges.map Edge.id).map fun id => some id.text := by
    rw [List.map_map, List.map_map]
    exact List.map_congr_left fun e he => (hplain.edges e he).text?_id
  constructor
  · intro v hv
    obtain ⟨n, hn, rfl⟩ := List.mem_map.mp hv
    rw [(hplain.nodes n hn).text?_id, Option.isSome_some]
  · intro v hv
    obtain ⟨e, he, rfl⟩ := List.mem_map.mp hv
    rw [(hplain.edges e he).text?_id, Option.isSome_some]
  · rw [hnodes]
    exact List.Nodup.map Id.text_injective h.nodup_nodes
  · rw [hedges]
    exact List.Nodup.map Id.text_injective h.nodup_edges
  · intro v hv
    obtain ⟨e, he, rfl⟩ := List.mem_map.mp hv
    rw [hnodes, (hplain.edges e he).text?_source]
    exact List.mem_map_of_mem (h.source_mem e he)
  · intro v hv
    obtain ⟨e, he, rfl⟩ := List.mem_map.mp hv
    rw [hnodes, (hplain.edges e he).text?_target]
    exact List.mem_map_of_mem (h.target_mem e he)

/-- What is written of a payload under a name that no other member has. -/
theorem Payload.get?_toJson {p : Payload} {key : String} (h : p.extra.get? key = none) :
    p.toJson.get? key = Fields.get? p.fieldMembers key := by
  have hnodup : documentKeys.Nodup := by decide
  rw [toJson_eq, Json.get?, members, Fields.get?_extend_of_get?_eq_none _ h, Fields.get?_ofPairs,
    Fields.get?_reverse_of_nodup (hnodup.sublist p.keys_fieldMembers_sublist)]

theorem Payload.get?_nodes_toJson {p : Payload} {nodes : List Node}
    (h : p.extra.get? "nodes" = none) (hnodes : p.nodes = some nodes) :
    p.toJson.get? "nodes" = some (.arr (nodes.map Node.toJson)) := by
  rw [get?_toJson h]
  simp [fieldMembers, Fields.get?_append, get?_member, idKey, hnodes]

theorem Payload.get?_edges_toJson {p : Payload} {edges : List Edge}
    (h : p.extra.get? "edges" = none) (hedges : p.edges = some edges) :
    p.toJson.get? "edges" = some (.arr (edges.map Edge.toJson)) := by
  rw [get?_toJson h]
  simp [fieldMembers, Fields.get?_append, get?_member, idKey, hedges]

/-- **The body of a plain payload** lists the graph that the payload carries. -/
theorem Payload.listsGraph_toJson {p : Payload} (h : p.ListsGraph) (hplain : p.IsPlain) :
    p.toJson.ListsGraph := by
  obtain ⟨g, hg, hnodes, hedges⟩ := h
  have hgraph : g.Each Node.IsPlain Edge.IsPlain := by
    refine ⟨fun n hn => hplain.nodes n ?_, fun e he => hplain.edges e ?_⟩
    · rwa [hnodes]
    · rwa [hedges]
  exact ⟨_, _, get?_nodes_toJson (hplain.extra "nodes" (by simp)) hnodes,
    get?_edges_toJson (hplain.extra "edges" (by simp)) hedges, hg.makeGraph hgraph⟩

/-! ## read -/

theorem Node.isPlain_of_ofJson (v : Json) (node : Node) (h : ofJson v = .ok node) :
    node.IsPlain := by
  obtain ⟨fields, rfl⟩ := Json.exists_fields_of_asRecord h
  obtain ⟨-, -, -, -, -, hextra⟩ := ofJson_obj_iff.mp h
  rw [IsPlain, ← hextra]
  exact Fields.lacks_without (by decide) fields

theorem Edge.isPlain_of_ofJson (v : Json) (edge : Edge) (h : ofJson v = .ok edge) :
    edge.IsPlain := by
  obtain ⟨fields, rfl⟩ := Json.exists_fields_of_asRecord h
  obtain ⟨-, -, -, -, -, -, -, hextra⟩ := ofJson_obj_iff.mp h
  rw [IsPlain, ← hextra]
  exact Fields.lacks_without (by decide) fields

/-- What is read is plain: a member with the name of a field is read as that field. -/
theorem Payload.isPlain_of_ofJson {v : Json} {p : Payload} (h : ofJson v = .ok p) :
    p.IsPlain := by
  obtain ⟨fields, rfl⟩ := Json.exists_fields_of_asRecord h
  have hreads := reads_of_ofJson h
  constructor
  · exact forall_mem_of_forall₂ (p := fun _ => True) (fun v n _ => Node.isPlain_of_ofJson v n)
      (Fields.forall₂_items_of_optional hreads.nodes) fun _ _ => trivial
  · exact forall_mem_of_forall₂ (p := fun _ => True) (fun v e _ => Edge.isPlain_of_ofJson v e)
      (Fields.forall₂_items_of_optional hreads.edges) fun _ _ => trivial
  · rw [← hreads.extra]
    exact Fields.lacks_without (by decide) fields

/-- So every reply brings plain nodes, edges and members only. -/
theorem Reply.brings_plain (reply : Reply) :
    reply.Brings Node.IsPlain Edge.IsPlain (Fields.Lacks ["nodes", "edges"]) :=
  fun _ _ _ hread => Payload.isPlain_of_ofJson hread

end WorkflowEditor
