import WorkflowEditor.Proofs.Connection
import WorkflowEditor.Proofs.Graph.Comparable
import WorkflowEditor.Proofs.Json.Canonical
import WorkflowEditor.Proofs.Node

/-!
# WorkflowEditor.Proofs.Graph.Shared

What of a graph the service can get to see: its nodes without the marks of the
canvas, and no sign at any zero.  Two graphs that share this may look different
on the canvas and still be saved as the same.

* `Graph.shared_of_same` — graphs that are equal share all;
* `Graph.sift_shared`, `Edit.perform_shared` — what is made of a graph shares
  what is made of the part that is shared, so an edit never lets a mark decide.
-/

namespace WorkflowEditor

/-! ## nodes and edges -/

/-- The node with no sign at its zeros. -/
def Node.unsigned (node : Node) : Node :=
  { node with
    position := node.position.canonical
    data := node.data.canonical
    extra := node.extra.canonical }

/-- What of a node is shared with the service. -/
def Node.shared (node : Node) : Node := node.withoutLocalState.unsigned

/-- What of an edge is shared with the service. -/
def Edge.shared (edge : Edge) : Edge := { edge with extra := edge.extra.canonical }

/-- What of a graph is shared with the service. -/
def Graph.shared (g : Graph) : Graph := ⟨g.nodes.map Node.shared, g.edges.map Edge.shared⟩

@[simp] theorem Node.id_shared (node : Node) : node.shared.id = node.id := rfl

@[simp] theorem Node.typeId_shared (node : Node) : node.shared.typeId = node.typeId := rfl

@[simp] theorem Node.data_shared (node : Node) : node.shared.data = node.data.canonical := rfl

theorem Node.shared_withData (node : Node) (data : Fields) :
    ({ node with data := data } : Node).shared = { node.shared with data := data.canonical } := rfl

@[simp] theorem Edge.id_shared (edge : Edge) : edge.shared.id = edge.id := rfl

@[simp] theorem Edge.touches_shared (edge : Edge) (id : NodeId) :
    edge.shared.touches id = edge.touches id := rfl

theorem Position.canonical_of_same {p q : Position} (h : p.same q = true) :
    p.canonical = q.canonical := by
  rw [same, Bool.and_eq_true] at h
  rw [canonical, canonical, Double.canonical_of_same h.1, Double.canonical_of_same h.2]

/-- Nodes that are equal share all. -/
theorem Node.shared_of_same (a b : Node) (h : a.same b = true) : a.shared = b.shared := by
  simp only [same, Bool.and_eq_true, beq_iff_eq] at h
  obtain ⟨⟨⟨⟨hid, htype⟩, hposition⟩, hdata⟩, hextra⟩ := h
  simp only [shared, unsigned, withoutLocalState, Fields.canonical_without]
  rw [hid, htype, Position.canonical_of_same hposition, Fields.canonical_of_same hdata,
    Fields.canonical_of_same hextra]

/-- Edges that are equal share all. -/
theorem Edge.shared_of_same (a b : Edge) (h : a.same b = true) : a.shared = b.shared := by
  simp only [same, Bool.and_eq_true, beq_iff_eq] at h
  obtain ⟨⟨⟨⟨⟨⟨hid, hsource⟩, hsourceHandle⟩, htarget⟩, htargetHandle⟩, hkind⟩, hextra⟩ := h
  rw [shared, shared, hid, hsource, hsourceHandle, htarget, htargetHandle, hkind,
    Fields.canonical_of_same hextra]

@[simp] theorem Json.string?_canonical (v : Json) : v.canonical.string? = v.string? := by
  cases v <;> rfl

theorem Node.category?_shared (node : Node) : node.shared.category? = node.category? := by
  have hget : (node.data.canonical.get? categoryKey).bind Json.string? =
      (node.data.get? categoryKey).bind Json.string? := by
    rw [Fields.get?_canonical, Option.bind_map]
    exact congrArg _ (funext Json.string?_canonical)
  rw [category?, category?, data_shared, hget]

/-! ## lists -/

/-- What is changed first and then mapped is mapped first and then changed. -/
theorem Graph.updateFirst_map {p : α → Bool} {q : β → Bool} {change : α → α} {change' : β → β}
    {f : α → β} (hp : ∀ a, q (f a) = p a) (hchange : ∀ a, f (change a) = change' (f a))
    (items : List α) :
    (updateFirst p change items).map f = updateFirst q change' (items.map f) := by
  induction items with
  | nil => rfl
  | cons a rest ih =>
      rw [List.map_cons, updateFirst, updateFirst, hp]
      split
      · rw [List.map_cons, hchange]
      · rw [List.map_cons, ih]

/-- The items that stay are known by their keys. -/
theorem Graph.keepFirst_map [DecidableEq κ] {key : α → κ} {key' : β → κ} {f : α → β}
    (h : ∀ a, key' (f a) = key a) (seen : List κ) (items : List α) :
    keepFirst key' seen (items.map f) = (keepFirst key seen items).map f := by
  induction items generalizing seen with
  | nil => rfl
  | cons a rest ih =>
      rw [List.map_cons, keepFirst, keepFirst, h]
      split
      · exact ih seen
      · rw [List.map_cons, ih]

namespace Graph

/-! ## graphs -/

variable (g : Graph)

/-- **Graphs that are equal share all.** -/
theorem shared_of_same {g h : Graph} (hsame : g.same h = true) : g.shared = h.shared := by
  obtain ⟨hnodes, hedges⟩ := same_iff.mp hsame
  have hnodes : g.nodes.map Node.shared = h.nodes.map Node.shared :=
    map_eq_of_forall₂ Node.shared_of_same hnodes
  have hedges : g.edges.map Edge.shared = h.edges.map Edge.shared :=
    map_eq_of_forall₂ Edge.shared_of_same hedges
  rw [shared, shared, hnodes, hedges]

@[simp] theorem contains_shared (id : NodeId) : g.shared.contains id = g.contains id := by
  rw [contains, contains, shared, List.any_map]
  rfl

@[simp] theorem node?_shared (id : NodeId) : g.shared.node? id = (g.node? id).map Node.shared := by
  rw [node?, node?, shared, List.find?_map]
  rfl

@[simp] theorem edge?_shared (id : EdgeId) : g.shared.edge? id = (g.edge? id).map Edge.shared := by
  rw [edge?, edge?, shared, List.find?_map]
  rfl

@[simp] theorem degree_shared (id : NodeId) : g.shared.degree id = g.degree id := by
  rw [degree, degree, shared, List.countP_map]
  rfl

/-- Graphs that share all are both well-formed or neither is. -/
theorem WellFormed.of_shared {g h : Graph} (hg : g.WellFormed) (hshared : h.shared = g.shared) :
    h.WellFormed := by
  have hnodes := congrArg (fun g => g.nodes.map Node.id) hshared
  have hedges := congrArg (fun g => g.edges.map Edge.ends) hshared
  simp only [shared, List.map_map] at hnodes hedges
  exact hg.congr hnodes hedges

/-- What is kept of given nodes and edges shares what is kept of the part of them that is shared. -/
theorem sift_shared (nodes : List Node) (edges : List Edge) :
    sift (nodes.map Node.shared) (edges.map Edge.shared) = (sift nodes edges).shared := by
  have hnodes : keepFirst Node.id [] (nodes.map Node.shared) =
      (keepFirst Node.id [] nodes).map Node.shared := keepFirst_map (fun _ => rfl) [] nodes
  have hends (e : Edge) : hasEnds ⟨(keepFirst Node.id [] nodes).map Node.shared, []⟩ e.shared =
      hasEnds ⟨keepFirst Node.id [] nodes, []⟩ e := by
    rw [hasEnds, hasEnds]
    exact congrArg₂ _ (contains_shared ⟨_, []⟩ _) (contains_shared ⟨_, []⟩ _)
  simp only [sift, shared, hnodes, List.filter_map, Function.comp_def, hends]
  exact congrArg (Graph.mk _) (keepFirst_map (fun _ => rfl) [] _)

/-! ## edits -/

theorem addNode_shared (node : Node) :
    g.shared.addNode node.shared = (g.addNode node).map Graph.shared := by
  rw [addNode, addNode]
  simp only [contains_shared, Node.id_shared]
  split
  · rfl
  · simp [Except.map, shared]

theorem removeNode?_shared (id : NodeId) :
    g.shared.removeNode? id = (g.removeNode? id).map (Prod.map Node.shared Graph.shared) := by
  rw [removeNode?, removeNode?, node?_shared]
  cases g.node? id with
  | none => rfl
  | some node =>
      simp [shared, List.eraseP_map, List.filter_map, Function.comp_def]

theorem checkEdges_shared (taken : List EdgeId) (edges : List Edge) :
    g.shared.checkEdges taken (edges.map Edge.shared) = g.checkEdges taken edges := by
  induction edges generalizing taken with
  | nil => rfl
  | cons e rest ih =>
      rw [List.map_cons, checkEdges, checkEdges]
      simp only [contains_shared, ih]
      rfl

theorem addEdges_shared (edges : List Edge) :
    g.shared.addEdges (edges.map Edge.shared) = (g.addEdges edges).map Graph.shared := by
  have hids : g.shared.edges.map Edge.id = g.edges.map Edge.id := by
    rw [shared, List.map_map]
    rfl
  rw [addEdges, addEdges, hids, checkEdges_shared]
  split
  · rfl
  · simp [Except.map, shared]

theorem removeEdge?_shared (id : EdgeId) :
    g.shared.removeEdge? id = (g.removeEdge? id).map (Prod.map Edge.shared Graph.shared) := by
  rw [removeEdge?, removeEdge?, edge?_shared]
  cases g.edge? id with
  | none => rfl
  | some edge => simp [shared, List.eraseP_map, Function.comp_def]

theorem removeEdgesAt_shared (id : NodeId) :
    g.shared.removeEdgesAt id = (g.removeEdgesAt id).shared := by
  simp [removeEdgesAt, shared, List.filter_map, Function.comp_def]

theorem updateNode_shared (id : NodeId) {change change' : Node → Node}
    (h : ∀ n, (change n).shared = change' n.shared) :
    g.shared.updateNode id change' = (g.updateNode id change).shared :=
  congrArg (fun nodes => Graph.mk nodes _) (updateFirst_map (fun _ => rfl) h g.nodes).symm

theorem updateData_shared (id : NodeId) (overlay : Fields) :
    g.shared.updateData id overlay.canonical = (g.updateData id overlay).map Graph.shared := by
  rw [updateData, updateData, contains_shared]
  split
  · refine congrArg Except.ok (g.updateNode_shared id fun n => ?_)
    rw [Node.shared_withData, Fields.canonical_extend, Node.data_shared]
  · rfl

theorem moveNode_shared (id : NodeId) (position : Position) :
    g.shared.moveNode id position.canonical = (g.moveNode id position).map Graph.shared := by
  rw [moveNode, moveNode, contains_shared]
  split
  · exact congrArg Except.ok (g.updateNode_shared id fun _ => rfl)
  · rfl

/-- The defaults have no sign at a zero. -/
theorem canonical_defaultData (kind : Kind) : kind.defaultData.canonical = kind.defaultData := by
  have hpairs : Fields.canonical kind.defaultPairs = kind.defaultPairs := by cases kind <;> rfl
  rw [Kind.defaultData, Fields.ofPairs, Fields.canonical_extend, hpairs]
  rfl

theorem missingDefaults_shared (node : Node) :
    missingDefaults node.shared = missingDefaults node ∧
      Fields.canonical (missingDefaults node) = missingDefaults node := by
  rw [missingDefaults, missingDefaults, Node.typeId_shared]
  split
  · exact ⟨rfl, rfl⟩
  · next kind _ =>
    refine ⟨?_, ?_⟩
    · simp only [Node.data_shared, Fields.contains_canonical]
    · exact (Fields.canonical_filter _ fun key => !node.data.contains key).trans
        (by rw [canonical_defaultData])

theorem fillDefaults_shared (id : NodeId) :
    g.shared.fillDefaults id = (g.fillDefaults id).map (Option.map Graph.shared) := by
  rw [fillDefaults, fillDefaults, node?_shared]
  cases g.node? id with
  | none => rfl
  | some node =>
      obtain ⟨hmissing, hcanonical⟩ := missingDefaults_shared node
      simp only [Option.map_some, hmissing]
      split
      · rfl
      · next missing hne =>
        refine congrArg (fun g => Except.ok (some g)) (g.updateNode_shared id fun n => ?_)
        rw [Node.shared_withData, Fields.canonical_extend, hcanonical, Node.data_shared]

end Graph

/-! ## connections and drops -/

namespace Registry

variable (registry : Registry)

theorem isTool_shared (node : Node) : registry.isTool node.shared = registry.isTool node := by
  rw [isTool, isTool, categoryOf, categoryOf, node.category?_shared]
  rfl

theorem isToolAt_shared (g : Graph) (id : NodeId) :
    registry.isToolAt g.shared id = registry.isToolAt g id := by
  rw [isToolAt, isToolAt, Graph.node?_shared, Option.any_map]
  exact congrArg (Option.any · (g.node? id)) (funext registry.isTool_shared)

/-- What a connection is planned as depends on what is shared. -/
theorem plan_shared (g : Graph) (c : Connection) (stamp : Stamp) :
    registry.plan g.shared c stamp = registry.plan g c stamp := by
  have hids : g.shared.nodes.map Node.id = g.nodes.map Node.id := by
    rw [Graph.shared, List.map_map]
    rfl
  rw [plan_eq, plan_eq, hids, isToolAt_shared, isToolAt_shared]

/-- The edges that are planned have nothing that is not shared. -/
theorem map_shared_of_plan {registry : Registry} {g : Graph} {c : Connection} {stamp : Stamp}
    {edges : List Edge} (h : registry.plan g c stamp = .ok edges) :
    edges.map Edge.shared = edges := by
  obtain ⟨-, -, rfl⟩ := plan_eq_ok_iff.mp h
  rw [Connection.edges]
  split
  · rfl
  · rfl

theorem connect_shared (g : Graph) (c : Connection) (stamp : Stamp) :
    registry.connect g.shared c stamp =
      (registry.connect g c stamp).map (Prod.map (List.map Edge.shared) Graph.shared) := by
  rw [connect, connect, plan_shared]
  cases hplan : registry.plan g c stamp with
  | error e => rfl
  | ok edges =>
      have hedges := map_shared_of_plan hplan
      have hadd := g.addEdges_shared edges
      rw [hedges] at hadd
      simp only [bind, Except.bind, pure, Except.pure, hadd]
      cases g.addEdges edges with
      | error e => rfl
      | ok g' => simp [Except.map, hedges]

theorem dropped?_shared (payload : DragPayload) (place : Position) (stamp : Stamp) :
    registry.dropped? payload place.canonical stamp =
      (registry.dropped? payload place stamp).map Node.shared := by
  rw [dropped?, dropped?, Option.map_map]
  rfl

theorem drop?_shared (g : Graph) (payload : DragPayload) (place : Position) (stamp : Stamp) :
    registry.drop? g.shared payload place.canonical stamp =
      (registry.drop? g payload place stamp).map (Prod.map Node.shared Graph.shared) := by
  rw [drop?, drop?, dropped?_shared]
  cases registry.dropped? payload place stamp with
  | none => rfl
  | some node =>
      simp only [Option.map_some, g.addNode_shared node]
      cases g.addNode node with
      | error e => rfl
      | ok g' => rfl

end Registry

/-! ## edits -/

/-- The edit with what is shared of its nodes, edges and values. -/
def Edit.shared : Edit → Edit
  | addNode node => addNode node.shared
  | addEdges edges => addEdges (edges.map Edge.shared)
  | updateData id overlay => updateData id overlay.canonical
  | moveNode id position => moveNode id position.canonical
  | replace nodes edges => replace (nodes.map Node.shared) (edges.map Edge.shared)
  | drop registry payload point toCanvas stamp =>
      drop registry payload point (fun p => (toCanvas p).canonical) stamp
  | removeNode id => removeNode id
  | removeEdge id => removeEdge id
  | removeEdgesAt id => removeEdgesAt id
  | fillDefaults id => fillDefaults id
  | reset => reset
  | connect registry connection stamp => connect registry connection stamp

/-- The answer with what is shared of its nodes and edges. -/
def Answer.shared : Answer → Answer
  | removedNode node => removedNode (node.map Node.shared)
  | removedEdge edge => removedEdge (edge.map Edge.shared)
  | connected edges => connected (edges.map Edge.shared)
  | dropped node => dropped (node.map Node.shared)
  | done => done
  | refused e => refused e
  | count n => count n
  | filled any => filled any

/-- What an edit comes to, as far as it is shared. -/
def Edit.sharedResult (result : Answer × Option Graph) : Answer × Option Graph :=
  (result.1.shared, result.2.map Graph.shared)

namespace Edit

variable (g : Graph)

theorem checked_shared (result : Except GraphError Graph) :
    checked (result.map Graph.shared) = sharedResult (checked result) := by
  cases result <;> rfl

/-- **What an edit shares is made of what is shared**: the marks of the canvas
and the signs of zeros decide neither its answer nor the graph it commits. -/
theorem perform_shared (edit : Edit) :
    edit.shared.perform g.shared = sharedResult (edit.perform g) := by
  cases edit with
  | addNode node => simp only [shared, perform, g.addNode_shared, checked_shared]
  | removeNode id =>
      simp only [shared, perform, g.removeNode?_shared]
      cases g.removeNode? id <;> rfl
  | addEdges edges =>
      simp only [shared, perform, g.addEdges_shared, List.isEmpty_map]
      cases g.addEdges edges with
      | error e => rfl
      | ok g' =>
          simp only [Except.map, sharedResult]
          split <;> rfl
  | removeEdge id =>
      simp only [shared, perform, g.removeEdge?_shared]
      cases g.removeEdge? id <;> rfl
  | removeEdgesAt id =>
      simp only [shared, perform, g.degree_shared, g.removeEdgesAt_shared, sharedResult]
      split <;> rfl
  | updateData id overlay => simp only [shared, perform, g.updateData_shared, checked_shared]
  | moveNode id position => simp only [shared, perform, g.moveNode_shared, checked_shared]
  | fillDefaults id =>
      simp only [shared, perform, g.fillDefaults_shared]
      cases g.fillDefaults id with
      | error e => rfl
      | ok o => cases o <;> rfl
  | replace nodes edges =>
      simp only [shared, perform, Graph.sift_shared, sharedResult, Graph.siftedOut]
      simp [Graph.shared, Answer.shared]
  | reset => rfl
  | connect registry c stamp =>
      simp only [shared, perform, registry.connect_shared]
      cases registry.connect g c stamp <;> rfl
  | drop registry payload point toCanvas stamp =>
      simp only [shared, perform, registry.drop?_shared]
      cases registry.drop? g payload (toCanvas point) stamp <;> rfl

end Edit

end WorkflowEditor
