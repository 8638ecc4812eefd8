import WorkflowEditor.Proofs.Graph.Shared

/-!
# WorkflowEditor.Proofs.Graph.Commuting

Changes of nodes may be made in any order, unless both are to put one node in
two places or two values under one key of its data.

Each of these edits changes one node by a function of that node alone
(`NodeChange.onNode`), so all comes down to two functions on one node.  Where
defaults are filled in, these stand behind whatever the data holds, and an
update stands before it, so it does not matter which comes first.

* `Store.dataAscends_run` — edits keep the data of all nodes maps;
* `NodeChange.apply_edit` — what such an edit answers, and what it does;
* `NodeChange.onNode_comm` — changes that do not clash commute on a node;
* `Store.node_edits_commute` — so they do in every graph that a run leads to.
-/

namespace WorkflowEditor

open WorkflowEditor.Graph

/-! ## data as maps -/

/-- The data that comes with an edit is a map: its keys ascend. -/
def Edit.DataAscends : Edit → Prop
  | .addNode node => node.data.Ascending
  | .updateData _ overlay => overlay.Ascending
  | .replace nodes _ => ∀ n ∈ nodes, n.data.Ascending
  | _ => True

/-- The data of every node is a map. -/
def Graph.DataAscends (g : Graph) : Prop := ∀ n ∈ g.nodes, n.data.Ascending

/-- Edits with maps bring maps only. -/
theorem Edit.DataAscends.brings {edit : Edit} (h : edit.DataAscends) :
    edit.Brings (fun n => n.data.Ascending) fun _ => True := by
  cases edit with
  | addNode => exact h
  | updateData => exact fun _ hn => hn.extend _
  | moveNode => exact fun _ hn => hn
  | fillDefaults => exact fun _ _ hn => hn.extend _
  | replace => exact ⟨h, fun _ _ => trivial⟩
  | drop =>
      intro node made
      obtain ⟨d, -, rfl⟩ := Option.map_eq_some_iff.mp made
      exact Fields.ascending_nil.insert _ _
  | addEdges => exact fun _ _ => trivial
  | connect => exact fun _ _ _ _ _ => trivial
  | removeNode | removeEdge | removeEdgesAt | reset => trivial

/-- Edits with maps keep the data of all nodes maps. -/
theorem Store.dataAscends_run {history : List Edit}
    (h : ∀ edit ∈ history, edit.DataAscends) : (new.run history).graph.DataAscends :=
  (holds_run (Graph.Each (fun n => n.data.Ascending) fun _ => True)
    (fun edit hedit _ _ hcommits => hcommits.each (h edit hedit).brings) each_empty).nodes

/-! ## defaults -/

/-- The defaults of a node's kind; none for an unknown type. -/
def Node.defaults (node : Node) : Fields :=
  ((Kind.ofTypeId? node.typeId).map Kind.defaultData).getD []

theorem Node.ascending_defaults (node : Node) : node.defaults.Ascending := by
  rw [defaults]
  cases Kind.ofTypeId? node.typeId with
  | none => exact Fields.ascending_nil
  | some kind => exact Fields.ascending_ofPairs kind.defaultPairs

theorem Graph.missingDefaults_eq (node : Node) :
    missingDefaults node = node.defaults.filter fun f => !node.data.contains f.1 := by
  rw [missingDefaults, Node.defaults]
  cases Kind.ofTypeId? node.typeId with
  | none => rfl
  | some kind => rfl

/-- Filled in, a node's defaults stand behind what its data holds. -/
theorem Graph.get?_extend_missingDefaults (node : Node) (key : String) :
    (node.data.extend (missingDefaults node)).get? key =
      (node.data.get? key).or (node.defaults.get? key) := by
  have hmissing : Fields.Ascending (missingDefaults node) := by
    rw [missingDefaults_eq]
    exact List.Pairwise.filter _ node.ascending_defaults
  rw [Fields.get?_extend_of_ascending _ hmissing, missingDefaults_eq,
    Fields.get?_filter node.defaults fun k => !node.data.contains k]
  cases hget : node.data.get? key with
  | none => simp [Fields.contains, hget]
  | some v => simp [Fields.contains, hget]

/-! ## changes of one node -/

/-- A change of the data or of the place of one node. -/
inductive NodeChange where
  | updateData (overlay : Fields)
  | moveNode (position : Position)
  | fillDefaults

namespace NodeChange

/-- The edit that makes the change of the node with an id. -/
def edit (id : NodeId) : NodeChange → Edit
  | updateData overlay => .updateData id overlay
  | moveNode position => .moveNode id position
  | fillDefaults => .fillDefaults id

/-- What the change makes of the node. -/
def onNode : NodeChange → Node → Node
  | updateData overlay, n => { n with data := n.data.extend overlay }
  | moveNode position, n => { n with position := position }
  | fillDefaults, n => { n with data := n.data.extend (missingDefaults n) }

/-- Two changes would put one node in two places, or values that differ under one key. -/
inductive Clash (differ : Json → Json → Prop) : NodeChange → NodeChange → Prop
  | places (p q : Position) : Clash differ (moveNode p) (moveNode q)
  | values {a b : Fields} {key : String} {v w : Json} (first : a.get? key = some v)
      (second : b.get? key = some w) (apart : differ v w) :
      Clash differ (updateData a) (updateData b)

@[simp] theorem id_onNode (change : NodeChange) (n : Node) : (change.onNode n).id = n.id := by
  cases change <;> rfl

end NodeChange

namespace Graph

variable {g : Graph} {id : NodeId} {change other : Node → Node}

theorem node?_updateNode (h : ∀ n, (change n).id = n.id) :
    (g.updateNode id change).node? id = (g.node? id).map change :=
  find?_updateFirst (fun n => by rw [h]) g.nodes

theorem updateNode_congr (h : ∀ n, g.node? id = some n → change n = other n) :
    g.updateNode id change = g.updateNode id other :=
  congrArg (Graph.mk · g.edges) (updateFirst_congr h)

theorem updateNode_eq_self (h : ∀ n, g.node? id = some n → change n = n) :
    g.updateNode id change = g :=
  congrArg (Graph.mk · g.edges) (updateFirst_eq_self h)

/-- Defaults are filled in unless there are none to fill in. -/
theorem fillDefaults_of_found {node : Node} (h : g.node? id = some node) :
    g.fillDefaults id = .ok (if missingDefaults node = [] then none
      else some (g.updateNode id NodeChange.fillDefaults.onNode)) := by
  rw [fillDefaults, h]
  cases hmissing : missingDefaults node with
  | nil => simp [hmissing]
  | cons f rest =>
      simp only [hmissing, reduceCtorEq, if_false]
      refine congrArg (fun g => Except.ok (some g)) (updateNode_congr fun n hn => ?_)
      obtain rfl := Option.some.inj (hn.symm.trans h)
      rw [NodeChange.onNode, hmissing]

end Graph

namespace NodeChange

/-- A change is refused exactly if the node is not there; otherwise it changes that node. -/
theorem apply_edit (store : Store) (id : NodeId) (change : NodeChange) :
    (store.apply (change.edit id)).1.refusal? =
        (if id ∈ store.graph.nodes.map Node.id then none else some (.nodeNotFound id)) ∧
      (store.apply (change.edit id)).2.graph = store.graph.updateNode id change.onNode := by
  by_cases hid : id ∈ store.graph.nodes.map Node.id
  · have hcontains := contains_iff.mpr hid
    rw [if_pos hid]
    cases change with
    | updateData overlay =>
        rw [edit, Store.apply, Edit.perform, Graph.updateData, if_pos hcontains]
        exact ⟨rfl, rfl⟩
    | moveNode position =>
        rw [edit, Store.apply, Edit.perform, Graph.moveNode, if_pos hcontains]
        exact ⟨rfl, rfl⟩
    | fillDefaults =>
        obtain ⟨node, hnode⟩ := exists_node? hid
        rw [edit, Store.apply, Edit.perform, fillDefaults_of_found hnode]
        by_cases hmissing : missingDefaults node = []
        · rw [if_pos hmissing]
          refine ⟨rfl, (updateNode_eq_self fun n hn => ?_).symm⟩
          obtain rfl := Option.some.inj (hn.symm.trans hnode)
          rw [onNode, hmissing]
          rfl
        · rw [if_neg hmissing]
          exact ⟨rfl, rfl⟩
  · have hcontains : ¬store.graph.contains id = true := fun h => hid (contains_iff.mp h)
    have hnode : store.graph.node? id = none := node?_eq_none_iff.mpr hid
    have hsame : store.graph.updateNode id change.onNode = store.graph :=
      updateNode_eq_self fun n hn => by
        rw [hnode] at hn
        cases hn
    rw [if_neg hid, hsame]
    cases change with
    | updateData overlay =>
        rw [edit, Store.apply, Edit.perform, Graph.updateData, if_neg hcontains]
        exact ⟨rfl, rfl⟩
    | moveNode position =>
        rw [edit, Store.apply, Edit.perform, Graph.moveNode, if_neg hcontains]
        exact ⟨rfl, rfl⟩
    | fillDefaults =>
        rw [edit, Store.apply, Edit.perform, Graph.fillDefaults, hnode]
        exact ⟨rfl, rfl⟩

/-! ## two changes -/

variable {c c' : NodeChange} {n : Node} {id id' : NodeId}

/-- An update before the defaults are filled in or after it: a value of the update
counts first, then one of the data, then a default. -/
theorem get?_updated_filled (hoverlay : overlay.Ascending) (n : Node) (key : String) :
    (fillDefaults.onNode ((updateData overlay).onNode n)).data.get? key =
        (overlay.get? key).or ((n.data.get? key).or (n.defaults.get? key)) ∧
      ((updateData overlay).onNode (fillDefaults.onNode n)).data.get? key =
        (overlay.get? key).or ((n.data.get? key).or (n.defaults.get? key)) := by
  constructor
  · rw [← Option.or_assoc, ← Fields.get?_extend_of_ascending n.data hoverlay]
    exact get?_extend_missingDefaults ((updateData overlay).onNode n) key
  · rw [← get?_extend_missingDefaults]
    exact Fields.get?_extend_of_ascending _ hoverlay key

theorem fill_update_comm (hn : n.data.Ascending) (hoverlay : overlay.Ascending) :
    fillDefaults.onNode ((updateData overlay).onNode n) =
      (updateData overlay).onNode (fillDefaults.onNode n) := by
  refine congrArg (fun data => { n with data := data }) ?_
  refine ((hn.extend _).extend _).ext ((hn.extend _).extend _) fun key => ?_
  obtain ⟨hupdated, hfilled⟩ := get?_updated_filled hoverlay n key
  exact hupdated.trans hfilled.symm

/-- **Changes that do not clash commute** on a node. -/
theorem onNode_comm (hn : n.data.Ascending) (hc : (c.edit id).DataAscends)
    (hc' : (c'.edit id').DataAscends) (hclash : ¬c.Clash (· ≠ ·) c') :
    c'.onNode (c.onNode n) = c.onNode (c'.onNode n) := by
  cases c with
  | updateData a =>
      cases c' with
      | updateData b =>
          refine congrArg (fun data => { n with data := data }) ?_
          refine hn.extend_comm hc hc' fun key v w hv hw => ?_
          exact not_not.mp fun hne => hclash (.values hv hw hne)
      | moveNode position => rfl
      | fillDefaults => exact fill_update_comm hn hc
  | moveNode position =>
      cases c' with
      | updateData b => rfl
      | moveNode other => exact absurd (.places position other) hclash
      | fillDefaults => rfl
  | fillDefaults =>
      cases c' with
      | updateData b => exact (fill_update_comm hn hc').symm
      | moveNode position => rfl
      | fillDefaults => rfl

/-- Updates whose values differ in the signs of zeros commute but for these. -/
theorem unsigned_onNode_comm (hn : n.data.Ascending) (hc : (c.edit id).DataAscends)
    (hc' : (c'.edit id').DataAscends) (hclash : ¬c.Clash (fun v w => v.same w = false) c') :
    (c'.onNode (c.onNode n)).unsigned = (c.onNode (c'.onNode n)).unsigned := by
  by_cases hvalues : c.Clash (· ≠ ·) c'
  · cases hvalues with
    | places p q => exact absurd (.places p q) hclash
    | @values a b =>
        refine congrArg (fun data => { n.unsigned with data := data }) ?_
        -- without their signs the values do not differ at all
        have hagree : ∀ key v w, a.canonical.get? key = some v → b.canonical.get? key = some w →
            v = w := by
          intro key v w hv hw
          rw [Fields.get?_canonical] at hv hw
          obtain ⟨x, hx, rfl⟩ := Option.map_eq_some_iff.mp hv
          obtain ⟨y, hy, rfl⟩ := Option.map_eq_some_iff.mp hw
          refine Json.canonical_of_same x y (eq_true_of_ne_false fun hne => ?_)
          exact hclash (.values hx hy hne)
        have hcomm := hn.canonical.extend_comm (Fields.Ascending.canonical hc)
          (Fields.Ascending.canonical hc') hagree
        simpa only [onNode, Fields.canonical_extend] using hcomm
  · rw [onNode_comm hn hc hc' hvalues]

/-- Changes of two nodes commute, and so do those of one node that do so on it, as far
as one looks. -/
theorem map_updateNode_comm {g : Graph} (look : Node → β)
    (h : id = id' → ∀ n ∈ g.nodes, look (c'.onNode (c.onNode n)) = look (c.onNode (c'.onNode n))) :
    ((g.updateNode id c.onNode).updateNode id' c'.onNode).nodes.map look =
      ((g.updateNode id' c'.onNode).updateNode id c.onNode).nodes.map look := by
  refine map_updateFirst_comm (fun n => by rw [id_onNode]) (fun n => by rw [id_onNode]) ?_
  intro n hn hid' hid
  exact h ((beq_iff_eq.mp hid).symm.trans (beq_iff_eq.mp hid')) n hn

theorem graph_apply_apply (store : Store) (id id' : NodeId) (c c' : NodeChange) :
    ((store.apply (c.edit id)).2.apply (c'.edit id')).2.graph =
      (store.graph.updateNode id c.onNode).updateNode id' c'.onNode := by
  rw [(apply_edit _ id' c').2, (apply_edit store id c).2]

theorem node?_apply_apply {store : Store} (hn : store.graph.node? id = some n)
    (c c' : NodeChange) :
    ((store.apply (c.edit id)).2.apply (c'.edit id)).2.graph.node? id =
      some (c'.onNode (c.onNode n)) := by
  rw [graph_apply_apply, node?_updateNode c'.id_onNode, node?_updateNode c.id_onNode, hn]
  rfl

/-- No change keeps another from being made. -/
theorem refusal?_apply_apply (store : Store) (id id' : NodeId) (c c' : NodeChange) :
    ((store.apply (c.edit id)).2.apply (c'.edit id')).1.refusal? =
      (store.apply (c'.edit id')).1.refusal? := by
  have hids : (store.graph.updateNode id c.onNode).nodes.map Node.id =
      store.graph.nodes.map Node.id := map_updateFirst c.id_onNode _ _
  rw [(apply_edit _ id' c').1, (apply_edit store id c).2, hids, (apply_edit store id' c').1]

end NodeChange

/-! ## graphs -/

/-- **Changes of nodes commute** in every graph that a run leads to, unless two moves
are of one node or two updates of one node give a key values that differ.  In both
orders each change is refused with the same error or not at all, and the nodes and
edges end up the same; where the values that two updates give a key are equal but for
the signs of zeros, so are the nodes.  When an update of a node meets its defaults, in
both orders a value of the update comes before one of the data, and both before a
default. -/
theorem Store.node_edits_commute {history : List Edit}
    (hhistory : ∀ edit ∈ history, edit.DataAscends) (id id' : NodeId) (c c' : NodeChange)
    (hc : (c.edit id).DataAscends) (hc' : (c'.edit id').DataAscends) :
    let reached := new.run history
    let one := reached.apply (c.edit id)
    let other := reached.apply (c'.edit id')
    let both := one.2.apply (c'.edit id')
    let swapped := other.2.apply (c.edit id)
    one.1.refusal? = swapped.1.refusal? ∧ other.1.refusal? = both.1.refusal? ∧
    (¬(id = id' ∧ c.Clash (· ≠ ·) c') → both.2.graph = swapped.2.graph) ∧
    (¬(id = id' ∧ c.Clash (fun v w => v.same w = false) c') →
      both.2.graph.nodes.map Node.unsigned = swapped.2.graph.nodes.map Node.unsigned ∧
        both.2.graph.edges = swapped.2.graph.edges) ∧
    ∀ n overlay, reached.graph.node? id = some n → overlay.Ascending →
      ∀ edits ∈ [[Edit.updateData id overlay, .fillDefaults id],
          [.fillDefaults id, .updateData id overlay]],
        ∃ m, (reached.run edits).graph.node? id = some m ∧ ∀ key, m.data.get? key =
          (overlay.get? key).or ((n.data.get? key).or (n.defaults.get? key)) := by
  intro reached one other both swapped
  have hdata : reached.graph.DataAscends := dataAscends_run hhistory
  have hboth : both.2.graph = _ := NodeChange.graph_apply_apply reached id id' c c'
  have hswapped : swapped.2.graph = _ := NodeChange.graph_apply_apply reached id' id c' c
  refine ⟨(NodeChange.refusal?_apply_apply reached id' id c' c).symm,
    (NodeChange.refusal?_apply_apply reached id id' c c').symm, fun hclash => ?_,
    fun hclash => ?_, ?_⟩
  · have hnodes := NodeChange.map_updateNode_comm (fun n => n) fun heq n hn =>
      NodeChange.onNode_comm (hdata n hn) hc hc' fun h => hclash ⟨heq, h⟩
    rw [List.map_id', List.map_id'] at hnodes
    rw [hboth, hswapped]
    exact congrArg (Graph.mk · _) hnodes
  · rw [hboth, hswapped]
    exact ⟨NodeChange.map_updateNode_comm Node.unsigned fun heq n hn =>
      NodeChange.unsigned_onNode_comm (hdata n hn) hc hc' fun h => hclash ⟨heq, h⟩, rfl⟩
  · intro n overlay hn hoverlay edits hedits
    have hget := NodeChange.get?_updated_filled hoverlay n
    simp only [List.mem_cons, List.not_mem_nil, or_false] at hedits
    obtain rfl | rfl := hedits
    · exact ⟨_, NodeChange.node?_apply_apply hn (.updateData overlay) .fillDefaults,
        fun key => (hget key).1⟩
    · exact ⟨_, NodeChange.node?_apply_apply hn .fillDefaults (.updateData overlay),
        fun key => (hget key).2⟩

/-- The text of a text input is updated before its defaults are filled in or after:
the title it has stays, and the text is that of the update. -/
theorem Store.node_edits_commute_text :
    let history : List Edit :=
      [.addNode ((Node.new ⟨"a"⟩ "textInput" .origin).withData "title" (.str "Mine"))]
    let update : NodeChange := .updateData [("textValue", .str "hello")]
    let reached := new.run history
    let one := reached.apply (update.edit ⟨"a"⟩)
    let other := reached.apply (NodeChange.fillDefaults.edit ⟨"a"⟩)
    let both := one.2.apply (NodeChange.fillDefaults.edit ⟨"a"⟩)
    let swapped := other.2.apply (update.edit ⟨"a"⟩)
    (∀ edit ∈ history, edit.DataAscends) ∧ (update.edit ⟨"a"⟩).DataAscends ∧
      (NodeChange.fillDefaults.edit ⟨"a"⟩).DataAscends ∧ ¬update.Clash (· ≠ ·) .fillDefaults ∧
      both.2.graph = swapped.2.graph ∧
      both.2.graph.nodes.map (fun n => n.data.map fun f => (f.1, f.2.string?)) =
        [[("description", some "Enter text to pass through the workflow"),
          ("placeholder", some "Type your text here..."), ("textValue", some "hello"),
          ("title", some "Mine")]] := by
  intro history update reached one other both swapped
  have hhistory : ∀ edit ∈ history, edit.DataAscends :=
    List.forall_mem_singleton.mpr (Fields.ascending_nil.insert "title" (.str "Mine"))
  have hupdate : (update.edit ⟨"a"⟩).DataAscends := List.pairwise_singleton _ _
  have hclash (overlay : Fields) : ¬(NodeChange.updateData overlay).Clash (· ≠ ·) .fillDefaults :=
    nofun
  obtain ⟨-, -, hgraph, -⟩ :=
    node_edits_commute hhistory ⟨"a"⟩ ⟨"a"⟩ update .fillDefaults hupdate trivial
  exact ⟨hhistory, hupdate, trivial, hclash _, hgraph fun h => hclash _ h.2, by decide +kernel⟩

end WorkflowEditor
