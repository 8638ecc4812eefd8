import WorkflowEditor.Proofs.Connection
import WorkflowEditor.Proofs.Graph.WellFormed
import WorkflowEditor.Proofs.Json.Members

/-!
# WorkflowEditor.Proofs.Graph.Tools

The edges at tools, over whole runs of edits.

The kind of an edge, and whether an edge back comes with it, are settled when a
connection is drawn.  They stay right because no edit on the canvas moves a
node that stays to another category, and a node that goes takes its edges along.

* `Edit.Commits.isToolAt_eq` — a node that stays is a tool after an edit exactly
  if it was one before;
* `Store.kinds_fit` — after every run an edge is conditional exactly if it leads
  to a tool;
* `Store.tools_paired` — and between a tool and any node as many edges lead one
  way as the other, handle by handle.
-/

namespace WorkflowEditor

/-- An edit as it is made on a canvas: no data that names a category, no edges
but those of connections, and these drawn with one registry. -/
def Edit.OnCanvas (registry : Registry) : Edit → Prop
  | .updateData _ overlay => Node.categoryKey ∉ Fields.keys overlay
  | .connect other _ _ => other = registry
  | .addEdges _ | .replace _ _ => False
  | _ => True

/-! ## a node stays in its category -/

/-- Data that names no category leaves the category as it is. -/
theorem Node.category?_extend (node : Node) {overlay : Fields}
    (h : categoryKey ∉ overlay.keys) :
    { node with data := node.data.extend overlay }.category? = node.category? := by
  have hnone := Fields.get?_eq_none_of_not_mem h
  rw [category?, category?, Fields.get?_extend_of_get?_eq_none _ hnone]

/-- No kind has a default for the category. -/
theorem Kind.categoryKey_not_mem_defaultData (kind : Kind) :
    Node.categoryKey ∉ kind.defaultData.keys := by
  cases kind <;> decide

theorem Graph.categoryKey_not_mem_missingDefaults (node : Node) :
    Node.categoryKey ∉ Fields.keys (missingDefaults node) := by
  rw [missingDefaults]
  split
  · exact List.not_mem_nil
  · next kind _ =>
    have hsub := (List.filter_sublist (p := fun f => !node.data.contains f.1)
      (l := kind.defaultData)).map Prod.fst
    exact fun hmem => kind.categoryKey_not_mem_defaultData (hsub.subset hmem)

namespace Registry

variable {registry : Registry} {g g' : Graph}

theorem isTool_extend (node : Node) {overlay : Fields} (h : Node.categoryKey ∉ overlay.keys) :
    registry.isTool { node with data := node.data.extend overlay } = registry.isTool node := by
  rw [isTool, isTool, categoryOf, categoryOf, node.category?_extend h]

theorem isToolAt_congr (h : g'.nodes = g.nodes) (id : NodeId) :
    registry.isToolAt g' id = registry.isToolAt g id := by
  rw [isToolAt, isToolAt, Graph.node?, Graph.node?, h]

theorem mem_of_isToolAt {id : NodeId} (h : registry.isToolAt g id = true) :
    id ∈ g.nodes.map Node.id := by
  obtain ⟨node, hnode, -⟩ := (Option.any_eq_true ..).mp h
  obtain ⟨hmem, rfl⟩ := Graph.mem_of_node? hnode
  exact List.mem_map_of_mem hmem

end Registry

namespace Edit

open WorkflowEditor.Graph

variable {registry : Registry} {g g' : Graph} {edit : Edit}

theorem tool_of_mem_updateNode {id : NodeId} {change : Node → Node} {n : Node}
    (hn : n ∈ (g.updateNode id change).nodes) (hid : ∀ m, (change m).id = m.id)
    (htool : ∀ m, registry.isTool (change m) = registry.isTool m) :
    ∃ m ∈ g.nodes, m.id = n.id ∧ registry.isTool m = registry.isTool n := by
  obtain hn | ⟨m, hm, rfl⟩ := mem_updateFirst hn
  · exact ⟨n, hn, rfl, rfl⟩
  · exact ⟨m, hm, (hid m).symm, (htool m).symm⟩

/-- A node after an edit on the canvas was there before, and as much of a tool, or its id is new. -/
theorem Commits.tool_of_mem (h : edit.Commits g g') (hcanvas : edit.OnCanvas registry)
    {n : Node} (hn : n ∈ g'.nodes) :
    (∃ m ∈ g.nodes, m.id = n.id ∧ registry.isTool m = registry.isTool n) ∨
      n.id ∉ g.nodes.map Node.id := by
  cases h with
  | addNode fresh | drop _ fresh =>
      obtain hn | hn := List.mem_append.mp hn
      · exact .inl ⟨n, hn, rfl, rfl⟩
      · obtain rfl := List.mem_singleton.mp hn
        exact .inr fresh
  | removeNode => exact .inl ⟨n, List.mem_of_mem_eraseP hn, rfl, rfl⟩
  | removeEdge | removeEdgesAt | connect => exact .inl ⟨n, hn, rfl, rfl⟩
  | updateData =>
      exact .inl (tool_of_mem_updateNode hn (fun _ => rfl) fun m =>
        Registry.isTool_extend m hcanvas)
  | moveNode => exact .inl (tool_of_mem_updateNode hn (fun _ => rfl) fun _ => rfl)
  | fillDefaults =>
      exact .inl (tool_of_mem_updateNode hn (fun _ => rfl) fun m =>
        Registry.isTool_extend m (categoryKey_not_mem_missingDefaults _))
  | addEdges | replace => exact hcanvas.elim
  | reset => exact (List.not_mem_nil hn).elim

/-- **A node that stays is a tool** after an edit exactly if it was one before. -/
theorem Commits.isToolAt_eq (h : edit.Commits g g') (hcanvas : edit.OnCanvas registry)
    (hg : g.WellFormed) {id : NodeId} (hbefore : id ∈ g.nodes.map Node.id)
    (hafter : id ∈ g'.nodes.map Node.id) : registry.isToolAt g' id = registry.isToolAt g id := by
  obtain ⟨n, hn⟩ := exists_node? hafter
  obtain ⟨hmem, rfl⟩ := mem_of_node? hn
  obtain ⟨m, hm, hid, htool⟩ | hnew := h.tool_of_mem hcanvas hmem
  · have hm := hg.node?_id hm
    rw [hid] at hm
    rw [Registry.isToolAt, Registry.isToolAt, hn, hm, Option.any_some, Option.any_some, htool]
  · exact absurd hbefore hnew

end Edit

/-! ## kinds of edges -/

/-- An edge is conditional exactly if it leads to a tool. -/
def Graph.KindsFit (registry : Registry) (g : Graph) : Prop :=
  ∀ e ∈ g.edges, e.kind = Connection.kindToward (registry.isToolAt g e.target)

namespace Edit

variable {registry : Registry} {g g' : Graph} {edit : Edit}

/-- An edge after an edit on the canvas was there before, or has just been planned. -/
theorem Commits.mem_or_planned (h : edit.Commits g g') (hcanvas : edit.OnCanvas registry)
    {e : Edge} (he : e ∈ g'.edges) :
    e ∈ g.edges ∨ ∃ c stamp edges,
      registry.plan g c stamp = .ok edges ∧ e ∈ edges ∧ g'.nodes = g.nodes := by
  cases h with
  | addNode | updateData | moveNode | fillDefaults | drop => exact .inl he
  | removeNode | removeEdgesAt => exact .inl (List.mem_of_mem_filter he)
  | removeEdge => exact .inl (List.mem_of_mem_eraseP he)
  | addEdges | replace => exact hcanvas.elim
  | reset => exact (List.not_mem_nil he).elim
  | @connect _ c stamp edges planned =>
      obtain rfl : _ = registry := hcanvas
      exact (List.mem_append.mp he).imp_right fun hnew => ⟨c, stamp, edges, planned, hnew, rfl⟩

/-- An edit on the canvas keeps the kinds of the edges right. -/
theorem Commits.kindsFit (h : edit.Commits g g') (hcanvas : edit.OnCanvas registry)
    (hg : g.WellFormed) (hfit : g.KindsFit registry) : g'.KindsFit registry := by
  intro e he
  obtain hold | ⟨c, stamp, edges, hplan, hnew, hnodes⟩ := h.mem_or_planned hcanvas he
  · have hafter := (h.wellFormed hg).target_mem e he
    rw [h.isToolAt_eq hcanvas hg (hg.target_mem e hold) hafter]
    exact hfit e hold
  · rw [Registry.isToolAt_congr hnodes]
    exact Registry.kind_of_mem_plan hplan e hnew

end Edit

/-- **After every run on the canvas** an edge is conditional if the category of
the node it leads to is that of tools, and simple otherwise. -/
theorem Store.kinds_fit (registry : Registry) (edits : List Edit)
    (hcanvas : ∀ edit ∈ edits, edit.OnCanvas registry) :
    ∀ e ∈ (new.run edits).graph.edges, ∃ target,
      (new.run edits).graph.node? e.target = some target ∧
        e.kind = if registry.categoryOf target = some .tools then .conditional else .simple := by
  have hempty : Graph.empty.KindsFit registry := fun e he => (List.not_mem_nil he).elim
  obtain ⟨hg, hfit⟩ := holds_run_new (Graph.KindsFit registry)
    (fun edit hedit _ _ hcommits => hcommits.kindsFit (hcanvas edit hedit)) hempty
  intro e he
  obtain ⟨target, htarget⟩ := Graph.exists_node? (hg.target_mem e he)
  refine ⟨target, htarget, ?_⟩
  rw [hfit e he, Registry.isToolAt, htarget, Option.any_some, Registry.isTool,
    Connection.kindToward]
  simp only [beq_iff_eq]

/-- A tool goes, and an output comes under its id: the new edge to it is simple. -/
theorem Store.kinds_fit_after_return :
    let edits : List Edit :=
      [.addNode (.new ⟨"a"⟩ "agent" .origin), .addNode (.new ⟨"b"⟩ "tavily" .origin),
        .addNode (.new ⟨"c"⟩ "tavily" .origin), .fillDefaults ⟨"b"⟩,
        .connect .builtin ⟨⟨"a"⟩, none, ⟨"b"⟩, none⟩ ⟨"1"⟩,
        .connect .builtin ⟨⟨"a"⟩, none, ⟨"c"⟩, none⟩ ⟨"2"⟩,
        .removeNode ⟨"c"⟩, .addNode (.new ⟨"c"⟩ "chatOutput" .origin),
        .connect .builtin ⟨⟨"a"⟩, none, ⟨"c"⟩, none⟩ ⟨"3"⟩]
    let g := (new.run edits).graph
    (∀ edit ∈ edits, edit.OnCanvas .builtin) ∧
      g.edges.map (fun e => (e.target.text, e.kind)) =
        [("b", .conditional), ("a", .simple), ("c", .simple)] ∧
      ∀ e ∈ g.edges, ∃ target, g.node? e.target = some target ∧ e.kind =
        if Registry.builtin.categoryOf target = some .tools then .conditional else .simple := by
  intro edits g
  have hcanvas : ∀ edit ∈ edits, edit.OnCanvas .builtin := by simp [edits, Edit.OnCanvas]
  exact ⟨hcanvas, by decide +kernel, kinds_fit .builtin edits hcanvas⟩

/-! ## pairs of edges -/

namespace Graph

variable {registry : Registry} {g : Graph} {c : Connection}

/-- How many edges make a connection. -/
def edgesAlong (g : Graph) (c : Connection) : Nat := g.edges.countP fun e => e.connection = c

/-- Connections that end at a tool are made as often one way as the other. -/
def Paired (registry : Registry) (g : Graph) : Prop :=
  ∀ c, (registry.isToolAt g c.source || registry.isToolAt g c.target) = true →
    g.edgesAlong c = g.edgesAlong c.reversed

theorem WellFormed.edgesAlong_eq_zero (hg : g.WellFormed)
    (h : c.source ∉ g.nodes.map Node.id ∨ c.target ∉ g.nodes.map Node.id) :
    g.edgesAlong c = 0 := by
  refine List.countP_eq_zero.mpr fun e he hec => ?_
  obtain rfl := of_decide_eq_true hec
  exact h.elim (absurd (hg.source_mem e he)) (absurd (hg.target_mem e he))

/-- Without the edges at a node a connection is made as often as before, or ends there. -/
theorem countP_away (g : Graph) (id : NodeId) (c : Connection) :
    ((g.edges.filter fun e => !e.touches id).countP fun e => e.connection = c) =
      if c.source = id ∨ c.target = id then 0 else g.edgesAlong c := by
  rw [List.countP_filter]
  split
  · next hends =>
    refine List.countP_eq_zero.mpr fun e _ hec => ?_
    rw [Bool.and_eq_true, decide_eq_true_eq] at hec
    obtain ⟨rfl, haway⟩ := hec
    simp [touches_iff.mpr hends] at haway
  · next hends =>
    refine List.countP_congr fun e _ => ?_
    rw [Bool.and_eq_true, decide_eq_true_eq]
    refine ⟨And.left, fun hec => ⟨hec, ?_⟩⟩
    subst hec
    rw [Bool.not_eq_true', ← Bool.not_eq_true, touches_iff]
    exact hends

end Graph

namespace Edit

open WorkflowEditor.Graph

variable {registry : Registry} {g g' : Graph} {edit : Edit}

/-- A connection at a tool of the new graph is paired in the old one: at a node
that was not there no edge ended. -/
theorem Commits.edgesAlong_before (h : edit.Commits g g') (hcanvas : edit.OnCanvas registry)
    (hg : g.WellFormed) (hpaired : g.Paired registry) {c : Connection}
    (htool : (registry.isToolAt g' c.source || registry.isToolAt g' c.target) = true) :
    g.edgesAlong c = g.edgesAlong c.reversed := by
  have hstays : ∀ {id}, id ∈ g.nodes.map Node.id → registry.isToolAt g' id = true →
      registry.isToolAt g id = true :=
    fun hid ht => (h.isToolAt_eq hcanvas hg hid (Registry.mem_of_isToolAt ht)).symm.trans ht
  by_cases hends : c.source ∈ g.nodes.map Node.id ∧ c.target ∈ g.nodes.map Node.id
  · refine hpaired c ?_
    rw [Bool.or_eq_true] at htool ⊢
    exact htool.imp (hstays hends.1) (hstays hends.2)
  · rw [not_and_or] at hends
    rw [hg.edgesAlong_eq_zero hends, hg.edgesAlong_eq_zero (c := c.reversed) hends.symm]

/-- An edit on the canvas, if it takes out no single edge, keeps the edges at tools paired. -/
theorem Commits.paired (h : edit.Commits g g') (hcanvas : edit.OnCanvas registry)
    (hwhole : ∀ id, edit ≠ .removeEdge id) (hg : g.WellFormed) (hpaired : g.Paired registry) :
    g'.Paired registry := by
  intro c htool
  have hbefore := h.edgesAlong_before hcanvas hg hpaired htool
  cases h with
  | addNode | updateData | moveNode | fillDefaults | drop => exact hbefore
  | @removeNode id | @removeEdgesAt id =>
      rw [edgesAlong, edgesAlong, countP_away, countP_away, hbefore]
      exact if_congr or_comm rfl rfl
  | removeEdge => exact absurd rfl (hwhole _)
  | addEdges | replace => exact hcanvas.elim
  | reset => rfl
  | connect planned =>
      obtain rfl : _ = registry := hcanvas
      rw [edgesAlong, edgesAlong, List.countP_append, List.countP_append,
        Registry.countP_plan planned htool]
      exact congrArg (· + _) hbefore

end Edit

/-- **After every run on the canvas** that takes out no single edge, as many
edges lead from one node to another as back, with the handles swapped, if one
of the two is a tool. -/
theorem Store.tools_paired (registry : Registry) (edits : List Edit)
    (hcanvas : ∀ edit ∈ edits, edit.OnCanvas registry)
    (hwhole : ∀ edit ∈ edits, ∀ id, edit ≠ .removeEdge id) :
    ∀ a ∈ (new.run edits).graph.nodes, ∀ b ∈ (new.run edits).graph.nodes,
      registry.categoryOf a = some .tools ∨ registry.categoryOf b = some .tools →
        ∀ h k, (new.run edits).graph.edgesAlong ⟨a.id, h, b.id, k⟩ =
          (new.run edits).graph.edgesAlong ⟨b.id, k, a.id, h⟩ := by
  have hempty : Graph.empty.Paired registry := fun _ _ => rfl
  obtain ⟨hg, hpaired⟩ := holds_run_new (Graph.Paired registry)
    (fun edit hedit _ _ hcommits => hcommits.paired (hcanvas edit hedit) (hwhole edit hedit))
    hempty
  intro a ha b hb htool h k
  refine hpaired ⟨a.id, h, b.id, k⟩ ?_
  rw [Bool.or_eq_true, Registry.isToolAt, Registry.isToolAt, hg.node?_id ha, hg.node?_id hb]
  exact htool.imp beq_iff_eq.mpr beq_iff_eq.mpr

/-- A tool connected to itself and to an agent, once with an empty handle name. -/
theorem Store.tools_paired_at_itself :
    let edits : List Edit :=
      [.addNode (.new ⟨"a"⟩ "agent" .origin), .addNode (.new ⟨"b"⟩ "tavily" .origin),
        .connect .builtin ⟨⟨"b"⟩, some "out", ⟨"b"⟩, some ""⟩ ⟨"1"⟩,
        .connect .builtin ⟨⟨"a"⟩, some "", ⟨"b"⟩, some "in"⟩ ⟨"2"⟩]
    let g := (new.run edits).graph
    (∀ edit ∈ edits, edit.OnCanvas .builtin) ∧ (∀ edit ∈ edits, ∀ id, edit ≠ .removeEdge id) ∧
      g.edgesAlong ⟨⟨"b"⟩, none, ⟨"b"⟩, some "out"⟩ = 1 ∧
      g.edgesAlong ⟨⟨"a"⟩, none, ⟨"b"⟩, some "in"⟩ = 1 ∧
      ∀ a ∈ g.nodes, ∀ b ∈ g.nodes, Registry.builtin.categoryOf a = some .tools ∨
        Registry.builtin.categoryOf b = some .tools →
        ∀ h k, g.edgesAlong ⟨a.id, h, b.id, k⟩ = g.edgesAlong ⟨b.id, k, a.id, h⟩ := by
  intro edits g
  have hcanvas : ∀ edit ∈ edits, edit.OnCanvas .builtin := by simp [edits, Edit.OnCanvas]
  have hwhole : ∀ edit ∈ edits, ∀ id, edit ≠ .removeEdge id := by simp [edits]
  exact ⟨hcanvas, hwhole, by decide +kernel, by decide +kernel,
    tools_paired .builtin edits hcanvas hwhole⟩

end WorkflowEditor
