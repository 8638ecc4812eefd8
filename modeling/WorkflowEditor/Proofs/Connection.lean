import Mathlib.Data.List.Nodup
import WorkflowEditor.Proofs.Graph.Editing

/-!
# WorkflowEditor.Proofs.Connection

The edges that a connection stands for, said by the tools among its ends alone.

* `Registry.plan_eq` — a plan fails at the first end that is missing, and
  otherwise only asks of each end whether it is a tool;
* `Registry.kind_of_mem_plan` — a planned edge is conditional exactly if it leads to a tool;
* `Registry.countP_plan` — at a tool as many edges are planned one way as the other;
* `Registry.bears_of_mem_plan`, `Registry.nodup_plan` — the ids of planned edges
  end with the stamp, and differ.
-/

namespace WorkflowEditor

/-! ## nodes that are found -/

namespace Graph

variable {g : Graph} {id : NodeId} {node : Node}

theorem node?_eq_none_iff : g.node? id = none ↔ id ∉ g.nodes.map Node.id := by
  simp [node?]

theorem mem_of_node? (h : g.node? id = some node) : node ∈ g.nodes ∧ node.id = id := by
  rw [node?] at h
  exact ⟨List.mem_of_find?_eq_some h, by simpa using List.find?_some h⟩

theorem exists_node? (h : id ∈ g.nodes.map Node.id) : ∃ node, g.node? id = some node := by
  rw [← Option.ne_none_iff_exists', Ne, node?_eq_none_iff]
  exact not_not.mpr h

/-- In a graph without an id twice a node is found under its id. -/
theorem WellFormed.node?_id (hg : g.WellFormed) (h : node ∈ g.nodes) :
    g.node? node.id = some node := by
  obtain ⟨found, hfound⟩ := exists_node? (List.mem_map_of_mem (f := Node.id) h)
  obtain ⟨hmem, hid⟩ := mem_of_node? hfound
  rw [hfound, List.inj_on_of_nodup_map hg.nodup_nodes hmem h hid]

end Graph

/-! ## stamps in ids -/

/-- The id ends with the stamp. -/
def Id.Bears (id : Id subject) (stamp : Stamp) : Prop := ∃ front, id.text = front ++ stamp.text

/-- Of stamps of one length an id bears at most one. -/
theorem Id.Bears.unique {id : Id subject} {s t : Stamp} (hs : id.Bears s) (ht : id.Bears t)
    (hlength : s.text.length = t.text.length) : s = t := by
  obtain ⟨a, hs⟩ := hs
  obtain ⟨b, ht⟩ := ht
  have happend : a.toList ++ s.text.toList = b.toList ++ t.text.toList := by
    rw [← String.toList_append, ← String.toList_append, ← hs, ← ht]
  rw [← String.length_toList, ← String.length_toList] at hlength
  have hsame := (List.append_inj' happend hlength).2
  exact congrArg Stamp.mk (String.toList_inj.mp hsame)

theorem NodeId.bears_mint (typeId : String) (stamp : Stamp) :
    (NodeId.mint typeId stamp).Bears stamp :=
  ⟨_, rfl⟩

/-! ## edges and connections -/

/-- The connection that an edge makes. -/
def Edge.connection (e : Edge) : Connection := ⟨e.source, e.sourceHandle, e.target, e.targetHandle⟩

namespace Connection

theorem reversed_eq_iff {c d : Connection} : c.reversed = d ↔ c = d.reversed :=
  ⟨congrArg reversed, congrArg reversed⟩

/-- The connection with no handle in place of one with an empty name. -/
def normal (c : Connection) : Connection :=
  ⟨c.source, named c.sourceHandle, c.target, named c.targetHandle⟩

theorem normal_reversed (c : Connection) : c.reversed.normal = c.normal.reversed := rfl

@[simp] theorem connection_single (c : Connection) (stamp : Stamp) :
    (c.single stamp).connection = c.normal := rfl

@[simp] theorem connection_half (c : Connection) (direction : String) (targetIsTool : Bool)
    (stamp : Stamp) : (c.half direction targetIsTool stamp).connection = c.normal := rfl

/-- The edges of a connection, when it is known of each end whether it is a tool. -/
def edges (c : Connection) (sourceIsTool targetIsTool : Bool) (stamp : Stamp) : List Edge :=
  if !sourceIsTool && !targetIsTool then [c.single stamp]
  else [c.half "forward" targetIsTool stamp, c.reversed.half "backward" sourceIsTool stamp]

variable {c : Connection} {sourceIsTool targetIsTool : Bool} {stamp : Stamp} {e : Edge}

/-- An edge of a connection leads from one of its ends to the other, and its kind
tells whether the end it leads to is a tool. -/
theorem of_mem_edges (h : e ∈ c.edges sourceIsTool targetIsTool stamp) :
    (e.source = c.source ∧ e.target = c.target ∧ e.kind = kindToward targetIsTool) ∨
      (e.source = c.target ∧ e.target = c.source ∧ e.kind = kindToward sourceIsTool) := by
  rw [edges] at h
  split at h
  · next hplain =>
    rw [Bool.and_eq_true, Bool.not_eq_true', Bool.not_eq_true'] at hplain
    obtain rfl := List.mem_singleton.mp h
    exact .inl ⟨rfl, rfl, congrArg kindToward hplain.2.symm⟩
  · obtain rfl | h := List.mem_cons.mp h
    · exact .inl ⟨rfl, rfl, rfl⟩
    · obtain rfl := List.mem_singleton.mp h
      exact .inr ⟨rfl, rfl, rfl⟩

/-! ## ids of planned edges -/

theorem bears_of_mem_edges (h : e ∈ c.edges sourceIsTool targetIsTool stamp) :
    e.id.Bears stamp := by
  rw [edges] at h
  split at h
  · obtain rfl := List.mem_singleton.mp h
    exact ⟨_, rfl⟩
  · obtain rfl | h := List.mem_cons.mp h
    · exact ⟨_, rfl⟩
    · obtain rfl := List.mem_singleton.mp h
      exact ⟨_, rfl⟩

/-- The two edges of a pair have different ids: before the stamp they have
different directions, of which neither ends with the other. -/
theorem id_half_ne (c d : Connection) (a b : Bool) :
    (c.half "forward" a stamp).id ≠ (d.half "backward" b stamp).id := by
  intro heq
  have htext := congrArg (fun id : EdgeId => id.text.toList) heq
  simp only [half, String.toList_append] at htext
  have hdirection := List.append_cancel_right (List.append_cancel_right htext)
  have hforward : "forward".toList = ['f', 'o', 'r', 'w', 'a', 'r', 'd'] := rfl
  have hbackward : "backward".toList = ['b'] ++ ['a', 'c', 'k', 'w', 'a', 'r', 'd'] := rfl
  rw [hforward, hbackward, ← List.append_assoc] at hdirection
  exact absurd (List.append_inj' hdirection rfl).2 (by decide)

theorem nodup_edges (c : Connection) (sourceIsTool targetIsTool : Bool) (stamp : Stamp) :
    ((c.edges sourceIsTool targetIsTool stamp).map Edge.id).Nodup := by
  rw [edges]
  split
  · exact List.nodup_singleton _
  · rw [List.map_cons, List.map_singleton, List.nodup_cons, List.mem_singleton]
    exact ⟨id_half_ne _ _ _ _, List.nodup_singleton _⟩

end Connection

/-! ## plans -/

namespace Registry

/-- Is there a node with an id, and is it a tool? -/
def isToolAt (registry : Registry) (g : Graph) (id : NodeId) : Bool :=
  (g.node? id).any registry.isTool

variable {registry : Registry} {g : Graph} {c : Connection} {stamp : Stamp} {edges : List Edge}

/-- A plan fails at the first end that is missing, and otherwise only asks of
each end whether it is a tool. -/
theorem plan_eq (registry : Registry) (g : Graph) (c : Connection) (stamp : Stamp) :
    registry.plan g c stamp =
      if c.source ∉ g.nodes.map Node.id then .error (.nodeNotFound c.source)
      else if c.target ∉ g.nodes.map Node.id then .error (.nodeNotFound c.target)
      else .ok (c.edges (registry.isToolAt g c.source) (registry.isToolAt g c.target) stamp) := by
  simp only [← Graph.node?_eq_none_iff, plan, resolve, isToolAt]
  cases g.node? c.source with
  | none => rfl
  | some source => cases g.node? c.target with
    | none => rfl
    | some target =>
        simp only [bind, Except.bind, pure, Except.pure, Connection.edges, Option.any_some,
          reduceCtorEq, if_false]
        split <;> rfl

theorem plan_eq_ok_iff : registry.plan g c stamp = .ok edges ↔
    c.source ∈ g.nodes.map Node.id ∧ c.target ∈ g.nodes.map Node.id ∧
      c.edges (registry.isToolAt g c.source) (registry.isToolAt g c.target) stamp = edges := by
  rw [plan_eq]
  split
  · next hsource => simp [hsource]
  · next hsource =>
    split
    · next htarget => simp [htarget]
    · next htarget => simp [not_not.mp hsource, not_not.mp htarget]

/-- **A planned edge is conditional** exactly if it leads to a tool. -/
theorem kind_of_mem_plan (h : registry.plan g c stamp = .ok edges) :
    ∀ e ∈ edges, e.kind = Connection.kindToward (registry.isToolAt g e.target) := by
  obtain ⟨-, -, rfl⟩ := plan_eq_ok_iff.mp h
  intro e he
  obtain ⟨-, hto, hkind⟩ | ⟨-, hto, hkind⟩ := Connection.of_mem_edges he
  · rw [hkind, hto]
  · rw [hkind, hto]

/-- **At a tool as many edges are planned** one way as the other. -/
theorem countP_plan (h : registry.plan g c stamp = .ok edges) {d : Connection}
    (htool : (registry.isToolAt g d.source || registry.isToolAt g d.target) = true) :
    (edges.countP fun e => e.connection = d) = edges.countP fun e => e.connection = d.reversed := by
  obtain ⟨-, -, rfl⟩ := plan_eq_ok_iff.mp h
  rw [Connection.edges]
  split
  · next hplain =>
    -- the one edge of the plan touches no tool, so it runs along `d` neither way
    rw [Bool.and_eq_true, Bool.not_eq_true', Bool.not_eq_true'] at hplain
    have haway : c.normal ≠ d := by
      rintro rfl
      simp [Connection.normal, hplain] at htool
    have hback : c.normal ≠ d.reversed := by
      intro heq
      obtain rfl := Connection.reversed_eq_iff.mpr heq
      simp [Connection.normal, Connection.reversed, hplain] at htool
    simp [haway, hback]
  · have hforth : c.normal.reversed = d ↔ c.normal = d.reversed := Connection.reversed_eq_iff
    have hback : c.normal.reversed = d.reversed ↔ c.normal = d := Connection.reversed_eq_iff
    simp only [List.countP_cons, List.countP_nil, Connection.connection_half,
      Connection.normal_reversed]
    simp only [hforth, hback, Nat.zero_add]
    exact Nat.add_comm _ _

theorem hasEnds_of_mem_plan (h : registry.plan g c stamp = .ok edges) :
    ∀ e ∈ edges, g.hasEnds e = true := by
  obtain ⟨hsource, htarget, rfl⟩ := plan_eq_ok_iff.mp h
  intro e he
  rw [Graph.hasEnds_iff]
  obtain ⟨hfrom, hto, -⟩ | ⟨hfrom, hto, -⟩ := Connection.of_mem_edges he
  · exact ⟨hfrom ▸ hsource, hto ▸ htarget⟩
  · exact ⟨hfrom ▸ htarget, hto ▸ hsource⟩

theorem bears_of_mem_plan (h : registry.plan g c stamp = .ok edges) :
    ∀ e ∈ edges, e.id.Bears stamp := by
  obtain ⟨-, -, rfl⟩ := plan_eq_ok_iff.mp h
  exact fun e he => Connection.bears_of_mem_edges he

theorem extra_of_mem_plan (h : registry.plan g c stamp = .ok edges) :
    ∀ e ∈ edges, e.extra = [] := by
  obtain ⟨-, -, rfl⟩ := plan_eq_ok_iff.mp h
  rw [Connection.edges]
  split
  · simp [Connection.single]
  · simp [Connection.half]

theorem nodup_plan (h : registry.plan g c stamp = .ok edges) : (edges.map Edge.id).Nodup := by
  obtain ⟨-, -, rfl⟩ := plan_eq_ok_iff.mp h
  exact Connection.nodup_edges _ _ _ _

end Registry

end WorkflowEditor
