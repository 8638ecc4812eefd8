import WorkflowEditor.Proofs.Category
import WorkflowEditor.Proofs.Connection

/-!
# WorkflowEditor.Proofs.Connection.Planning

Plans told in full: which edges a connection stands for, from the nodes that
are found at its ends and the categories they are filed under.

* `Connection.draws_half`, `Connection.draws_single` — a planned edge is the
  connection drawn, with an empty handle left out;
* `Registry.plan_of_connection` — the plan of a connection, and of the
  connection drawn the other way.
-/

namespace WorkflowEditor

/-- The edge is the connection drawn, where a handle with an empty name is
none; it is conditional if it leads to a tool and simple if it does not. -/
structure Edge.Draws (e : Edge) (c : Connection) (toTool : Prop) : Prop where
  source : e.source = c.source
  target : e.target = c.target
  sourceHandle : ∀ name, e.sourceHandle = some name ↔ c.sourceHandle = some name ∧ name ≠ ""
  targetHandle : ∀ name, e.targetHandle = some name ↔ c.targetHandle = some name ∧ name ≠ ""
  conditional : toTool → e.kind = .conditional
  simple : ¬toTool → e.kind = .simple
  extra : e.extra = []

namespace Connection

variable {c : Connection} {stamp : Stamp}

theorem named_eq_some_iff {handle : Option String} {name : String} :
    named handle = some name ↔ handle = some name ∧ name ≠ "" := by
  rw [named, Option.filter_eq_some_iff, Bool.not_eq_true', String.isEmpty_eq_false_iff]

theorem draws_single (c : Connection) (stamp : Stamp) : (c.single stamp).Draws c False where
  source := rfl
  target := rfl
  sourceHandle _ := named_eq_some_iff
  targetHandle _ := named_eq_some_iff
  conditional := False.elim
  simple _ := rfl
  extra := rfl

theorem draws_half {toTool : Prop} {targetIsTool : Bool} (h : targetIsTool = true ↔ toTool)
    (c : Connection) (direction : String) (stamp : Stamp) :
    (c.half direction targetIsTool stamp).Draws c toTool where
  source := rfl
  target := rfl
  sourceHandle _ := named_eq_some_iff
  targetHandle _ := named_eq_some_iff
  conditional htool := by rw [half, h.mpr htool, kindToward, if_pos rfl]
  simple hplain := by rw [half, kindToward, if_neg (mt h.mp hplain)]
  extra := rfl

/-- A connection with a tool at an end is a pair of edges. -/
theorem edges_of_tool {sourceIsTool targetIsTool : Bool}
    (h : sourceIsTool = true ∨ targetIsTool = true) (c : Connection) (stamp : Stamp) :
    c.edges sourceIsTool targetIsTool stamp =
      [c.half "forward" targetIsTool stamp, c.reversed.half "backward" sourceIsTool stamp] := by
  rw [edges, if_neg]
  obtain rfl | rfl := h
  · simp
  · simp

end Connection

namespace Registry

variable {registry : Registry} {g : Graph} {c : Connection} {source target : Node}

/-- With a node found at each end the plan depends on the two categories only. -/
theorem plan_of_found (hsource : g.node? c.source = some source)
    (htarget : g.node? c.target = some target) (stamp : Stamp) :
    registry.plan g c stamp =
      .ok (c.edges (registry.isTool source) (registry.isTool target) stamp) := by
  obtain ⟨hmem, hid⟩ := Graph.mem_of_node? hsource
  obtain ⟨hmem', hid'⟩ := Graph.mem_of_node? htarget
  rw [plan_eq, if_neg (not_not.mpr (hid ▸ List.mem_map_of_mem hmem)),
    if_neg (not_not.mpr (hid' ▸ List.mem_map_of_mem hmem')), isToolAt, isToolAt, hsource, htarget]
  rfl

/-- **The plan of a connection.**  An end that is missing is an error, the
source's first.  Between two nodes of which neither is filed under the tools it
is one simple edge; otherwise it is the connection drawn and its edge back,
each conditional exactly if it leads to a tool.  Drawn the other way such a
connection has the same two edges in the opposite roles, their ids aside. -/
theorem plan_of_connection (registry : Registry) (g : Graph) (c : Connection) (stamp : Stamp) :
    (c.source ∉ g.nodes.map Node.id →
      registry.plan g c stamp = .error (.nodeNotFound c.source)) ∧
    (c.source ∈ g.nodes.map Node.id → c.target ∉ g.nodes.map Node.id →
      registry.plan g c stamp = .error (.nodeNotFound c.target)) ∧
    (c.source ∈ g.nodes.map Node.id → c.target ∈ g.nodes.map Node.id →
      ∃ source target, g.node? c.source = some source ∧ g.node? c.target = some target ∧
        (¬registry.Files source .tools ∧ ¬registry.Files target .tools →
          ∃ edge, registry.plan g c stamp = .ok [edge] ∧ edge.Draws c False) ∧
        (registry.Files source .tools ∨ registry.Files target .tools →
          ∃ forward backward, registry.plan g c stamp = .ok [forward, backward] ∧
            forward.Draws c (registry.Files target .tools) ∧
            backward.Draws c.reversed (registry.Files source .tools) ∧
            backward.connection = forward.connection.reversed ∧
            ∀ again, ∃ forward' backward',
              registry.plan g c.reversed again = .ok [forward', backward'] ∧
                forward' = { backward with id := forward'.id } ∧
                backward' = { forward with id := backward'.id })) := by
  refine ⟨fun hmissing => ?_, fun hsource hmissing => ?_, fun hsource htarget => ?_⟩
  · rw [plan_eq, if_pos hmissing]
  · rw [plan_eq, if_neg (not_not.mpr hsource), if_pos hmissing]
  obtain ⟨source, hsource⟩ := Graph.exists_node? hsource
  obtain ⟨target, htarget⟩ := Graph.exists_node? htarget
  refine ⟨source, target, hsource, htarget, ?_, ?_⟩
  · rintro ⟨hsourceTool, htargetTool⟩
    rw [← isTool_iff, Bool.not_eq_true] at hsourceTool htargetTool
    refine ⟨c.single stamp, ?_, c.draws_single stamp⟩
    rw [plan_of_found hsource htarget, hsourceTool, htargetTool]
    rfl
  · intro htool
    rw [← isTool_iff, ← isTool_iff] at htool
    refine ⟨_, _, ?_, c.draws_half isTool_iff "forward" stamp,
      c.reversed.draws_half isTool_iff "backward" stamp, rfl, fun again => ?_⟩
    · rw [plan_of_found hsource htarget, Connection.edges_of_tool htool]
    · -- the source of the connection drawn the other way is the target found above
      have hback : registry.plan g c.reversed again = .ok _ := plan_of_found htarget hsource again
      rw [Connection.edges_of_tool htool.symm] at hback
      exact ⟨_, _, hback, rfl, rfl⟩

/-- The data of the target names the tools by their heading, between blanks; the
data of the source names no category, so that its type decides. -/
theorem plan_of_connection_to_heading :
    let caller := (Node.new ⟨"caller"⟩ "agent" .origin).withCategory "Agents"
    let helper := (Node.new ⟨"helper"⟩ "note" .origin).withCategory " Tools & Integrations\t"
    let g : Graph := { nodes := [caller, helper], edges := [] }
    let c : Connection := ⟨⟨"caller"⟩, some "", ⟨"helper"⟩, some "in"⟩
    c.source ∈ g.nodes.map Node.id ∧ c.target ∈ g.nodes.map Node.id ∧
      builtin.Files caller .aiAgents ∧ builtin.Files helper .tools ∧
      ∃ forward backward, builtin.plan g c ⟨"7"⟩ = .ok [forward, backward] ∧
        forward.sourceHandle = none ∧ backward.sourceHandle = some "in" ∧
        forward.kind = .conditional ∧ backward.kind = .simple := by
  intro caller helper g c
  have hsource : c.source ∈ g.nodes.map Node.id := by decide
  have htarget : c.target ∈ g.nodes.map Node.id := by decide
  have hcaller : builtin.Files caller .aiAgents := categoryOf_eq_some_iff.mp (by decide)
  have hhelper : builtin.Files helper .tools := categoryOf_eq_some_iff.mp (by decide)
  obtain ⟨-, -, hfound⟩ := builtin.plan_of_connection g c ⟨"7"⟩
  obtain ⟨source, target, hfirst, hsecond, -, hpair⟩ := hfound hsource htarget
  obtain rfl : caller = source := Option.some.inj hfirst
  obtain rfl : helper = target := Option.some.inj hsecond
  obtain ⟨forward, backward, hplan, hforward, hbackward, -⟩ := hpair (.inr hhelper)
  have hplain : ¬builtin.Files caller .tools := by
    rw [← categoryOf_eq_some_iff, categoryOf_eq_some_iff.mpr hcaller]
    decide
  have hempty : forward.sourceHandle = none := by
    rw [Option.eq_none_iff_forall_ne_some]
    intro name hname
    obtain ⟨hdrawn, hnonempty⟩ := (hforward.sourceHandle name).mp hname
    exact hnonempty (Option.some.inj hdrawn).symm
  exact ⟨hsource, htarget, hcaller, hhelper, forward, backward, hplan, hempty,
    (hbackward.sourceHandle "in").mpr ⟨rfl, by decide⟩, hforward.conditional hhelper,
    hbackward.simple hplain⟩

end Registry

end WorkflowEditor
