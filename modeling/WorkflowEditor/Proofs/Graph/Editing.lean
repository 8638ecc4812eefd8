import WorkflowEditor.Graph.Store
import WorkflowEditor.Proofs.Basic

/-!
# WorkflowEditor.Proofs.Graph.Editing

When an edit succeeds, and with which graph.  Each function that edits a graph
has one lemma that says so (`addNode_eq_ok_iff`, `addEdges_eq_ok_iff`, …), and
an edit as a value has one rule for the graph it commits.

* `Edit.Commits` — the graphs that an edit can commit, and why it could;
* `Edit.commits_of_perform` — an edit commits no other;
* `Store.holds_run` — what every commit of a run keeps, the run keeps.
-/

namespace WorkflowEditor

namespace Graph

/-! ## looking up -/

theorem contains_iff {g : Graph} {id : NodeId} :
    g.contains id = true ↔ id ∈ g.nodes.map Node.id := by
  simp [contains]

theorem hasEnds_iff {g : Graph} {e : Edge} :
    g.hasEnds e = true ↔ e.source ∈ g.nodes.map Node.id ∧ e.target ∈ g.nodes.map Node.id := by
  rw [hasEnds, Bool.and_eq_true, contains_iff, contains_iff]

theorem touches_iff {e : Edge} {id : NodeId} :
    e.touches id = true ↔ e.source = id ∨ e.target = id := by
  simp [Edge.touches]

/-! ## when an edit succeeds -/

theorem addNode_eq_ok_iff {g g' : Graph} {node : Node} :
    g.addNode node = .ok g' ↔
      node.id ∉ g.nodes.map Node.id ∧ g' = { g with nodes := g.nodes ++ [node] } := by
  rw [addNode, ← contains_iff]
  split
  · next h => simp [h]
  · next h => simp [h, eq_comm]

theorem removeNode?_eq_some_iff {g g' : Graph} {id : NodeId} {node : Node} :
    g.removeNode? id = some (node, g') ↔ g.node? id = some node ∧
      g' = ⟨g.nodes.eraseP fun n => n.id == id, g.edges.filter fun e => !e.touches id⟩ := by
  rw [removeNode?]
  cases g.node? id with
  | none => simp
  | some found => simp [eq_comm]

theorem updateData_eq_ok_iff {g g' : Graph} {id : NodeId} {overlay : Fields} :
    g.updateData id overlay = .ok g' ↔ id ∈ g.nodes.map Node.id ∧
      g' = g.updateNode id fun n => { n with data := n.data.extend overlay } := by
  rw [updateData, ← contains_iff]
  split
  · next h => simp [h, eq_comm]
  · next h => simp [h]

theorem moveNode_eq_ok_iff {g g' : Graph} {id : NodeId} {position : Position} :
    g.moveNode id position = .ok g' ↔ id ∈ g.nodes.map Node.id ∧
      g' = g.updateNode id fun n => { n with position := position } := by
  rw [moveNode, ← contains_iff]
  split
  · next h => simp [h, eq_comm]
  · next h => simp [h]

/-- Filling in defaults commits a graph exactly when the node is there and lacks some. -/
theorem fillDefaults_eq_some_iff {g g' : Graph} {id : NodeId} :
    g.fillDefaults id = .ok (some g') ↔ ∃ node, g.node? id = some node ∧
      missingDefaults node ≠ [] ∧
      g' = g.updateNode id fun n => { n with data := n.data.extend (missingDefaults node) } := by
  rw [fillDefaults]
  cases hnode : g.node? id with
  | none => simp
  | some node => cases hmissing : missingDefaults node with
    | nil => simp [hmissing]
    | cons f rest =>
        constructor
        · intro hfill
          simp only [hmissing, Except.ok.injEq, Option.some.injEq] at hfill
          exact ⟨node, rfl, by simp [hmissing], by rw [hmissing, hfill]⟩
        · rintro ⟨found, hfound, -, rfl⟩
          cases hfound
          simp [hmissing]

/-- Edges that can be added at once: their ends are there, and no id is taken. -/
structure Addable (g : Graph) (edges : List Edge) : Prop where
  ends : ∀ e ∈ edges, g.hasEnds e = true
  nodup : (edges.map Edge.id).Nodup
  fresh : ∀ e ∈ edges, e.id ∉ g.edges.map Edge.id

theorem checkEdges_eq_ok_iff {g : Graph} {taken : List EdgeId} {edges : List Edge} :
    g.checkEdges taken edges = .ok () ↔
      (∀ e ∈ edges, g.hasEnds e = true) ∧ (edges.map Edge.id).Nodup ∧
        ∀ e ∈ edges, e.id ∉ taken := by
  induction edges generalizing taken with
  | nil => simp [checkEdges]
  | cons e rest ih =>
      rw [checkEdges]
      split
      · next hsource => grind [hasEnds]
      · split
        · next htarget => grind [hasEnds]
        · split
          · next htaken => grind
          · next hsource htarget hfresh =>
            rw [ih, List.map_cons, List.nodup_cons]
            grind [hasEnds]

theorem addable_iff_checkEdges {g : Graph} {edges : List Edge} :
    g.Addable edges ↔ g.checkEdges (g.edges.map Edge.id) edges = .ok () := by
  rw [checkEdges_eq_ok_iff]
  exact ⟨fun h => ⟨h.ends, h.nodup, h.fresh⟩,
    fun ⟨hends, hnodup, hfresh⟩ => ⟨hends, hnodup, hfresh⟩⟩

theorem addEdges_eq_ok_iff {g g' : Graph} {edges : List Edge} :
    g.addEdges edges = .ok g' ↔ g.Addable edges ∧ g' = { g with edges := g.edges ++ edges } := by
  rw [addable_iff_checkEdges, addEdges]
  cases g.checkEdges (g.edges.map Edge.id) edges with
  | error e => simp
  | ok u => simp [eq_comm]

theorem removeEdge?_eq_some_iff {g g' : Graph} {id : EdgeId} {edge : Edge} :
    g.removeEdge? id = some (edge, g') ↔ g.edge? id = some edge ∧
      g' = { g with edges := g.edges.eraseP fun e => e.id == id } := by
  rw [removeEdge?]
  cases g.edge? id with
  | none => simp
  | some found => simp [eq_comm]

end Graph

/-! ## edits as values -/

/-- The error that an edit was refused with. -/
def Answer.refusal? : Answer → Option GraphError
  | refused error => some error
  | _ => none

namespace Edit

open WorkflowEditor.Graph

theorem checked_eq_some_iff {result : Except GraphError Graph} {g : Graph} :
    (checked result).2 = some g ↔ result = .ok g := by
  cases result with
  | error e => simp [checked]
  | ok h => simp [checked]

/-- A connection commits a graph only by adding edges. -/
theorem connect_eq_ok_iff {registry : Registry} {g g' : Graph} {c : Connection} {stamp : Stamp}
    {edges : List Edge} :
    registry.connect g c stamp = .ok (edges, g') ↔
      registry.plan g c stamp = .ok edges ∧ g.addEdges edges = .ok g' := by
  rw [Registry.connect, bind_eq_ok_iff]
  constructor
  · rintro ⟨planned, hplan, hadd⟩
    obtain ⟨added, hadded, heq⟩ := bind_eq_ok_iff.mp hadd
    obtain ⟨rfl, rfl⟩ := Prod.mk.inj (pure_eq_ok_iff.mp heq)
    exact ⟨hplan, hadded⟩
  · rintro ⟨hplan, hadd⟩
    exact ⟨edges, hplan, bind_eq_ok_iff.mpr ⟨g', hadd, rfl⟩⟩

/-- A drop commits a graph only by adding a node. -/
theorem drop?_eq_some_iff {registry : Registry} {g g' : Graph} {payload : DragPayload}
    {place : Position} {stamp : Stamp} {node : Node} :
    registry.drop? g payload place stamp = some (node, g') ↔
      registry.dropped? payload place stamp = some node ∧ g.addNode node = .ok g' := by
  rw [Registry.drop?]
  cases hdropped : registry.dropped? payload place stamp with
  | none => simp
  | some dropped => cases hadd : g.addNode dropped with
    | error e => grind [Except.toOption]
    | ok added => grind [Except.toOption]

/-- The graph that an edit commits, and what makes it do so. -/
inductive Commits (g : Graph) : Edit → Graph → Prop
  | addNode {node : Node} (fresh : node.id ∉ g.nodes.map Node.id) :
      Commits g (.addNode node) { g with nodes := g.nodes ++ [node] }
  | removeNode {id : NodeId} {node : Node} (found : g.node? id = some node) :
      Commits g (.removeNode id)
        ⟨g.nodes.eraseP fun n => n.id == id, g.edges.filter fun e => !e.touches id⟩
  | addEdges {edges : List Edge} (any : edges ≠ []) (addable : g.Addable edges) :
      Commits g (.addEdges edges) { g with edges := g.edges ++ edges }
  | removeEdge {id : EdgeId} {edge : Edge} (found : g.edge? id = some edge) :
      Commits g (.removeEdge id) { g with edges := g.edges.eraseP fun e => e.id == id }
  | removeEdgesAt {id : NodeId} (any : g.degree id ≠ 0) :
      Commits g (.removeEdgesAt id) { g with edges := g.edges.filter fun e => !e.touches id }
  | updateData {id : NodeId} {overlay : Fields} (found : id ∈ g.nodes.map Node.id) :
      Commits g (.updateData id overlay)
        (g.updateNode id fun n => { n with data := n.data.extend overlay })
  | moveNode {id : NodeId} {position : Position} (found : id ∈ g.nodes.map Node.id) :
      Commits g (.moveNode id position) (g.updateNode id fun n => { n with position := position })
  | fillDefaults {id : NodeId} {node : Node} (found : g.node? id = some node)
      (any : missingDefaults node ≠ []) :
      Commits g (.fillDefaults id)
        (g.updateNode id fun n => { n with data := n.data.extend (missingDefaults node) })
  | replace {nodes : List Node} {edges : List Edge} :
      Commits g (.replace nodes edges) (sift nodes edges)
  | reset : Commits g .reset .empty
  | connect {registry : Registry} {c : Connection} {stamp : Stamp} {edges : List Edge}
      (planned : registry.plan g c stamp = .ok edges) (addable : g.Addable edges) :
      Commits g (.connect registry c stamp) { g with edges := g.edges ++ edges }
  | drop {registry : Registry} {payload : DragPayload} {point : Point}
      {toCanvas : Point → Position} {stamp : Stamp} {node : Node}
      (made : registry.dropped? payload (toCanvas point) stamp = some node)
      (fresh : node.id ∉ g.nodes.map Node.id) :
      Commits g (.drop registry payload point toCanvas stamp) { g with nodes := g.nodes ++ [node] }

/-- An edit commits the graph that its rule says, and no other. -/
theorem commits_of_perform {g g' : Graph} {edit : Edit} (h : (edit.perform g).2 = some g') :
    edit.Commits g g' := by
  cases edit with
  | addNode node =>
      obtain ⟨hfresh, rfl⟩ := addNode_eq_ok_iff.mp (checked_eq_some_iff.mp h)
      exact .addNode hfresh
  | removeNode id =>
      rw [perform] at h
      split at h
      · next node g₁ hremove =>
        cases h
        obtain ⟨hfound, rfl⟩ := removeNode?_eq_some_iff.mp hremove
        exact .removeNode hfound
      · cases h
  | addEdges edges =>
      rw [perform] at h
      split at h
      · next g₁ hadd =>
        obtain ⟨haddable, rfl⟩ := addEdges_eq_ok_iff.mp hadd
        split at h <;> cases h
        next hany => exact .addEdges (by simpa using hany) haddable
      · cases h
  | removeEdge id =>
      rw [perform] at h
      split at h
      · next edge g₁ hremove =>
        cases h
        obtain ⟨hfound, rfl⟩ := removeEdge?_eq_some_iff.mp hremove
        exact .removeEdge hfound
      · cases h
  | removeEdgesAt id =>
      rw [perform] at h
      split at h <;> cases h
      next hany => exact .removeEdgesAt hany
  | updateData id overlay =>
      obtain ⟨hfound, rfl⟩ := updateData_eq_ok_iff.mp (checked_eq_some_iff.mp h)
      exact .updateData hfound
  | moveNode id position =>
      obtain ⟨hfound, rfl⟩ := moveNode_eq_ok_iff.mp (checked_eq_some_iff.mp h)
      exact .moveNode hfound
  | fillDefaults id =>
      rw [perform] at h
      split at h
      · next g₁ hfill =>
        cases h
        obtain ⟨node, hfound, hany, rfl⟩ := fillDefaults_eq_some_iff.mp hfill
        exact .fillDefaults hfound hany
      · cases h
      · cases h
  | replace nodes edges =>
      cases h
      exact .replace
  | reset =>
      cases h
      exact .reset
  | connect registry connection stamp =>
      rw [perform] at h
      split at h
      · next edges g₁ hconnect =>
        cases h
        obtain ⟨hplan, hadd⟩ := connect_eq_ok_iff.mp hconnect
        obtain ⟨haddable, rfl⟩ := addEdges_eq_ok_iff.mp hadd
        exact .connect hplan haddable
      · cases h
  | drop registry payload point toCanvas stamp =>
      rw [perform] at h
      split at h
      · next node g₁ hdrop =>
        cases h
        obtain ⟨hmade, hadd⟩ := drop?_eq_some_iff.mp hdrop
        obtain ⟨hfresh, rfl⟩ := addNode_eq_ok_iff.mp hadd
        exact .drop hmade hfresh
      · cases h

end Edit

/-! ## runs -/

namespace Store

theorem run_cons (store : Store) (edit : Edit) (rest : List Edit) :
    store.run (edit :: rest) = (store.apply edit).2.run rest := rfl

theorem run_append (store : Store) (earlier later : List Edit) :
    store.run (earlier ++ later) = (store.run earlier).run later :=
  List.foldl_append

/-- An edit leaves the graph of a store, or commits a new one. -/
theorem graph_apply (store : Store) (edit : Edit) :
    (store.apply edit).2.graph = store.graph ∨
      edit.Commits store.graph (store.apply edit).2.graph := by
  rw [apply]
  split
  · next answer g hperform =>
    exact .inr (Edit.commits_of_perform (congrArg Prod.snd hperform))
  · exact .inl rfl

/-- What every commit of a run keeps, the run keeps. -/
theorem holds_run (holds : Graph → Prop) {edits : List Edit}
    (hkeep : ∀ edit ∈ edits, ∀ {g g' : Graph}, edit.Commits g g' → holds g → holds g')
    {store : Store} (h : holds store.graph) : holds (store.run edits).graph := by
  induction edits generalizing store with
  | nil => exact h
  | cons edit rest ih =>
      refine ih (fun later hlater => hkeep later (List.mem_cons_of_mem edit hlater)) ?_
      obtain hsame | hcommits := store.graph_apply edit
      · exact hsame ▸ h
      · exact hkeep edit List.mem_cons_self hcommits h

end Store

end WorkflowEditor
