import WorkflowEditor.Proofs.Graph.Editing

/-!
# WorkflowEditor.Proofs.Graph.Batch

Edges that are added in a batch, all or none.  The batch is gone through in
order, and every edge takes its id from those that come after it.  What is wrong
with an edge is its `Fault`, and a batch is refused for the first one.

* `checkEdges_of_fault`, `checkEdges_of_sound` — what one edge does to a check;
* `exists_fault_of_checkEdges` — a batch that is refused has a first edge at
  fault, and the error is its fault;
* `Store.adds_in_batch` — when a store takes a batch, and what becomes of it.
-/

namespace WorkflowEditor

namespace Graph

/-! ## one edge -/

/-- What keeps an edge from being added while some ids are taken: a missing
source, else a missing target, else an id that is taken. -/
inductive Fault (g : Graph) (taken : List EdgeId) (e : Edge) : GraphError → Prop
  | source (missing : e.source ∉ g.nodes.map Node.id) :
      Fault g taken e (.endpointMissing e.id e.source)
  | target (source : e.source ∈ g.nodes.map Node.id) (missing : e.target ∉ g.nodes.map Node.id) :
      Fault g taken e (.endpointMissing e.id e.target)
  | id (source : e.source ∈ g.nodes.map Node.id) (target : e.target ∈ g.nodes.map Node.id)
      (twice : e.id ∈ taken) : Fault g taken e (.duplicateEdge e.id)

variable {g : Graph} {taken : List EdgeId} {e : Edge} {rest edges : List Edge} {error : GraphError}

/-- An edge is at fault exactly if an end of it is missing or its id is taken. -/
theorem exists_fault_iff :
    (∃ error, g.Fault taken e error) ↔ ¬(g.hasEnds e = true ∧ e.id ∉ taken) := by
  rw [hasEnds_iff]
  constructor
  · rintro ⟨error, missing | ⟨source, missing⟩ | ⟨source, target, twice⟩⟩
      ⟨⟨hsource, htarget⟩, hfresh⟩
    · exact missing hsource
    · exact missing htarget
    · exact hfresh twice
  · intro hnot
    by_cases hsource : e.source ∈ g.nodes.map Node.id
    · by_cases htarget : e.target ∈ g.nodes.map Node.id
      · have htwice : e.id ∈ taken := not_not.mp fun hfresh => hnot ⟨⟨hsource, htarget⟩, hfresh⟩
        exact ⟨_, .id hsource htarget htwice⟩
      · exact ⟨_, .target hsource htarget⟩
    · exact ⟨_, .source hsource⟩

/-- Of the ids that are taken only that of the edge matters. -/
theorem Fault.mono {others : List EdgeId} (h : g.Fault taken e error)
    (hsame : e.id ∈ taken → e.id ∈ others) : g.Fault others e error := by
  cases h with
  | source missing => exact .source missing
  | target source missing => exact .target source missing
  | id source target twice => exact .id source target (hsame twice)

theorem checkEdges_cons (g : Graph) (taken : List EdgeId) (e : Edge) (rest : List Edge) :
    g.checkEdges taken (e :: rest) =
      if e.source ∉ g.nodes.map Node.id then .error (.endpointMissing e.id e.source)
      else if e.target ∉ g.nodes.map Node.id then .error (.endpointMissing e.id e.target)
      else if e.id ∈ taken then .error (.duplicateEdge e.id)
      else g.checkEdges (e.id :: taken) rest := by
  simp only [checkEdges, Bool.not_eq_true', ← Bool.not_eq_true, contains_iff]

/-- A check ends at an edge that is at fault. -/
theorem checkEdges_of_fault (h : g.Fault taken e error) :
    g.checkEdges taken (e :: rest) = .error error := by
  rw [checkEdges_cons]
  cases h with
  | source missing => rw [if_pos missing]
  | target source missing => rw [if_neg (not_not.mpr source), if_pos missing]
  | id source target twice =>
      rw [if_neg (not_not.mpr source), if_neg (not_not.mpr target), if_pos twice]

/-- A check goes on behind any other edge, whose id is taken then. -/
theorem checkEdges_of_sound (hends : g.hasEnds e = true) (hfresh : e.id ∉ taken) :
    g.checkEdges taken (e :: rest) = g.checkEdges (e.id :: taken) rest := by
  obtain ⟨hsource, htarget⟩ := hasEnds_iff.mp hends
  rw [checkEdges_cons, if_neg (not_not.mpr hsource), if_neg (not_not.mpr htarget), if_neg hfresh]

/-! ## a batch -/

theorem addable_iff : g.Addable edges ↔
    (∀ e ∈ edges, e.source ∈ g.nodes.map Node.id ∧ e.target ∈ g.nodes.map Node.id) ∧
      (edges.map Edge.id).Nodup ∧ ∀ e ∈ edges, e.id ∉ g.edges.map Edge.id := by
  simp only [← hasEnds_iff]
  exact ⟨fun h => ⟨h.ends, h.nodup, h.fresh⟩,
    fun ⟨hends, hnodup, hfresh⟩ => ⟨hends, hnodup, hfresh⟩⟩

/-- A batch that is refused has an edge at fault behind others that pass. -/
theorem exists_fault_of_checkEdges (h : g.checkEdges taken edges = .error error) :
    ∃ before e later, edges = before ++ e :: later ∧ g.checkEdges taken before = .ok () ∧
      g.Fault (taken ++ before.map Edge.id) e error := by
  induction edges generalizing taken with
  | nil => cases h
  | cons e rest ih =>
      by_cases hfault : ∃ own, g.Fault taken e own
      · obtain ⟨own, hown⟩ := hfault
        obtain rfl := Except.error.inj ((checkEdges_of_fault hown).symm.trans h)
        exact ⟨[], e, rest, rfl, rfl, hown.mono (List.mem_append_left _)⟩
      · obtain ⟨hends, hfresh⟩ := not_not.mp (exists_fault_iff.not.mp hfault)
        rw [checkEdges_of_sound hends hfresh] at h
        obtain ⟨before, x, later, rfl, hpass, hx⟩ := ih h
        refine ⟨e :: before, x, later, rfl, (checkEdges_of_sound hends hfresh).trans hpass, ?_⟩
        refine hx.mono fun hmem => ?_
        rw [List.map_cons, List.mem_append, List.mem_cons]
        rw [List.mem_append, List.mem_cons] at hmem
        exact or_assoc.mp (hmem.imp_left Or.symm)

/-- An edge of a batch is at fault: the ids of the graph and of the edges before it are taken. -/
def FaultAt (g : Graph) (batch : List Edge) (i : Nat) (error : GraphError) : Prop :=
  ∃ e, batch[i]? = some e ∧ g.Fault ((g.edges ++ batch.take i).map Edge.id) e error

/-- In a batch that can be added no edge is at fault. -/
theorem Addable.not_faultAt (h : g.Addable edges) (i : Nat) : ¬g.FaultAt edges i error := by
  rintro ⟨e, he, hfault⟩
  have hmem := List.mem_of_getElem? he
  have hlater : e ∈ edges.drop i := by
    refine List.mem_of_getElem? (i := 0) ?_
    rwa [List.getElem?_drop, Nat.add_zero]
  have hapart := h.nodup
  rw [← List.take_append_drop i edges, List.map_append, List.nodup_append] at hapart
  refine exists_fault_iff.mp ⟨error, hfault⟩ ⟨h.ends e hmem, ?_⟩
  rw [List.map_append, List.mem_append, not_or]
  exact ⟨h.fresh e hmem, fun hbefore =>
    hapart.2.2 _ hbefore _ (List.mem_map_of_mem hlater) rfl⟩

/-- **A batch is refused for its first fault.** -/
theorem exists_faultAt_of_addEdges (h : g.addEdges edges = .error error) :
    ∃ i, g.FaultAt edges i error ∧ ∀ j < i, ∀ other, ¬g.FaultAt edges j other := by
  rw [addEdges] at h
  split at h
  · next own hcheck =>
    obtain rfl := Except.error.inj h
    obtain ⟨before, e, later, rfl, hpass, hfault⟩ := exists_fault_of_checkEdges hcheck
    refine ⟨before.length, ⟨e, by simp, by simpa using hfault⟩, ?_⟩
    rintro j hj other ⟨x, hx, hxfault⟩
    rw [List.getElem?_append_left hj] at hx
    rw [List.take_append_of_le_length (Nat.le_of_lt hj)] at hxfault
    exact (addable_iff_checkEdges.mpr hpass).not_faultAt j ⟨x, hx, hxfault⟩
  · cases h

end Graph

/-! ## stores -/

namespace Store

theorem apply_addEdges (store : Store) (batch : List Edge) :
    store.apply (.addEdges batch) =
      match store.graph.addEdges batch with
      | .ok g => (.done, if batch.isEmpty then store else store.commit g)
      | .error e => (.refused e, store) := by
  rw [apply, Edit.perform]
  cases store.graph.addEdges batch with
  | error e => rfl
  | ok g => cases batch with
    | nil => rfl
    | cons e rest => rfl

/-- **Edges are added in a batch** or not at all.  A store takes a batch exactly if
all ends are nodes of it and all ids are new and differ; the edges then come last,
in the order of the batch.  Otherwise it stays as it is, and the error is the fault
of the first edge that has one. -/
theorem adds_in_batch (store : Store) (batch : List Edge) :
    let g := store.graph
    let answer := (store.apply (.addEdges batch)).1
    let after := (store.apply (.addEdges batch)).2
    (answer = .done ↔
      (∀ e ∈ batch, e.source ∈ g.nodes.map Node.id ∧ e.target ∈ g.nodes.map Node.id) ∧
        (batch.map Edge.id).Nodup ∧ ∀ e ∈ batch, e.id ∉ g.edges.map Edge.id) ∧
    (answer = .done → after.graph = { g with edges := g.edges ++ batch }) ∧
    (answer ≠ .done → after = store ∧ ∃ i error, answer = .refused error ∧
      g.FaultAt batch i error ∧ ∀ j < i, ∀ other, ¬g.FaultAt batch j other) := by
  intro g answer after
  have happly : (answer, after) = _ := store.apply_addEdges batch
  rw [← Graph.addable_iff]
  cases hadd : g.addEdges batch with
  | error error =>
      rw [hadd] at happly
      obtain ⟨hanswer, hafter⟩ := Prod.mk.inj happly
      have hrefused : answer ≠ .done := hanswer ▸ nofun
      have hfault := Graph.exists_faultAt_of_addEdges hadd
      obtain ⟨i, hi, hfirst⟩ := hfault
      refine ⟨⟨fun hdone => absurd hdone hrefused, fun haddable => ?_⟩,
        fun hdone => absurd hdone hrefused, fun _ => ⟨hafter, i, error, hanswer, hi, hfirst⟩⟩
      exact nomatch hadd.symm.trans (Graph.addEdges_eq_ok_iff.mpr ⟨haddable, rfl⟩)
  | ok g' =>
      rw [hadd] at happly
      obtain ⟨hanswer, hafter⟩ := Prod.mk.inj happly
      obtain ⟨haddable, rfl⟩ := Graph.addEdges_eq_ok_iff.mp hadd
      refine ⟨⟨fun _ => haddable, fun _ => hanswer⟩, fun _ => ?_, fun h => absurd hanswer h⟩
      rw [hafter]
      cases batch with
      | nil =>
          rw [List.append_nil]
          rfl
      | cons e rest => rfl

/-- The second of three edges lacks its target and repeats the id of the first;
without it and the third the batch is taken. -/
theorem adds_in_batch_second_fault :
    let edge (id source target : String) : Edge :=
      ⟨⟨id⟩, ⟨source⟩, none, ⟨target⟩, none, .simple, []⟩
    let store := new.run
      [.addNode (.new ⟨"a"⟩ "agent" .origin), .addNode (.new ⟨"b"⟩ "agent" .origin),
        .addEdges [edge "0" "a" "b"]]
    let refused := store.apply (.addEdges [edge "1" "a" "b", edge "1" "b" "c", edge "0" "d" "a"])
    let taken := store.apply (.addEdges [edge "1" "a" "b"])
    refused.1 = .refused (.endpointMissing ⟨"1"⟩ ⟨"c"⟩) ∧ refused.2 = store ∧
      taken.1 = .done ∧ taken.2.graph.edges = [edge "0" "a" "b", edge "1" "a" "b"] := by
  intro edge store refused taken
  obtain ⟨-, -, hrefused⟩ :=
    store.adds_in_batch [edge "1" "a" "b", edge "1" "b" "c", edge "0" "d" "a"]
  obtain ⟨-, htaken, -⟩ := store.adds_in_batch [edge "1" "a" "b"]
  have hedges := congrArg Graph.edges (htaken rfl)
  exact ⟨rfl, (hrefused nofun).1, rfl, hedges⟩

end Store

end WorkflowEditor
