import WorkflowEditor.Proofs.Category
import WorkflowEditor.Proofs.Graph.Editing

/-!
# WorkflowEditor.Proofs.Graph.Dropping

Drops from the palette onto the canvas.  A drop names a type and may name a
category, each with blanks around it.  The category is recorded with the node
as it was given, also if it names none; the registry then has the last word.

* `Registry.lookup?_ofKinds` — a type is found exactly if it is that of a kind
  on offer;
* `Registry.categoryOf_recorded` — the category of the node that a drop makes;
* `Store.drops_registered` — when a drop adds a node, and which.
-/

namespace WorkflowEditor

/-! ## kinds on offer -/

namespace Kind

theorem ofTypeId?_typeId (kind : Kind) : ofTypeId? kind.typeId = some kind := by
  cases kind <;> decide

theorem eq_of_typeId_eq {kind other : Kind} (h : kind.typeId = other.typeId) : kind = other := by
  have hsame := ofTypeId?_typeId kind
  rw [h, ofTypeId?_typeId] at hsame
  exact (Option.some.inj hsame).symm

end Kind

namespace Registry

variable {registry : Registry} {kinds : List Kind} {payload : DragPayload} {place : Position}
  {stamp : Stamp} {node : Node}

/-- **A type is found** exactly if it is that of a kind on offer. -/
theorem lookup?_ofKinds {typeId : String} {entry : Descriptor} :
    (ofKinds kinds).lookup? typeId = some entry ↔
      ∃ kind ∈ kinds, kind.typeId = typeId ∧ kind.descriptor = entry := by
  rw [lookup?, ofKinds, List.find?_map, Option.map_eq_some_iff]
  constructor
  · rintro ⟨kind, hfound, rfl⟩
    have htype := List.find?_some hfound
    exact ⟨kind, List.mem_of_find?_eq_some hfound, beq_iff_eq.mp htype, rfl⟩
  · rintro ⟨kind, hkind, rfl, rfl⟩
    have hoffered : ∃ other ∈ kinds, (other.typeId == kind.typeId) = true :=
      ⟨kind, hkind, beq_self_eq_true kind.typeId⟩
    obtain ⟨found, hfound⟩ := Option.isSome_iff_exists.mp (List.find?_isSome.mpr hoffered)
    have htype : found.typeId = kind.typeId := beq_iff_eq.mp (List.find?_some hfound :)
    exact ⟨found, hfound, congrArg Kind.descriptor (Kind.eq_of_typeId_eq htype)⟩

/-! ## the category that is recorded -/

theorem category?_withCategory (node : Node) (s : String) :
    (node.withCategory s).category? = (Category.ofText s).toOption := by
  simp [Node.category?, Node.withCategory, Node.withData, Fields.get?_insert, Json.string?]

/-- **The category of a dropped node** is the one that the drop names, and that of
the registered type if the drop names none. -/
theorem categoryOf_recorded {entry : Descriptor}
    (hentry : registry.lookup? entry.typeId = some entry) (htype : node.typeId = entry.typeId)
    (given : String) : registry.categoryOf (node.withCategory (recordedCategory given entry)) =
      some ((Category.ofText given).toOption.getD entry.category) := by
  have hlookup : registry.lookup? (node.withCategory (recordedCategory given entry)).typeId =
      some entry := by rw [← hentry, ← htype]; rfl
  rw [categoryOf, category?_withCategory, hlookup, recordedCategory]
  split
  · next hblank =>
    rw [Category.ofText_name, Category.ofText_of_blank (String.isEmpty_iff.mp hblank)]
    rfl
  · rw [Category.ofText_trim]
    cases Category.ofText given with
    | ok c => rfl
    | error e => rfl

/-! ## dropped nodes -/

/-- The node that a drop of a kind makes: its id is the type with the stamp behind
it, and nothing is known of it but the type, the place and the category. -/
structure Drops (registry : Registry) (kind : Kind) (payload : DragPayload) (place : Position)
    (stamp : Stamp) (node : Node) : Prop where
  id : node.id = ⟨kind.typeId ++ "-" ++ stamp.text⟩
  typeId : node.typeId = kind.typeId
  position : node.position = place
  extra : node.extra = []
  data : ∃ recorded, node.data = [("category", .str recorded)]
  category : registry.categoryOf node =
    some ((Category.ofText payload.nodeCategory).toOption.getD kind.category)

/-- **A drop makes a node** exactly if the type that it names, blanks around it
aside, is that of a kind on offer. -/
theorem exists_dropped?_iff : (∃ node, (ofKinds kinds).dropped? payload place stamp = some node) ↔
    ∃ kind ∈ kinds, kind.typeId = Text.trim payload.nodeType := by
  simp only [dropped?, Option.map_eq_some_iff, lookup?_ofKinds]
  constructor
  · rintro ⟨-, -, ⟨kind, hkind, htype, -⟩, -⟩
    exact ⟨kind, hkind, htype⟩
  · rintro ⟨kind, hkind, htype⟩
    exact ⟨_, _, ⟨kind, hkind, htype, rfl⟩, rfl⟩

theorem drops_of_dropped? (h : (ofKinds kinds).dropped? payload place stamp = some node) :
    ∃ kind ∈ kinds, kind.typeId = Text.trim payload.nodeType ∧
      (ofKinds kinds).Drops kind payload place stamp node := by
  obtain ⟨entry, hentry, rfl⟩ := Option.map_eq_some_iff.mp h
  obtain ⟨kind, hkind, htype, rfl⟩ := lookup?_ofKinds.mp hentry
  have hregistered : (ofKinds kinds).lookup? kind.typeId = some kind.descriptor :=
    htype ▸ hentry
  exact ⟨kind, hkind, htype, rfl, rfl, rfl, rfl, ⟨_, rfl⟩,
    categoryOf_recorded hregistered rfl payload.nodeCategory⟩

end Registry

namespace Store

variable (store : Store) (registry : Registry) (kinds : List Kind) (payload : DragPayload)
  (point : Point) (toCanvas : Point → Position) (stamp : Stamp)

/-- What a drop answers, and what it does. -/
theorem apply_drop : store.apply (.drop registry payload point toCanvas stamp) =
    match registry.dropped? payload (toCanvas point) stamp with
    | none => (.dropped none, store)
    | some node =>
        if node.id ∈ store.graph.nodes.map Node.id then (.dropped none, store)
        else (.dropped (some node),
          store.commit { store.graph with nodes := store.graph.nodes ++ [node] }) := by
  rw [apply, Edit.perform, Registry.drop?]
  cases registry.dropped? payload (toCanvas point) stamp with
  | none => rfl
  | some node =>
      simp only [← Graph.contains_iff, Graph.addNode]
      by_cases htaken : store.graph.contains node.id = true
      · simp [htaken, Except.toOption]
      · simp [htaken, Except.toOption]

/-- The drop names the type of a kind on offer, and the id with its stamp is not taken. -/
def Admits (kind : Kind) : Prop :=
  kind ∈ kinds ∧ kind.typeId = Text.trim payload.nodeType ∧
    ⟨kind.typeId ++ "-" ++ stamp.text⟩ ∉ store.graph.nodes.map Node.id

/-- A drop that is admitted adds its node, and any other does nothing. -/
theorem apply_drop_cases :
    (∃ kind node, store.Admits kinds payload stamp kind ∧
      (Registry.ofKinds kinds).Drops kind payload (toCanvas point) stamp node ∧
      store.apply (.drop (.ofKinds kinds) payload point toCanvas stamp) = (.dropped (some node),
        store.commit { store.graph with nodes := store.graph.nodes ++ [node] })) ∨
    ((∀ kind, ¬store.Admits kinds payload stamp kind) ∧
      store.apply (.drop (.ofKinds kinds) payload point toCanvas stamp) =
        (.dropped none, store)) := by
  rw [apply_drop]
  cases hmade : (Registry.ofKinds kinds).dropped? payload (toCanvas point) stamp with
  | none =>
      refine .inr ⟨fun kind ⟨hkind, htype, _⟩ => ?_, rfl⟩
      obtain ⟨node, hnode⟩ := Registry.exists_dropped?_iff.mpr ⟨kind, hkind, htype⟩
      exact nomatch hmade.symm.trans hnode
  | some node =>
      obtain ⟨kind, hkind, htype, hdrops⟩ := Registry.drops_of_dropped? hmade
      by_cases htaken : node.id ∈ store.graph.nodes.map Node.id
      · refine .inr ⟨fun other ⟨_, hother, hfresh⟩ => hfresh ?_, if_pos htaken⟩
        rw [← Kind.eq_of_typeId_eq (htype.trans hother.symm), ← hdrops.id]
        exact htaken
      · exact .inl ⟨kind, node, ⟨hkind, htype, hdrops.id ▸ htaken⟩, hdrops, if_neg htaken⟩

/-- **A drop adds a node** exactly if the type that it names, blanks around it
aside, is that of a kind on offer and the id with its stamp is not taken.  The
node then stands behind the others, the edges stay, and the revision grows by
one.  The node has a category in the same registry: the one that the drop names
or, if it names none, that of its kind.  Any other drop changes nothing. -/
theorem drops_registered (store : Store) (kinds : List Kind) (payload : DragPayload)
    (point : Point) (toCanvas : Point → Position) (stamp : Stamp) :
    let registry := Registry.ofKinds kinds
    let answer := (store.apply (.drop registry payload point toCanvas stamp)).1
    let after := (store.apply (.drop registry payload point toCanvas stamp)).2
    ((∃ node, answer = .dropped (some node)) ↔
      ∃ kind ∈ kinds, kind.typeId = Text.trim payload.nodeType ∧
        ⟨kind.typeId ++ "-" ++ stamp.text⟩ ∉ store.graph.nodes.map Node.id) ∧
    (∀ node, answer = .dropped (some node) →
      after.graph.nodes = store.graph.nodes ++ [node] ∧
      after.graph.edges = store.graph.edges ∧ after.revision = store.revision + 1 ∧
      ∃ kind ∈ kinds, kind.typeId = Text.trim payload.nodeType ∧
        registry.Drops kind payload (toCanvas point) stamp node) ∧
    ((∀ node, answer ≠ .dropped (some node)) → answer = .dropped none ∧ after = store) := by
  intro registry answer after
  obtain ⟨kind, node, ⟨hkind, htype, hfresh⟩, hdrops, happly⟩ | ⟨hnone, happly⟩ :=
    store.apply_drop_cases kinds payload point toCanvas stamp
  · have hanswer : answer = .dropped (some node) := congrArg Prod.fst happly
    have hafter : after = store.commit _ := congrArg Prod.snd happly
    refine ⟨⟨fun _ => ⟨kind, hkind, htype, hfresh⟩, fun _ => ⟨node, hanswer⟩⟩,
      fun other hother => ?_, fun hrefused => absurd hanswer (hrefused node)⟩
    obtain rfl : node = other := by
      injection hanswer.symm.trans hother with hsome
      exact Option.some.inj hsome
    rw [hafter]
    exact ⟨rfl, rfl, rfl, kind, hkind, htype, hdrops⟩
  · have hanswer : answer = .dropped none := congrArg Prod.fst happly
    have hrefused (node : Node) : answer ≠ .dropped (some node) := hanswer ▸ nofun
    refine ⟨⟨fun ⟨node, hnode⟩ => absurd hnode (hrefused node), ?_⟩,
      fun node hnode => absurd hnode (hrefused node), fun _ => ⟨hanswer, congrArg Prod.snd happly⟩⟩
    rintro ⟨kind, hkind, htype, hfresh⟩
    exact (hnone kind ⟨hkind, htype, hfresh⟩).elim

/-- A drop that names no category counts as its kind's; the same drop with the
same stamp is refused the second time. -/
theorem drops_registered_unknown_category :
    let registry := Registry.ofKinds [.tavily, .agent]
    let store := new.run [.addNode (.new ⟨"a"⟩ "tavily" .origin)]
    let edit := Edit.drop registry ⟨" agent\n", "", "misc "⟩ .origin (fun _ => .origin) ⟨"1"⟩
    let node := (Node.new ⟨"agent-1"⟩ "agent" .origin).withCategory "misc"
    let after := (store.apply edit).2
    (store.apply edit).1 = .dropped (some node) ∧
      after.graph.nodes = [.new ⟨"a"⟩ "tavily" .origin, node] ∧
      registry.categoryOf node = some .aiAgents ∧ after.apply edit = (.dropped none, after) := by
  intro registry store edit node after
  have hdropped : (store.apply edit).1 = .dropped (some node) := rfl
  have hagain : (after.apply edit).1 = .dropped none := rfl
  obtain ⟨-, hnode, -⟩ := store.drops_registered [.tavily, .agent] ⟨" agent\n", "", "misc "⟩
    .origin (fun _ => .origin) ⟨"1"⟩
  obtain ⟨-, -, hrefused⟩ := after.drops_registered [.tavily, .agent] ⟨" agent\n", "", "misc "⟩
    .origin (fun _ => .origin) ⟨"1"⟩
  obtain ⟨-, hsame⟩ := hrefused fun other hother => nomatch hagain.symm.trans hother
  exact ⟨hdropped, (hnode node hdropped).1, by decide, Prod.ext hagain hsame⟩

end Store

end WorkflowEditor
