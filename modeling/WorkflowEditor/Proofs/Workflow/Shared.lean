import WorkflowEditor.Proofs.Graph.Shared
import WorkflowEditor.Proofs.Workflow.Payload

/-!
# WorkflowEditor.Proofs.Workflow.Shared

What of a document the service can get to see, and documents that share it.
The sign of a zero is left out of nodes and edges only; all else of a document
is shared as it is.

* `Payload.unsigned_ofWorkflow` — documents that share all are sent as one
  payload, up to the signs of zeros;
* `Payload.shared_mergeInto` — a reply that is merged over documents that share
  all leaves documents that share all;
* `Payload.canonical_toJson` — what is left out of a payload is what the
  canonical form of its body leaves out.
-/

namespace WorkflowEditor

/-- What of a document is shared with the service. -/
def Workflow.shared (w : Workflow) : Workflow :=
  { w with nodes := w.nodes.map Node.shared, edges := w.edges.map Edge.shared }

/-- The payload with no sign at the zeros of its nodes and edges.  The marks of
the canvas stay, if there are any. -/
def Payload.unsigned (p : Payload) : Payload :=
  { p with
    nodes := p.nodes.map (List.map Node.unsigned)
    edges := p.edges.map (List.map Edge.shared) }

theorem Workflow.shared_withGraph (w : Workflow) (g : Graph) :
    (w.withGraph g).shared = w.shared.withGraph g.shared := rfl

theorem Workflow.id_of_shared {w w' : Workflow} (h : w.shared = w'.shared) : w.id = w'.id :=
  (congrArg Workflow.id h : w.shared.id = w'.shared.id)

namespace Payload

/-- **Documents that share all are sent as one payload**, up to the signs of zeros. -/
theorem unsigned_ofWorkflow {w w' : Workflow} (h : w.shared = w'.shared) :
    (ofWorkflow w).unsigned = (ofWorkflow w').unsigned := by
  have hsent (w : Workflow) : (ofWorkflow w).unsigned =
      { ofWorkflow w.shared with nodes := some w.shared.nodes, edges := some w.shared.edges } := by
    simp only [ofWorkflow, unsigned, Workflow.shared, Option.map_some, List.map_map]
    rfl
  rw [hsent, hsent, h]

/-- A payload is merged over what documents share. -/
theorem shared_mergeInto {w w' : Workflow} (p : Payload) (h : w.shared = w'.shared) :
    (p.mergeInto w).shared = (p.mergeInto w').shared := by
  have hmerged (w : Workflow) : (p.mergeInto w).shared =
      { p with nodes := p.nodes.map (List.map Node.shared)
               edges := p.edges.map (List.map Edge.shared) : Payload }.mergeInto w.shared := by
    simp only [mergeInto, Workflow.shared, Option.getD_map]
  rw [hmerged, hmerged, h]

end Payload

/-! ## bodies -/

theorem Fields.canonical_append (a b : Fields) :
    canonical (a ++ b) = a.canonical ++ b.canonical := by
  simp only [canonical_eq_map, List.map_append]

theorem Fields.canonical_ofPairs (pairs : List (String × Json)) :
    (ofPairs pairs).canonical = ofPairs (canonical pairs) := canonical_extend [] pairs

/-- A list that is written item by item. -/
theorem Json.canonical_arr_map {write : α → Json} {write' : β → Json} {f : β → α}
    (h : ∀ b, (write' b).canonical = write (f b)) (items : List β) :
    (Json.arr (items.map write')).canonical = .arr ((items.map f).map write) := by
  rw [canonical]
  congr 1
  induction items with
  | nil => rfl
  | cons b rest ih => rw [List.map_cons, canonicalItems, h, ih]; rfl

/-- A zero is written without its sign. -/
theorem Position.canonical_coordinateToJson (d : Double) :
    (coordinateToJson d).canonical = coordinateToJson d.canonical := by
  rw [Double.canonical]
  split
  · next hzero =>
    have hwhole : Double.zero.whole? = some 0 := Double.whole?_of_isZero rfl
    rw [coordinateToJson, coordinateToJson, Double.whole?_of_isZero hzero, hwhole]
    rfl
  · next hzero =>
    have hcanonical : (Json.num (.double d)).canonical = .num (.double d) := by
      rw [Json.canonical, Number.canonical, Double.canonical, if_neg hzero]
    rw [coordinateToJson]
    split
    · split
      · rfl
      · exact hcanonical
    · split
      · exact hcanonical
      · rfl

theorem Position.canonical_toJson (p : Position) : p.toJson.canonical = p.canonical.toJson := by
  rw [toJson, toJson, Json.object, Json.object, Json.canonical]
  refine congrArg Json.obj ((Fields.canonical_ofPairs _).trans ?_)
  simp only [Fields.canonical_cons, canonical_coordinateToJson]
  rfl

theorem Node.canonical_toJson (n : Node) : n.toJson.canonical = n.unsigned.toJson := by
  rw [toJson, toJson, Json.canonical]
  refine congrArg Json.obj ((Fields.canonical_extend _ _).trans ?_)
  rw [Fields.canonical_ofPairs]
  simp only [Fields.canonical_cons, Position.canonical_toJson]
  rfl

theorem Edge.canonical_toJson (e : Edge) : e.toJson.canonical = e.shared.toJson := by
  rw [toJson, toJson, Json.canonical]
  refine congrArg Json.obj ((Fields.canonical_extend _ _).trans ?_)
  rw [Fields.canonical_ofPairs]
  have hhandle (handle : Option String) :
      (Json.ofOption .str handle).canonical = .ofOption .str handle := by cases handle <;> rfl
  simp only [Fields.canonical_cons, hhandle]
  rfl

namespace Payload

theorem canonical_member (key : String) (write : α → Json) {write' : β → Json} (f : β → α)
    (h : ∀ b, (write' b).canonical = write (f b)) (value : Option β) :
    Fields.canonical (member key write' value) = member key write (value.map f) := by
  cases value with
  | none => rfl
  | some b => exact congrArg (fun v => [(key, v)]) (h b)

/-- **What is left out of a payload** is what the canonical form of its body leaves out. -/
theorem canonical_toJson (p : Payload) :
    p.toJson.canonical =
      ({ p.unsigned with
          metadata := p.metadata.map Fields.canonical
          extra := p.extra.canonical } : Payload).toJson := by
  have hid : Fields.canonical (member idKey Id.toJson p.id) = member idKey Id.toJson p.id := by
    cases p.id <;> rfl
  have htext (key : String) (o : Option String) :
      Fields.canonical (member key .str o) = member key .str o := by cases o <;> rfl
  rw [toJson, toJson, Json.canonical]
  refine congrArg Json.obj ((Fields.canonical_extend _ _).trans ?_)
  rw [Fields.canonical_ofPairs]
  simp only [Fields.canonical_append, hid, htext]
  rw [canonical_member "nodes" (fun nodes => .arr (nodes.map Node.toJson)) (List.map Node.unsigned)
      (Json.canonical_arr_map Node.canonical_toJson),
    canonical_member "edges" (fun edges => .arr (edges.map Edge.toJson)) (List.map Edge.shared)
      (Json.canonical_arr_map Edge.canonical_toJson),
    canonical_member "metadata" .obj Fields.canonical fun _ => rfl]
  rfl

end Payload

end WorkflowEditor
