import WorkflowEditor.Proofs.Graph.Each
import WorkflowEditor.Proofs.Repository

/-!
# WorkflowEditor.Proofs.Workflow.Each

What is said of every node of a document, of every edge, and of the members that
are not known.  A document that is merged from others has it if they do, so
all the documents that replies stand for have it if the payloads do that are
read of them.

* `Payload.Each.mergeInto` — the merge of a payload over a document;
* `Reply.Brings` — the payload that is read of a reply, if one is, has it;
* `Repository.each_fetched`, `each_created`, `each_saved` — the documents that
  such replies stand for.
-/

namespace WorkflowEditor

/-- What is said of members holds of none, and of members laid over others. -/
structure Fields.Merges (holds : Fields → Prop) : Prop where
  nil : holds []
  extend : ∀ {base overlay : Fields}, holds base → holds overlay → holds (base.extend overlay)

variable {onNode : Node → Prop} {onEdge : Edge → Prop} {onExtra : Fields → Prop}

/-- Every node of a document satisfies the first property, every edge the second,
and the members that are not known the third. -/
structure Workflow.Each (onNode : Node → Prop) (onEdge : Edge → Prop) (onExtra : Fields → Prop)
    (w : Workflow) : Prop where
  graph : w.graph.Each onNode onEdge
  extra : onExtra w.extra

/-- Every node that a payload carries satisfies the first property, every edge the
second, and the members that are not known the third. -/
structure Payload.Each (onNode : Node → Prop) (onEdge : Edge → Prop) (onExtra : Fields → Prop)
    (p : Payload) : Prop where
  nodes : ∀ n ∈ p.nodes.getD [], onNode n
  edges : ∀ e ∈ p.edges.getD [], onEdge e
  extra : onExtra p.extra

theorem Workflow.each_of_nil {w : Workflow} (hmerges : Fields.Merges onExtra)
    (hnodes : w.nodes = []) (hedges : w.edges = []) (hextra : w.extra = []) :
    w.Each onNode onEdge onExtra where
  graph := by
    rw [graph, hnodes, hedges]
    exact Graph.each_empty
  extra := hextra ▸ hmerges.nil

/-- A payload is merged over a document. -/
theorem Payload.Each.mergeInto {p : Payload} (hmerges : Fields.Merges onExtra)
    (hp : p.Each onNode onEdge onExtra) {w : Workflow} (hw : w.Each onNode onEdge onExtra) :
    (p.mergeInto w).Each onNode onEdge onExtra where
  graph := ⟨forall_mem_getD hp.nodes hw.graph.nodes, forall_mem_getD hp.edges hw.graph.edges⟩
  extra := hmerges.extend hw.extra hp.extra

/-! ## replies -/

/-- The payload that is read of a reply, if one is, has what is said. -/
def Reply.Brings (onNode : Node → Prop) (onEdge : Edge → Prop) (onExtra : Fields → Prop)
    (reply : Reply) : Prop :=
  ∀ body p, reply.result = .ok body → Payload.ofJson (Envelope.unwrap body) = .ok p →
    p.Each onNode onEdge onExtra

namespace Repository

variable {reply : Reply} (hmerges : Fields.Merges onExtra)
  (hreply : reply.Brings onNode onEdge onExtra)
include hmerges hreply

theorem each_fetched {id : WorkflowId} {w : Workflow} (h : reply.read (fetched id) = .ok w) :
    w.Each onNode onEdge onExtra := by
  obtain ⟨body, hresult, hfetched⟩ := Reply.read_eq_ok_iff.mp h
  obtain ⟨p, hread, rfl⟩ := fetched_eq_ok_iff.mp hfetched
  have hempty : (Workflow.new "").Each onNode onEdge onExtra :=
    Workflow.each_of_nil hmerges rfl rfl rfl
  have hmerged := (hreply body p hresult hread).mergeInto hmerges hempty
  exact ⟨hmerged.graph, hmerged.extra⟩

theorem each_created {w stored : Workflow} {id : WorkflowId} (hw : w.Each onNode onEdge onExtra)
    (h : reply.read (created w) = .ok (id, stored)) : stored.Each onNode onEdge onExtra := by
  obtain ⟨body, hresult, hcreated⟩ := Reply.read_eq_ok_iff.mp h
  obtain ⟨p, hread, rfl, -⟩ := created_eq_ok_iff.mp hcreated
  exact (hreply body p hresult hread).mergeInto hmerges hw

theorem each_saved {w copy : Workflow} {id : WorkflowId} (hw : w.Each onNode onEdge onExtra)
    (h : reply.read (saved id w) = .ok copy) : copy.Each onNode onEdge onExtra := by
  obtain ⟨body, hresult, hsaved⟩ := Reply.read_eq_ok_iff.mp h
  have hnamed : ({ w with id := some id } : Workflow).Each onNode onEdge onExtra :=
    ⟨hw.graph, hw.extra⟩
  rw [saved_eq_ok_iff] at hsaved
  split at hsaved
  · obtain ⟨p, hread, rfl⟩ := hsaved
    exact (hreply body p hresult hread).mergeInto hmerges hnamed
  · exact hsaved ▸ hnamed

end Repository

end WorkflowEditor
