import WorkflowEditor.Proofs.Graph.Comparable
import WorkflowEditor.Proofs.Workflow.Each
import WorkflowEditor.Proofs.Workflow.RoundTrip

/-!
# WorkflowEditor.Proofs.Workflow.Comparable

What is received can be compared: JSON has no NaN, so neither has a node, an
edge or a document that is read from it.

* `Node.comparable_of_ofJson`, `Edge.comparable_of_ofJson`,
  `Payload.comparable_of_ofJson` — nothing that is read brings a NaN;
* `Reply.IsJson.brings` — nor does a reply in JSON.
-/

namespace WorkflowEditor

/-! ## nodes and edges -/

theorem Position.isNumber_of_ofJson {v : Json} {p : Position} (hv : v.WellFormed)
    (h : ofJson v = .ok p) : p.IsNumber := by
  obtain ⟨a, b, hparts, ha, hb⟩ := parts?_of_ofJson h
  obtain ⟨hfitsa, hfitsb⟩ := fits_of_parts? hv hparts
  exact ⟨ha ▸ Double.isNaN_of_isFinite hfitsa.isFinite_toDouble,
    hb ▸ Double.isNaN_of_isFinite hfitsb.isFinite_toDouble⟩

theorem Position.isNumber_origin : origin.IsNumber := ⟨by decide, by decide⟩

theorem Node.comparable_of_ofJson (v : Json) (n : Node) (hv : v.WellFormed)
    (h : ofJson v = .ok n) : n.Comparable := by
  obtain ⟨fields, rfl⟩ := Json.exists_fields_of_asRecord h
  have hfields : Fields.WellFormed fields := hv
  obtain ⟨-, -, hposition, hdata, hextra⟩ := (ofJson_eq_ok_iff hfields.ascending).mp h
  constructor
  · obtain ⟨-, heq⟩ | ⟨w, hw, hread⟩ := Fields.defaulted_eq_ok_iff.mp hposition
    · exact heq ▸ Position.isNumber_origin
    · exact Position.isNumber_of_ofJson (hfields.get? hw) hread
  · obtain ⟨-, heq⟩ | ⟨w, hw, hread⟩ := Fields.defaulted_eq_ok_iff.mp hdata
    · exact heq ▸ Fields.wellFormed_nil
    · obtain rfl := Json.asMap_eq_ok_iff.mp hread
      exact hfields.get? hw
  · exact hextra ▸ hfields.without fieldNames

theorem Edge.comparable_of_ofJson (v : Json) (e : Edge) (hv : v.WellFormed)
    (h : ofJson v = .ok e) : e.Comparable := by
  obtain ⟨fields, rfl⟩ := Json.exists_fields_of_asRecord h
  have hfields : Fields.WellFormed fields := hv
  obtain ⟨-, -, -, -, -, -, hextra⟩ := (ofJson_eq_ok_iff hfields.ascending).mp h
  have hwithout := hfields.without fieldNames
  rwa [hextra] at hwithout

/-! ## payloads and replies -/

/-- Nothing that is read brings a NaN. -/
theorem Payload.comparable_of_ofJson {v : Json} {p : Payload} (hv : v.WellFormed)
    (h : ofJson v = .ok p) : p.Each Node.Comparable Edge.Comparable fun _ => True := by
  obtain ⟨fields, rfl⟩ := Json.exists_fields_of_asRecord h
  have hfields : Fields.WellFormed fields := hv
  obtain ⟨-, -, -, -, -, -, hnodes, hedges, -, -⟩ := (ofJson_eq_ok_iff hfields.ascending).mp h
  exact {
    nodes := forall_mem_of_forall₂ Node.comparable_of_ofJson
      (Fields.forall₂_items_of_optional hnodes) (hfields.items _)
    edges := forall_mem_of_forall₂ Edge.comparable_of_ofJson
      (Fields.forall₂_items_of_optional hedges) (hfields.items _)
    extra := trivial }

theorem Envelope.wellFormed_unwrap {body : Json} (h : body.WellFormed) :
    (unwrap body).WellFormed := by
  rw [unwrap]
  cases hdata : body.nonNull? dataKey with
  | none => exact h
  | some v =>
      obtain ⟨hget, -⟩ := Option.filter_eq_some_iff.mp hdata
      cases body with
      | obj fields => exact Fields.WellFormed.get? h hget
      | _ => exact nomatch hget

/-- The body of the reply, if it has one, is a JSON value. -/
def Reply.IsJson (reply : Reply) : Prop := ∀ body, reply.result = .ok body → body.WellFormed

/-- A reply in JSON brings no NaN. -/
theorem Reply.IsJson.brings {reply : Reply} (h : reply.IsJson) :
    reply.Brings Node.Comparable Edge.Comparable fun _ => True :=
  fun body _ hresult hread =>
    Payload.comparable_of_ofJson (Envelope.wellFormed_unwrap (h body hresult)) hread

end WorkflowEditor
