import WorkflowEditor.Http.Client
import WorkflowEditor.Proofs.Basic
import WorkflowEditor.Proofs.Json.RoundTrip
import WorkflowEditor.Service.Envelope

/-!
# WorkflowEditor.Proofs.Http.Content

The content of an execution as text.  Whatever text the service answers with,
the part of it that is the result can be read again from the content, because
all of it comes from a text already.  Only doubles are left out: what is written
for a double is not shown here to be read as the same one.

* `isResult_iff` — which part of a reply is the result;
* `spelled_readBody`, `readBody_pretty` — bodies, and texts that are read as bodies;
* `content_reads_back` — the content of an execution.
-/

namespace WorkflowEditor

namespace Envelope

/-- Which part of an execution's reply is its result: of the members `data` and
`response` the first that is there and not null, and else all of it. -/
inductive IsResult (body : Json) : Json → Prop
  | data {v : Json} (found : body.get? "data" = some v) (filled : v ≠ .null) : IsResult body v
  | response {v : Json} (noData : ∀ w, body.get? "data" = some w → w = .null)
      (found : body.get? "response" = some v) (filled : v ≠ .null) : IsResult body v
  | whole (noData : ∀ w, body.get? "data" = some w → w = .null)
      (noResponse : ∀ w, body.get? "response" = some w → w = .null) : IsResult body body

theorem nonNull?_eq_some_iff {body v : Json} {key : String} :
    body.nonNull? key = some v ↔ body.get? key = some v ∧ v ≠ .null := by
  rw [Json.nonNull?, Option.filter_eq_some_iff]
  cases v <;> simp [Json.isNull]

theorem nonNull?_eq_none_iff {body : Json} {key : String} :
    body.nonNull? key = none ↔ ∀ v, body.get? key = some v → v = .null := by
  rw [Json.nonNull?, Option.filter_eq_none_iff]
  refine forall₂_congr fun v _ => ?_
  cases v <;> simp [Json.isNull]

/-- Every reply has one result. -/
theorem isResult_iff {body v : Json} : IsResult body v ↔ executionResult body = v := by
  rw [executionResult, dataKey, getD_or_eq_iff]
  simp only [nonNull?_eq_some_iff, nonNull?_eq_none_iff]
  constructor
  · intro h
    cases h with
    | data found filled => exact .inl ⟨found, filled⟩
    | response noData found filled => exact .inr (.inl ⟨noData, found, filled⟩)
    | whole noData noResponse => exact .inr (.inr ⟨noData, noResponse, rfl⟩)
  · rintro (⟨found, filled⟩ | ⟨noData, found, filled⟩ | ⟨noData, noResponse, rfl⟩)
    · exact .data found filled
    · exact .response noData found filled
    · exact .whole noData noResponse

end Envelope

namespace Http

theorem spelled_readBody (text : String) : (readBody text).Spelled Json.depthLimit := by
  rw [readBody]
  split
  · exact .null
  · cases hread : Json.parse? text with
    | none => exact .str text
    | some v => exact Json.spelled_of_parse? hread

/-- The indented text of a value without doubles is read as the value. -/
theorem readBody_pretty {v : Json} (h : v.Spelled Json.depthLimit) (hv : v.WithoutDoubles) :
    readBody v.pretty = v := by
  rw [readBody, if_neg (by simp [Json.isBlankText_pretty hv]), Json.parse?_pretty h hv,
    Option.getD_some]

/-- **The content of an execution reads back.**  Whatever text answers an
execution, its content is the result if that is a text, and else, unless there
are doubles in the result, a text that is read as the result. -/
theorem content_reads_back {text : String} {result : Json}
    (hresult : Envelope.IsResult (readBody text) result) :
    (result.WithoutDoubles → (∀ s, result ≠ .str s) →
      readBody (Envelope.executionContent (readBody text)) = result) ∧
      ∀ s, result = .str s → Envelope.executionContent (readBody text) = s := by
  have hspelled : result.Spelled Json.depthLimit := by
    cases hresult with
    | data found _ => exact (spelled_readBody text).get? found
    | response _ found _ => exact (spelled_readBody text).get? found
    | whole _ _ => exact spelled_readBody text
  rw [Envelope.executionContent, Envelope.isResult_iff.mp hresult]
  constructor
  · intro hexact hnotext
    cases result with
    | null => rfl
    | str s => exact (hnotext s rfl).elim
    | _ => exact readBody_pretty hspelled hexact
  · rintro s rfl
    rfl

/-- The smallest whole number and an object whose key needs an escape, behind data that are null. -/
theorem content_reads_back_nested :
    let text := "\x7b\n  \"data\": null,\n  \"response\": [\n    -9223372036854775808,\n" ++
      "    \x7b\n      \"\\u0001\\\"\": []\n    \x7d\n  ]\n\x7d"
    let result := Json.arr [.num (.whole (-0x8000000000000000)), .obj [("\x01\"", .arr [])]]
    Envelope.IsResult (readBody text) result ∧
      readBody (Envelope.executionContent (readBody text)) = result := by
  intro text result
  have hobject : Json.Spelled 2 (.obj [("\x01\"", .arr [])]) :=
    .obj (List.pairwise_singleton _ _)
      (List.forall_mem_singleton.mpr (.arr (List.forall_mem_nil _)))
  have hspelled : result.Spelled 3 :=
    .arr (List.forall_mem_cons.mpr ⟨.whole (by decide), List.forall_mem_singleton.mpr hobject⟩)
  have hexact : result.WithoutDoubles :=
    .arr (List.forall_mem_cons.mpr ⟨.whole _, List.forall_mem_singleton.mpr
      (.obj (List.forall_mem_singleton.mpr (.arr (List.forall_mem_nil _))))⟩)
  have hbody : readBody text = .obj [("data", .null), ("response", result)] := by
    have htext : text = (Json.obj [("data", .null), ("response", result)]).pretty := by
      decide +kernel
    rw [htext]
    refine readBody_pretty ?_ (.obj (List.forall_mem_cons.mpr
      ⟨.null, List.forall_mem_singleton.mpr hexact⟩))
    have hall : Json.Spelled 4 (.obj [("data", .null), ("response", result)]) :=
      .obj (Fields.ascending_pair (by decide)) (List.forall_mem_cons.mpr
        ⟨.null, List.forall_mem_singleton.mpr hspelled⟩)
    exact hall.mono (by decide)
  have hresult : Envelope.IsResult (readBody text) result :=
    Envelope.isResult_iff.mpr (by rw [hbody]; rfl)
  exact ⟨hresult, (content_reads_back hresult).1 hexact nofun⟩

end Http

end WorkflowEditor
