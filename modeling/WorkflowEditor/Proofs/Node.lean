import WorkflowEditor.Proofs.Position

/-!
# WorkflowEditor.Proofs.Node

Nodes as they are read and written.  A node is read field by field
(`ofJson_eq_ok_iff`); the check that is made first finds nothing else, if no
member stands twice.

* `carries_of_ofJson` — what is taken from an object that is read as a node;
* `ofJson_toJson` — a node that is written is read back as the same node;
* `kept_of_ofJson` — a node that is read is sent back with all it had, except
  the marks of the canvas.
-/

namespace WorkflowEditor.Node

/-! ## reading -/

/-- An object reads as a node when its members pass their checks and each field reads. -/
theorem ofJson_obj_iff {fields : Fields} {node : Node} :
    ofJson (.obj fields) = .ok node ↔
      fields.check checkMember = .ok () ∧
      fields.required "id" Id.ofJson = .ok node.id ∧
      fields.required "type" Json.asString = .ok node.typeId ∧
      fields.defaulted "position" .origin Position.ofJson = .ok node.position ∧
      fields.defaulted "data" [] Json.asMap = .ok node.data ∧
      fields.without fieldNames = node.extra := by
  constructor
  · intro hread
    obtain ⟨fields', hrecord, hread⟩ := bind_eq_ok_iff.mp hread
    cases Json.asRecord_eq_ok_iff.mp hrecord
    obtain ⟨u, hcheck, hread⟩ := bind_eq_ok_iff.mp hread
    obtain ⟨id, hid, hread⟩ := bind_eq_ok_iff.mp hread
    obtain ⟨typeId, htype, hread⟩ := bind_eq_ok_iff.mp hread
    obtain ⟨position, hposition, hread⟩ := bind_eq_ok_iff.mp hread
    obtain ⟨data, hdata, hread⟩ := bind_eq_ok_iff.mp hread
    cases pure_eq_ok_iff.mp hread
    exact ⟨hcheck, hid, htype, hposition, hdata, rfl⟩
  · rintro ⟨hcheck, hid, htype, hposition, hdata, hextra⟩
    rw [ofJson, Json.asRecord]
    simp [bind, Except.bind, hcheck, hid, htype, hposition, hdata, hextra, pure, Except.pure]

/-- An object reads as a node exactly when each field reads. -/
theorem ofJson_eq_ok_iff {fields : Fields} {node : Node} (h : fields.Ascending) :
    ofJson (.obj fields) = .ok node ↔
      fields.required "id" Id.ofJson = .ok node.id ∧
      fields.required "type" Json.asString = .ok node.typeId ∧
      fields.defaulted "position" .origin Position.ofJson = .ok node.position ∧
      fields.defaulted "data" [] Json.asMap = .ok node.data ∧
      fields.without fieldNames = node.extra := by
  rw [ofJson_obj_iff]
  refine and_iff_right_of_imp ?_
  rintro ⟨hid, htype, hposition, hdata, -⟩
  refine (Fields.check_eq_ok_iff_get? h).mpr fun key v hget => ?_
  rw [checkMember]
  split
  · next hkey =>
    rw [discard_eq_ok_iff]
    obtain rfl | rfl := hkey
    · obtain rfl := Id.ofJson_eq_ok_iff.mp (Fields.read_of_required hid hget)
      exact ⟨_, rfl⟩
    · exact ⟨_, Fields.read_of_required htype hget⟩
  · split
    · next hkey =>
      subst hkey
      exact discard_eq_ok_iff.mpr ⟨_, Fields.read_of_defaulted hposition hget⟩
    · split
      · next hkey =>
        subst hkey
        exact discard_eq_ok_iff.mpr ⟨_, Fields.read_of_defaulted hdata hget⟩
      · rfl

/-- What is taken from an object that is read as a node. -/
structure Carries (v : Json) (node : Node) : Prop where
  id : v.get? "id" = some node.id.toJson
  typeId : v.get? "type" = some (.str node.typeId)
  position : Position.Carries (v.get? "position") node.position
  data : (v.get? "data").getD (.obj []) = .obj node.data
  extra : ∀ key, node.extra.get? key = if key ∈ fieldNames then none else v.get? key

theorem carries_of_ofJson {v : Json} {node : Node} (h : ofJson v = .ok node) : Carries v node := by
  obtain ⟨fields, rfl⟩ := Json.exists_fields_of_asRecord h
  obtain ⟨-, hid, htype, hposition, hdata, hextra⟩ := ofJson_obj_iff.mp h
  exact ⟨Fields.get?_of_required Id.toJson (fun _ _ => Id.ofJson_eq_ok_iff.mp) hid,
    Fields.get?_of_required Json.str (fun _ _ => Json.asString_eq_ok_iff.mp) htype,
    Position.carries_of_defaulted hposition,
    Fields.getD_get?_of_defaulted Json.obj (fun _ _ => Json.asMap_eq_ok_iff.mp) hdata,
    Fields.get?_of_without_eq hextra⟩

/-! ## writing -/

variable {node : Node}

/-- The fields of a node as members. -/
def fieldMembers (node : Node) : List (String × Json) :=
  [("id", node.id.toJson), ("type", .str node.typeId), ("position", node.position.toJson),
    ("data", .obj node.data)]

/-- The members of a node that is written. -/
def members (node : Node) : Fields := (Fields.ofPairs node.fieldMembers).extend node.extra

theorem toJson_eq (node : Node) : node.toJson = .obj node.members := rfl

theorem isRecord_members (node : Node) (h : Fields.Unknown fieldNames node.extra) :
    Fields.IsRecord fieldNames node.fieldMembers node.extra node.members := by
  have hnodup : fieldNames.Nodup := by decide
  exact h.isRecord hnodup fun _ hkey => hkey

/-- The same node, its position written without a negative zero. -/
def canonical (node : Node) : Node := { node with position := node.position.canonical }

/-- **A node is read back** as it is written. -/
theorem ofJson_toJson (h : Fields.Unknown fieldNames node.extra)
    (hfinite : node.position.IsFinite) : ofJson node.toJson = .ok node.canonical := by
  have hrecord := node.isRecord_members h
  rw [toJson_eq, ofJson_eq_ok_iff hrecord.ascending]
  refine ⟨?_, ?_, ?_, ?_, hrecord.rest⟩
  · exact Fields.required_eq_ok_iff.mpr ⟨_, hrecord.field "id" (by decide), rfl⟩
  · exact Fields.required_eq_ok_iff.mpr ⟨_, hrecord.field "type" (by decide), rfl⟩
  · exact Fields.defaulted_eq_ok_iff.mpr
      (.inr ⟨_, hrecord.field "position" (by decide), Position.ofJson_toJson hfinite⟩)
  · exact Fields.defaulted_eq_ok_iff.mpr (.inr ⟨_, hrecord.field "data" (by decide), rfl⟩)

/-! ## sending back -/

/-- What is sent of a node that was received: all of it but the marks of the
canvas, without a position as at the origin and without data as with none. -/
structure Kept (received sent : Json) : Prop where
  id : sent.get? "id" = received.get? "id"
  typeId : sent.get? "type" = received.get? "type"
  position : Position.Kept (received.get? "position") (sent.get? "position")
  data : sent.get? "data" = some ((received.get? "data").getD (.obj []))
  unknown : ∀ key, key ∉ fieldNames → key ∉ localKeys → sent.get? key = received.get? key
  marks : ∀ key ∈ localKeys, sent.get? key = none

/-- **A node that is read is sent back** with all it had, except the marks of the canvas. -/
theorem kept_of_ofJson {v : Json} (hv : v.WellFormed) (h : ofJson v = .ok node) :
    Kept v node.withoutLocalState.toJson := by
  obtain ⟨received, rfl⟩ := Json.exists_fields_of_asRecord h
  have hreceived : Fields.WellFormed received := hv
  obtain ⟨-, -, hposition, -, hextra⟩ := (ofJson_eq_ok_iff hreceived.ascending).mp h
  have hextra' : Fields.Unknown fieldNames node.extra :=
    hextra ▸ Fields.unknown_without hreceived.ascending fieldNames
  have hcarries := carries_of_ofJson h
  have hsent := node.withoutLocalState.isRecord_members (hextra'.without localKeys)
  have hmembers : ∀ key, node.withoutLocalState.toJson.get? key =
      node.withoutLocalState.members.get? key := fun _ => rfl
  constructor
  · exact (hsent.field "id" (by decide)).trans hcarries.id.symm
  · exact (hsent.field "type" (by decide)).trans hcarries.typeId.symm
  · rw [hmembers, hsent.field "position" (by decide)]
    exact Position.kept_toJson hreceived hposition
  · exact (hsent.field "data" (by decide)).trans (congrArg some hcarries.data.symm)
  · intro key hknown hmark
    rw [hmembers, hsent.unknown key hknown, Node.withoutLocalState, Fields.get?_without,
      if_neg hmark, hcarries.extra, if_neg hknown]
  · intro key hmark
    have hknown : key ∉ fieldNames := by
      revert key
      decide
    rw [hmembers, hsent.unknown key hknown, Node.withoutLocalState, Fields.get?_without,
      if_pos hmark]

end WorkflowEditor.Node
