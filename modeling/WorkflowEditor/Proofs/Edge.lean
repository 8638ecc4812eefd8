import WorkflowEditor.Edge
import WorkflowEditor.Proofs.Json.Reading
import WorkflowEditor.Proofs.Json.WellFormed

/-!
# WorkflowEditor.Proofs.Edge

Edges as they are read and written.  A handle that is absent is written as
null, which reads as absent again.

* `carries_of_ofJson` — what is taken from an object that is read as an edge;
* `ofJson_toJson` — an edge that is written is read back as it was;
* `kept_of_ofJson` — an edge that is read is sent back with all it had.
-/

namespace WorkflowEditor.Edge

/-! ## reading -/

/-- An object reads as an edge when its members pass their checks and each field reads. -/
theorem ofJson_obj_iff {fields : Fields} {edge : Edge} :
    ofJson (.obj fields) = .ok edge ↔
      fields.check checkMember = .ok () ∧
      fields.required "id" Id.ofJson = .ok edge.id ∧
      fields.required "source" Id.ofJson = .ok edge.source ∧
      fields.optional "sourceHandle" Json.asString = .ok edge.sourceHandle ∧
      fields.required "target" Id.ofJson = .ok edge.target ∧
      fields.optional "targetHandle" Json.asString = .ok edge.targetHandle ∧
      (fields.defaulted "type" .simple fun v => v.asString.map EdgeKind.mk) = .ok edge.kind ∧
      fields.without fieldNames = edge.extra := by
  constructor
  · intro hread
    obtain ⟨fields', hrecord, hread⟩ := bind_eq_ok_iff.mp hread
    cases Json.asRecord_eq_ok_iff.mp hrecord
    obtain ⟨u, hcheck, hread⟩ := bind_eq_ok_iff.mp hread
    obtain ⟨id, hid, hread⟩ := bind_eq_ok_iff.mp hread
    obtain ⟨source, hsource, hread⟩ := bind_eq_ok_iff.mp hread
    obtain ⟨sourceHandle, hsourceHandle, hread⟩ := bind_eq_ok_iff.mp hread
    obtain ⟨target, htarget, hread⟩ := bind_eq_ok_iff.mp hread
    obtain ⟨targetHandle, htargetHandle, hread⟩ := bind_eq_ok_iff.mp hread
    obtain ⟨kind, hkind, hread⟩ := bind_eq_ok_iff.mp hread
    cases pure_eq_ok_iff.mp hread
    exact ⟨hcheck, hid, hsource, hsourceHandle, htarget, htargetHandle, hkind, rfl⟩
  · rintro ⟨hcheck, hid, hsource, hsourceHandle, htarget, htargetHandle, hkind, hextra⟩
    rw [ofJson, Json.asRecord]
    simp [bind, Except.bind, hcheck, hid, hsource, hsourceHandle, htarget, htargetHandle, hkind,
      hextra, pure, Except.pure]

/-- An object reads as an edge exactly when each field reads. -/
theorem ofJson_eq_ok_iff {fields : Fields} {edge : Edge} (h : fields.Ascending) :
    ofJson (.obj fields) = .ok edge ↔
      fields.required "id" Id.ofJson = .ok edge.id ∧
      fields.required "source" Id.ofJson = .ok edge.source ∧
      fields.optional "sourceHandle" Json.asString = .ok edge.sourceHandle ∧
      fields.required "target" Id.ofJson = .ok edge.target ∧
      fields.optional "targetHandle" Json.asString = .ok edge.targetHandle ∧
      (fields.defaulted "type" .simple fun v => v.asString.map EdgeKind.mk) = .ok edge.kind ∧
      fields.without fieldNames = edge.extra := by
  rw [ofJson_obj_iff]
  refine and_iff_right_of_imp ?_
  rintro ⟨hid, hsource, hsourceHandle, htarget, htargetHandle, hkind, -⟩
  refine (Fields.check_eq_ok_iff_get? h).mpr fun key v hget => ?_
  -- an id is read from a text
  have htext {subject : Subject} {id : Id subject}
      (hread : fields.required key Id.ofJson = .ok id) : discard v.asString = .ok () := by
    rw [Id.ofJson_eq_ok_iff.mp (Fields.read_of_required hread hget)]
    rfl
  rw [checkMember]
  split
  · next hkey =>
    obtain rfl | rfl | rfl | rfl := hkey
    · exact htext hid
    · exact htext hsource
    · exact htext htarget
    · obtain ⟨name, hname, -⟩ := map_eq_ok_iff.mp (Fields.read_of_defaulted hkind hget)
      exact discard_eq_ok_iff.mpr ⟨name, hname⟩
  · split
    · next hkey =>
      obtain rfl | rfl := hkey
      · exact discard_eq_ok_iff.mpr ⟨_, Fields.read_of_defaulted hsourceHandle hget⟩
      · exact discard_eq_ok_iff.mpr ⟨_, Fields.read_of_defaulted htargetHandle hget⟩
    · rfl

/-- What is taken from an object that is read as an edge. -/
structure Carries (v : Json) (edge : Edge) : Prop where
  id : v.get? "id" = some edge.id.toJson
  source : v.get? "source" = some edge.source.toJson
  sourceHandle : v.nonNull? "sourceHandle" = edge.sourceHandle.map .str
  target : v.get? "target" = some edge.target.toJson
  targetHandle : v.nonNull? "targetHandle" = edge.targetHandle.map .str
  kind : (v.get? "type").getD (.str "simple") = .str edge.kind.name
  extra : ∀ key, edge.extra.get? key = if key ∈ fieldNames then none else v.get? key

theorem carries_of_ofJson {v : Json} {edge : Edge} (h : ofJson v = .ok edge) : Carries v edge := by
  obtain ⟨fields, rfl⟩ := Json.exists_fields_of_asRecord h
  obtain ⟨-, hid, hsource, hsourceHandle, htarget, htargetHandle, hkind, hextra⟩ :=
    ofJson_obj_iff.mp h
  have hkindText (v : Json) (kind : EdgeKind) (hread : v.asString.map EdgeKind.mk = .ok kind) :
      v = .str kind.name := by
    obtain ⟨name, hname, rfl⟩ := map_eq_ok_iff.mp hread
    exact Json.asString_eq_ok_iff.mp hname
  exact ⟨Fields.get?_of_required Id.toJson (fun _ _ => Id.ofJson_eq_ok_iff.mp) hid,
    Fields.get?_of_required Id.toJson (fun _ _ => Id.ofJson_eq_ok_iff.mp) hsource,
    Fields.optional_eq_ok_of_forall Json.str (fun _ _ => Json.asString_eq_ok_iff.mp) hsourceHandle,
    Fields.get?_of_required Id.toJson (fun _ _ => Id.ofJson_eq_ok_iff.mp) htarget,
    Fields.optional_eq_ok_of_forall Json.str (fun _ _ => Json.asString_eq_ok_iff.mp) htargetHandle,
    Fields.getD_get?_of_defaulted (fun kind => Json.str kind.name) hkindText hkind,
    Fields.get?_of_without_eq hextra⟩

/-! ## writing -/

/-- The fields of an edge as members. -/
def fieldMembers (edge : Edge) : List (String × Json) :=
  [("id", edge.id.toJson), ("source", edge.source.toJson),
    ("sourceHandle", .ofOption .str edge.sourceHandle), ("target", edge.target.toJson),
    ("targetHandle", .ofOption .str edge.targetHandle), ("type", .str edge.kind.name)]

/-- The members of an edge that is written. -/
def members (edge : Edge) : Fields := (Fields.ofPairs edge.fieldMembers).extend edge.extra

theorem toJson_eq (edge : Edge) : edge.toJson = .obj edge.members := rfl

theorem isRecord_members (edge : Edge) (h : Fields.Unknown fieldNames edge.extra) :
    Fields.IsRecord fieldNames edge.fieldMembers edge.extra edge.members := by
  have hnodup : fieldNames.Nodup := by decide
  exact h.isRecord hnodup fun _ hkey => hkey

/-- A handle that is written, as null if there is none, reads as it was. -/
theorem asOptional_ofOption (handle : Option String) :
    (Json.ofOption .str handle).asOptional Json.asString = .ok handle := by
  cases handle with
  | none => rfl
  | some s => rfl

/-- **An edge is read back** as it is written. -/
theorem ofJson_toJson {edge : Edge} (h : Fields.Unknown fieldNames edge.extra) :
    ofJson edge.toJson = .ok edge := by
  have hrecord := edge.isRecord_members h
  rw [toJson_eq, ofJson_eq_ok_iff hrecord.ascending]
  refine ⟨?_, ?_, ?_, ?_, ?_, ?_, hrecord.rest⟩
  · exact Fields.required_eq_ok_iff.mpr ⟨_, hrecord.field "id" (by decide), rfl⟩
  · exact Fields.required_eq_ok_iff.mpr ⟨_, hrecord.field "source" (by decide), rfl⟩
  · exact Fields.defaulted_eq_ok_iff.mpr
      (.inr ⟨_, hrecord.field "sourceHandle" (by decide), asOptional_ofOption _⟩)
  · exact Fields.required_eq_ok_iff.mpr ⟨_, hrecord.field "target" (by decide), rfl⟩
  · exact Fields.defaulted_eq_ok_iff.mpr
      (.inr ⟨_, hrecord.field "targetHandle" (by decide), asOptional_ofOption _⟩)
  · exact Fields.defaulted_eq_ok_iff.mpr (.inr ⟨_, hrecord.field "type" (by decide), rfl⟩)

/-! ## sending back -/

/-- What is sent of an edge that was received: all of it, without a handle with
null for it, and without a kind as simple. -/
structure Kept (received sent : Json) : Prop where
  ends : ∀ key ∈ ["id", "source", "target"], sent.get? key = received.get? key
  handles : ∀ key ∈ ["sourceHandle", "targetHandle"],
    sent.get? key = some ((received.get? key).getD .null)
  kind : sent.get? "type" = some ((received.get? "type").getD (.str EdgeKind.simple.name))
  unknown : ∀ key, key ∉ fieldNames → sent.get? key = received.get? key

/-- A handle that is read is written as it was received, or as null. -/
theorem ofOption_of_optional {fields : Fields} {key : String} {handle : Option String}
    (h : fields.optional key Json.asString = .ok handle) :
    Json.ofOption .str handle = (fields.get? key).getD .null := by
  obtain ⟨hnone, rfl⟩ | ⟨v, hget, hread⟩ := Fields.defaulted_eq_ok_iff.mp h
  · rw [hnone]
    rfl
  · rw [hget, Option.getD_some]
    cases hnull : v.isNull with
    | true =>
        rw [Json.eq_null_of_isNull hnull] at hread ⊢
        cases hread
        rfl
    | false =>
        rw [Json.asOptional_of_not_isNull _ hnull] at hread
        obtain ⟨s, hs, rfl⟩ := map_eq_ok_iff.mp hread
        exact (Json.asString_eq_ok_iff.mp hs).symm

/-- **An edge that is read is sent back** with all it had. -/
theorem kept_of_ofJson {v : Json} {edge : Edge} (hv : v.WellFormed) (h : ofJson v = .ok edge) :
    Kept v edge.toJson := by
  obtain ⟨received, rfl⟩ := Json.exists_fields_of_asRecord h
  have hreceived : Fields.WellFormed received := hv
  obtain ⟨-, -, hsourceHandle, -, htargetHandle, -, hextra⟩ :=
    (ofJson_eq_ok_iff hreceived.ascending).mp h
  have hextra' : Fields.Unknown fieldNames edge.extra :=
    hextra ▸ Fields.unknown_without hreceived.ascending fieldNames
  have hcarries := carries_of_ofJson h
  have hsent := edge.isRecord_members hextra'
  have hmembers : ∀ key, edge.toJson.get? key = edge.members.get? key := fun _ => rfl
  constructor
  · intro key hkey
    simp only [List.mem_cons, List.not_mem_nil, or_false] at hkey
    obtain rfl | rfl | rfl := hkey
    · exact (hsent.field "id" (by decide)).trans hcarries.id.symm
    · exact (hsent.field "source" (by decide)).trans hcarries.source.symm
    · exact (hsent.field "target" (by decide)).trans hcarries.target.symm
  · intro key hkey
    simp only [List.mem_cons, List.not_mem_nil, or_false] at hkey
    obtain rfl | rfl := hkey
    · exact (hsent.field "sourceHandle" (by decide)).trans
        (congrArg some (ofOption_of_optional hsourceHandle))
    · exact (hsent.field "targetHandle" (by decide)).trans
        (congrArg some (ofOption_of_optional htargetHandle))
  · exact (hsent.field "type" (by decide)).trans (congrArg some hcarries.kind.symm)
  · intro key hknown
    rw [hmembers, hsent.unknown key hknown, hcarries.extra, if_neg hknown]

end WorkflowEditor.Edge
