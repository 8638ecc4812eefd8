import WorkflowEditor.Proofs.Edge
import WorkflowEditor.Proofs.Node
import WorkflowEditor.Workflow.Payload

/-!
# WorkflowEditor.Proofs.Workflow.Payload

Workflow documents as they are read and written.  A member that is absent is
not written, and null reads as absent.

* `ofJson_eq_ok_iff` — a payload is read field by field, its id under one of
  two names;
* `isRecord_members` — what is found in a payload that is written;
* `ofJson_toJson` — a payload that is written is read back.
-/

namespace WorkflowEditor.Payload

/-! ## reading -/

/-- The name that the id stands under; the second one if it stands under neither. -/
def idName (fields : Fields) : String := if fields.contains idKey then idKey else idAlias

/-- Each field of a payload is read from its member, the id from one of two. -/
structure Reads (fields : Fields) (p : Payload) : Prop where
  once : (fields.contains idKey && fields.contains idAlias) = false
  id : fields.optional (idName fields) Id.ofJson = .ok p.id
  title : fields.optional "title" Json.asString = .ok p.title
  version : fields.optional "version" Json.asString = .ok p.version
  description : fields.optional "description" Json.asString = .ok p.description
  icons : fields.optional "icons" Json.asString = .ok p.icons
  nodes : fields.optional "nodes" (Json.asListOf Node.ofJson) = .ok p.nodes
  edges : fields.optional "edges" (Json.asListOf Edge.ofJson) = .ok p.edges
  metadata : fields.optional "metadata" Json.asMap = .ok p.metadata
  extra : fields.without fieldNames = p.extra

/-- A payload whose fields are read passes its check. -/
theorem Reads.check {fields : Fields} {p : Payload} (hreads : Reads fields p)
    (h : fields.Ascending) :
    fields.check (checkMember (fields.contains idKey && fields.contains idAlias)) = .ok () := by
  refine (Fields.check_eq_ok_iff_get? h).mpr fun key v hget => ?_
  have hcontains : fields.contains key = true := by rw [Fields.contains, hget]; rfl
  have hid := hreads.id
  -- the one name that the id stands under is the one it is read from
  have hname : key = idKey ∨ key = idAlias → key = idName fields := by
    rintro (rfl | rfl)
    · rw [idName, if_pos hcontains]
    · have honce := hreads.once
      rw [hcontains, Bool.and_true] at honce
      rw [idName, honce]
      rfl
  rw [checkMember, hreads.once, if_neg (by simp)]
  split
  · next hkey =>
    obtain hkey | hkey | rfl | rfl | rfl | rfl := hkey
    · rw [← hname (.inl hkey)] at hid
      exact Id.discard_asOptional (Fields.read_of_optional hid hget)
    · rw [← hname (.inr hkey)] at hid
      exact Id.discard_asOptional (Fields.read_of_optional hid hget)
    · exact discard_eq_ok_iff.mpr ⟨_, Fields.read_of_optional hreads.title hget⟩
    · exact discard_eq_ok_iff.mpr ⟨_, Fields.read_of_optional hreads.version hget⟩
    · exact discard_eq_ok_iff.mpr ⟨_, Fields.read_of_optional hreads.description hget⟩
    · exact discard_eq_ok_iff.mpr ⟨_, Fields.read_of_optional hreads.icons hget⟩
  · split
    · next hkey =>
      exact discard_eq_ok_iff.mpr ⟨_, Fields.read_of_optional hreads.nodes (hkey ▸ hget)⟩
    · split
      · next hkey =>
        exact discard_eq_ok_iff.mpr ⟨_, Fields.read_of_optional hreads.edges (hkey ▸ hget)⟩
      · split
        · next hkey =>
          exact discard_eq_ok_iff.mpr ⟨_, Fields.read_of_optional hreads.metadata (hkey ▸ hget)⟩
        · rfl

/-- The second name fails its check if the first one is there too. -/
theorem once_of_check {fields : Fields}
    (h : fields.check (checkMember (fields.contains idKey && fields.contains idAlias)) = .ok ()) :
    (fields.contains idKey && fields.contains idAlias) = false := by
  cases halias : fields.get? idAlias with
  | none => rw [Fields.contains, Fields.contains, halias, Option.isSome_none, Bool.and_false]
  | some v =>
      have hmember := Fields.check_eq_ok_iff.mp h _ (Fields.mem_of_get? halias)
      rw [checkMember] at hmember
      split at hmember
      · cases hmember
      · next hboth =>
        rw [not_and] at hboth
        exact Bool.eq_false_iff.mpr (hboth rfl)

/-- An object reads as a payload when its members pass their checks and each field reads. -/
theorem ofJson_obj_iff {fields : Fields} {p : Payload} :
    ofJson (.obj fields) = .ok p ↔
      fields.check (checkMember (fields.contains idKey && fields.contains idAlias)) = .ok () ∧
        Reads fields p := by
  constructor
  · intro h
    obtain ⟨fields', hrecord, h⟩ := bind_eq_ok_iff.mp h
    cases Json.asRecord_eq_ok_iff.mp hrecord
    obtain ⟨u, hcheck, h⟩ := bind_eq_ok_iff.mp h
    obtain ⟨id, hid, h⟩ := bind_eq_ok_iff.mp h
    obtain ⟨title, htitle, h⟩ := bind_eq_ok_iff.mp h
    obtain ⟨version, hversion, h⟩ := bind_eq_ok_iff.mp h
    obtain ⟨description, hdescription, h⟩ := bind_eq_ok_iff.mp h
    obtain ⟨icons, hicons, h⟩ := bind_eq_ok_iff.mp h
    obtain ⟨nodes, hnodes, h⟩ := bind_eq_ok_iff.mp h
    obtain ⟨edges, hedges, h⟩ := bind_eq_ok_iff.mp h
    obtain ⟨metadata, hmetadata, h⟩ := bind_eq_ok_iff.mp h
    cases pure_eq_ok_iff.mp h
    exact ⟨hcheck, once_of_check hcheck, hid, htitle, hversion, hdescription, hicons, hnodes,
      hedges, hmetadata, rfl⟩
  · rintro ⟨hcheck, hreads⟩
    have hid := hreads.id
    rw [idName] at hid
    rw [ofJson, Json.asRecord]
    simp [bind, Except.bind, hcheck, hid, hreads.title, hreads.version, hreads.description,
      hreads.icons, hreads.nodes, hreads.edges, hreads.metadata, hreads.extra, pure, Except.pure]

/-- What reads as a payload has its id under one name at most, and each field reads. -/
theorem reads_of_ofJson {fields : Fields} {p : Payload} (h : ofJson (.obj fields) = .ok p) :
    Reads fields p :=
  (ofJson_obj_iff.mp h).2

/-- An object reads as a payload exactly when its id stands under one name at
most and each field reads. -/
theorem ofJson_eq_ok_iff {fields : Fields} {p : Payload} (h : fields.Ascending) :
    ofJson (.obj fields) = .ok p ↔ Reads fields p :=
  ofJson_obj_iff.trans (and_iff_right_of_imp fun hreads => hreads.check h)

/-! ## writing -/

section
variable (key : String) (write : α → Json) (value : Option α)

theorem get?_member (other : String) :
    Fields.get? (member key write value) other = if key = other then value.map write else none := by
  cases value with
  | none => simp [member]
  | some a => simp [member, Fields.get?_cons]

theorem keys_member_sublist : (Fields.keys (member key write value)).Sublist [key] := by
  cases value with
  | none => exact List.nil_sublist _
  | some a => exact List.Sublist.refl _

end

/-- The fields of a payload that are present, as members. -/
def fieldMembers (p : Payload) : List (String × Json) :=
  member idKey Id.toJson p.id ++ member "title" .str p.title ++
    member "version" .str p.version ++ member "description" .str p.description ++
    member "icons" .str p.icons ++
    member "nodes" (fun nodes => .arr (nodes.map Node.toJson)) p.nodes ++
    member "edges" (fun edges => .arr (edges.map Edge.toJson)) p.edges ++
    member "metadata" .obj p.metadata

/-- The members of a payload that is written. -/
def members (p : Payload) : Fields := (Fields.ofPairs p.fieldMembers).extend p.extra

theorem toJson_eq (p : Payload) : p.toJson = .obj p.members := rfl

theorem keys_fieldMembers_sublist (p : Payload) :
    (Fields.keys p.fieldMembers).Sublist documentKeys := by
  simp only [fieldMembers, Fields.keys, List.map_append]
  exact ((((((((keys_member_sublist _ _ _).append (keys_member_sublist _ _ _)).append
    (keys_member_sublist _ _ _)).append (keys_member_sublist _ _ _)).append
    (keys_member_sublist _ _ _)).append (keys_member_sublist _ _ _)).append
    (keys_member_sublist _ _ _)).append (keys_member_sublist _ _ _))

theorem isRecord_members (p : Payload) (h : Fields.Unknown fieldNames p.extra) :
    Fields.IsRecord fieldNames p.fieldMembers p.extra p.members := by
  have hnodup : documentKeys.Nodup := by decide
  have hsublist := p.keys_fieldMembers_sublist
  exact h.isRecord (hnodup.sublist hsublist) fun key hkey =>
    List.mem_cons_of_mem idAlias (hsublist.subset hkey)

/-- What is found in a payload that is written under the names of fields. -/
structure Writes (p : Payload) (members : Fields) : Prop where
  id : members.get? idKey = p.id.map Id.toJson
  otherName : members.get? idAlias = none
  title : members.get? "title" = p.title.map .str
  version : members.get? "version" = p.version.map .str
  description : members.get? "description" = p.description.map .str
  icons : members.get? "icons" = p.icons.map .str
  nodes : members.get? "nodes" = p.nodes.map fun nodes => .arr (nodes.map Node.toJson)
  edges : members.get? "edges" = p.edges.map fun edges => .arr (edges.map Edge.toJson)
  metadata : members.get? "metadata" = p.metadata.map .obj

theorem writes_members (p : Payload) (h : Fields.Unknown fieldNames p.extra) :
    p.Writes p.members := by
  have hget := (p.isRecord_members h).field
  simp only [fieldMembers, Fields.get?_append, get?_member] at hget
  constructor
  all_goals
    rw [hget _ (by decide)]
    simp [idKey, idAlias]

/-- **A payload is read back** as it is written. -/
theorem ofJson_toJson {p : Payload} (h : Fields.Unknown fieldNames p.extra)
    (hnodes : ∀ nodes, p.nodes = some nodes →
      ∀ n ∈ nodes, Fields.Unknown Node.fieldNames n.extra ∧ n.position.IsFinite)
    (hedges : ∀ edges, p.edges = some edges →
      ∀ e ∈ edges, Fields.Unknown Edge.fieldNames e.extra) :
    ofJson p.toJson =
      .ok { p with nodes := p.nodes.map fun nodes => nodes.map Node.canonical } := by
  have hrecord := p.isRecord_members h
  have hwrites := p.writes_members h
  have halias : p.members.contains idAlias = false := by
    rw [Fields.contains, hwrites.otherName, Option.isSome_none]
  have hid : p.members.get? (idName p.members) = p.id.map Id.toJson := by
    rw [idName, Fields.contains, hwrites.id]
    cases hpresent : p.id with
    | none => exact hwrites.otherName
    | some id => exact hwrites.id.trans (congrArg _ hpresent)
  rw [toJson_eq, ofJson_eq_ok_iff hrecord.ascending]
  refine ⟨?_, ?_, ?_, ?_, ?_, ?_, ?_, ?_, ?_, hrecord.rest⟩
  · rw [halias, Bool.and_false]
  · exact Fields.optional_of_get? hid (fun _ => rfl) fun _ _ => rfl
  · exact Fields.optional_of_get? hwrites.title (fun _ => rfl) fun _ _ => rfl
  · exact Fields.optional_of_get? hwrites.version (fun _ => rfl) fun _ _ => rfl
  · exact Fields.optional_of_get? hwrites.description (fun _ => rfl) fun _ _ => rfl
  · exact Fields.optional_of_get? hwrites.icons (fun _ => rfl) fun _ _ => rfl
  · refine Fields.optional_of_get?_eq_map _ hwrites.nodes (fun _ => rfl) fun nodes hpresent => ?_
    exact Json.asListOf_map fun n hn =>
      have hn := hnodes nodes hpresent n hn
      Node.ofJson_toJson hn.1 hn.2
  · refine Fields.optional_of_get? hwrites.edges (fun _ => rfl) fun edges hpresent => ?_
    have hread := Json.asListOf_map (f := fun e => e) fun e he =>
      Edge.ofJson_toJson (hedges edges hpresent e he)
    rwa [List.map_id'] at hread
  · exact Fields.optional_of_get? hwrites.metadata (fun _ => rfl) fun _ _ => rfl

end WorkflowEditor.Payload
