import WorkflowEditor.Proofs.Workflow.RoundTrip

/-!
# WorkflowEditor.Proofs.Workflow.Grammar

The grammar of workflow documents.  For every reader there is the form of the
values that it accepts, said of the members of an object key by key; what is
taken from a document is said by look-ups.

The members are checked before the fields are read, so a member that is there
must have its form even where another of the same key is read in its place.

* `Fields.May`, `Fields.Must` — what stands under a key of an object;
* `Position.readable_iff`, `Node.readable_iff`, `Edge.readable_iff`,
  `Payload.readable_iff` — a reader accepts exactly the values of its form;
* `Payload.carries_of_ofJson` — a payload carries the fields that are not null
  and all other members.
-/

namespace WorkflowEditor

/-! ## values -/

namespace Json

/-- The reader accepts the value. -/
def Readable (read : Json → Except ReadError α) (v : Json) : Prop := ∃ a, read v = .ok a

def IsText (v : Json) : Prop := ∃ s, v = .str s

def IsNumber (v : Json) : Prop := ∃ n, v = .num n

def IsObject (v : Json) : Prop := ∃ fields, v = .obj fields

/-- A list with items of one form. -/
def IsListOf (form : Json → Prop) (v : Json) : Prop :=
  ∃ items, v = .arr items ∧ ∀ item ∈ items, form item

def OrNull (form : Json → Prop) (v : Json) : Prop := v = .null ∨ form v

/-- What is taken from each item of a list. -/
def CarriesAll (carries : Json → α → Prop) (v : Json) (values : List α) : Prop :=
  ∃ items, v = .arr items ∧ List.Forall₂ carries items values

variable {v : Json} {read : Json → Except ReadError α}

theorem readable_asString : Readable asString v ↔ v.IsText := by
  simp only [Readable, IsText, asString_eq_ok_iff]

theorem readable_asMap : Readable asMap v ↔ v.IsObject := by
  simp only [Readable, IsObject, asMap_eq_ok_iff]

theorem readable_asDouble : Readable asDouble v ↔ v.IsNumber := by
  simp [Readable, IsNumber, asDouble_eq_ok_iff]

theorem readable_map {f : α → β} : Readable (fun v => (read v).map f) v ↔ Readable read v := by
  simp [Readable, map_eq_ok_iff]

theorem readable_id {subject : Subject} :
    Readable (@Id.ofJson subject) v ↔ v.IsText :=
  readable_map.trans readable_asString

theorem readable_asListOf {form : Json → Prop} (h : ∀ v, Readable read v ↔ form v) :
    Readable (asListOf read) v ↔ v.IsListOf form := by
  simp only [IsListOf, ← h, Readable, asListOf, bind_eq_ok_iff, asItems_eq_ok_iff,
    ← exists_mapM_eq_ok_iff]
  constructor
  · rintro ⟨values, items, hv, hread⟩
    exact ⟨items, hv, values, hread⟩
  · rintro ⟨items, hv, values, hread⟩
    exact ⟨values, items, hv, hread⟩

theorem readable_asOptional {form : Json → Prop} (h : ∀ v, Readable read v ↔ form v) :
    Readable (asOptional read) v ↔ v.OrNull form := by
  simp only [OrNull, ← h]
  cases v <;> simp [Readable, asOptional, map_eq_ok_iff]

end Json

open Json

/-! ## members -/

namespace Fields

/-- What stands under the key, if anything does, has the form. -/
def May (fields : Fields) (key : String) (form : Json → Prop) : Prop :=
  ∀ v, (key, v) ∈ fields → form v

/-- Something stands under the key, and it has the form. -/
def Must (fields : Fields) (key : String) (form : Json → Prop) : Prop :=
  key ∈ fields.keys ∧ fields.May key form

variable {fields : Fields} {key : String} {form : Json → Prop} {read : Json → Except ReadError α}

theorem may_and {p q : Json → Prop} :
    (fields.May key fun v => p v ∧ q v) ↔ fields.May key p ∧ fields.May key q := by
  simp only [May, imp_and, forall_and]

/-- What is asked of some keys only is asked of what stands under them. -/
theorem forall_may_imp {p : String → Prop} :
    (∀ key, fields.May key fun v => p key → form v) ↔ ∀ key, p key → fields.May key form :=
  ⟨fun h key hkey v hmem => h key v hmem hkey, fun h key v hmem hkey => h key hkey v hmem⟩

/-- All members pass a check exactly when what stands under every key does. -/
theorem check_iff_may {checkMember : String → Json → Except ReadError Unit} :
    fields.check checkMember = .ok () ↔
      ∀ key, fields.May key fun v => checkMember key v = .ok () := by
  rw [check_eq_ok_iff, Prod.forall]
  rfl

theorem contains_iff_mem_keys : fields.contains key = true ↔ key ∈ fields.keys := by
  rw [contains, mem_keys_iff, Option.isSome_iff_exists]

theorem mem_keys_of_required {a : α} (h : fields.required key read = .ok a) :
    key ∈ fields.keys := by
  obtain ⟨v, hget, -⟩ := required_eq_ok_iff.mp h
  exact mem_keys_iff.mpr ⟨v, hget⟩

/-- A member that must be there is read if its reader accepts its form. -/
theorem Must.exists_required (h : fields.Must key form) (hform : ∀ v, form v → Readable read v) :
    ∃ a, fields.required key read = .ok a := by
  obtain ⟨v, hget⟩ := mem_keys_iff.mp h.1
  obtain ⟨a, ha⟩ := hform v (h.2 v (mem_of_get? hget))
  exact ⟨a, required_eq_ok_iff.mpr ⟨v, hget, ha⟩⟩

/-- A member that may be there is read if its reader accepts its form. -/
theorem May.exists_defaulted (h : fields.May key form) (default : α)
    (hform : ∀ v, form v → Readable read v) :
    ∃ a, fields.defaulted key default read = .ok a := by
  rw [defaulted]
  cases hget : fields.get? key with
  | none => exact ⟨default, rfl⟩
  | some v => exact hform v (h v (mem_of_get? hget))

/-- A member that may be there or null is read if its reader accepts its form. -/
theorem May.exists_optional (h : fields.May key (OrNull form))
    (hform : ∀ v, Readable read v ↔ form v) : ∃ o, fields.optional key read = .ok o :=
  h.exists_defaulted none fun _ => (readable_asOptional hform).mpr

/-- Of a list that may be absent or null the items are read one by one. -/
theorem rel_of_optional {carries : Json → α → Prop} {o : Option (List α)}
    (h : ∀ v a, read v = .ok a → carries v a)
    (hread : fields.optional key (asListOf read) = .ok o) :
    Option.Rel (CarriesAll carries) ((Json.obj fields).nonNull? key) o := by
  obtain ⟨hnone, rfl⟩ | ⟨v, values, hsome, hvalues, rfl⟩ := optional_eq_ok_iff.mp hread
  · rw [hnone]
    exact .none
  · obtain ⟨items, rfl, hitems⟩ := asListOf_eq_ok_iff.mp hvalues
    rw [hsome]
    exact .some ⟨items, rfl, hitems.imp h⟩

end Fields

/-! ## positions -/

/-- An object with numbers `x` and `y`, or a list of two numbers. -/
inductive Position.Form : Json → Prop
  | object {fields : Fields} (x : fields.Must "x" Json.IsNumber)
      (y : fields.Must "y" Json.IsNumber) : Form (.obj fields)
  | pair (x y : Number) : Form (.arr [.num x, .num y])

namespace Position

variable {fields : Fields} {v : Json}

theorem checkMember_eq_ok_iff {key : String} : checkMember key v = .ok () ↔
    (key = "x" → v.IsNumber) ∧ (key = "y" → v.IsNumber) := by
  rw [← or_imp, checkMember, ← readable_asDouble]
  split <;> simp_all [discard_eq_ok_iff, Readable]

theorem check_iff : fields.check checkMember = .ok () ↔
    fields.May "x" Json.IsNumber ∧ fields.May "y" Json.IsNumber := by
  simp only [Fields.check_iff_may, checkMember_eq_ok_iff, Fields.may_and, forall_and,
    Fields.forall_may_imp, forall_eq]

/-- **A position is read** exactly of an object with both coordinates or of a pair. -/
theorem readable_iff : Readable ofJson v ↔ Form v := by
  constructor
  · rintro ⟨p, hread⟩
    cases v with
    | obj fields =>
        obtain ⟨u, hcheck, hread⟩ := bind_eq_ok_iff.mp hread
        obtain ⟨x, hx, hread⟩ := bind_eq_ok_iff.mp hread
        obtain ⟨y, hy, -⟩ := bind_eq_ok_iff.mp hread
        obtain ⟨mayx, mayy⟩ := check_iff.mp hcheck
        exact .object ⟨Fields.mem_keys_of_required hx, mayx⟩ ⟨Fields.mem_keys_of_required hy, mayy⟩
    | arr items =>
        obtain ⟨a, b, hparts, -⟩ := parts?_of_ofJson hread
        match items with
        | [x, y] =>
            cases hparts
            exact .pair a b
        | [] | [_] | _ :: _ :: _ :: _ => cases hparts
    | _ => cases hread
  · rintro (⟨hx, hy⟩ | ⟨x, y⟩)
    · obtain ⟨x, hreadx⟩ := hx.exists_required fun _ => readable_asDouble.mpr
      obtain ⟨y, hready⟩ := hy.exists_required fun _ => readable_asDouble.mpr
      exact ⟨⟨x, y⟩, bind_eq_ok_iff.mpr ⟨(), check_iff.mpr ⟨hx.2, hy.2⟩,
        bind_eq_ok_iff.mpr ⟨x, hreadx, bind_eq_ok_iff.mpr ⟨y, hready, rfl⟩⟩⟩⟩
    · have hread (n : Number) : (Json.num n).asDouble = .ok n.toDouble :=
        asDouble_eq_ok_iff.mpr ⟨n, rfl, rfl⟩
      refine ⟨⟨x.toDouble, y.toDouble⟩, ?_⟩
      exact bind_eq_ok_iff.mpr ⟨_, hread x, bind_eq_ok_iff.mpr ⟨_, hread y, rfl⟩⟩

end Position

/-! ## nodes -/

/-- An object with texts `id` and `type`; if its position and its data are
there they are a position and an object. -/
inductive Node.Form : Json → Prop
  | object {fields : Fields} (id : fields.Must "id" IsText) (typeId : fields.Must "type" IsText)
      (position : fields.May "position" Position.Form) (data : fields.May "data" IsObject) :
      Form (.obj fields)

namespace Node

variable {fields : Fields} {v : Json}

theorem checkMember_eq_ok_iff {key : String} : checkMember key v = .ok () ↔
    (key = "id" → v.IsText) ∧ (key = "type" → v.IsText) ∧
      (key = "position" → Position.Form v) ∧ (key = "data" → v.IsObject) := by
  simp only [checkMember, ← readable_asString, ← readable_asMap, ← Position.readable_iff, Readable,
    ← discard_eq_ok_iff]
  grind

theorem check_iff : fields.check checkMember = .ok () ↔
    fields.May "id" IsText ∧ fields.May "type" IsText ∧
      fields.May "position" Position.Form ∧ fields.May "data" IsObject := by
  simp only [Fields.check_iff_may, checkMember_eq_ok_iff, Fields.may_and, forall_and,
    Fields.forall_may_imp, forall_eq]

/-- **A node is read** exactly of an object of its form. -/
theorem readable_iff : Readable ofJson v ↔ Form v := by
  constructor
  · rintro ⟨node, hread⟩
    obtain ⟨fields, rfl⟩ := Json.exists_fields_of_asRecord hread
    obtain ⟨hcheck, hid, htype, -⟩ := ofJson_obj_iff.mp hread
    obtain ⟨mayid, maytype, position, data⟩ := check_iff.mp hcheck
    exact .object ⟨Fields.mem_keys_of_required hid, mayid⟩
      ⟨Fields.mem_keys_of_required htype, maytype⟩ position data
  · rintro ⟨id, typeId, position, data⟩
    have hcheck := check_iff.mpr ⟨id.2, typeId.2, position, data⟩
    obtain ⟨_, hid⟩ := id.exists_required fun _ => readable_id.mpr
    obtain ⟨_, htype⟩ := typeId.exists_required fun _ => readable_asString.mpr
    obtain ⟨_, hposition⟩ := position.exists_defaulted .origin fun _ => Position.readable_iff.mpr
    obtain ⟨_, hdata⟩ := data.exists_defaulted [] fun _ => readable_asMap.mpr
    exact ⟨⟨_, _, _, _, _⟩, ofJson_obj_iff.mpr ⟨hcheck, hid, htype, hposition, hdata, rfl⟩⟩

end Node

/-! ## edges -/

/-- An object with texts `id`, `source` and `target`; if its handles are there
they are texts or null, and if its type is there it is a text. -/
inductive Edge.Form : Json → Prop
  | object {fields : Fields} (id : fields.Must "id" IsText)
      (source : fields.Must "source" IsText)
      (sourceHandle : fields.May "sourceHandle" (OrNull IsText))
      (target : fields.Must "target" IsText)
      (targetHandle : fields.May "targetHandle" (OrNull IsText))
      (kind : fields.May "type" IsText) : Form (.obj fields)

namespace Edge

variable {fields : Fields} {v : Json}

theorem checkMember_eq_ok_iff {key : String} : checkMember key v = .ok () ↔
    (key = "id" → v.IsText) ∧ (key = "source" → v.IsText) ∧
      (key = "sourceHandle" → v.OrNull IsText) ∧ (key = "target" → v.IsText) ∧
      (key = "targetHandle" → v.OrNull IsText) ∧ (key = "type" → v.IsText) := by
  rw [← readable_asString, ← readable_asOptional fun _ => readable_asString]
  simp only [checkMember, Readable, ← discard_eq_ok_iff]
  grind

theorem check_iff : fields.check checkMember = .ok () ↔
    fields.May "id" IsText ∧ fields.May "source" IsText ∧
      fields.May "sourceHandle" (OrNull IsText) ∧ fields.May "target" IsText ∧
      fields.May "targetHandle" (OrNull IsText) ∧ fields.May "type" IsText := by
  simp only [Fields.check_iff_may, checkMember_eq_ok_iff, Fields.may_and, forall_and,
    Fields.forall_may_imp, forall_eq]

/-- **An edge is read** exactly of an object of its form. -/
theorem readable_iff : Readable ofJson v ↔ Form v := by
  constructor
  · rintro ⟨edge, hread⟩
    obtain ⟨fields, rfl⟩ := Json.exists_fields_of_asRecord hread
    obtain ⟨hcheck, hid, hsource, -, htarget, -⟩ := ofJson_obj_iff.mp hread
    obtain ⟨mayid, maysource, sourceHandle, maytarget, targetHandle, kind⟩ := check_iff.mp hcheck
    exact .object ⟨Fields.mem_keys_of_required hid, mayid⟩
      ⟨Fields.mem_keys_of_required hsource, maysource⟩ sourceHandle
      ⟨Fields.mem_keys_of_required htarget, maytarget⟩ targetHandle kind
  · rintro ⟨id, source, sourceHandle, target, targetHandle, kind⟩
    have hcheck := check_iff.mpr ⟨id.2, source.2, sourceHandle, target.2, targetHandle, kind⟩
    obtain ⟨_, hid⟩ := id.exists_required fun _ => readable_id.mpr
    obtain ⟨_, hsource⟩ := source.exists_required fun _ => readable_id.mpr
    obtain ⟨_, hsourceHandle⟩ := sourceHandle.exists_optional fun _ => readable_asString
    obtain ⟨_, htarget⟩ := target.exists_required fun _ => readable_id.mpr
    obtain ⟨_, htargetHandle⟩ := targetHandle.exists_optional fun _ => readable_asString
    obtain ⟨_, hkind⟩ := kind.exists_defaulted EdgeKind.simple fun _ h =>
      (readable_map (f := EdgeKind.mk)).mpr (readable_asString.mpr h)
    exact ⟨⟨_, _, _, _, _, _, _⟩, ofJson_obj_iff.mpr
      ⟨hcheck, hid, hsource, hsourceHandle, htarget, htargetHandle, hkind, rfl⟩⟩

end Edge

/-! ## documents -/

/-- The members of a document that are texts. -/
def Payload.textKeys : List String := ["_id", "id", "title", "version", "description", "icons"]

/-- An object with its id under one name at most; each of its fields is null or
has its form if it is there. -/
inductive Payload.Form : Json → Prop
  | object {fields : Fields} (once : ¬("_id" ∈ fields.keys ∧ "id" ∈ fields.keys))
      (texts : ∀ key ∈ textKeys, fields.May key (OrNull IsText))
      (nodes : fields.May "nodes" (OrNull (IsListOf Node.Form)))
      (edges : fields.May "edges" (OrNull (IsListOf Edge.Form)))
      (metadata : fields.May "metadata" (OrNull IsObject)) : Form (.obj fields)

namespace Payload

variable {fields : Fields} {v : Json} {p : Payload}

theorem readable_nodes : Readable (asListOf Node.ofJson) v ↔ v.IsListOf Node.Form :=
  readable_asListOf fun _ => Node.readable_iff

theorem readable_edges : Readable (asListOf Edge.ofJson) v ↔ v.IsListOf Edge.Form :=
  readable_asListOf fun _ => Edge.readable_iff

theorem checkMember_eq_ok_iff {key : String} : checkMember false key v = .ok () ↔
    (key ∈ textKeys → v.OrNull IsText) ∧ (key = "nodes" → v.OrNull (IsListOf Node.Form)) ∧
      (key = "edges" → v.OrNull (IsListOf Edge.Form)) ∧
      (key = "metadata" → v.OrNull IsObject) := by
  rw [← readable_asOptional fun _ => readable_asString,
    ← readable_asOptional fun _ => readable_asMap, ← readable_asOptional fun _ => readable_nodes,
    ← readable_asOptional fun _ => readable_edges]
  simp only [checkMember, Readable, ← discard_eq_ok_iff, idKey, idAlias,
    textKeys]
  grind

theorem check_iff : fields.check (checkMember false) = .ok () ↔
    (∀ key ∈ textKeys, fields.May key (OrNull IsText)) ∧
      fields.May "nodes" (OrNull (IsListOf Node.Form)) ∧
      fields.May "edges" (OrNull (IsListOf Edge.Form)) ∧
      fields.May "metadata" (OrNull IsObject) := by
  simp only [Fields.check_iff_may, checkMember_eq_ok_iff, Fields.may_and, forall_and,
    Fields.forall_may_imp, forall_eq]

/-- The id stands under one name at most. -/
theorem once_iff : (fields.contains idKey && fields.contains idAlias) = false ↔
    ¬("_id" ∈ fields.keys ∧ "id" ∈ fields.keys) := by
  rw [← Bool.not_eq_true, Bool.and_eq_true, Fields.contains_iff_mem_keys,
    Fields.contains_iff_mem_keys]
  rfl

theorem idName_mem_textKeys (fields : Fields) : idName fields ∈ textKeys := by
  rw [idName]
  split
  · decide
  · decide

/-- **A payload is read** exactly of a document of its form. -/
theorem readable_iff : Readable ofJson v ↔ Form v := by
  constructor
  · rintro ⟨p, hread⟩
    obtain ⟨fields, rfl⟩ := Json.exists_fields_of_asRecord hread
    obtain ⟨hcheck, hreads⟩ := ofJson_obj_iff.mp hread
    rw [hreads.once] at hcheck
    obtain ⟨texts, nodes, edges, metadata⟩ := check_iff.mp hcheck
    exact .object (once_iff.mp hreads.once) texts nodes edges metadata
  · rintro ⟨once, texts, nodes, edges, metadata⟩
    next fields =>
    have honce := once_iff.mpr once
    have hcheck := check_iff.mpr ⟨texts, nodes, edges, metadata⟩
    have htext (key : String) (hkey : key ∈ textKeys) : ∃ o, fields.optional key asString = .ok o :=
      (texts key hkey).exists_optional fun _ => readable_asString
    obtain ⟨_, hid⟩ := (texts _ (idName_mem_textKeys fields)).exists_optional
      fun _ => @readable_id _ .workflow
    obtain ⟨_, htitle⟩ := htext "title" (by decide)
    obtain ⟨_, hversion⟩ := htext "version" (by decide)
    obtain ⟨_, hdescription⟩ := htext "description" (by decide)
    obtain ⟨_, hicons⟩ := htext "icons" (by decide)
    obtain ⟨_, hnodes⟩ := nodes.exists_optional fun _ => readable_nodes
    obtain ⟨_, hedges⟩ := edges.exists_optional fun _ => readable_edges
    obtain ⟨_, hmetadata⟩ := metadata.exists_optional fun _ => readable_asMap
    -- not both names of the id are there, so each is checked as any other text
    rw [← honce] at hcheck
    exact ⟨⟨_, _, _, _, _, _, _, _, _⟩, ofJson_obj_iff.mpr ⟨hcheck, honce, hid, htitle, hversion,
      hdescription, hicons, hnodes, hedges, hmetadata, rfl⟩⟩

/-- What is taken from an object that is read as a payload: the fields that are
not null, the lists item by item, and all other members. -/
structure Carries (v : Json) (p : Payload) : Prop where
  id : (v.nonNull? "_id").or (v.nonNull? "id") = p.id.map Id.toJson
  title : v.nonNull? "title" = p.title.map .str
  version : v.nonNull? "version" = p.version.map .str
  description : v.nonNull? "description" = p.description.map .str
  icons : v.nonNull? "icons" = p.icons.map .str
  nodes : Option.Rel (CarriesAll Node.Carries) (v.nonNull? "nodes") p.nodes
  edges : Option.Rel (CarriesAll Edge.Carries) (v.nonNull? "edges") p.edges
  metadata : v.nonNull? "metadata" = p.metadata.map .obj
  extra : ∀ key, p.extra.get? key = if key ∈ fieldNames then none else v.get? key

theorem carries_of_ofJson (h : ofJson v = .ok p) : Carries v p := by
  obtain ⟨fields, rfl⟩ := Json.exists_fields_of_asRecord h
  obtain ⟨-, -, htitle, hversion, hdescription, hicons, hnodes, hedges, hmetadata, hextra⟩ :=
    reads_of_ofJson h
  have htext {key : String} {o : Option String}
      (hread : Fields.optional fields key asString = .ok o) :
      (Json.obj fields).nonNull? key = o.map .str :=
    Fields.optional_eq_ok_of_forall Json.str (fun _ _ => asString_eq_ok_iff.mp) hread
  exact ⟨id_of_ofJson h, htext htitle, htext hversion, htext hdescription, htext hicons,
    Fields.rel_of_optional (fun _ _ => Node.carries_of_ofJson) hnodes,
    Fields.rel_of_optional (fun _ _ => Edge.carries_of_ofJson) hedges,
    Fields.optional_eq_ok_of_forall Json.obj (fun _ _ => asMap_eq_ok_iff.mp) hmetadata,
    Fields.get?_of_without_eq hextra⟩

end Payload

end WorkflowEditor
