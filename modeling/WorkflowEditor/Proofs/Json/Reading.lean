import Mathlib.Data.List.Forall2
import WorkflowEditor.Proofs.Basic
import WorkflowEditor.Proofs.Json.Members

/-!
# WorkflowEditor.Proofs.Json.Reading

When a typed value is read, and from which JSON value.

A record is written as its fields with the members that are not known laid over
them.  The two parts come apart again if no member that is not known has the
name of a field (`Fields.Unknown`).

* `asListOf_eq_ok_iff` — a list is read item by item; `mapM_eq_error_iff` — or
  up to the first item that is not read;
* `required_eq_ok_iff`, `defaulted_eq_ok_iff`, `optional_eq_ok_iff` — the
  members of a record;
* `get?_of_required`, `getD_get?_of_defaulted`, `optional_eq_ok_of_forall` — a
  member is what was read of it, written again;
* `Unknown.isRecord` — what is found in a record, and what is left of it
  without its fields.
-/

namespace WorkflowEditor

/-! ## values -/

theorem discard_eq_ok_iff {x : Except ε α} : discard x = .ok () ↔ ∃ a, x = .ok a := by
  cases x with
  | error e => simp [discard, Functor.discard, Functor.mapConst, Except.map]
  | ok a => simp [discard, Functor.discard, Functor.mapConst, Except.map]

theorem map_eq_ok_iff {x : Except ε α} {f : α → β} {b : β} :
    x.map f = .ok b ↔ ∃ a, x = .ok a ∧ f a = b := by
  cases x with
  | error e => simp [Except.map]
  | ok a => simp [Except.map]

/-- A list is read item by item. -/
theorem mapM_eq_ok_iff {read : α → Except ε β} {items : List α} {values : List β} :
    items.mapM read = .ok values ↔ List.Forall₂ (fun v a => read v = .ok a) items values := by
  induction items generalizing values with
  | nil =>
      rw [List.mapM_nil, pure_eq_ok_iff, List.forall₂_nil_left_iff]
      exact eq_comm
  | cons v rest ih =>
      rw [List.mapM_cons, bind_eq_ok_iff, List.forall₂_cons_left_iff]
      constructor
      · rintro ⟨a, ha, hrest⟩
        obtain ⟨as, has, hpure⟩ := bind_eq_ok_iff.mp hrest
        exact ⟨a, as, ha, ih.mp has, (pure_eq_ok_iff.mp hpure).symm⟩
      · rintro ⟨a, as, ha, has, rfl⟩
        exact ⟨a, ha, bind_eq_ok_iff.mpr ⟨as, ih.mpr has, rfl⟩⟩

/-- All items are read if each of them is. -/
theorem exists_mapM_eq_ok_iff {read : α → Except ε β} {items : List α} :
    (∃ values, items.mapM read = .ok values) ↔ ∀ v ∈ items, ∃ a, read v = .ok a := by
  simp only [mapM_eq_ok_iff]
  induction items with
  | nil => exact ⟨fun _ => List.forall_mem_nil _, fun _ => ⟨[], .nil⟩⟩
  | cons v rest ih =>
      rw [List.forall_mem_cons, ← ih]
      constructor
      · rintro ⟨_, ha | ⟨ha, hrest⟩⟩
        exact ⟨⟨_, ha⟩, _, hrest⟩
      · rintro ⟨⟨a, ha⟩, as, has⟩
        exact ⟨a :: as, .cons ha has⟩

/-- A list that is not read stops at the first of its items that is not. -/
theorem mapM_eq_error_iff {read : α → Except ε β} {items : List α} {e : ε} :
    items.mapM read = .error e ↔ ∃ before a after, items = before ++ a :: after ∧
      (∀ b ∈ before, ∃ value, read b = .ok value) ∧ read a = .error e := by
  constructor
  · intro h
    induction items with
    | nil => exact nomatch h
    | cons a rest ih =>
        rw [List.mapM_cons] at h
        cases ha : read a with
        | error fault =>
            rw [ha] at h
            cases h
            exact ⟨[], a, rest, rfl, List.forall_mem_nil _, ha⟩
        | ok value =>
            rw [ha] at h
            cases hrest : rest.mapM read with
            | error fault =>
                obtain ⟨before, b, after, rfl, hbefore, hb⟩ := ih (by
                  simpa [bind, Except.bind, hrest] using h)
                exact ⟨a :: before, b, after, rfl,
                  List.forall_mem_cons.mpr ⟨⟨value, ha⟩, hbefore⟩, hb⟩
            | ok values => simp [bind, Except.bind, hrest, pure, Except.pure] at h
  · rintro ⟨before, a, after, rfl, hbefore, ha⟩
    induction before with
    | nil =>
        rw [List.nil_append, List.mapM_cons, ha]
        rfl
    | cons b before ih =>
        obtain ⟨⟨value, hb⟩, hbefore⟩ := List.forall_mem_cons.mp hbefore
        rw [List.cons_append, List.mapM_cons, hb]
        simp [bind, Except.bind, ih hbefore]

namespace Json

variable {v : Json}

theorem asString_eq_ok_iff {s : String} : v.asString = .ok s ↔ v = .str s := by
  cases v <;> simp [asString]

theorem asMap_eq_ok_iff {fields : Fields} : v.asMap = .ok fields ↔ v = .obj fields := by
  cases v <;> simp [asMap]

theorem asItems_eq_ok_iff {items : List Json} : v.asItems = .ok items ↔ v = .arr items := by
  cases v <;> simp [asItems]

theorem asRecord_eq_ok_iff {name : String} {fields : Fields} :
    v.asRecord name = .ok fields ↔ v = .obj fields := by
  cases v <;> simp [asRecord]

/-- Only an object reads as a record. -/
theorem exists_fields_of_asRecord {name : String} {read : Fields → Except ReadError α} {a : α}
    (h : (v.asRecord name >>= read) = .ok a) : ∃ fields, v = .obj fields := by
  obtain ⟨fields, hrecord, -⟩ := bind_eq_ok_iff.mp h
  exact ⟨fields, asRecord_eq_ok_iff.mp hrecord⟩

theorem asListOf_eq_ok_iff {read : Json → Except ReadError α} {values : List α} :
    v.asListOf read = .ok values ↔
      ∃ items, v = .arr items ∧ List.Forall₂ (fun v a => read v = .ok a) items values := by
  rw [asListOf, bind_eq_ok_iff]
  simp only [asItems_eq_ok_iff, mapM_eq_ok_iff]

/-- A list that is written item by item is read item by item. -/
theorem asListOf_map {read : Json → Except ReadError β} {write : α → Json} {f : α → β}
    {values : List α} (h : ∀ a ∈ values, read (write a) = .ok (f a)) :
    (Json.arr (values.map write)).asListOf read = .ok (values.map f) := by
  refine asListOf_eq_ok_iff.mpr ⟨_, rfl, ?_⟩
  rw [List.forall₂_map_left_iff, List.forall₂_map_right_iff, List.forall₂_same]
  exact h

theorem asOptional_of_not_isNull (read : Json → Except ReadError α) (h : v.isNull = false) :
    v.asOptional read = (read v).map some := by
  cases v with
  | null => cases h
  | _ => rfl

theorem eq_null_of_isNull (h : v.isNull = true) : v = .null := by
  cases v with
  | null => rfl
  | _ => cases h

end Json

theorem Id.ofJson_eq_ok_iff {v : Json} {id : Id subject} :
    Id.ofJson v = .ok id ↔ v = .str id.text := by
  rw [Id.ofJson, map_eq_ok_iff]
  simp only [Json.asString_eq_ok_iff]
  constructor
  · rintro ⟨s, rfl, rfl⟩
    rfl
  · rintro rfl
    exact ⟨id.text, rfl, rfl⟩

/-- An optional id is read from an optional text. -/
theorem Id.discard_asOptional {v : Json} {o : Option (Id subject)}
    (h : v.asOptional Id.ofJson = .ok o) : discard (v.asOptional Json.asString) = .ok () := by
  cases v with
  | null => rfl
  | str s => rfl
  | _ => cases h

/-! ## members -/

namespace Fields

variable {fields : Fields} {key : String} {read : Json → Except ReadError α}

theorem required_eq_ok_iff {a : α} :
    fields.required key read = .ok a ↔ ∃ v, fields.get? key = some v ∧ read v = .ok a := by
  rw [required]
  cases fields.get? key with
  | none => simp
  | some v => simp

theorem defaulted_eq_ok_iff {default a : α} :
    fields.defaulted key default read = .ok a ↔
      (fields.get? key = none ∧ a = default) ∨
        ∃ v, fields.get? key = some v ∧ read v = .ok a := by
  rw [defaulted]
  cases fields.get? key with
  | none => simp [eq_comm]
  | some v => simp

/-- A member that is absent or null reads as absent, any other is read. -/
theorem optional_eq_ok_iff {o : Option α} :
    fields.optional key read = .ok o ↔
      ((Json.obj fields).nonNull? key = none ∧ o = none) ∨
        ∃ v a, (Json.obj fields).nonNull? key = some v ∧ read v = .ok a ∧ o = some a := by
  rw [optional, defaulted, Json.nonNull?, Json.get?]
  cases fields.get? key with
  | none => simp [eq_comm]
  | some v =>
      rw [Option.filter_some]
      cases hnull : v.isNull with
      | true =>
          rw [Json.eq_null_of_isNull hnull]
          simp [Json.asOptional, eq_comm]
      | false =>
          dsimp only
          rw [Json.asOptional_of_not_isNull read hnull, map_eq_ok_iff]
          simp [eq_comm]

theorem read_of_required {a : α} {v : Json} (h : fields.required key read = .ok a)
    (hget : fields.get? key = some v) : read v = .ok a := by
  rwa [required, hget] at h

theorem read_of_defaulted {default a : α} {v : Json}
    (h : fields.defaulted key default read = .ok a) (hget : fields.get? key = some v) :
    read v = .ok a := by
  rwa [defaulted, hget] at h

theorem read_of_optional {o : Option α} {v : Json} (h : fields.optional key read = .ok o)
    (hget : fields.get? key = some v) : v.asOptional read = .ok o :=
  read_of_defaulted h hget

/-- What is read of an optional member tells the member, if its writer undoes its reader. -/
theorem optional_eq_ok_of_forall {o : Option α} (write : α → Json)
    (h : ∀ v a, read v = .ok a → v = write a) (hread : fields.optional key read = .ok o) :
    (Json.obj fields).nonNull? key = o.map write := by
  obtain ⟨hnone, rfl⟩ | ⟨v, a, hsome, ha, rfl⟩ := optional_eq_ok_iff.mp hread
  · exact hnone
  · rw [hsome, h v a ha]
    rfl

/-- What is required is found, if its writer undoes its reader. -/
theorem get?_of_required {a : α} (write : α → Json) (h : ∀ v a, read v = .ok a → v = write a)
    (hread : fields.required key read = .ok a) : (Json.obj fields).get? key = some (write a) := by
  obtain ⟨v, hget, ha⟩ := required_eq_ok_iff.mp hread
  rw [← h v a ha, ← hget]
  rfl

/-- What is read of a member or its default is found, if its writer undoes its reader. -/
theorem getD_get?_of_defaulted {default a : α} (write : α → Json)
    (h : ∀ v a, read v = .ok a → v = write a) (hread : fields.defaulted key default read = .ok a) :
    ((Json.obj fields).get? key).getD (write default) = write a := by
  obtain ⟨hnone, rfl⟩ | ⟨v, hget, ha⟩ := defaulted_eq_ok_iff.mp hread
  · rw [Json.get?, hnone, Option.getD_none]
  · rw [Json.get?, hget, Option.getD_some, h v a ha]

/-- The members kept beside the fields are those of the object under other names. -/
theorem get?_of_without_eq {extra : Fields} {names : List String}
    (h : fields.without names = extra) (key : String) :
    extra.get? key = if key ∈ names then none else (Json.obj fields).get? key := by
  rw [← h, get?_without]
  rfl

/-- An optional member that is written only if it is present is read back. -/
theorem optional_of_get?_eq_map (f : β → α) {value : Option β} {write : β → Json}
    (hget : fields.get? key = value.map write) (hnull : ∀ b, (write b).isNull = false)
    (hread : ∀ b, value = some b → read (write b) = .ok (f b)) :
    fields.optional key read = .ok (value.map f) := by
  rw [optional, defaulted, hget]
  cases value with
  | none => rfl
  | some b =>
      have hb := hread b rfl
      simp only [Option.map_some]
      rw [Json.asOptional_of_not_isNull read (hnull b), hb]
      rfl

/-- A member whose reader undoes its writer is read back as it was. -/
theorem optional_of_get? {value : Option α} {write : α → Json}
    (hget : fields.get? key = value.map write) (hnull : ∀ a, (write a).isNull = false)
    (hread : ∀ a, value = some a → read (write a) = .ok a) :
    fields.optional key read = .ok value := by
  have h := optional_of_get?_eq_map id hget hnull hread
  rwa [Option.map_id_apply] at h

/-! ## records -/

/-- Members that a record keeps beside its fields: in order, and none with the
name of a field. -/
structure Unknown (names : List String) (extra : Fields) : Prop where
  ascending : extra.Ascending
  avoids : ∀ key ∈ names, extra.get? key = none

variable {names : List String} {extra : Fields}

theorem unknown_without (h : fields.Ascending) (names : List String) :
    Unknown names (fields.without names) where
  ascending := h.without names
  avoids key hkey := by rw [get?_without, if_pos hkey]

theorem Unknown.without (h : Unknown names extra) (others : List String) :
    Unknown names (extra.without others) where
  ascending := h.ascending.without others
  avoids key hkey := by rw [get?_without, h.avoids key hkey, ite_self]

/-- The members of a record that is written: its fields, and what it keeps beside them. -/
structure IsRecord (names : List String) (own : List (String × Json)) (extra members : Fields) :
    Prop where
  ascending : members.Ascending
  field : ∀ key ∈ names, members.get? key = get? own key
  unknown : ∀ key, key ∉ names → members.get? key = extra.get? key
  rest : members.without names = extra

/-- **A record comes apart again** into its fields and what it keeps beside them. -/
theorem Unknown.isRecord {own : List (String × Json)} (h : Unknown names extra)
    (hnodup : (keys own).Nodup) (hown : ∀ key ∈ keys own, key ∈ names) :
    IsRecord names own extra ((ofPairs own).extend extra) := by
  have hget : ∀ key, ((ofPairs own).extend extra).get? key =
      (extra.get? key).or (get? own key) := fun key => by
    rw [get?_extend_of_ascending _ h.ascending, get?_ofPairs, get?_reverse_of_nodup hnodup]
  have hunknown : ∀ key, key ∉ names → ((ofPairs own).extend extra).get? key = extra.get? key := by
    intro key hkey
    have hnone : get? own key = none := get?_eq_none_of_not_mem fun hmem => hkey (hown key hmem)
    rw [hget, hnone, Option.or_none]
  have hascending := (ascending_ofPairs own).extend extra
  refine ⟨hascending, fun key hkey => ?_, hunknown, ?_⟩
  · rw [hget, h.avoids key hkey, Option.none_or]
  · refine (hascending.without names).ext h.ascending fun key => ?_
    rw [get?_without]
    split
    · next hkey => rw [h.avoids key hkey]
    · next hkey => exact hunknown key hkey

end Fields

end WorkflowEditor
