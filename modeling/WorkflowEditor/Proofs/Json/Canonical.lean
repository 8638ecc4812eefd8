import WorkflowEditor.Proofs.Json.Members
import WorkflowEditor.Proofs.Number.Whole

/-!
# WorkflowEditor.Proofs.Json.Canonical

JSON values whose zeros have no sign.  The equality of values compares numbers,
and the two zeros are the same number; it tells values apart exactly as far as
their canonical forms do.

* `canonical_of_same` — equal values have one canonical form;
* `Fields.get?_canonical`, `.canonical_extend`, `.canonical_without` — what is
  found in an object, and objects made from others, in canonical form.
-/

namespace WorkflowEditor

/-- The number without the sign of a zero. -/
def Number.canonical : Number → Number
  | .whole i => .whole i
  | .double d => .double d.canonical

mutual

/-- The value with no sign at its zeros. -/
def Json.canonical : Json → Json
  | .null => .null
  | .bool b => .bool b
  | .num n => .num n.canonical
  | .str s => .str s
  | .arr items => .arr (Json.canonicalItems items)
  | .obj members => .obj (Json.canonicalMembers members)

def Json.canonicalItems : List Json → List Json
  | [] => []
  | v :: rest => v.canonical :: Json.canonicalItems rest

def Json.canonicalMembers : List (String × Json) → List (String × Json)
  | [] => []
  | (k, v) :: rest => (k, v.canonical) :: Json.canonicalMembers rest

end

/-- The members with no sign at their zeros. -/
def Fields.canonical (fields : Fields) : Fields := Json.canonicalMembers fields

/-! ## equality -/

theorem Double.canonical_of_same {a b : Double} (h : a.same b = true) :
    a.canonical = b.canonical := by
  simp only [same, Bool.and_eq_true, Bool.or_eq_true, beq_iff_eq] at h
  obtain ⟨-, hbits | ⟨ha, hb⟩⟩ := h
  · obtain ⟨a⟩ := a
    obtain ⟨b⟩ := b
    rw [show a = b from hbits]
  · rw [canonical, canonical, if_pos ha, if_pos hb]

theorem Number.canonical_of_same {a b : Number} (h : a.same b = true) :
    a.canonical = b.canonical := by
  cases a with
  | whole i =>
      cases b with
      | whole j => rw [beq_iff_eq.mp h]
      | double d => exact nomatch h
  | double d =>
      cases b with
      | whole j => exact nomatch h
      | double e => rw [canonical, canonical, Double.canonical_of_same h]

mutual

/-- **Equal values have one canonical form.** -/
theorem Json.canonical_of_same : (a b : Json) → a.same b = true → a.canonical = b.canonical
  | .null, b, h => by cases b <;> simp_all [Json.same]
  | .bool x, b, h => by cases b <;> simp_all [Json.same]
  | .str x, b, h => by cases b <;> simp_all [Json.same]
  | .num m, b, h => by
      cases b with
      | num n => rw [Json.canonical, Json.canonical, Number.canonical_of_same h]
      | _ => simp [Json.same] at h
  | .arr as, b, h => by
      cases b with
      | arr bs => rw [Json.canonical, Json.canonical, canonicalItems_of_same as bs h]
      | _ => simp [Json.same] at h
  | .obj as, b, h => by
      cases b with
      | obj bs => rw [Json.canonical, Json.canonical, canonicalMembers_of_same as bs h]
      | _ => simp [Json.same] at h

theorem canonicalItems_of_same : (as bs : List Json) → Json.sameItems as bs = true →
    Json.canonicalItems as = Json.canonicalItems bs
  | [], bs, h => by cases bs <;> simp_all [Json.sameItems]
  | a :: as, bs, h => by
      cases bs with
      | nil => simp [Json.sameItems] at h
      | cons b bs =>
          rw [Json.sameItems, Bool.and_eq_true] at h
          rw [Json.canonicalItems, Json.canonicalItems, a.canonical_of_same b h.1,
            canonicalItems_of_same as bs h.2]

theorem canonicalMembers_of_same : (as bs : List (String × Json)) →
    Json.sameMembers as bs = true → Json.canonicalMembers as = Json.canonicalMembers bs
  | [], bs, h => by cases bs <;> simp_all [Json.sameMembers]
  | (k, a) :: as, bs, h => by
      cases bs with
      | nil => simp [Json.sameMembers] at h
      | cons f bs =>
          obtain ⟨l, b⟩ := f
          rw [Json.sameMembers, Bool.and_eq_true, Bool.and_eq_true, beq_iff_eq] at h
          obtain ⟨rfl, hvalue, hrest⟩ := h
          rw [Json.canonicalMembers, Json.canonicalMembers, a.canonical_of_same b hvalue,
            canonicalMembers_of_same as bs hrest]

end

/-! ## objects -/

namespace Fields

theorem canonical_eq_map (fields : Fields) :
    fields.canonical = fields.map fun f => (f.1, f.2.canonical) := by
  rw [canonical]
  induction fields with
  | nil => rfl
  | cons f rest ih =>
      obtain ⟨k, v⟩ := f
      rw [Json.canonicalMembers, ih, List.map_cons]

theorem canonical_of_same {a b : Fields} (h : Json.sameMembers a b = true) :
    a.canonical = b.canonical := canonicalMembers_of_same a b h

theorem Ascending.canonical {fields : Fields} (h : fields.Ascending) :
    fields.canonical.Ascending := by
  rw [canonical_eq_map]
  exact List.pairwise_map.mpr h

@[simp] theorem canonical_nil : canonical [] = [] := rfl

theorem canonical_cons (k : String) (v : Json) (rest : Fields) :
    canonical ((k, v) :: rest) = (k, v.canonical) :: canonical rest := rfl

@[simp] theorem get?_canonical (fields : Fields) (key : String) :
    fields.canonical.get? key = (fields.get? key).map Json.canonical := by
  induction fields with
  | nil => rfl
  | cons f rest ih =>
      obtain ⟨k, v⟩ := f
      rw [canonical_cons, get?_cons, get?_cons, ih]
      split <;> rfl

@[simp] theorem contains_canonical (fields : Fields) (key : String) :
    fields.canonical.contains key = fields.contains key := by
  rw [contains, contains, get?_canonical, Option.isSome_map]

theorem canonical_insert (fields : Fields) (key : String) (value : Json) :
    (fields.insert key value).canonical = fields.canonical.insert key value.canonical := by
  induction fields with
  | nil => rfl
  | cons f rest ih =>
      obtain ⟨k, v⟩ := f
      rw [canonical_cons, insert, insert]
      split
      · rfl
      · split
        · rfl
        · rw [canonical_cons, ih]

theorem canonical_extend (base overlay : Fields) :
    (base.extend overlay).canonical = base.canonical.extend overlay.canonical := by
  induction overlay generalizing base with
  | nil => rfl
  | cons f rest ih =>
      obtain ⟨k, v⟩ := f
      rw [canonical_cons]
      exact (ih (base.insert k v)).trans (by rw [canonical_insert]; rfl)

theorem canonical_filter (fields : Fields) (keep : String → Bool) :
    canonical (fields.filter fun f => keep f.1) = fields.canonical.filter fun f => keep f.1 := by
  rw [canonical_eq_map, canonical_eq_map, List.filter_map]
  rfl

theorem canonical_without (fields : Fields) (names : List String) :
    (fields.without names).canonical = fields.canonical.without names :=
  canonical_filter fields fun key => !names.contains key

end Fields

end WorkflowEditor
