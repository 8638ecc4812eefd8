import WorkflowEditor.Proofs.Json.Members
import WorkflowEditor.Proofs.Number.Whole

/-!
# WorkflowEditor.Proofs.Json.WellFormed

What every JSON value that is received or kept satisfies: whole numbers have at
most 64 bits, doubles are finite, and the members of every object ascend.

* `WellFormed.same_self` — a well-formed value equals itself, there being no NaN in it;
* `Fields.WellFormed.get?`, `.extend`, `.without` — parts of objects, and
  objects made from others, are well-formed.
-/

namespace WorkflowEditor

/-- A whole number of at most 64 bits, signed or not, or a finite double. -/
def Number.Fits : Number → Prop
  | .whole i => -0x8000000000000000 ≤ i ∧ i < 0x10000000000000000
  | .double d => d.isFinite = true

instance : DecidablePred Number.Fits
  | .whole _ => inferInstanceAs (Decidable (_ ∧ _))
  | .double _ => inferInstanceAs (Decidable (_ = _))

/-- All numbers in the value fit, and the members of all its objects ascend. -/
inductive Json.WellFormed : Json → Prop
  | null : WellFormed .null
  | bool (b : Bool) : WellFormed (.bool b)
  | num {n : Number} (fits : n.Fits) : WellFormed (.num n)
  | str (s : String) : WellFormed (.str s)
  | arr {items : List Json} (each : ∀ v ∈ items, WellFormed v) : WellFormed (.arr items)
  | obj {members : List (String × Json)} (ascending : Fields.Ascending members)
      (each : ∀ f ∈ members, WellFormed f.2) : WellFormed (.obj members)

/-- Members that make up a well-formed object. -/
def Fields.WellFormed (fields : Fields) : Prop := Json.WellFormed (.obj fields)

/-! ## equality -/

theorem Number.Fits.same_self {n : Number} (h : n.Fits) : n.same n = true := by
  cases n with
  | whole i => simp [Number.same]
  | double d => exact Double.same_self h

namespace Json

theorem sameItems_self {items : List Json} (h : ∀ v ∈ items, v.same v = true) :
    sameItems items items = true := by
  induction items with
  | nil => rfl
  | cons v rest ih =>
      rw [sameItems, h v List.mem_cons_self, ih fun w hw => h w (List.mem_cons_of_mem v hw)]
      rfl

theorem sameMembers_self {members : List (String × Json)} (h : ∀ f ∈ members, f.2.same f.2 = true) :
    sameMembers members members = true := by
  induction members with
  | nil => rfl
  | cons f rest ih =>
      obtain ⟨k, v⟩ := f
      have hv : v.same v = true := h _ List.mem_cons_self
      rw [sameMembers, hv, ih fun g hg => h g (List.mem_cons_of_mem _ hg)]
      simp

theorem WellFormed.fits {n : Number} (h : WellFormed (.num n)) : n.Fits := by
  cases h with
  | num fits => exact fits

/-- A well-formed value equals itself, there being no NaN in it. -/
theorem WellFormed.same_self {v : Json} (h : v.WellFormed) : v.same v = true := by
  induction h with
  | null => simp [same]
  | bool b => simp [same]
  | num fits => simp [same, fits.same_self]
  | str s => simp [same]
  | arr each ih => rw [same]; exact sameItems_self ih
  | obj ascending each ih => rw [same]; exact sameMembers_self ih

end Json

/-! ## objects -/

namespace Fields.WellFormed

variable {fields : Fields} (h : fields.WellFormed)
include h

theorem ascending : fields.Ascending := by
  cases h with
  | obj ascending each => exact ascending

theorem each : ∀ f ∈ fields, f.2.WellFormed := by
  cases h with
  | obj ascending each => exact each

theorem get? {key : String} {v : Json} (hget : fields.get? key = some v) : v.WellFormed :=
  h.each _ (mem_of_get? hget)

theorem same_self : Json.sameMembers fields fields = true :=
  Json.sameMembers_self fun f hf => (h.each f hf).same_self

theorem insert (key : String) {value : Json} (hvalue : value.WellFormed) :
    (fields.insert key value).WellFormed :=
  .obj (h.ascending.insert key value) fun f hf => by
    obtain rfl | hf := mem_insert hf
    · exact hvalue
    · exact h.each f hf

theorem extend {overlay : Fields} (hoverlay : ∀ f ∈ overlay, f.2.WellFormed) :
    (fields.extend overlay).WellFormed := by
  induction overlay generalizing fields with
  | nil => exact h
  | cons f rest ih =>
      exact ih (h.insert f.1 (hoverlay f List.mem_cons_self))
        fun g hg => hoverlay g (List.mem_cons_of_mem f hg)

theorem without (names : List String) : (fields.without names).WellFormed :=
  .obj (h.ascending.without names) fun f hf => h.each f (List.mem_filter.mp hf).1

end Fields.WellFormed

theorem Fields.wellFormed_nil : Fields.WellFormed [] :=
  .obj Fields.ascending_nil fun _ hf => (List.not_mem_nil hf).elim

theorem Fields.wellFormed_pair {k l : String} {v w : Json} (h : k < l) (hv : v.WellFormed)
    (hw : w.WellFormed) : Fields.WellFormed [(k, v), (l, w)] :=
  .obj (Fields.ascending_pair h) fun f hf => by
    obtain rfl | hf := List.mem_cons.mp hf
    · exact hv
    · rw [List.mem_singleton.mp hf]
      exact hw

theorem Fields.wellFormed_ofPairs {pairs : List (String × Json)}
    (h : ∀ f ∈ pairs, f.2.WellFormed) : (Fields.ofPairs pairs).WellFormed :=
  Fields.wellFormed_nil.extend h

theorem Json.wellFormed_object {pairs : List (String × Json)}
    (h : ∀ f ∈ pairs, f.2.WellFormed) : (Json.object pairs).WellFormed :=
  Fields.wellFormed_ofPairs h

end WorkflowEditor
