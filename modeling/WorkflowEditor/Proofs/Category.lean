import WorkflowEditor.Connection
import WorkflowEditor.Proofs.Text.Trimming

/-!
# WorkflowEditor.Proofs.Category

Which category a node is of.  A category has two spellings, its name in
documents and its heading in the palette, and blanks around either are put
aside.  What a node's data names comes before the registry.

* `Category.ofText_eq_ok_iff` — a text names a category by one of its spellings;
* `Registry.categoryOf_eq_some_iff` — a node is filed under the category its
  data names, and else under that of its registered type.
-/

namespace WorkflowEditor

/-! ## texts -/

namespace Category

/-- The text is the name or the heading of the category, with blanks around it or none. -/
def NamedBy (c : Category) (s : String) : Prop :=
  ∃ spelling, (spelling = c.name ∨ spelling = c.label) ∧ Text.Padded s spelling

variable {s : String} {c : Category}

theorem named?_eq_some_iff : named? s = some c ↔ s = c.name ∨ s = c.label := by
  constructor
  · intro h
    have hspelling := List.find?_some h
    rw [Bool.or_eq_true, beq_iff_eq, beq_iff_eq] at hspelling
    exact hspelling.imp Eq.symm Eq.symm
  · rintro (rfl | rfl)
    · cases c <;> rfl
    · cases c <;> rfl

/-- No spelling begins or ends with a blank. -/
theorem isBare_spelling (h : s = c.name ∨ s = c.label) : Text.IsBare s.toList := by
  obtain rfl | rfl := h
  · cases c <;> decide
  · cases c <;> decide

/-- **A text names a category** by one of its spellings, blanks around it aside. -/
theorem ofText_eq_ok_iff : ofText s = .ok c ↔ c.NamedBy s := by
  have hfound : ofText s = .ok c ↔ named? (Text.trim s) = some c := by
    rw [ofText]
    cases named? (Text.trim s) <;> simp
  rw [hfound, named?_eq_some_iff]
  constructor
  · intro h
    exact ⟨_, h, (Text.trim_eq_iff.mp rfl).2⟩
  · rintro ⟨spelling, hspelling, hpadded⟩
    rwa [Text.trim_eq_iff.mpr ⟨isBare_spelling hspelling, hpadded⟩]

theorem ofText_name (c : Category) : ofText c.name = .ok c := by
  cases c <;> rfl

theorem ofText_trim (s : String) : ofText (Text.trim s) = ofText s := by
  rw [ofText, ofText, Text.trim_trim]

/-- A blank text names no category. -/
theorem ofText_of_blank (h : Text.trim s = "") : ofText s = .error ⟨""⟩ := by
  rw [ofText, h]
  rfl

end Category

/-! ## nodes -/

namespace Node

variable {node : Node} {c : Category}

/-- The data of the node names the category. -/
def Names (node : Node) (c : Category) : Prop :=
  ∃ s, node.data.get? categoryKey = some (.str s) ∧ c.NamedBy s

theorem category?_eq_some_iff : node.category? = some c ↔ node.Names c := by
  have hread : ∀ s, (Category.ofText s).toOption = some c ↔ c.NamedBy s := fun s => by
    rw [← Category.ofText_eq_ok_iff]
    cases Category.ofText s <;> simp [Except.toOption]
  rw [category?, Names]
  cases hentry : node.data.get? categoryKey with
  | none => simp
  | some v => cases v <;> simp [Json.string?, hread]

theorem category?_eq_none_iff : node.category? = none ↔ ∀ c, ¬node.Names c := by
  rw [Option.eq_none_iff_forall_not_mem]
  exact forall_congr' fun c => not_congr category?_eq_some_iff

end Node

namespace Registry

variable {registry : Registry} {node : Node} {c : Category}

/-- The node is filed under a category: the one its data names or, when its
data names none, that of the entry for its type. -/
inductive Files (registry : Registry) (node : Node) : Category → Prop
  | named {c : Category} (hnames : node.Names c) : Files registry node c
  | registered {entry : Descriptor} (hnone : ∀ c, ¬node.Names c)
      (hentry : registry.lookup? node.typeId = some entry) : Files registry node entry.category

/-- **A node is filed** under the category its data names, else under that of its type. -/
theorem categoryOf_eq_some_iff : registry.categoryOf node = some c ↔ registry.Files node c := by
  rw [categoryOf, Option.or_eq_some_iff, Option.map_eq_some_iff, Node.category?_eq_some_iff,
    Node.category?_eq_none_iff]
  constructor
  · rintro (hnames | ⟨hnone, entry, hentry, rfl⟩)
    · exact .named hnames
    · exact .registered hnone hentry
  · rintro (hnames | ⟨hnone, hentry⟩)
    · exact .inl hnames
    · exact .inr ⟨hnone, _, hentry, rfl⟩

theorem isTool_iff : registry.isTool node = true ↔ registry.Files node .tools := by
  rw [isTool, beq_iff_eq, categoryOf_eq_some_iff]

end Registry

end WorkflowEditor
