import WorkflowEditor.Kind.Basic

/-!
# WorkflowEditor.Registry

The kinds that an editor offers, in the order of its palette.
-/

namespace WorkflowEditor

structure Registry where
  descriptors : List Descriptor
deriving DecidableEq, Repr

namespace Registry

/-- The registry of the given kinds, in the given order. -/
def ofKinds (kinds : List Kind) : Registry := ⟨kinds.map Kind.descriptor⟩

/-- Every kind the editor knows. -/
def builtin : Registry := ofKinds Kind.all

/-- The entry with a type id; matching is exact. -/
def lookup? (registry : Registry) (typeId : String) : Option Descriptor :=
  registry.descriptors.find? fun d => d.typeId == typeId

/-- The entries by category; a category without entries is left out. -/
def groups (registry : Registry) : List (Category × List Descriptor) :=
  Category.all.filterMap fun c =>
    match registry.descriptors.filter fun d => d.category = c with
    | [] => none
    | ds => some (c, ds)

end Registry

end WorkflowEditor
