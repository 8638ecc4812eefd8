import WorkflowEditor.Json.Printer
import WorkflowEditor.Text.Quoted

/-!
# WorkflowEditor.Json.Reading

Typed values read from JSON.  The members of an object are looked at in the
order of their keys and the first that cannot be read is the error; only then
is a missing member reported.

* `check_eq_ok_iff` — all members of an object pass a check exactly when each does.
-/

namespace WorkflowEditor

/-- What a reader asks for. -/
inductive Shape where
  | string
  | map
  | sequence
  | double
  | stringOrMap
  | unit
  | record (name : String)
deriving DecidableEq, Repr

/-- Why a typed value could not be read. -/
inductive ReadError where
  | wrongKind (found : Json) (expected : Shape)
  | missing (field : String)
  | duplicate (field : String)
  | tooShort (length : Nat) (name : String) (size : Nat)
  | tooLong (length : Nat)
  | unknownVariant (name : String) (choices : String)
  | notSingleKey

namespace Shape

def text : Shape → String
  | string => "a string"
  | map => "a map"
  | sequence => "a sequence"
  | double => "f64"
  | stringOrMap => "string or map"
  | unit => "unit"
  | record name => "struct " ++ name

end Shape

/-- How a value is named in an error: its kind, and the value itself if it is a scalar. -/
def Json.description : Json → String
  | .null => "null"
  | .bool b => "boolean `" ++ String.ofList (Json.boolText b) ++ "`"
  | .num (.whole i) => "integer `" ++ String.ofList (Json.wholeText i) ++ "`"
  | .num (.double d) =>
      "floating point `" ++ String.ofList (Json.numberText (.double d)) ++ "`"
  | .str s => "string " ++ Text.quoted s
  | .arr _ => "sequence"
  | .obj _ => "map"

namespace ReadError

def message : ReadError → String
  | wrongKind found expected =>
      "invalid type: " ++ found.description ++ ", expected " ++ expected.text
  | missing field => "missing field `" ++ field ++ "`"
  | duplicate field => "duplicate field `" ++ field ++ "`"
  | tooShort length name size =>
      "invalid length " ++ toString length ++ ", expected struct " ++ name ++ " with "
        ++ toString size ++ " elements"
  | tooLong length => "invalid length " ++ toString length ++ ", expected fewer elements in array"
  | unknownVariant name choices => "unknown variant `" ++ name ++ "`, expected " ++ choices
  | notSingleKey => "invalid value: map, expected map with a single key"

end ReadError

namespace Json

/-! ## values -/

def asString : Json → Except ReadError String
  | .str s => .ok s
  | v => .error (.wrongKind v .string)

def asMap : Json → Except ReadError Fields
  | .obj fields => .ok fields
  | v => .error (.wrongKind v .map)

def asItems : Json → Except ReadError (List Json)
  | .arr items => .ok items
  | v => .error (.wrongKind v .sequence)

/-- A number of either kind, as a double. -/
def asDouble : Json → Except ReadError Double
  | .num (.whole i) => .ok (Double.ofInt i)
  | .num (.double d) => .ok d
  | v => .error (.wrongKind v .double)

/-- The members of an object that stands for a record. -/
def asRecord (name : String) : Json → Except ReadError Fields
  | .obj fields => .ok fields
  | v => .error (.wrongKind v (.record name))

/-- A list of which every item is read, the first bad item being the error. -/
def asListOf (read : Json → Except ReadError α) (v : Json) : Except ReadError (List α) := do
  (← v.asItems).mapM read

/-- Null reads as absent. -/
def asOptional (read : Json → Except ReadError α) : Json → Except ReadError (Option α)
  | .null => .ok none
  | v => (read v).map some

/-- One of a fixed choice of names: the name itself, or an object with the
name as its only key and null as its value. -/
def asVariant (choices : String) (named? : String → Option α) : Json → Except ReadError α
  | .str name => choose name
  | .obj [(name, v)] => do
      let a ← choose name
      if v.isNull then return a else throw (.wrongKind v .unit)
  | .obj _ => .error .notSingleKey
  | v => .error (.wrongKind v .stringOrMap)
where
  choose (name : String) : Except ReadError α :=
    match named? name with
    | some a => .ok a
    | none => .error (.unknownVariant name choices)

end Json

/-! ## lists that stand for records -/

namespace Items

/-- The item at a place, or what stands for an item the list is too short for. -/
def element (items : List Json) (place : Nat) (absent : Except ReadError α)
    (read : Json → Except ReadError α) : Except ReadError α :=
  match items[place]? with
  | some v => read v
  | none => absent

/-- The list has no more items than the record has fields. -/
def checkLength (items : List Json) (size : Nat) : Except ReadError Unit :=
  if size < items.length then .error (.tooLong items.length) else .ok ()

end Items

namespace Fields

/-! ## members -/

/-- Looks at every member in the order of the keys. -/
def check (fields : Fields) (checkMember : String → Json → Except ReadError Unit) :
    Except ReadError Unit :=
  match fields with
  | [] => .ok ()
  | (k, v) :: rest => do
      checkMember k v
      check rest checkMember

/-- A member that must be present. -/
def required (fields : Fields) (key : String) (read : Json → Except ReadError α) :
    Except ReadError α :=
  match fields.get? key with
  | none => .error (.missing key)
  | some v => read v

/-- A member that may be absent. -/
def defaulted (fields : Fields) (key : String) (default : α) (read : Json → Except ReadError α) :
    Except ReadError α :=
  match fields.get? key with
  | none => .ok default
  | some v => read v

/-- A member that may be absent or null. -/
def optional (fields : Fields) (key : String) (read : Json → Except ReadError α) :
    Except ReadError (Option α) :=
  fields.defaulted key none (Json.asOptional read)

/-- All members pass a check exactly when each does. -/
theorem check_eq_ok_iff {fields : Fields} {checkMember : String → Json → Except ReadError Unit} :
    fields.check checkMember = .ok () ↔ ∀ f ∈ fields, checkMember f.1 f.2 = .ok () := by
  induction fields with
  | nil => simp [check]
  | cons f rest ih =>
      obtain ⟨k, v⟩ := f
      rw [check]
      cases h : checkMember k v with
      | error e => simp [bind, Except.bind, h]
      | ok u => simp [bind, Except.bind, ih, h]

end Fields

end WorkflowEditor
