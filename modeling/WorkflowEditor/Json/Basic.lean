import WorkflowEditor.Number.Double

/-!
# WorkflowEditor.Json.Basic

JSON values.  Whole numbers and doubles are different kinds of number and
never equal to each other.  The members of an object are listed in ascending
order of their keys, each key once; every function of this library that builds
an object keeps that order.

* `get?_insert` — writing a key changes what is found under that key only;
* `get?_extend` — of two maps laid over each other the later one wins.
-/

namespace WorkflowEditor

/-- A JSON number: a whole number, kept exactly, or a double. -/
inductive Number where
  | whole (value : Int)
  | double (value : Double)
deriving DecidableEq, Repr

/-- A JSON value. -/
inductive Json where
  | null
  | bool (value : Bool)
  | num (value : Number)
  | str (value : String)
  | arr (items : List Json)
  | obj (members : List (String × Json))
deriving Inhabited, Repr

/-- The members of an object in ascending order of their keys. -/
abbrev Fields := List (String × Json)

/-! ## objects as maps -/

namespace Fields

/-- The value under a key. -/
def get? (fields : Fields) (key : String) : Option Json :=
  match fields with
  | [] => none
  | (k, v) :: rest => if k = key then some v else get? rest key

def contains (fields : Fields) (key : String) : Bool := (fields.get? key).isSome

def keys (fields : Fields) : List String := fields.map (·.1)

/-- Writes a value under a key, at the key's place in the order. -/
def insert (fields : Fields) (key : String) (value : Json) : Fields :=
  match fields with
  | [] => [(key, value)]
  | (k, v) :: rest =>
      if k = key then (key, value) :: rest
      else if key < k then (key, value) :: (k, v) :: rest
      else (k, v) :: insert rest key value

/-- Lays the second map over the first. -/
def extend (base overlay : Fields) : Fields :=
  overlay.foldl (fun fields f => fields.insert f.1 f.2) base

/-- The members of a list of pairs; of two with one key the later wins. -/
def ofPairs (pairs : List (String × Json)) : Fields := extend [] pairs

/-- Only the keys that are not in the list. -/
def without (fields : Fields) (names : List String) : Fields :=
  fields.filter fun f => !names.contains f.1

@[simp] theorem get?_nil (key : String) : Fields.get? [] key = none := rfl

theorem get?_cons (k : String) (v : Json) (rest : Fields) (key : String) :
    Fields.get? ((k, v) :: rest) key = if k = key then some v else Fields.get? rest key := rfl

/-- Writing a key changes what is found under that key only. -/
theorem get?_insert (fields : Fields) (key : String) (value : Json) (other : String) :
    (fields.insert key value).get? other =
      if key = other then some value else fields.get? other := by
  induction fields with
  | nil => rfl
  | cons f rest ih =>
      obtain ⟨k, v⟩ := f
      unfold insert
      split
      · subst k; simp only [get?_cons]; split <;> rfl
      · split
        · simp only [get?_cons]
        · simp only [get?_cons, ih]
          split <;> split <;> simp_all

/-- Of two maps laid over each other the overlay's last value for a key wins. -/
theorem get?_extend (base overlay : Fields) (key : String) :
    (base.extend overlay).get? key = (Fields.get? overlay.reverse key).or (base.get? key) := by
  have step : ∀ (xs : Fields) (b : Fields),
      (b.extend xs).get? key = (Fields.get? xs.reverse key).or (b.get? key) := by
    have last : ∀ (ys : Fields) (f : String × Json),
        Fields.get? (ys ++ [f]) key = (Fields.get? ys key).or (Fields.get? [f] key) := by
      intro ys f
      induction ys with
      | nil => simp
      | cons y ys ih =>
          obtain ⟨k, v⟩ := y
          simp only [List.cons_append, get?_cons, ih]
          split <;> rfl
    intro xs
    induction xs with
    | nil => intro b; rfl
    | cons f xs ih =>
        intro b
        obtain ⟨k, v⟩ := f
        have h := ih (b.insert k v)
        simp only [extend, List.foldl_cons, List.reverse_cons] at h ⊢
        rw [h, last, get?_insert]
        simp only [get?_cons, get?_nil]
        split <;> simp
  exact step overlay base

end Fields

namespace Json

/-! ## building -/

def ofNat (n : Nat) : Json := .num (.whole n)

def ofInt (i : Int) : Json := .num (.whole i)

/-- An object of the given members. -/
def object (pairs : List (String × Json)) : Json := .obj (Fields.ofPairs pairs)

/-- A value that may be absent; absent is null. -/
def ofOption (write : α → Json) : Option α → Json
  | none => .null
  | some a => write a

/-! ## looking inside -/

def isNull : Json → Bool
  | .null => true
  | _ => false

/-- The value under a key of an object; nothing for any other value. -/
def get? (value : Json) (key : String) : Option Json :=
  match value with
  | .obj fields => Fields.get? fields key
  | _ => none

/-- The value under a key of an object, unless it is null. -/
def nonNull? (value : Json) (key : String) : Option Json :=
  (value.get? key).filter fun v => !v.isNull

def string? : Json → Option String
  | .str s => some s
  | _ => none

end Json

/-! ## equality -/

/-- Equality of numbers of one kind; a whole number never equals a double. -/
def Number.same : Number → Number → Bool
  | .whole a, .whole b => a == b
  | .double a, .double b => a.same b
  | _, _ => false

mutual

/-- Equality of values: members and items in order, numbers by `Number.same`. -/
def Json.same : Json → Json → Bool
  | .null, .null => true
  | .bool a, .bool b => a == b
  | .num a, .num b => a.same b
  | .str a, .str b => a == b
  | .arr as, .arr bs => Json.sameItems as bs
  | .obj as, .obj bs => Json.sameMembers as bs
  | _, _ => false

def Json.sameItems : List Json → List Json → Bool
  | [], [] => true
  | a :: as, b :: bs => Json.same a b && Json.sameItems as bs
  | _, _ => false

def Json.sameMembers : List (String × Json) → List (String × Json) → Bool
  | [], [] => true
  | (k, a) :: as, (l, b) :: bs => k == l && (Json.same a b && Json.sameMembers as bs)
  | _, _ => false

end

instance : BEq Json := ⟨Json.same⟩

end WorkflowEditor
