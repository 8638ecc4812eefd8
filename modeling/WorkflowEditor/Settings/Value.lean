import WorkflowEditor.Json.Printer
import WorkflowEditor.Toml.Basic

/-!
# WorkflowEditor.Settings.Value

The values that a settings file or the environment gives, and how they are
taken for a text or for a number of seconds.
-/

namespace WorkflowEditor.Settings

/-- A value of a setting.  Lists and tables are kept apart from nothing else,
because no setting takes them. -/
inductive Value where
  | nothing
  | truth (b : Bool)
  | whole (i : Int)
  | double (d : Double)
  | text (s : String)
  | compound
deriving DecidableEq, Repr

namespace Value

/-- The longest time that can be set, in seconds. -/
def secondsLimit : Nat := 0xFFFFFFFFFFFFFFFF

/-- Doubles are written positionally with the fewest digits that read back. -/
def doubleStyle : NumberStyle where
  positional _ := true
  pointZero := false
  tie := .awayFromZero

/-! ## as a text -/

/-- The value as a text; scalars other than texts are written out. -/
def toText? : Value → Option String
  | text s => some s
  | truth b => some (String.ofList (Json.boolText b))
  | whole i => some (String.ofList (Json.wholeText i))
  | double d => some (String.ofList (doubleStyle.write d))
  | nothing | compound => none

/-! ## as seconds -/

/-- The number of decimal digits, with or without a plus, up to the limit. -/
def digits? (cs : List Char) : Option Nat :=
  let ds := match cs with
    | '+' :: rest => rest
    | ds => ds
  if ds ≠ [] ∧ ds.all Char.isDigit then
    (some (Nat.ofDigitChars 10 ds 0)).filter fun n => decide (n ≤ secondsLimit)
  else none

/-- The number of seconds a text names; words for on and off are one and zero. -/
def textSeconds? (s : String) : Option Nat :=
  let lower := s.toList.map Char.toLower
  if ["true", "on", "yes"].contains (String.ofList lower) then some 1
  else if ["false", "off", "no"].contains (String.ofList lower) then some 0
  else digits? s.toList

/-- The value as a number of seconds; doubles are rounded and brought into range. -/
def toSeconds? : Value → Option Nat
  | whole i => if 0 ≤ i ∧ i.toNat ≤ secondsLimit then some i.toNat else none
  | truth b => some b.toNat
  | double d => some (d.roundTo secondsLimit)
  | text s => textSeconds? s
  | nothing | compound => none

/-! ## where values come from -/

def ofJson : Json → Value
  | .null => nothing
  | .bool b => truth b
  | .num (.whole i) => whole i
  | .num (.double d) => double d
  | .str s => text s
  | .arr _ | .obj _ => compound

def ofToml : Toml → Value
  | .text s => text s
  | .whole i => whole i
  | .double d => double d
  | .truth b => truth b
  | .moment s => text s
  | .list _ | .table _ _ | .tables _ => compound

end Value

/-! ## entries -/

/-- A value for a key.  A key may name a place inside the value of another key:
`a.b` a member and `a[0]` an item of `a`. -/
structure Entry where
  key : String
  value : Value
deriving DecidableEq, Repr

namespace Entry

def isNameChar (c : Char) : Bool := c.isAlphanum || c == '_' || c == '-'

/-- Is this the rest of a key behind a name: members and items, one inside the other? -/
def isPlace : Nat → List Char → Bool
  | _, [] => true
  | 0, _ => false
  | fuel + 1, '.' :: rest =>
      !(rest.takeWhile isNameChar).isEmpty && isPlace fuel (rest.dropWhile isNameChar)
  | fuel + 1, '[' :: rest =>
      let rest := rest.dropWhile (· == ' ')
      let rest := if rest.head? = some '-' then rest.tail else rest
      !(rest.takeWhile Char.isDigit).isEmpty &&
        match (rest.dropWhile Char.isDigit).dropWhile (· == ' ') with
        | ']' :: rest => isPlace fuel rest
        | _ => false
  | _, _ => false

/-- The entry for the key as a whole: a value for a place inside it makes it compound. -/
def ofKey (key : String) (value : Value) : Entry :=
  let cs := key.toList
  let name := cs.takeWhile isNameChar
  let rest := cs.dropWhile isNameChar
  if !name.isEmpty && !rest.isEmpty && isPlace rest.length rest then
    ⟨String.ofList name, .compound⟩
  else ⟨key, value⟩

end Entry

end WorkflowEditor.Settings
