import WorkflowEditor.Settings.Value
import WorkflowEditor.Toml.Scalar

/-!
# WorkflowEditor.Settings.Environment

Settings in the variables of the environment.  The name of a variable that
counts starts with a mark in either case of letters; the rest of the name is
the key in lower case, with a point for every double underscore.  Its value is
a truth value, a whole number or a double if it reads as one, else a text.
-/

namespace WorkflowEditor.Settings.Environment

/-- What the names of variables that count start with, in lower case. -/
def namePrefix : String := "agentflow__"

/-- A point for every double underscore, from the left. -/
def nested : List Char → List Char
  | '_' :: '_' :: rest => '.' :: nested rest
  | c :: rest => c :: nested rest
  | [] => []

/-- The key that a variable's name stands for. -/
def key? (name : String) : Option String :=
  let lower := name.toList.map Char.toLower
  let mark := namePrefix.toList
  if mark.isPrefixOf lower then some (String.ofList (nested (lower.drop mark.length))) else none

/-! ## values -/

/-- A whole number of 64 bits with or without a sign. -/
def whole? (cs : List Char) : Option Int :=
  let (negative, ds) := Toml.signed cs
  if ds ≠ [] ∧ ds.all Char.isDigit then
    let n := Nat.ofDigitChars 10 ds 0
    if negative then (if n ≤ 0x8000000000000000 then some (-n) else none)
    else if n < 0x8000000000000000 then some n else none
  else none

/-- The exponent at the end of a number; none counts as zero. -/
def exponent? : List Char → Option Int
  | [] => some 0
  | e :: rest =>
      let (negative, ds) := Toml.signed rest
      if (e = 'e' ∨ e = 'E') ∧ ds ≠ [] ∧ ds.all Char.isDigit then
        let n : Int := Nat.ofDigitChars 10 ds 0
        some (if negative then -n else n)
      else none

/-- The absolute value of a double: digits with a point before, among or behind
them, or a word for infinity or for no number. -/
def magnitude? (cs : List Char) : Option Double :=
  let word := String.ofList (cs.map Char.toLower)
  if word = "inf" ∨ word = "infinity" then some .infinity
  else if word = "nan" then some .nan
  else do
    let before := cs.takeWhile Char.isDigit
    let rest := cs.dropWhile Char.isDigit
    let (behind, rest) := match rest with
      | '.' :: rest => (rest.takeWhile Char.isDigit, rest.dropWhile Char.isDigit)
      | rest => ([], rest)
    if before ++ behind = [] then none
    let m := Nat.ofDigitChars 10 (before ++ behind) 0
    return .nearest m ((← exponent? rest) - behind.length)

def double? (cs : List Char) : Option Double :=
  let (negative, rest) := Toml.signed cs
  (magnitude? rest).map fun d => if negative then d.negate else d

/-- The value of a variable. -/
def value (s : String) : Value :=
  let lower := String.ofList (s.toList.map Char.toLower)
  if lower = "true" then .truth true
  else if lower = "false" then .truth false
  else (((whole? s.toList).map .whole).or ((double? s.toList).map .double)).getD (.text s)

/-- The entries of the variables that count, in order. -/
def entries (environment : List (String × String)) : List Entry :=
  environment.filterMap fun v => (key? v.1).map fun key => .ofKey key (value v.2)

end WorkflowEditor.Settings.Environment
