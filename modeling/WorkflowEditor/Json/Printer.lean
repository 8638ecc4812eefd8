import WorkflowEditor.Json.Basic
import WorkflowEditor.Number.Shortest

/-!
# WorkflowEditor.Json.Printer

The text of a JSON value, in one line (`compact`) or indented by two blanks a
level (`pretty`).  Strings escape the quote, the backslash and the control
characters below U+0020 and nothing else; empty arrays and objects stand on
one line.
-/

namespace WorkflowEditor.Json

/-- Doubles have the fewest digits that read back, are positional from
`0.00001` to below `10 ^ 16`, and keep a `.0` when whole. -/
def doubleStyle : NumberStyle where
  positional e := -5 ≤ e && e < 16
  pointZero := true
  tie := .toEven

/-- The decimal digits of a whole number behind its sign. -/
def wholeText : Int → List Char
  | .ofNat n => Nat.toDigits 10 n
  | .negSucc n => '-' :: Nat.toDigits 10 (n + 1)

/-- The text of a number; a double that is not finite has none and is written as null. -/
def numberText : Number → List Char
  | .whole i => wholeText i
  | .double d => if d.isFinite then doubleStyle.write d else ['n', 'u', 'l', 'l']

/-- A lower-case hexadecimal digit. -/
def hexDigit (n : Nat) : Char := n.digitChar

/-- One character of a string's text. -/
def escapedChar (c : Char) : List Char :=
  if c = '"' then ['\\', '"']
  else if c = '\\' then ['\\', '\\']
  else if c = '\n' then ['\\', 'n']
  else if c = '\r' then ['\\', 'r']
  else if c = '\t' then ['\\', 't']
  else if c = '\x08' then ['\\', 'b']
  else if c = '\x0c' then ['\\', 'f']
  else if c.toNat < 0x20 then
    ['\\', 'u', '0', '0', hexDigit (c.toNat / 16), hexDigit (c.toNat % 16)]
  else [c]

/-- A string between quotes. -/
def stringText (s : String) : List Char :=
  '"' :: (s.toList.flatMap escapedChar ++ ['"'])

def boolText (b : Bool) : List Char :=
  if b then ['t', 'r', 'u', 'e'] else ['f', 'a', 'l', 's', 'e']

/-! ## in one line -/

mutual

def compactText : Json → List Char
  | .null => ['n', 'u', 'l', 'l']
  | .bool b => boolText b
  | .num n => numberText n
  | .str s => stringText s
  | .arr items => '[' :: compactItems items
  | .obj members => '\x7b' :: compactMembers members

/-- The items of an array and the bracket that ends it. -/
def compactItems : List Json → List Char
  | [] => [']']
  | [v] => compactText v ++ [']']
  | v :: w :: rest => compactText v ++ ',' :: compactItems (w :: rest)

/-- The members of an object and the brace that ends it. -/
def compactMembers : List (String × Json) → List Char
  | [] => ['\x7d']
  | [(k, v)] => stringText k ++ ':' :: (compactText v ++ ['\x7d'])
  | (k, v) :: f :: rest =>
      stringText k ++ ':' :: (compactText v ++ ',' :: compactMembers (f :: rest))

end

/-- The value in one line. -/
def compact (v : Json) : String := String.ofList v.compactText

/-! ## indented -/

/-- The start of a new line at a level of nesting. -/
def newLine (level : Nat) : List Char := '\n' :: List.replicate (2 * level) ' '

mutual

/-- The indented text of a value that stands at a level of nesting. -/
def prettyText (level : Nat) : Json → List Char
  | .null => ['n', 'u', 'l', 'l']
  | .bool b => boolText b
  | .num n => numberText n
  | .str s => stringText s
  | .arr [] => ['[', ']']
  | .arr (v :: rest) => '[' :: (prettyItems (level + 1) (v :: rest) ++ newLine level ++ [']'])
  | .obj [] => ['\x7b', '\x7d']
  | .obj (f :: rest) =>
      '\x7b' :: (prettyMembers (level + 1) (f :: rest) ++ newLine level ++ ['\x7d'])

/-- Items each on its own line, with commas between them. -/
def prettyItems (level : Nat) : List Json → List Char
  | [] => []
  | [v] => newLine level ++ prettyText level v
  | v :: w :: rest => newLine level ++ (prettyText level v ++ ',' :: prettyItems level (w :: rest))

/-- Members each on its own line, with commas between them. -/
def prettyMembers (level : Nat) : List (String × Json) → List Char
  | [] => []
  | [(k, v)] => newLine level ++ (stringText k ++ ':' :: ' ' :: prettyText level v)
  | (k, v) :: f :: rest =>
      newLine level ++
        (stringText k ++
          ':' :: ' ' :: (prettyText level v ++ ',' :: prettyMembers level (f :: rest)))

end

/-- The value indented by two blanks a level. -/
def pretty (v : Json) : String := String.ofList (v.prettyText 0)

end WorkflowEditor.Json
