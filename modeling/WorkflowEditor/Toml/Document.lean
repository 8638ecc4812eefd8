import WorkflowEditor.Toml.Scalar
import WorkflowEditor.Toml.Token

/-!
# WorkflowEditor.Toml.Document

TOML documents from tokens: lines with a header or with a key and its value,
which may go on over several lines inside brackets and braces.  A document
that defines a key or a table twice, or nests too deep, is none.
-/

namespace WorkflowEditor.Toml

/-! ## between the parts -/

def skipBlanks : List Token → List Token
  | .blanks _ :: rest => rest
  | ts => ts

/-- Blanks and line ends left out. -/
def skipLines (ts : List Token) : List Token :=
  ts.dropWhile fun
    | .blanks _ | .newline => true
    | _ => false

/-- What follows a given token. -/
def expect? (t : Token) : List Token → Option (List Token)
  | u :: rest => if u = t then some rest else none
  | [] => none

/-- The end of a line, or of the document. -/
def endLine? (ts : List Token) : Option (List Token) :=
  match skipBlanks ts with
  | [] => some []
  | .newline :: rest => some rest
  | _ => none

/-! ## keys -/

/-- A character of a key without quotes. -/
def isBareChar (c : Char) : Bool :=
  c.isAlphanum || c == '-' || c == '_'

/-- One part of a key. -/
def keyPart? : Token → Option String
  | .atom cs => if cs.all isBareChar then some (String.ofList cs) else none
  | .text s false => some s
  | _ => none

/-- The parts of a dotted key, and what follows it with the blanks left out. -/
def keyParts? : List Token → Option (List String × List Token)
  | [] => none
  | t :: .blanks _ :: .dot :: .blanks _ :: rest => part t (keyParts? rest)
  | t :: .blanks _ :: .dot :: rest => part t (keyParts? rest)
  | t :: .dot :: .blanks _ :: rest => part t (keyParts? rest)
  | t :: .dot :: rest => part t (keyParts? rest)
  | t :: rest => (keyPart? t).map fun k => ([k], skipBlanks rest)
where
  part (t : Token) (read : Option (List String × List Token)) :
      Option (List String × List Token) := do
    let k ← keyPart? t
    let (ks, rest) ← read
    return (k :: ks, rest)

/-- How many lists and tables between braces may lie one inside the other, and
how many tables a key may go through. -/
def depthLimit : Nat := 80

/-- A dotted key through no more tables than allowed, and what follows it. -/
def key? (ts : List Token) : Option (List String × List Token) :=
  (keyParts? ts).filter fun k => decide (k.1.length ≤ depthLimit + 1)

/-! ## values -/

/-- The text of atoms and dots at the front, and what follows it. -/
def word : List Token → List Char × List Token
  | .atom cs :: rest => let (w, r) := word rest; (cs ++ w, r)
  | .dot :: rest => let (w, r) := word rest; ('.' :: w, r)
  | ts => ([], ts)

/-- A word; a date and a time of day may stand apart by one space. -/
def words (ts : List Token) : List Char × List Token :=
  let (w, rest) := word ts
  match rest with
  | .blanks [' '] :: .atom (c :: cs) :: after =>
      if (date? w).any (·.2.isEmpty) && c.isDigit then
        let (v, rest) := word (.atom (c :: cs) :: after)
        (w ++ ' ' :: v, rest)
      else (w, rest)
  | _ => (w, rest)

/-- The tokens from a closing mark on, which must stand at the front. -/
def closing (mark : Token) (ts : List Token) : Option (List Token) :=
  if ts.head? = some mark then some ts else none

mutual

/-- A value and what follows it; `depth` is how much deeper it may nest, and
`fuel` bounds the number of values, items and members. -/
def value? (fuel depth : Nat) (ts : List Token) : Option (Toml × List Token) :=
  match fuel with
  | 0 => none
  | fuel + 1 =>
      match ts with
      | .text s _ :: rest => some (.text s, rest)
      | .bracketOpen :: rest =>
          if depth = 0 then none else items? fuel (depth - 1) [] (skipLines rest)
      | .braceOpen :: rest =>
          if depth = 0 then none else members? fuel (depth - 1) [] (skipLines rest)
      | ts => do
          let (w, rest) := words ts
          return (← scalar? w, rest)

/-- The rest of a list behind the items read so far, last first. -/
def items? (fuel depth : Nat) (read : List Toml) (ts : List Token) :
    Option (Toml × List Token) :=
  match fuel with
  | 0 => none
  | fuel + 1 =>
      match ts with
      | .bracketClose :: rest => some (.list read.reverse, rest)
      | ts => do
          let (v, rest) ← value? fuel depth ts
          match skipLines rest with
          | .comma :: rest => items? fuel depth (v :: read) (skipLines rest)
          | rest => items? fuel depth (v :: read) (← closing .bracketClose rest)

/-- The rest of a table between braces behind the members read so far; lines may
end on either side of the equals sign too. -/
def members? (fuel depth : Nat) (read : Members) (ts : List Token) :
    Option (Toml × List Token) :=
  match fuel with
  | 0 => none
  | fuel + 1 =>
      match ts with
      | .braceClose :: rest => some (.table .inline read, rest)
      | ts => do
          let (key, rest) ← key? ts
          let (v, rest) ← value? fuel depth (skipLines (← expect? .equals (skipLines rest)))
          let read ← assign key.dropLast (key.getLastD "") v read
          match skipLines rest with
          | .comma :: rest => members? fuel depth read (skipLines rest)
          | rest => members? fuel depth read (← closing .braceClose rest)

end

/-! ## documents -/

/-- A document read up to some line: its members and the header of the open table. -/
structure Draft where
  members : Members := []
  header : List String := []

namespace Draft

/-- A key with its value in the open table. -/
def assign (d : Draft) (key : List String) (v : Toml) : Option Draft := do
  let members ← within false d.header (Toml.assign key.dropLast (key.getLastD "") v) d.members
  return { d with members := members }

def openTable (d : Draft) (key : List String) : Option Draft := do
  return ⟨← Toml.openTable key.dropLast (key.getLastD "") d.members, key⟩

def openRow (d : Draft) (key : List String) : Option Draft := do
  return ⟨← Toml.openRow key.dropLast (key.getLastD "") d.members, key⟩

/-- One line, which is not empty, and what follows it. -/
def line? (d : Draft) : List Token → Option (Draft × List Token)
  | .bracketOpen :: .bracketOpen :: rest => do
      let (key, rest) ← key? (skipBlanks rest)
      let rest ← expect? .bracketClose (← expect? .bracketClose rest)
      return (← d.openRow key, ← endLine? rest)
  | .bracketOpen :: rest => do
      let (key, rest) ← key? (skipBlanks rest)
      return (← d.openTable key, ← endLine? (← expect? .bracketClose rest))
  | ts => do
      let (key, rest) ← key? ts
      let (v, rest) ← value? (2 * ts.length) depthLimit (skipBlanks (← expect? .equals rest))
      return (← d.assign key v, ← endLine? rest)

/-- All lines, at most `fuel` of them. -/
def lines? (fuel : Nat) (d : Draft) (ts : List Token) : Option Draft :=
  match fuel, skipLines ts with
  | _, [] => some d
  | 0, _ => none
  | fuel + 1, ts => do
      let (d, rest) ← d.line? ts
      lines? fuel d rest

end Draft

/-- A text without the byte order mark at its start, if there is one. -/
def withoutMark : List Char → List Char
  | '\ufeff' :: rest => rest
  | cs => cs

/-- The members of a document. -/
def parse? (text : String) : Option Members := do
  let ts ← tokens? (withoutMark text.toList)
  let d ← ({} : Draft).lines? ts.length ts
  return d.members

end WorkflowEditor.Toml
