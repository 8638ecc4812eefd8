import WorkflowEditor.Number.Double

/-!
# WorkflowEditor.Toml.Basic

The values of a TOML document.  A table remembers how it came to be, because
that decides what may still be added to it.
-/

namespace WorkflowEditor

namespace Toml

/-- How a table came to be. -/
inductive Origin where
  /-- it has a header of its own -/
  | header
  /-- longer headers pass through it, and nothing else -/
  | implied
  /-- a dotted key passes through it -/
  | dotted
  /-- it is written between braces and closed -/
  | inline
deriving DecidableEq, Repr

end Toml

/-- A value of a TOML document. -/
inductive Toml where
  | text (s : String)
  | whole (i : Int)
  | double (d : Double)
  | truth (b : Bool)
  /-- a date, a time of day, or both, in their standard form -/
  | moment (s : String)
  | list (items : List Toml)
  | table (origin : Toml.Origin) (members : List (String × Toml))
  /-- tables under one repeated header, of which the last is the open one -/
  | tables (rows : List (List (String × Toml)))

namespace Toml

/-- The members of a table in the order they were written. -/
abbrev Members := List (String × Toml)

namespace Members

def get? (members : Members) (key : String) : Option Toml :=
  (members.find? fun m => m.1 == key).map (·.2)

/-- Puts another value under a key, at its place. -/
def replace (members : Members) (key : String) (value : Toml) : Members :=
  members.map fun m => if m.1 == key then (key, value) else m

/-- Adds a key behind the others. -/
def append (members : Members) (key : String) (value : Toml) : Members := members ++ [(key, value)]

end Members

/-! ## adding to tables -/

/-- May a key or header that is written now go through this table, or, if it is
the last on the way, into it? -/
def Origin.isOpen (byDottedKey isLast : Bool) : Origin → Bool
  | inline => false
  | dotted => true
  | implied => !byDottedKey || !isLast
  | header => !byDottedKey

/-- What a table is once a key or header went through it: a dotted key takes over
a table that only longer headers passed through, so that no header opens it later. -/
def Origin.passed (byDottedKey : Bool) : Origin → Origin
  | implied => if byDottedKey then dotted else implied
  | origin => origin

/-- Changes the table at the end of a path; tables that are missing on the way
are made.  A header goes through every table that is not closed, and of tables
under a repeated header into the last.  So does a dotted key, but through no
table with a header of its own, and only into one that dotted keys made or took over. -/
def within (byDottedKey : Bool) (path : List String) (change : Members → Option Members)
    (members : Members) : Option Members :=
  match path with
  | [] => change members
  | key :: rest =>
      match members.get? key with
      | none => do
          let inner ← within byDottedKey rest change []
          return members.append key (.table (if byDottedKey then .dotted else .implied) inner)
      | some (.table origin inner) =>
          if origin.isOpen byDottedKey rest.isEmpty then do
            let inner ← within byDottedKey rest change inner
            return members.replace key (.table (origin.passed byDottedKey) inner)
          else none
      | some (.tables rows) =>
          if byDottedKey && rest.isEmpty then none
          else do
            let row ← within byDottedKey rest change (← rows.getLast?)
            return members.replace key (.tables (rows.dropLast ++ [row]))
      | some _ => none

/-- Puts a value under a new dotted key; the last part of the key comes apart. -/
def assign (path : List String) (key : String) (value : Toml) (members : Members) :
    Option Members :=
  within true path (fun ms => if (ms.get? key).isNone then some (ms.append key value) else none)
    members

/-- Opens the table of a header; longer headers may have passed through it before, but
it was neither opened nor reached by a dotted key. -/
def openTable (path : List String) (key : String) (members : Members) : Option Members :=
  within false path (fun ms =>
    match ms.get? key with
    | none => some (ms.append key (.table .header []))
    | some (.table .implied inner) => some (ms.replace key (.table .header inner))
    | some _ => none) members

/-- Opens a further table of a repeated header. -/
def openRow (path : List String) (key : String) (members : Members) : Option Members :=
  within false path (fun ms =>
    match ms.get? key with
    | none => some (ms.append key (.tables [[]]))
    | some (.tables rows) => some (ms.replace key (.tables (rows ++ [[]])))
    | some _ => none) members

end Toml

end WorkflowEditor
