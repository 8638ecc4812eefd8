import WorkflowEditor.Json.Reading
import WorkflowEditor.Text.Blank

/-!
# WorkflowEditor.Category

The categories of node kinds.  Edges at a node of the category `tools` come in
pairs, see `WorkflowEditor.Connection`.
-/

namespace WorkflowEditor

inductive Category where
  /-- text and chat, in and out -/
  | io
  /-- agents backed by a language model -/
  | aiAgents
  /-- tools that agents call -/
  | tools
deriving DecidableEq, Repr

/-- A text that names no category. -/
structure UnknownCategory where
  text : String
deriving DecidableEq, Repr

def UnknownCategory.message (e : UnknownCategory) : String :=
  "unknown node category: '" ++ e.text ++ "'"

namespace Category

/-- All categories in the order of the palette. -/
def all : List Category := [io, aiAgents, tools]

/-- The name in documents. -/
def name : Category → String
  | io => "IO"
  | aiAgents => "AI_AGENTS"
  | tools => "TOOLS"

/-- The heading in the palette. -/
def label : Category → String
  | io => "I/O"
  | aiAgents => "AI & Agents"
  | tools => "Tools & Integrations"

/-- The category with a name or heading. -/
def named? (s : String) : Option Category :=
  all.find? fun c => c.name == s || c.label == s

/-- The category a text names, blanks around it aside. -/
def ofText (s : String) : Except UnknownCategory Category :=
  let trimmed := Text.trim s
  match named? trimmed with
  | some c => .ok c
  | none => .error ⟨trimmed⟩

def choices : String :=
  "one of `I/O`, `IO`, `AI & Agents`, `AI_AGENTS`, `TOOLS`, `Tools & Integrations`"

/-- A category by its name or heading, blanks not put aside. -/
def ofJson (v : Json) : Except ReadError Category := v.asVariant choices named?

end Category

end WorkflowEditor
