import WorkflowEditor.Category

/-!
# WorkflowEditor.Kind.Basic

The kinds of node the editor knows, each with its palette entry and the
handles that edges attach to.
-/

namespace WorkflowEditor

/-! ## handles -/

/-- Which side of a node a handle sits on. -/
inductive Side where
  /-- takes edges in -/
  | input
  /-- sends edges out -/
  | output
deriving DecidableEq, Repr

namespace Side

def name : Side → String
  | input => "input"
  | output => "output"

def named? (s : String) : Option Side := [input, output].find? fun side => side.name == s

def ofJson (v : Json) : Except ReadError Side := v.asVariant "`input` or `output`" named?

def toJson (side : Side) : Json := .str side.name

end Side

/-- A named point on a node that edges attach to. -/
structure Handle where
  name : String
  side : Side
deriving DecidableEq, Repr

/-- The handle an edge leaves from when none is named. -/
def defaultSourceHandle : String := "output"

/-- The handle an edge arrives at when none is named. -/
def defaultTargetHandle : String := "input"

def Handle.toJson (handle : Handle) : Json :=
  .object [("name", .str handle.name), ("side", handle.side.toJson)]

/-! ## kinds -/

inductive Kind where
  | textInput
  | chatInput
  | textOutput
  | chatOutput
  | agent
  | tavily
  | apiRequest
  | yahooFinance
deriving DecidableEq, Repr

/-- What the palette shows of a kind. -/
structure Descriptor where
  kind : Kind
  typeId : String
  displayName : String
  icon : String
  category : Category
  description : String
deriving DecidableEq, Repr

namespace Kind

/-- All kinds in the order of the palette. -/
def all : List Kind :=
  [textInput, chatInput, textOutput, chatOutput, agent, tavily, apiRequest, yahooFinance]

/-- The palette entry of a kind. -/
def descriptor : Kind → Descriptor
  | textInput =>
      ⟨textInput, "textInput", "Text Input", "file-text", .io, "Text input for workflows"⟩
  | chatInput =>
      ⟨chatInput, "chatInput", "Chat Input", "message-circle", .io,
        "Chat input for conversation workflows"⟩
  | textOutput =>
      ⟨textOutput, "textOutput", "Text Output", "file-output", .io, "Text output from workflows"⟩
  | chatOutput =>
      ⟨chatOutput, "chatOutput", "Chat Output", "message-square", .io,
        "Chat output for conversation workflows"⟩
  | agent =>
      ⟨agent, "agent", "Agent", "user", .aiAgents, "AI agent with reasoning capabilities"⟩
  | tavily =>
      ⟨tavily, "tavily", "Tavily", "search", .tools,
        "Real-time web search and content extraction"⟩
  | apiRequest =>
      ⟨apiRequest, "apiRequest", "API Request", "globe", .tools,
        "HTTP API requests with multiple methods"⟩
  | yahooFinance =>
      ⟨yahooFinance, "yahooFinance", "Yahoo Finance", "trending-up", .tools,
        "Stock market data and financial information"⟩

/-- The name of the kind in a node's `type`. -/
def typeId (kind : Kind) : String := kind.descriptor.typeId

def category (kind : Kind) : Category := kind.descriptor.category

/-- The kind with a type id; matching is exact. -/
def ofTypeId? (typeId : String) : Option Kind := all.find? fun kind => kind.typeId == typeId

/-- The handles of a kind. -/
def handles : Kind → List Handle
  | textInput | yahooFinance => [⟨defaultTargetHandle, .input⟩, ⟨defaultSourceHandle, .output⟩]
  | chatInput | tavily | apiRequest => [⟨defaultSourceHandle, .output⟩]
  | textOutput | chatOutput => [⟨defaultTargetHandle, .input⟩]
  | agent =>
      [⟨"instructions", .input⟩, ⟨"tools", .input⟩, ⟨defaultTargetHandle, .input⟩,
        ⟨defaultSourceHandle, .output⟩]

/-- The handles of a kind that take edges in. -/
def inputs (kind : Kind) : List Handle := kind.handles.filter fun h => h.side = .input

end Kind

def Descriptor.toJson (d : Descriptor) : Json :=
  .object [("type_id", .str d.typeId), ("display_name", .str d.displayName),
    ("icon", .str d.icon), ("category", .str d.category.name),
    ("description", .str d.description)]

end WorkflowEditor
