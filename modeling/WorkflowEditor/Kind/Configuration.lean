import WorkflowEditor.Kind.Basic

/-!
# WorkflowEditor.Kind.Configuration

What a node of a kind is configured with: the data a new node starts from, and
the entries that must be filled in before it can run.
-/

namespace WorkflowEditor

/-- Whether a node's configuration is complete; `missing` names what is not, in order. -/
inductive Readiness where
  | ready
  | incomplete (missing : List String)
deriving DecidableEq, Repr

namespace Readiness

def ofMissing : List String → Readiness
  | [] => ready
  | missing => incomplete missing

/-- The entries that are missing. -/
def missing : Readiness → List String
  | ready => []
  | incomplete names => names

end Readiness

namespace Kind

/-- The provider whose deployments need settings of their own. -/
def azureProvider : String := "azure"

/-- The data a new node of a kind starts from. -/
def defaultPairs : Kind → List (String × Json)
  | textInput =>
      [("title", .str "Text Input"),
        ("description", .str "Enter text to pass through the workflow"),
        ("textValue", .str ""), ("placeholder", .str "Type your text here...")]
  | chatInput => [("title", .str "Chat Input")]
  | textOutput => [("title", .str "Text Output")]
  | chatOutput => [("title", .str "Chat Output")]
  | agent =>
      [("label", .str "Agent"), ("title", .str "LLM Node (agent)"),
        ("description", .str "Configure and run an AI agent"), ("provider", .str ""),
        ("model", .str ""), ("API_key", .str ""), ("api_version", .str "2024-06-01"),
        ("azure_endpoint", .str ""), ("system_message", .str ""), ("input", .str ""),
        ("type", .str "agent")]
  | tavily =>
      [("label", .str "Tool"), ("title", .str "Tavily Search"),
        ("description", .str "Perform web search using Tavily API"), ("API_key", .str ""),
        ("search_query", .str ""), ("type", .str "tavily")]
  | apiRequest =>
      [("label", .str "Tool"), ("title", .str "API Request"),
        ("description", .str "Make HTTP API requests"), ("url", .str ""), ("method", .str "GET"),
        ("payload", .str ""), ("headers", .object [("Content-Type", .str "application/json")]),
        ("type", .str "api_request")]
  | yahooFinance =>
      [("label", .str "Tool"), ("title", .str "Yahoo Finance"),
        ("description", .str "Fetch stock and company information"), ("ticker_symbol", .str ""),
        ("type", .str "yahoo_finance")]

/-- The data a new node of a kind starts from. -/
def defaultData (kind : Kind) : Fields := .ofPairs kind.defaultPairs

/-- A text entry. -/
def textAt? (data : Fields) (key : String) : Option String :=
  (data.get? key).bind Json.string?

/-- An entry that is absent, no text, or blank. -/
def isBlankEntry (data : Fields) (key : String) : Bool :=
  match textAt? data key with
  | some s => Text.isBlankText s
  | none => true

/-- One to five capital letters of the ASCII range. -/
def isTickerSymbol (s : String) : Bool :=
  1 ≤ s.length && s.length ≤ 5 && s.toList.all fun c => 'A' ≤ c && c ≤ 'Z'

/-- The entries that must not be blank, in order. -/
def requiredEntries (kind : Kind) (data : Fields) : List String :=
  match kind with
  | textInput => ["textValue"]
  | chatInput | textOutput | chatOutput => []
  | agent =>
      ["provider", "model", "API_key", "system_message"] ++
        if textAt? data "provider" = some azureProvider then ["api_version", "azure_endpoint"]
        else []
  | tavily => ["API_key", "search_query"]
  | apiRequest => ["url"]
  | yahooFinance => ["ticker_symbol"]

/-- Does an entry hold what the kind needs there? -/
def isFilled (kind : Kind) (data : Fields) (key : String) : Bool :=
  match kind with
  | yahooFinance => (textAt? data key).any isTickerSymbol
  | _ => !isBlankEntry data key

/-- Whether data holds everything a node of the kind needs to run. -/
def readiness (kind : Kind) (data : Fields) : Readiness :=
  .ofMissing ((kind.requiredEntries data).filter fun key => !kind.isFilled data key)

end Kind

def Readiness.toJson : Readiness → Json
  | ready => .object [("ready", .bool true)]
  | incomplete names => .object [("ready", .bool false), ("missing", .arr (names.map .str))]

end WorkflowEditor
