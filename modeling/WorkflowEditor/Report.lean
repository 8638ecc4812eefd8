import WorkflowEditor.Graph.Topology
import WorkflowEditor.Kind.Configuration
import WorkflowEditor.Registry
import WorkflowEditor.Workflow.Basic

/-!
# WorkflowEditor.Report

What the command line shows of workflows and of the palette, line by line.
-/

namespace WorkflowEditor.Report

/-- Lines, each with its end. -/
def lines (ls : List String) : String := String.join (ls.map (· ++ "\n"))

/-- A text with blanks after it up to a width. -/
def padTo (width : Nat) (s : String) : String :=
  s ++ String.ofList (List.replicate (width - s.length) ' ')

/-! ## lists of workflows -/

def summaryLine (s : Summary) : String :=
  s.id.elim "-" Id.text ++ "  " ++ s.title ++ "  v" ++ s.version ++ "  " ++ toString s.nodeCount
    ++ " nodes, " ++ toString s.edgeCount ++ " edges  updated "
    ++ s.updatedAt.elim "-" Instant.shortText

/-- A line for each workflow. -/
def summaries : List Summary → String
  | [] => lines ["no workflows"]
  | all => lines (all.map summaryLine)

/-! ## one workflow -/

/-- Whether a node can run, and what it lacks if not. -/
def statusText (node : Node) : String :=
  match Kind.ofTypeId? node.typeId with
  | none => "unknown type"
  | some kind =>
      match kind.readiness node.data with
      | .ready => "ready"
      | .incomplete names => "missing " ++ ", ".intercalate names

/-- The palette's name of a node's kind, or the type as it is. -/
def kindName (node : Node) : String :=
  (Kind.ofTypeId? node.typeId).elim node.typeId fun kind => kind.descriptor.displayName

def nodeLine (node : Node) : String :=
  "  " ++ node.id.text ++ "  " ++ kindName node ++ "  (" ++ statusText node ++ ")"

def edgeLine (edge : Edge) : String :=
  "  " ++ edge.source.text ++ " -> " ++ edge.target.text ++ "  [" ++ edge.kind.name ++ "]"

def ids (nodes : List Node) : String := ", ".intercalate (nodes.map fun n => n.id.text)

/-- A document's heading and the nodes and edges of a graph, with what each
node lacks and where the graph begins and ends. -/
def workflow (w : Workflow) (g : Graph) : String :=
  lines <|
    [w.title ++ " [" ++ w.id.elim "(unsaved)" Id.text ++ "] v" ++ w.version]
      ++ (if w.description.isEmpty then [] else [w.description])
      ++ ["", "nodes:"] ++ g.nodes.map nodeLine
      ++ ["", "edges:"] ++ g.edges.map edgeLine
      ++ ["", "entry: " ++ ids g.entryNodes, "terminal: " ++ ids g.terminalNodes]

/-! ## the palette -/

def descriptorLine (d : Descriptor) : String :=
  "  " ++ padTo 14 d.typeId ++ " " ++ padTo 16 d.displayName ++ " " ++ d.description

/-- The kinds of a registry under the headings of their categories. -/
def palette (registry : Registry) : String :=
  lines <| registry.groups.flatMap fun group => group.1.label :: group.2.map descriptorLine

end WorkflowEditor.Report
