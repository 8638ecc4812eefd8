import WorkflowEditor.Json.Printer
import WorkflowEditor.Json.Basic

/-!
# WorkflowEditor.Service.Envelope

What counts of a reply's body.  The service may put what it answers with into
the member `data` of an envelope, and the result of an execution into
`response`.
-/

namespace WorkflowEditor.Envelope

def dataKey : String := "data"

/-- What an envelope carries; a body without data stands for itself. -/
def unwrap (body : Json) : Json := (body.nonNull? dataKey).getD body

/-- The part of an execution's reply that is its result. -/
def executionResult (body : Json) : Json :=
  ((body.nonNull? dataKey).or (body.nonNull? "response")).getD body

/-- The result of an execution as text: a text as it is, nothing for null,
any other value over several lines. -/
def executionContent (body : Json) : String :=
  match executionResult body with
  | .null => ""
  | .str s => s
  | value => value.pretty

end WorkflowEditor.Envelope
