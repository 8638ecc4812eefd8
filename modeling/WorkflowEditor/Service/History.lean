import WorkflowEditor.Service.Dialogue

/-!
# WorkflowEditor.Service.History

Operations that take place one after the other, each from where the one before
it has left off.  What an operation is and what it leaves is up to `perform`:
there are operations on a repository, operations in a session and runs.

* `report` — the result of an operation is named as its outcome;
* `history` — the operations of a list, with the outcome of each.
-/

namespace WorkflowEditor.Dialogue

/-- The outcome of a result: a value by its name, an error as a failure. -/
def outcome (name : α → ω) (failed : ε → ω) : Except ε α → ω
  | .ok a => name a
  | .error e => failed e

/-- A dialogue whose result is named as an outcome. -/
def report (d : Dialogue (Except ε α × ρ)) (name : α → ω) (failed : ε → ω) : Dialogue (ω × ρ) :=
  d.bind fun (result, r) => .done (outcome name failed result, r)

/-- Carries out operations one after the other. -/
def history (perform : ρ → α → Dialogue (ω × ρ)) (r : ρ) : List α → Dialogue (List ω × ρ)
  | [] => .done ([], r)
  | o :: rest =>
      (perform r o).bind fun (outcome, r) =>
        (history perform r rest).bind fun (outcomes, r) => .done (outcome :: outcomes, r)

end WorkflowEditor.Dialogue
