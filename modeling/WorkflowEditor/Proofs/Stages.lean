import WorkflowEditor.Proofs.Dialogue
import WorkflowEditor.Service.History

/-!
# WorkflowEditor.Proofs.Stages

Histories told operation by operation: each with the state before and after it,
what it came to and what an observer saw.  The operations and the states are
whatever `perform` makes a dialogue of.

* `history_eq_stages` — the stages tell the history that takes place;
* `linked_stages` — every stage starts where the one before it ended;
* `forall_stages` — what holds of an operation alone holds at every stage;
* `Stage.Linked.holds` — what the start satisfies and every stage keeps holds
  at every stage;
* `reply_of_stages` — every reply that is seen is one that the service gave.
-/

namespace WorkflowEditor

/-- An operation that took place. -/
structure Stage (ρ α ω : Type) where
  before : ρ
  operation : α
  outcome : ω
  events : List Event
  after : ρ

namespace Stage

variable {ρ α ω : Type}

/-- Where stages end that start at `start`. -/
def ending (start : ρ) : List (Stage ρ α ω) → ρ
  | [] => start
  | x :: rest => ending x.after rest

/-- Every stage starts where the one before it ended, the first at `start`. -/
def Linked (start : ρ) : List (Stage ρ α ω) → Prop
  | [] => True
  | x :: rest => x.before = start ∧ Linked x.after rest

theorem linked_append {start : ρ} {first second : List (Stage ρ α ω)} :
    Linked start (first ++ second) ↔ Linked start first ∧ Linked (ending start first) second := by
  induction first generalizing start with
  | nil => simp only [List.nil_append, Linked, ending, true_and]
  | cons x rest ih => simp only [List.cons_append, Linked, ending, ih, and_assoc]

theorem ending_append (start : ρ) (first second : List (Stage ρ α ω)) :
    ending start (first ++ second) = ending (ending start first) second := by
  induction first generalizing start with
  | nil => rfl
  | cons x rest ih => exact ih x.after

/-- What the start satisfies and every stage keeps holds before and after every stage. -/
theorem Linked.holds {holds : ρ → Prop} {start : ρ} {steps : List (Stage ρ α ω)}
    (h : Linked start steps) (hstart : holds start)
    (hkeep : ∀ x ∈ steps, holds x.before → holds x.after) :
    ∀ x ∈ steps, holds x.before ∧ holds x.after := by
  induction steps generalizing start with
  | nil => exact List.forall_mem_nil _
  | cons x rest ih =>
      obtain ⟨rfl, hrest⟩ := h
      rw [List.forall_mem_cons] at hkeep ⊢
      have hafter := hkeep.1 hstart
      exact ⟨⟨hstart, hafter⟩, ih hrest hafter hkeep.2⟩

end Stage

/-! ## one operation after the other -/

/-- What a dialogue whose result is named comes to. -/
theorem Dialogue.run_report (d : Dialogue (Except ε α × ρ)) (name : α → ω) (failed : ε → ω)
    (serve : Service σ) (t : σ) :
    (d.report name failed).run serve t =
      let x := d.run serve t
      ((outcome name failed x.1.1, x.1.2), x.2) := by
  rw [report, run_bind]
  simp only [run, List.append_nil]

variable {ρ α ω σ : Type} (perform : ρ → α → Dialogue (ω × ρ)) (serve : Service σ)

/-- An operation that takes place with a service. -/
def stage (start : ρ) (t : σ) (o : α) : Stage ρ α ω :=
  let x := (perform start o).run serve t
  ⟨start, o, x.1.1, x.2.1, x.1.2⟩

/-- The stages of operations that take place one after the other. -/
def stages (start : ρ) (t : σ) : List α → List (Stage ρ α ω)
  | [] => []
  | o :: rest =>
      stage perform serve start t o ::
        stages (stage perform serve start t o).after ((perform start o).run serve t).2.2 rest

/-- **The stages of a history** have its outcomes and its events, and end where it ends. -/
theorem history_eq_stages (start : ρ) (t : σ) (operations : List α) :
    let x := (Dialogue.history perform start operations).run serve t
    let steps := stages perform serve start t operations
    x.1.1 = steps.map Stage.outcome ∧ x.2.1 = steps.flatMap Stage.events ∧
      x.1.2 = Stage.ending start steps := by
  induction operations generalizing start t with
  | nil => exact ⟨rfl, rfl, rfl⟩
  | cons o rest ih =>
      obtain ⟨houtcomes, hevents, hend⟩ :=
        ih ((perform start o).run serve t).1.2 ((perform start o).run serve t).2.2
      simp only [Dialogue.history, Dialogue.run_bind, Dialogue.run, List.append_nil]
      exact ⟨congrArg _ houtcomes, congrArg _ hevents, hend⟩

theorem linked_stages (start : ρ) (t : σ) (operations : List α) :
    Stage.Linked start (stages perform serve start t operations) := by
  induction operations generalizing start t with
  | nil => trivial
  | cons o rest ih => exact ⟨rfl, ih _ _⟩

/-- What holds of every operation that takes place holds at every stage. -/
theorem forall_stages {holds : Stage ρ α ω → Prop}
    (h : ∀ start t o, holds (stage perform serve start t o)) (start : ρ) (t : σ)
    (operations : List α) : ∀ x ∈ stages perform serve start t operations, holds x := by
  induction operations generalizing start t with
  | nil => exact List.forall_mem_nil _
  | cons o rest ih => exact List.forall_mem_cons.mpr ⟨h start t o, ih _ _⟩

/-- Only the operations of a history take place. -/
theorem operation_of_stages (start : ρ) (t : σ) (operations : List α) :
    ∀ x ∈ stages perform serve start t operations, x.operation ∈ operations := by
  induction operations generalizing start t with
  | nil => exact List.forall_mem_nil _
  | cons o rest ih =>
      rw [stages, List.forall_mem_cons]
      exact ⟨List.mem_cons_self, fun x hx => List.mem_cons_of_mem o (ih _ _ x hx)⟩

/-- Every reply that is seen is one that the service gave. -/
theorem reply_of_stages {request : Request} {reply : Reply} (start : ρ) (t : σ)
    (operations : List α) :
    ∀ x ∈ stages perform serve start t operations, .asked request reply ∈ x.events →
      ∃ u, (serve u request).1 = reply :=
  forall_stages perform serve (fun _ _ _ => Dialogue.reply_of_asked) start t operations

end WorkflowEditor
