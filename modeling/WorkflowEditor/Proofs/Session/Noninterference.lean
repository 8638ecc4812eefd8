import WorkflowEditor.Proofs.Repository.Alike
import WorkflowEditor.Proofs.Session.Effect

/-!
# WorkflowEditor.Proofs.Session.Noninterference

What is set on the canvas never leaves the editor.  Two sessions that differ
only in the marks of their nodes and in the signs of zeros go on alike under
the same operations: they send the same requests, up to the signs of zeros,
come to the same outcomes, and differ in nothing more afterwards.

Taking over the copy of a save is where the two may part: the copy is compared
with the graph as it is edited, marks and all, and one of the sessions may load
it where the other does not.  Either way the graph afterwards shares all with
the copy (`shared_adopt`).

* `Alike.adopt`, `Alike.openWorkflow`, …, `Alike.edit` — the operations;
* `alike_history` — any operations one after the other;
* `marks_do_not_interfere` — what this means with a service;
* `marks_decide_sign` — the sign of a zero may be decided by a mark.
-/

namespace WorkflowEditor

/-- An edit of a store is answered as its graph says. -/
theorem Store.apply_fst (store : Store) (e : Edit) :
    (store.apply e).1 = (e.perform store.graph).1 := by
  rw [apply]
  cases e.perform store.graph with
  | mk answer g => cases g <;> rfl

/-- An edit of a store leaves the graph that it commits, if it commits one. -/
theorem Store.graph_apply_eq (store : Store) (e : Edit) :
    (store.apply e).2.graph = (e.perform store.graph).2.getD store.graph := by
  rw [apply]
  cases e.perform store.graph with
  | mk answer g => cases g <;> rfl

namespace Session

/-! ## sessions that share all -/

/-- Two sessions share all: their documents, the graphs they edit and the copies
they keep differ only in marks of the canvas and signs of zeros.  Revisions and
feeds may differ.  The graph that is edited is well-formed. -/
structure Alike (s s' : Session) : Prop where
  document : s.document.shared = s'.document.shared
  graph : s.store.graph.shared = s'.store.graph.shared
  repository : s.repository.Alike s'.repository
  deadline : s.deadline = s'.deadline
  runState : s.runState = s'.runState
  wellFormed : s.store.graph.WellFormed

/-- Results of two operations agree: related values, or the same error, and
sessions that share all. -/
def Ends (values : α → β → Prop) (x : Except ServiceError α × Session)
    (y : Except ServiceError β × Session) : Prop :=
  Agreed values x.1 y.1 ∧ Alike x.2 y.2

/-- However a copy is taken over, the graph shares all with what is kept of the copy. -/
theorem shared_adopt {s : Session} (hgraph : s.store.graph.WellFormed) (w : Workflow) :
    (s.adopt w).store.graph.shared = (Graph.sift w.nodes w.edges).shared ∧
      (s.adopt w).store.graph.WellFormed := by
  rw [adopt]
  split
  · next hsame =>
    have hcopy : w.graph.WellFormed := hgraph.of_same hsame
    have hsift : Graph.sift w.nodes w.edges = w.graph := hcopy.sift_eq
    rw [hsift]
    exact ⟨(Graph.shared_of_same hsame).symm, hgraph⟩
  · exact ⟨rfl, s.store.wellFormed_load _ _⟩

theorem shared_sift {w w' : Workflow} (h : w.shared = w'.shared) :
    (Graph.sift w.nodes w.edges).shared = (Graph.sift w'.nodes w'.edges).shared := by
  have hnodes : w.nodes.map Node.shared = w'.nodes.map Node.shared := congrArg Workflow.nodes h
  have hedges : w.edges.map Edge.shared = w'.edges.map Edge.shared := congrArg Workflow.edges h
  rw [← Graph.sift_shared, ← Graph.sift_shared, hnodes, hedges]

namespace Alike

variable {s s' : Session} (h : s.Alike s')
include h

theorem outgoing : s.outgoing.shared = s'.outgoing.shared := by
  rw [Session.outgoing, Session.outgoing, Workflow.shared_withGraph, Workflow.shared_withGraph,
    h.document, h.graph]

theorem withRepository {r r' : Repository} (hr : r.Alike r') :
    Alike { s with repository := r } { s' with repository := r' } :=
  ⟨h.document, h.graph, hr, h.deadline, h.runState, h.wellFormed⟩

variable {w w' : Workflow} (hshared : w.shared = w'.shared)

include hshared in
theorem load : (s.load w).Alike (s'.load w') :=
  ⟨hshared, shared_sift hshared, h.repository, h.deadline, h.runState, s.store.wellFormed_load _ _⟩

include hshared in
/-- Sessions that share all take over copies that share all. -/
theorem adopt : (s.adopt w).Alike (s'.adopt w') := by
  obtain ⟨hgraph, hwellFormed⟩ := shared_adopt h.wellFormed w
  obtain ⟨hgraph', -⟩ := shared_adopt (h.wellFormed.of_shared h.graph.symm) w'
  rw [adopt_eq s, adopt_eq s']
  exact ⟨hshared, hgraph.trans ((shared_sift hshared).trans hgraph'.symm), h.repository,
    h.deadline, h.runState, hwellFormed⟩

/-! ## operations -/

theorem openWorkflow (id : WorkflowId) :
    (s.openWorkflow id).Alike (Ends Eq) (s'.openWorkflow id) := by
  refine (h.repository.fetch id).bind ?_
  rintro ⟨x, r⟩ ⟨y, r'⟩ ⟨hresult, hr⟩
  cases hresult with
  | ok hshared => exact ⟨.ok rfl, (h.withRepository hr).load hshared⟩
  | error => exact ⟨.error, h.withRepository hr⟩

theorem newWorkflow (title description : String) :
    (s.newWorkflow title description).Alike (Ends Eq) (s'.newWorkflow title description) := by
  refine (h.repository.create rfl).bind ?_
  rintro ⟨x, r⟩ ⟨y, r'⟩ ⟨hresult, hr⟩
  cases hresult with
  | @ok id _ hid =>
      obtain rfl := hid
      refine ⟨.ok rfl, (h.withRepository hr).load ?_⟩
      -- both load the copy that the creation has kept
      rw [← Option.getD_map Workflow.shared, ← Option.getD_map Workflow.shared, hr id]
  | error => exact ⟨.error, h.withRepository hr⟩

theorem ensureId {w w' : Workflow} (hshared : w.shared = w'.shared) :
    (s.ensureId w).Alike (Repository.Ends Eq) (s'.ensureId w') := by
  have hid := Workflow.id_of_shared hshared
  rw [Session.ensureId, Session.ensureId, ← hid]
  cases w.id with
  | some id => exact ⟨.ok rfl, h.repository⟩
  | none => exact h.repository.create hshared

theorem save : s.save.Alike (Ends Eq) s'.save := by
  refine (h.ensureId h.outgoing).bind ?_
  rintro ⟨x, r⟩ ⟨y, r'⟩ ⟨hresult, hr⟩
  cases hresult with
  | error => exact ⟨.error, h.withRepository hr⟩
  | @ok id _ hid =>
      obtain rfl := hid
      refine (hr.save h.outgoing id).bind ?_
      rintro ⟨x, r⟩ ⟨y, r'⟩ ⟨hresult, hr⟩
      cases hresult with
      | ok hcopy => exact ⟨.ok rfl, (h.withRepository hr).adopt hcopy⟩
      | error => exact ⟨.error, h.withRepository hr⟩

theorem run (input : String) :
    (s.run input).Alike (fun x y => x.1 = y.1 ∧ Alike x.2 y.2) (s'.run input) := by
  have hid : s.outgoing.id = s'.outgoing.id := Workflow.id_of_shared h.outgoing
  rw [Session.run, Session.run, ← hid, ← h.deadline]
  refine (h.repository.run h.outgoing s.deadline s.outgoing.id input).bind ?_
  rintro ⟨state, r⟩ ⟨state', r'⟩ ⟨hstate, hr⟩
  obtain rfl : state = state' := hstate
  have hafter : Alike { s with repository := r, runState := state }
      { s' with repository := r', deadline := s.deadline, runState := state } :=
    ⟨h.document, h.graph, hr, rfl, rfl, h.wellFormed⟩
  have hkept : ((s.outgoing.id.filter fun _ => state.isSaved).bind r.cached?).map Workflow.shared =
      ((s.outgoing.id.filter fun _ => state.isSaved).bind r'.cached?).map Workflow.shared := by
    cases s.outgoing.id.filter fun _ => state.isSaved with
    | none => rfl
    | some id => exact hr id
  dsimp only
  generalize (s.outgoing.id.filter fun _ => state.isSaved).bind r.cached? = kept at hkept ⊢
  generalize (s.outgoing.id.filter fun _ => state.isSaved).bind r'.cached? = kept' at hkept ⊢
  cases kept with
  | none =>
      cases kept' with
      | none => exact ⟨rfl, hafter⟩
      | some copy' => simp at hkept
  | some copy =>
      cases kept' with
      | none => simp at hkept
      | some copy' => exact ⟨rfl, hafter.adopt (Option.some.inj hkept)⟩

theorem delete : s.delete.Alike (Ends Eq) s'.delete := by
  have hid : s.document.id = s'.document.id := Workflow.id_of_shared h.document
  rw [Session.delete, Session.delete, ← hid]
  cases s.document.id with
  | none => exact ⟨.ok rfl, h⟩
  | some id =>
      refine (h.repository.delete id).bind ?_
      rintro ⟨x, r⟩ ⟨y, r'⟩ ⟨hresult, hr⟩
      cases hresult with
      | ok _ => exact ⟨.ok rfl, rfl, rfl, hr, h.deadline, h.runState, Graph.wellFormed_empty⟩
      | error => exact ⟨.error, h.withRepository hr⟩

theorem list : s.list.Alike (Ends Eq) s'.list := by
  refine h.repository.list.bind ?_
  rintro ⟨x, r⟩ ⟨y, r'⟩ ⟨hresult, hr⟩
  exact ⟨hresult, h.withRepository hr⟩

/-- Edits that share all are answered alike and leave sessions that share all. -/
theorem edit {e e' : Edit} (hedit : e.shared = e'.shared) :
    (s.edit e).1.shared = (s'.edit e').1.shared ∧ (s.edit e).2.Alike (s'.edit e').2 := by
  have hresult : Edit.sharedResult (e.perform s.store.graph) =
      Edit.sharedResult (e'.perform s'.store.graph) := by
    rw [← e.perform_shared, ← e'.perform_shared, hedit, h.graph]
  obtain ⟨hanswer, hcommit⟩ := Prod.mk.inj hresult
  refine ⟨?_, h.document, ?_, h.repository, h.deadline, h.runState,
    Store.wellFormed_apply h.wellFormed e⟩
  · exact (congrArg _ (s.store.apply_fst e)).trans
      (hanswer.trans (congrArg _ (s'.store.apply_fst e')).symm)
  · have hgraph (store : Store) (e : Edit) : (store.apply e).2.graph.shared =
        ((e.perform store.graph).2.map Graph.shared).getD store.graph.shared := by
      rw [store.graph_apply_eq e, Option.getD_map]
    rw [Session.edit, Session.edit]
    exact (hgraph s.store e).trans (by rw [hcommit, h.graph, ← hgraph])

end Alike

/-! ## operations one after the other -/

/-- Two operations are the same, or edits that share all.  A change made to the
document by hand is neither: it may look at the marks. -/
inductive Operation.Alike : Operation → Operation → Prop
  | openWorkflow {id : WorkflowId} : Alike (.openWorkflow id) (.openWorkflow id)
  | newWorkflow {title description : String} :
      Alike (.newWorkflow title description) (.newWorkflow title description)
  | save : Alike .save .save
  | run {input : String} : Alike (.run input) (.run input)
  | delete : Alike .delete .delete
  | list : Alike .list .list
  | edit {e e' : Edit} (shared : e.shared = e'.shared) : Alike (.edit e) (.edit e')

/-- The outcome with what is shared of its answer. -/
def Outcome.shared : Outcome → Outcome
  | edited answer => edited answer.shared
  | opened => opened
  | stored id => stored id
  | ran state => ran state
  | deleted any => deleted any
  | listed workflows => listed workflows
  | revised => revised
  | failed e => failed e

/-- Outcomes and sessions share all. -/
def EndsAlike (x y : Outcome × Session) : Prop := x.1.shared = y.1.shared ∧ x.2.Alike y.2

theorem alike_report {d d' : Dialogue (Except ServiceError α × Session)}
    (h : d.Alike (Ends Eq) d') {name : α → Outcome} :
    (d.report name .failed).Alike EndsAlike (d'.report name .failed) := by
  refine h.bind ?_
  rintro ⟨x, s⟩ ⟨y, s'⟩ ⟨hresult, hs⟩
  cases hresult with
  | ok heq =>
      obtain rfl := heq
      exact ⟨rfl, hs⟩
  | error => exact ⟨rfl, hs⟩

/-- Every operation looks alike in sessions that share all. -/
theorem alike_perform {s s' : Session} (h : s.Alike s') {o o' : Operation} (ho : o.Alike o') :
    (o.perform s).Alike EndsAlike (o'.perform s') := by
  cases ho with
  | openWorkflow => exact alike_report (h.openWorkflow _)
  | newWorkflow => exact alike_report (h.newWorkflow _ _)
  | save => exact alike_report h.save
  | run =>
      refine (h.run _).bind ?_
      rintro ⟨state, s⟩ ⟨state', s'⟩ ⟨hstate, hs⟩
      exact ⟨congrArg Outcome.ran hstate, hs⟩
  | delete => exact alike_report h.delete
  | list => exact alike_report h.list
  | edit hedit =>
      obtain ⟨hanswer, hs⟩ := h.edit hedit
      exact ⟨congrArg Outcome.edited hanswer, hs⟩

/-- **Histories look alike** in sessions that share all. -/
theorem alike_history {s s' : Session} (h : s.Alike s') {operations operations' : List Operation}
    (hoperations : List.Forall₂ Operation.Alike operations operations') :
    (s.history operations).Alike
      (fun x y => x.1.map Outcome.shared = y.1.map Outcome.shared ∧ x.2.Alike y.2)
      (s'.history operations') := by
  induction hoperations generalizing s s' with
  | nil => exact ⟨rfl, h⟩
  | cons ho _ ih =>
      refine (alike_perform h ho).bind ?_
      rintro ⟨outcome, s⟩ ⟨outcome', s'⟩ ⟨houtcome, hs⟩
      refine (ih hs).bind ?_
      rintro ⟨outcomes, s⟩ ⟨outcomes', s'⟩ ⟨houtcomes, hs⟩
      exact ⟨congrArg₂ List.cons houtcome houtcomes, hs⟩

/-- Replies from a list depend on no request. -/
theorem ignoresSigns_scripted : Service.scripted.IgnoresSigns := by
  intro replies q q' _
  cases replies with
  | nil => rfl
  | cons reply rest => rfl

/-- **Marks do not interfere.**  Sessions that share all go on alike under the
same operations and edits that share all, with a service whose answers do not
depend on the signs of zeros.  They make the same calls, with bodies that are
the same up to the signs of zeros in nodes and edges, and pass through the same
states of runs; they come to the same outcomes, up to the nodes and edges in the
answers to edits; and they share all afterwards. -/
theorem marks_do_not_interfere {s s' : Session} (h : s.Alike s')
    {operations operations' : List Operation}
    (hoperations : List.Forall₂ Operation.Alike operations operations') {σ : Type}
    {serve : Service σ} (hserve : serve.IgnoresSigns) (t : σ) :
    let x := (s.history operations).run serve t
    let x' := (s'.history operations').run serve t
    x.2.1.map Event.unsigned = x'.2.1.map Event.unsigned ∧
      (Event.requests x.2.1).map Request.seen = (Event.requests x'.2.1).map Request.seen ∧
      x.1.1.map Outcome.shared = x'.1.1.map Outcome.shared ∧ x.1.2.Alike x'.1.2 := by
  intro x x'
  obtain ⟨⟨houtcomes, hafter⟩, hevents, -⟩ := (alike_history h hoperations).run hserve t
  exact ⟨hevents, Event.seen_of_unsigned hevents, houtcomes, hafter⟩

/-- A document with one node that has a negative zero in its data. -/
def withNegativeZero (marks : Fields) : Session :=
  { Session.new 0 with
    document := { Workflow.new "Draft" with id := some ⟨"w"⟩ }
    store := Store.new.run [.addNode
      ⟨⟨"n"⟩, "agent", .origin, [("k", .num (.double Double.zero.negate))], marks⟩] }

/-- The node as the service keeps it, with a zero that has no sign. -/
def keptWithZero : Json :=
  .obj [("nodes", .arr [.obj [("data", .obj [("k", .num (.double .zero))]), ("id", .str "n"),
    ("type", .str "agent")]])]

theorem alike_withNegativeZero :
    (withNegativeZero []).Alike (withNegativeZero [("selected", .bool true)]) where
  document := rfl
  graph := rfl
  repository := fun _ => rfl
  deadline := rfl
  runState := rfl
  wellFormed := Store.wellFormed_run Store.wellFormed_new _

/-- In one of two sessions a node is marked, and so is another one that is added:
it loads the copy of the first save, the other one does not, and both run alike. -/
theorem marks_do_not_interfere_negative_zero :
    let marks : Fields := [("selected", .bool true)]
    let node (marks : Fields) : Node := ⟨⟨"m"⟩, "agent", .origin, [], marks⟩
    let replies := [.answered 0 (.ok keptWithZero)]
    let x := ((withNegativeZero []).history
      [.save, .edit (.addNode (node [])), .run "hi"]).run Service.scripted replies
    let x' := ((withNegativeZero marks).history
      [.save, .edit (.addNode (node marks)), .run "hi"]).run Service.scripted replies
    (Event.requests x.2.1).map Request.name = ["update w", "update w", "execute w"] ∧
      (Event.requests x.2.1).map Request.seen = (Event.requests x'.2.1).map Request.seen ∧
      x.1.2.Alike x'.1.2 ∧ x.1.2.store.revision = 2 ∧ x'.1.2.store.revision = 3 := by
  -- the two runs get no name, which would have them evaluated where they are compared
  intro marks node replies
  have halike : (withNegativeZero []).Alike (withNegativeZero marks) := alike_withNegativeZero
  have hoperations : List.Forall₂ Operation.Alike [.save, .edit (.addNode (node [])), .run "hi"]
      [.save, .edit (.addNode (node marks)), .run "hi"] :=
    .cons .save (.cons (.edit rfl) (.cons .run .nil))
  obtain ⟨-, hseen, -, hafter⟩ :=
    marks_do_not_interfere halike hoperations ignoresSigns_scripted replies
  refine ⟨?_, hseen, hafter, ?_, ?_⟩
  · decide +kernel
  · decide +kernel
  · decide +kernel

/-- **A mark may decide the sign of a zero.**  Two sessions differ in a mark
only.  The copy of a save equals the graph but for the sign of a zero; the
session with the mark loads it, the other one does not, and the second save
sends one sign or the other. -/
theorem marks_decide_sign :
    let plain := withNegativeZero []
    let marked := withNegativeZero [("selected", .bool true)]
    let sent (s : Session) : List (List Fields) :=
      (Event.requests ((s.history [.save, .save]).run Service.scripted
        [.answered 0 (.ok keptWithZero)]).2.1).map fun
          | .update _ payload => (payload.nodes.getD []).map Node.data
          | _ => []
    let data (zero : Double) : List Fields := [[("k", .num (.double zero))]]
    plain.document = marked.document ∧ plain.repository = marked.repository ∧
      plain.store.graph.edges = marked.store.graph.edges ∧
      plain.store.graph.nodes.map Node.withoutLocalState =
        marked.store.graph.nodes.map Node.withoutLocalState ∧
      sent plain = [data Double.zero.negate, data Double.zero.negate] ∧
      sent marked = [data Double.zero.negate, data .zero] ∧ Double.zero.negate ≠ .zero := by
  refine ⟨rfl, rfl, rfl, rfl, ?_, ?_, by decide⟩
  · rfl
  · rfl

end Session

end WorkflowEditor
