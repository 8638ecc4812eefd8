import WorkflowEditor.Proofs.Graph.WellFormed
import WorkflowEditor.Proofs.Session.Course
import WorkflowEditor.Proofs.Workflow.Each

/-!
# WorkflowEditor.Proofs.Session.Contents

Where the contents of a session come from.  Its store is only ever changed by
edits, also when a document is taken over, so whatever edits keep is kept in a
session.  Its nodes, edges and members that are not known come with an edit, a
change by hand or a reply.

* `Effect.store_cases`, `isEdited_of_course` — every store in a course is one
  that a run of edits leads to;
* `Effect.each`, `each_of_course` — what is said of all that comes in holds of
  the document as it is edited, at every step.
-/

namespace WorkflowEditor.Session

variable {s after : Session} {o : Operation} {outcome : Outcome} {events : List Event}

/-! ## the store -/

/-- Taking over a copy leaves the store as it was, or replaces the graph. -/
theorem store_adoptAs_cases (s : Session) (id : WorkflowId) (copy : Workflow) :
    (s.adoptAs id copy).store = s.store ∨
      ∃ edit, (s.adoptAs id copy).store = (s.store.apply edit).2 := by
  rw [store_adoptAs]
  split
  · exact .inl rfl
  · exact .inr ⟨.replace copy.nodes copy.edges, rfl⟩

/-- **An operation leaves the store** as it was, or as one edit does. -/
theorem Effect.store_cases (h : Effect s o outcome events after) :
    after.store = s.store ∨ ∃ edit, after.store = (s.store.apply edit).2 := by
  cases h with
  | @opened _ _ w | @created _ _ _ _ w => exact .inr ⟨.replace w.nodes w.edges, rfl⟩
  | @saved id _ copy | @ran _ id _ _ copy => exact s.store_adoptAs_cases id copy
  | @savedFirst id _ _ w copy => exact store_adoptAs_cases _ id copy
  | deleted => exact .inr ⟨.reset, rfl⟩
  | @edited edit => exact .inr ⟨edit, rfl⟩
  | notOpened | notCreated | notSaved | createdNotSaved | notSavedFirst | notRan | refusedRun |
      notDeleted | nothingToDelete | listed | notListed | revised => exact .inl rfl

/-- The store is one that a run of edits leads to. -/
def IsEdited (s : Session) : Prop := ∃ edits, s.store = Store.new.run edits

theorem IsEdited.wellFormed (h : s.IsEdited) : s.store.graph.WellFormed := by
  obtain ⟨edits, hedits⟩ := h
  exact hedits ▸ Store.wellFormed_run Store.wellFormed_new edits

theorem Effect.isEdited (h : Effect s o outcome events after) (hs : s.IsEdited) :
    after.IsEdited := by
  obtain ⟨edits, hedits⟩ := hs
  obtain hsame | ⟨edit, hedit⟩ := h.store_cases
  · exact ⟨edits, hsame.trans hedits⟩
  · refine ⟨edits ++ [edit], ?_⟩
    rw [hedit, hedits, Store.run_append]
    rfl

/-- Every store in a course is one that a run of edits leads to. -/
theorem isEdited_of_course (start : Session) (hstart : start.store = .new) {σ : Type}
    (serve : Service σ) (t : σ) {operations : List Operation} :
    ∀ x ∈ start.course serve t operations, x.before.IsEdited ∧ x.after.IsEdited :=
  start.forall_course serve t ⟨[], hstart⟩ (fun _ _ => trivial) fun x (_ : True) =>
    x.effect.isEdited

/-! ## nodes, edges and members that are not known -/

variable {onNode : Node → Prop} {onEdge : Edge → Prop} {onExtra : Fields → Prop}

/-- What comes with an operation satisfies the properties, and so does what a
change by hand makes of the document's members. -/
def Operation.Brings (onNode : Node → Prop) (onEdge : Edge → Prop) (onExtra : Fields → Prop) :
    Operation → Prop
  | edit e => e.Brings onNode onEdge
  | revise change => ∀ w, onExtra w.extra → onExtra (change w).extra
  | openWorkflow _ | newWorkflow _ _ | save | run _ | delete | list => True

/-- The document as it is edited satisfies the properties part by part. -/
abbrev Each (onNode : Node → Prop) (onEdge : Edge → Prop) (onExtra : Fields → Prop)
    (s : Session) : Prop := s.outgoing.Each onNode onEdge onExtra

theorem each_load (s : Session) {w : Workflow} (hw : w.Each onNode onEdge onExtra) :
    (s.load w).Each onNode onEdge onExtra := ⟨hw.graph.sift, hw.extra⟩

theorem each_adoptAs (hs : s.Each onNode onEdge onExtra) (id : WorkflowId) {copy : Workflow}
    (hcopy : copy.Each onNode onEdge onExtra) : (s.adoptAs id copy).Each onNode onEdge onExtra := by
  rw [adoptAs, adopt]
  split
  · -- the copy has the graph being edited, and that graph stays
    exact ⟨hs.graph, hcopy.extra⟩
  · exact each_load _ hcopy

/-- **All that comes into a session** comes with the operation or a reply. -/
theorem Effect.each (h : Effect s o outcome events after) (hmerges : Fields.Merges onExtra)
    (ho : o.Brings onNode onEdge onExtra)
    (hreplies : ∀ request reply, .asked request reply ∈ events → reply.Brings onNode onEdge onExtra)
    (hs : s.Each onNode onEdge onExtra) : after.Each onNode onEdge onExtra := by
  cases h with
  | opened read =>
      have hreply := hreplies _ _ List.mem_cons_self
      exact each_load _ (Repository.each_fetched hmerges hreply read)
  | created read =>
      have hreply := hreplies _ _ List.mem_cons_self
      exact each_load _ (Repository.each_created hmerges hreply
        (Workflow.each_of_nil hmerges rfl rfl rfl) read)
  | saved _ read =>
      have hreply := hreplies _ _ List.mem_cons_self
      exact each_adoptAs hs _ (Repository.each_saved hmerges hreply hs read)
  | @savedFirst id _ _ w _ _ _ update =>
      have hreply := hreplies _ _ (List.mem_cons_of_mem _ List.mem_cons_self)
      have hkept : ({ s with repository := s.repository.keep id w } : Session).Each onNode onEdge
        onExtra := hs
      exact each_adoptAs hkept id (Repository.each_saved hmerges hreply hs update)
  | @ran _ id reply _ _ _ _ read =>
      have hreply := hreplies (.update id (.ofWorkflow s.outgoing)) reply (by simp)
      exact each_adoptAs hs _ (Repository.each_saved hmerges hreply hs read)
  | deleted => exact ⟨Graph.each_empty, hmerges.nil⟩
  | edited => exact ⟨Store.each_apply ho hs.graph, hs.extra⟩
  | revised => exact ⟨hs.graph, ho _ hs.extra⟩
  | notOpened | notCreated | notSaved | createdNotSaved | notSavedFirst | notRan | refusedRun |
      notDeleted | nothingToDelete | listed | notListed => exact hs

/-- What holds of all that comes in holds of the document at every step. -/
theorem each_of_course {start : Session} (hmerges : Fields.Merges onExtra)
    (hstart : start.Each onNode onEdge onExtra) {operations : List Operation}
    (hoperations : ∀ o ∈ operations, o.Brings onNode onEdge onExtra) {σ : Type} {serve : Service σ}
    (hreplies : ∀ u request, (serve u request).1.Brings onNode onEdge onExtra) (t : σ) :
    ∀ x ∈ start.course serve t operations,
      x.before.Each onNode onEdge onExtra ∧ x.after.Each onNode onEdge onExtra := by
  have hallowed : ∀ x ∈ start.course serve t operations, x.operation.Brings onNode onEdge onExtra ∧
      ∀ request reply, .asked request reply ∈ x.events → reply.Brings onNode onEdge onExtra := by
    intro x hx
    refine ⟨hoperations _ (start.operation_of_course serve t x hx), fun request reply hasked => ?_⟩
    obtain ⟨u, rfl⟩ := start.reply_of_course serve t x hx hasked
    exact hreplies u request
  exact start.forall_course serve t hstart hallowed fun x hx hbefore =>
    x.effect.each hmerges hx.1 hx.2 hbefore

end WorkflowEditor.Session
