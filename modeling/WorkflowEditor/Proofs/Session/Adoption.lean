import WorkflowEditor.Proofs.Graph.Publishing
import WorkflowEditor.Proofs.Session.Contents
import WorkflowEditor.Proofs.Workflow.Comparable

/-!
# WorkflowEditor.Proofs.Session.Adoption

A document that is taken over and the graph in the store agree, whichever way
the store came by it: a load sifts the document's graph, and the copy of a save
is left alone if it equals the graph being edited.  The two ways come to the
same because the graph in a store is well-formed and, without a NaN, equals
itself.

* `Effect.adopts`, `Effect.loads` — what a save, and a run that got as far, does
  to document and store, and what an open does;
* `comparable_of_course` — the graph in the store never has a NaN;
* `agrees_after_taking_over` — document and store agree in every history.
-/

namespace WorkflowEditor

/-- Every body that the service answers with is a JSON value. -/
def Service.SpeaksJson (serve : Service σ) : Prop := ∀ t request, (serve t request).1.IsJson

namespace Session

/-! ## agreement -/

/-- The store holds what is kept of the document's graph. -/
def Agrees (s : Session) : Prop :=
  (Graph.sift s.document.nodes s.document.edges).same s.store.graph = true

/-- A document whose graph is well-formed has the graph in the store. -/
theorem Agrees.same_of_wellFormed {s : Session} (h : s.Agrees)
    (hdocument : s.document.graph.WellFormed) : s.document.graph.same s.store.graph = true := by
  rw [← hdocument.sift_eq]
  exact h

/-! ## one step -/

/-- Edits bring no NaN. -/
def Operation.Comparable : Operation → Prop
  | edit e => e.Comparable
  | openWorkflow _ | newWorkflow _ _ | save | run _ | delete | list | revise _ => True

/-- Is it the document of a reply that the operation leaves? -/
def Operation.TakesOver : Operation → Prop
  | openWorkflow _ | newWorkflow _ _ | save | run _ => True
  | delete | list | edit _ | revise _ => False

/-- Does the operation save the document? -/
def Operation.Saves : Operation → Prop
  | save | run _ => True
  | openWorkflow _ | newWorkflow _ _ | delete | list | edit _ | revise _ => False

/-- An operation whose edit brings no NaN brings none. -/
theorem Operation.Comparable.brings {o : Operation} (h : o.Comparable) :
    o.Brings Node.Comparable Edge.Comparable fun _ => True := by
  cases o with
  | edit e => exact Edit.Comparable.brings h
  | revise => exact fun _ _ => trivial
  | openWorkflow | newWorkflow | save | run | delete | list => trivial

namespace Effect

variable {s after : Session} {o : Operation} {outcome : Outcome} {events : List Event}

/-- What a save, and a run that got as far, does to document and store: the copy
that its update is answered with is taken over. -/
theorem adopts (h : Effect s o outcome events after) (ho : o.Saves) (hdone : ¬outcome.IsFailure) :
    ∃ id reply, .asked (.update id (.ofWorkflow s.outgoing)) reply ∈ events ∧
      reply.read (Repository.saved id s.outgoing) = .ok after.document ∧
      after.store = if after.document.graph.same s.store.graph then s.store
        else s.store.load after.document.nodes after.document.edges := by
  cases h with
  | @saved id reply copy stored read =>
      rw [document_adoptAs]
      exact ⟨id, reply, by simp, read, s.store_adoptAs id copy⟩
  | @savedFirst id first second w copy unstored create update =>
      rw [document_adoptAs]
      exact ⟨id, second, by simp, update, store_adoptAs _ id copy⟩
  | @ran input id reply answer copy state stored read ended =>
      dsimp only
      rw [document_adoptAs]
      exact ⟨id, reply, by simp, read, s.store_adoptAs id copy⟩
  | notSaved | createdNotSaved | notSavedFirst | notRan | refusedRun => exact (hdone trivial).elim
  | opened | notOpened | created | notCreated | deleted | notDeleted | nothingToDelete | listed |
      notListed | edited | revised => exact ho.elim

/-- What an open, or the creation of a new document, does: the document that is
answered is loaded. -/
theorem loads (h : Effect s o outcome events after) (ho : o.TakesOver) (hsaves : ¬o.Saves)
    (hdone : ¬outcome.IsFailure) :
    after.store = s.store.load after.document.nodes after.document.edges := by
  cases h with
  | opened | created => rfl
  | notOpened | notCreated => exact (hdone trivial).elim
  | saved | notSaved | savedFirst | createdNotSaved | notSavedFirst | ran | notRan | refusedRun =>
      exact (hsaves trivial).elim
  | deleted | notDeleted | nothingToDelete | listed | notListed | edited | revised => exact ho.elim

/-- An operation that takes over a document leaves the store alone if it has the
document's graph, and loads that graph otherwise. -/
theorem store_of_takesOver (h : Effect s o outcome events after) (ho : o.TakesOver)
    (hdone : ¬outcome.IsFailure) :
    (after.store = s.store ∧ after.document.graph.same s.store.graph = true) ∨
      after.store = s.store.load after.document.nodes after.document.edges := by
  by_cases hsaves : o.Saves
  · obtain ⟨id, reply, -, -, hstore⟩ := h.adopts hsaves hdone
    split at hstore
    · next hsame => exact .inl ⟨hstore, hsame⟩
    · exact .inr hstore
  · exact .inr (h.loads ho hsaves hdone)

/-- What an operation leaves agrees, if it took over a document. -/
theorem agrees (h : Effect s o outcome events after) (ho : o.TakesOver)
    (hdone : ¬outcome.IsFailure) (hgraph : s.store.graph.WellFormed)
    (hcomparable : after.store.graph.Comparable) : after.Agrees := by
  obtain ⟨hstore, hsame⟩ | hstore := h.store_of_takesOver ho hdone
  · -- the copy is well-formed as the graph being edited is: nothing of it is left out
    have hcopy := (hgraph.of_same hsame).sift_eq
    rw [Agrees, hstore, ← hsame]
    exact congrArg (Graph.same · s.store.graph) hcopy
  · rw [hstore] at hcomparable
    rw [Agrees, hstore]
    exact Graph.same_self hcomparable

end Effect

/-! ## histories -/

/-- The graph in the store never has a NaN. -/
theorem comparable_of_course (start : Session) (hstart : start.store = .new)
    {operations : List Operation} {σ : Type} {serve : Service σ}
    (hedits : ∀ o ∈ operations, o.Comparable) (hserve : serve.SpeaksJson) (t : σ) :
    ∀ x ∈ start.course serve t operations, x.after.store.graph.Comparable := by
  have hempty : start.Each Node.Comparable Edge.Comparable fun _ => True := by
    refine ⟨?_, trivial⟩
    rw [outgoing, hstart]
    exact Graph.each_empty
  have hmerges : Fields.Merges fun _ => True := ⟨trivial, fun _ _ => trivial⟩
  have heach := each_of_course hmerges hempty (fun o ho => (hedits o ho).brings)
    (fun u request => (hserve u request).brings) t
  exact fun x hx => (heach x hx).2.graph

/-- **Document and store agree** right after a document was taken over, in every
history of operations whose edits bring no NaN and whatever the service answers:
the store holds what is kept of the document's graph, and so the document's
graph itself if that is well-formed.  A save, and a run that got as far, leaves
the store alone exactly if the copy it takes over has the graph being edited,
and commits one graph otherwise. -/
theorem agrees_after_taking_over {operations : List Operation} {σ : Type} {serve : Service σ}
    (hedits : ∀ o ∈ operations, o.Comparable) (hserve : serve.SpeaksJson)
    (r : Repository) (deadline : Nat) (state : RunState) (t : σ) :
    let start := { Session.new deadline with repository := r, runState := state }
    ∀ x ∈ start.course serve t operations, ¬x.outcome.IsFailure →
      (x.operation.TakesOver → x.after.Agrees ∧
        (x.after.document.graph.WellFormed →
          x.after.document.graph.same x.after.store.graph = true)) ∧
      (x.operation.Saves →
        (∃ id reply, .asked (.update id (.ofWorkflow x.before.outgoing)) reply ∈ x.events ∧
          reply.read (Repository.saved id x.before.outgoing) = .ok x.after.document) ∧
        (x.after.document.graph.same x.before.store.graph = true →
          x.after.store = x.before.store) ∧
        (x.after.document.graph.same x.before.store.graph = false →
          x.after.store.revision = x.before.store.revision + 1 ∧
          x.after.store.feed = x.before.store.feed.publish x.after.store.current)) := by
  intro start x hx hdone
  refine ⟨fun ho => ?_, fun ho => ?_⟩
  · have hgraph := (start.isEdited_of_course rfl serve t x hx).1.wellFormed
    have hcomparable := start.comparable_of_course rfl hedits hserve t x hx
    have hagrees := x.effect.agrees ho hdone hgraph hcomparable
    exact ⟨hagrees, hagrees.same_of_wellFormed⟩
  · obtain ⟨id, reply, hreply, hread, hstore⟩ := x.effect.adopts ho hdone
    refine ⟨⟨id, reply, hreply, hread⟩, fun hsame => ?_, fun hdiffers => ?_⟩
    · rw [hstore, if_pos hsame]
    · rw [hstore, hdiffers]
      exact ⟨Store.revision_commit _ _, Store.feed_commit _ _⟩

/-- A save is answered with other nodes and no edges: the edge of the document
has lost an end, and the store leaves it out. -/
theorem agrees_after_taking_over_lost_end :
    let node (id : String) := Node.new ⟨id⟩ "agent" .origin
    let edge : Edge := ⟨⟨"ab"⟩, ⟨"a"⟩, none, ⟨"b"⟩, none, .simple, []⟩
    let body := Json.object [("nodes", .arr [.object [("id", .str "a"), ("type", .str "agent")]])]
    let serve : Service Unit := fun _ _ => (.answered 0 (.ok body), ())
    let operations : List Operation :=
      [.edit (.replace [node "a", node "b"] [edge]), .revise fun w => { w with id := some ⟨"w"⟩ },
        .save]
    let start := { Session.new 0 with repository := .empty, runState := .idle }
    ∃ x ∈ start.course serve () operations, x.operation.Saves ∧
      x.after.document.edges.map Edge.id = [⟨"ab"⟩] ∧ x.after.store.graph.edges.length = 0 ∧
      x.after.Agrees ∧ x.after.store.revision = x.before.store.revision + 1 := by
  intro node edge body serve operations start
  have hnode (id : String) : (node id).Comparable :=
    Node.comparable_new _ _ Position.isNumber_origin
  have hedits : ∀ o ∈ operations, o.Comparable := by
    have hgraph : Graph.Comparable ⟨[node "a", node "b"], [edge]⟩ :=
      ⟨by simp [hnode], by simp [Edge.Comparable, edge, Fields.wellFormed_nil]⟩
    simp [operations, Operation.Comparable, Edit.Comparable, hgraph]
  have hbody : body.WellFormed := by
    refine Json.wellFormed_object fun f hf => ?_
    obtain rfl := List.mem_singleton.mp hf
    refine .arr fun v hv => ?_
    obtain rfl := List.mem_singleton.mp hv
    exact Json.wellFormed_object (by simp [Json.WellFormed.str])
  have hserve : serve.SpeaksJson := by
    rintro t request _ ⟨rfl⟩
    exact hbody
  let edited := { start with
    document := { start.document with id := some ⟨"w"⟩ }
    store := Store.new.load [node "a", node "b"] [edge] }
  let x := edited.step serve () .save
  have hmem : x ∈ start.course serve () operations :=
    List.mem_cons_of_mem _ (List.mem_cons_of_mem _ List.mem_cons_self)
  have hone : x.after.document.graph.nodes.length = 1 := by decide +kernel
  have htwo : x.before.store.graph.nodes.length = 2 := rfl
  have hdiffers : x.after.document.graph.same x.before.store.graph = false := by
    refine Bool.eq_false_iff.mpr fun hsame => ?_
    have hlength := (Graph.same_iff.mp hsame).1.length_eq
    omega
  obtain ⟨hagrees, hstore⟩ :=
    agrees_after_taking_over hedits hserve .empty 0 .idle () x hmem id
  exact ⟨x, hmem, trivial, by decide +kernel, by decide +kernel, (hagrees trivial).1,
    ((hstore trivial).2.2 hdiffers).1⟩

end Session

end WorkflowEditor
