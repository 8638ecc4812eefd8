import WorkflowEditor.Graph.Store

/-!
# WorkflowEditor.Proofs.Graph.Publishing

An edit happens or it does not: either the revision grows by one and the new
graph is published, or nothing at all changes.  Which of the two it was can be
told from the answer (`Edit.LeavesAlone`).

The feed of a store that was run from empty is in step with its revision
(`Store.InStep`), which is why a receiver can tell from the versions alone
whether it has seen the latest graph.

* `perform_eq_none_iff` — an edit commits nothing exactly when its answer says so;
* `apply_cases` — what one edit does to a store;
* `all_or_nothing` — the law over every run, with its consequences for
  subscribers at any two points of it.
-/

namespace WorkflowEditor

/-! ## answers that tell of no change -/

/-- The answer says that there was nothing to do or that the edit is refused;
an empty batch of edges is nothing to do either. -/
def Edit.LeavesAlone (edit : Edit) (answer : Answer) : Prop :=
  match edit, answer with
  | .addEdges edges, .done => edges = []
  | .removeEdgesAt _, .count n => n = 0
  | _, .refused _ => True
  | _, .removedNode none => True
  | _, .removedEdge none => True
  | _, .filled false => True
  | _, .dropped none => True
  | _, _ => False

namespace Edit

/-- An edit that is only ever done or refused. -/
theorem checked_cases (result : Except GraphError Graph) :
    (∃ g, checked result = (.done, some g)) ∨ ∃ e, checked result = (.refused e, none) := by
  cases result with
  | error e => exact .inr ⟨e, rfl⟩
  | ok g => exact .inl ⟨g, rfl⟩

/-- An edit commits nothing exactly when its answer says so. -/
theorem perform_eq_none_iff (edit : Edit) (g : Graph) :
    (edit.perform g).2 = none ↔ edit.LeavesAlone (edit.perform g).1 := by
  cases edit with
  | addNode node =>
      obtain ⟨g', h⟩ | ⟨e, h⟩ := checked_cases (g.addNode node) <;> simp [perform, h, LeavesAlone]
  | updateData id overlay =>
      obtain ⟨g', h⟩ | ⟨e, h⟩ := checked_cases (g.updateData id overlay) <;>
        simp [perform, h, LeavesAlone]
  | moveNode id position =>
      obtain ⟨g', h⟩ | ⟨e, h⟩ := checked_cases (g.moveNode id position) <;>
        simp [perform, h, LeavesAlone]
  | removeNode id => rw [perform]; split <;> simp [LeavesAlone]
  | addEdges edges => rw [perform]; split <;> simp [LeavesAlone]
  | removeEdge id => rw [perform]; split <;> simp [LeavesAlone]
  | removeEdgesAt id => simp [perform, LeavesAlone]
  | fillDefaults id => rw [perform]; split <;> simp [LeavesAlone]
  | replace nodes edges => simp [perform, LeavesAlone]
  | reset => simp [perform, LeavesAlone]
  | connect registry connection stamp => rw [perform]; split <;> simp [LeavesAlone]
  | drop registry payload point toCanvas stamp => rw [perform]; split <;> simp [LeavesAlone]

end Edit

namespace Store

/-! ## one edit -/

/-- What one edit does to a store: it commits one graph, or nothing changes. -/
theorem apply_cases (store : Store) (edit : Edit) :
    (∃ g, (store.apply edit).2 = store.commit g ∧ ¬edit.LeavesAlone (store.apply edit).1) ∨
      ((store.apply edit).2 = store ∧ edit.LeavesAlone (store.apply edit).1) := by
  have hiff := edit.perform_eq_none_iff store.graph
  rw [apply]
  split
  · next answer g hperform =>
    rw [hperform] at hiff
    exact .inl ⟨g, rfl, fun hleaves => nomatch hiff.mpr hleaves⟩
  · next answer hperform =>
    rw [hperform] at hiff
    exact .inr ⟨rfl, hiff.mp rfl⟩

theorem revision_commit (store : Store) (g : Graph) :
    (store.commit g).revision = store.revision + 1 := rfl

theorem feed_commit (store : Store) (g : Graph) :
    (store.commit g).feed = store.feed.publish (store.commit g).current := rfl

/-! ## the feed of a run -/

/-- The feed shows the current snapshot, and has published once for each revision. -/
structure InStep (store : Store) : Prop where
  latest : store.feed.latest = store.current
  version : store.feed.version = store.revision

theorem inStep_new : new.InStep := ⟨rfl, rfl⟩

theorem InStep.apply {store : Store} (h : store.InStep) (edit : Edit) :
    (store.apply edit).2.InStep := by
  obtain ⟨g, hcommit, -⟩ | ⟨hsame, -⟩ := store.apply_cases edit
  · rw [hcommit]
    exact ⟨rfl, congrArg (· + 1) h.version⟩
  · rw [hsame]
    exact h

theorem InStep.run {store : Store} (h : store.InStep) (edits : List Edit) :
    (store.run edits).InStep := by
  induction edits generalizing store with
  | nil => exact h
  | cons edit rest ih => exact ih (h.apply edit)

/-- A run leaves the store as it was, or at a later revision. -/
theorem run_cases (store : Store) (edits : List Edit) :
    store.run edits = store ∨ store.revision < (store.run edits).revision := by
  induction edits generalizing store with
  | nil => exact .inl rfl
  | cons edit rest ih =>
      have hrun : store.run (edit :: rest) = (store.apply edit).2.run rest := rfl
      rw [hrun]
      obtain ⟨g, hcommit, -⟩ | ⟨hsame, -⟩ := store.apply_cases edit
      · rw [hcommit]
        have hone := store.revision_commit g
        obtain hrest | hrest := ih (store.commit g)
        · rw [hrest]
          omega
        · omega
      · rw [hsame]
        exact ih store

/-! ## subscribers -/

/-- A receiver that has just looked, or subscribed, at a store. -/
def SeenBy (store : Store) (receiver : Feed.Receiver) : Prop :=
  receiver = store.feed.subscribe ∨ ∃ earlier, receiver = (store.feed.receive earlier).2

theorem SeenBy.seen {store : Store} {receiver : Feed.Receiver} (h : store.SeenBy receiver) :
    receiver.seen = store.feed.version := by
  obtain rfl | ⟨earlier, rfl⟩ := h
  · rfl
  · rfl

/-- Between two points of a run a receiver sees a change exactly when the revision has grown. -/
theorem hasChanged_run_iff {store : Store} (h : store.InStep) {receiver : Feed.Receiver}
    (hseen : store.SeenBy receiver) (more : List Edit) :
    (store.run more).feed.hasChanged receiver = true ↔
      store.revision < (store.run more).revision := by
  have hlater := (h.run more).version
  have hcases := store.run_cases more
  rw [Feed.hasChanged, bne_iff_ne, hseen.seen, h.version, hlater]
  grind

/-! ## the law -/

/-- **All or nothing.**  At every point of every run each edit either commits
one new graph at the next revision and publishes it, or changes nothing at all,
and its answer tells which.  So the value published last is the current
snapshot, a revision names one snapshot of the run, and a receiver that looked
at one point has something to look at, at a later point, exactly when the
revision has grown since, and then sees the snapshot of that later point. -/
theorem all_or_nothing (edits : List Edit) :
    let store := new.run edits
    (∀ edit, let answer := (store.apply edit).1; let after := (store.apply edit).2
      (after.revision = store.revision + 1 ∧ after.feed = store.feed.publish after.current ∧
        ¬edit.LeavesAlone answer) ∨ (after = store ∧ edit.LeavesAlone answer)) ∧
    store.feed.latest = store.current ∧
    ∀ more, let later := store.run more
      (later.revision = store.revision → later.current = store.current) ∧
      ∀ receiver, store.SeenBy receiver →
        (later.feed.hasChanged receiver = true ↔ store.revision < later.revision) ∧
        (later.feed.receive receiver).1 = later.current := by
  intro store
  have hstep : store.InStep := inStep_new.run edits
  refine ⟨fun edit => ?_, hstep.latest, fun more => ⟨fun hrevision => ?_, fun receiver hseen => ?_⟩⟩
  · obtain ⟨g, hcommit, hanswer⟩ | ⟨hsame, hanswer⟩ := store.apply_cases edit
    · exact .inl ⟨hcommit ▸ revision_commit store g, hcommit ▸ feed_commit store g, hanswer⟩
    · exact .inr ⟨hsame, hanswer⟩
  · obtain hsame | hlater := store.run_cases more
    · exact congrArg current hsame
    · omega
  · exact ⟨hasChanged_run_iff hstep hseen more, (hstep.run more).latest⟩

/-- A node that is there already is refused and the snapshot stays; clearing the
graph is news to a subscriber. -/
theorem all_or_nothing_after_one_node :
    let node := Node.new ⟨"a"⟩ "agent" .origin
    let store := new.run [.addNode node]
    (store.run [.addNode node]).current = store.current ∧
      (store.run [.reset]).feed.hasChanged store.feed.subscribe = true :=
  have law := (all_or_nothing [.addNode (Node.new ⟨"a"⟩ "agent" .origin)]).2.2
  ⟨(law [.addNode (Node.new ⟨"a"⟩ "agent" .origin)]).1 rfl,
    ((law [.reset]).2 _ (.inl rfl)).1.mpr (by decide)⟩

end Store

end WorkflowEditor
