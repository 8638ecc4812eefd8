import WorkflowEditor.Proofs.Graph.Commuting

/-!
# WorkflowEditor.Proofs.Graph.Filling

What filling in defaults does to a node, and to what it still lacks.

Readiness looks only at the entries that a kind requires, one at a time, so it
can change only where a default is filled in.  The defaults for these entries
are such that none of them counts as filled, and none of them makes another
entry required; the one exception is the version of the interface of an agent,
which has a default that will do.

* `Kind.Completes.readiness_eq` — data with its defaults misses what it missed
  without them, but for that version;
* `Store.defaults_keep_readiness` — what filling in defaults does in every
  graph that a run leads to.
-/

namespace WorkflowEditor

open WorkflowEditor.Graph

@[simp] theorem Readiness.missing_ofMissing (names : List String) :
    (ofMissing names).missing = names := by
  cases names <;> rfl

namespace Kind

variable {kind : Kind} {before after : Fields} {key : String}

/-! ## entries -/

/-- Whether an entry is filled depends on that entry alone. -/
theorem isFilled_congr (kind : Kind) (h : after.get? key = before.get? key) :
    kind.isFilled after key = kind.isFilled before key := by
  have htext : textAt? after key = textAt? before key := by rw [textAt?, textAt?, h]
  cases kind <;> simp only [isFilled, isBlankEntry, htext]

/-- An entry that is absent is not filled. -/
theorem isFilled_of_absent (kind : Kind) (h : before.get? key = none) :
    kind.isFilled before key = false := by
  have htext : textAt? before key = none := by rw [textAt?, h]; rfl
  cases kind <;> simp [isFilled, isBlankEntry, htext]

/-- No default counts as a required entry that is filled, but for the version
of an agent's interface. -/
theorem isFilled_defaultData (hkey : key ∈ kind.requiredEntries before)
    (hversion : key ≠ "api_version") : kind.isFilled kind.defaultData key = false := by
  cases kind with
  | textInput | apiRequest | yahooFinance =>
      obtain rfl := List.mem_singleton.mp hkey
      decide
  | chatInput | textOutput | chatOutput => exact (List.not_mem_nil hkey).elim
  | tavily =>
      obtain rfl | hkey := List.mem_cons.mp hkey
      · decide
      · obtain rfl := List.mem_singleton.mp hkey
        decide
  | agent =>
      have hentries : ∀ key ∈ ["provider", "model", "API_key", "system_message", "azure_endpoint"],
          agent.isFilled agent.defaultData key = false := by decide
      refine hentries key ?_
      rw [requiredEntries] at hkey
      split at hkey <;> grind

theorem isFilled_version : agent.isFilled agent.defaultData "api_version" = true := by decide

/-- Only agents have a version of their interface. -/
theorem eq_agent_of_version (h : "api_version" ∈ kind.requiredEntries before) : kind = agent := by
  cases kind with
  | agent => rfl
  | _ => simp [requiredEntries] at h

/-! ## data with its defaults -/

/-- Data with the defaults of a kind for all the keys that it lacked, and no other change. -/
structure Completes (kind : Kind) (before after : Fields) : Prop where
  keys : ∀ key, key ∈ after.keys ↔ key ∈ before.keys ∨ key ∈ kind.defaultData.keys
  kept : ∀ key ∈ before.keys, after.get? key = before.get? key
  filled : ∀ key, key ∉ before.keys → after.get? key = kind.defaultData.get? key

/-- The defaults behind some data complete it. -/
theorem completes_of_get? (h : ∀ key, after.get? key =
    (before.get? key).or (kind.defaultData.get? key)) : kind.Completes before after where
  keys key := by
    simp only [Fields.mem_keys_iff, h, ← Option.isSome_iff_exists, Option.isSome_or,
      Bool.or_eq_true]
  kept key hkey := by
    obtain ⟨v, hv⟩ := Fields.mem_keys_iff.mp hkey
    rw [h, hv, Option.some_or]
  filled key hkey := by rw [h, Fields.get?_eq_none_of_not_mem hkey, Option.none_or]

namespace Completes

/-- The defaults make no other entries required. -/
theorem requiredEntries_eq (h : kind.Completes before after) :
    kind.requiredEntries after = kind.requiredEntries before := by
  cases kind with
  | agent =>
      by_cases hkey : "provider" ∈ before.keys
      · rw [requiredEntries, requiredEntries, textAt?, textAt?, h.kept _ hkey]
      · have hbefore := Fields.get?_eq_none_of_not_mem hkey
        have hafter : after.get? "provider" = some (.str "") := (h.filled _ hkey).trans rfl
        simp [requiredEntries, textAt?, hbefore, hafter, Json.string?, azureProvider]
  | _ => rfl

/-- A required entry is filled exactly if it was before, unless it is a version
that was not there. -/
theorem isFilled_eq (h : kind.Completes before after) (hkey : key ∈ kind.requiredEntries before)
    (hversion : key = "api_version" → key ∈ before.keys) :
    kind.isFilled after key = kind.isFilled before key := by
  by_cases hpresent : key ∈ before.keys
  · exact kind.isFilled_congr (h.kept key hpresent)
  · rw [kind.isFilled_congr (h.filled key hpresent),
      isFilled_defaultData hkey fun heq => hpresent (hversion heq),
      kind.isFilled_of_absent (Fields.get?_eq_none_of_not_mem hpresent)]

/-- **With its defaults data misses what it missed** without them, but for the
version of an agent's interface if there was none. -/
theorem readiness_eq (h : kind.Completes before after) :
    kind.readiness after = .ofMissing (if kind = agent ∧ "api_version" ∉ before.keys then
        (kind.readiness before).missing.filter (· ≠ "api_version")
      else (kind.readiness before).missing) := by
  rw [readiness, readiness, Readiness.missing_ofMissing, h.requiredEntries_eq]
  congr 1
  split
  · next hlacks =>
    obtain ⟨rfl, habsent⟩ := hlacks
    rw [List.filter_filter]
    refine List.filter_congr fun key hkey => ?_
    by_cases hversion : key = "api_version"
    · subst hversion
      rw [agent.isFilled_congr (h.filled _ habsent), isFilled_version]
      simp
    · rw [h.isFilled_eq hkey fun heq => absurd heq hversion]
      simp [hversion]
  · next hhas =>
    refine List.filter_congr fun key hkey => ?_
    rw [h.isFilled_eq hkey fun heq => ?_]
    subst heq
    exact not_not.mp fun habsent => hhas ⟨eq_agent_of_version hkey, habsent⟩

end Completes

end Kind

/-! ## nodes -/

namespace Graph

variable {g : Graph} {id : NodeId} {node : Node} {kind : Kind}

theorem completes_missingDefaults (hkind : Kind.ofTypeId? node.typeId = some kind) :
    kind.Completes node.data (node.data.extend (missingDefaults node)) := by
  refine Kind.completes_of_get? fun key => ?_
  rw [get?_extend_missingDefaults, Node.defaults, hkind]
  rfl

/-- There are defaults to fill in exactly if the data lacks the key of one. -/
theorem missingDefaults_ne_nil_iff (hkind : Kind.ofTypeId? node.typeId = some kind) :
    missingDefaults node ≠ [] ↔ ∃ key ∈ kind.defaultData.keys, key ∉ node.data.keys := by
  have hlacks : ∀ key, node.data.contains key = false ↔ key ∉ node.data.keys := fun key => by
    rw [Fields.contains, Fields.mem_keys_iff, ← Option.isSome_iff_exists, Bool.not_eq_true]
  rw [missingDefaults_eq, Node.defaults, hkind, Ne, List.filter_eq_nil_iff]
  simp [Fields.keys, hlacks]

/-- Once they are filled in no defaults are missing. -/
theorem missingDefaults_filled (hkind : Kind.ofTypeId? node.typeId = some kind) :
    missingDefaults (NodeChange.fillDefaults.onNode node) = [] := by
  refine not_not.mp fun hne => ?_
  have hsame : Kind.ofTypeId? (NodeChange.fillDefaults.onNode node).typeId = some kind := hkind
  obtain ⟨key, hkey, hlacks⟩ := (missingDefaults_ne_nil_iff hsame).mp hne
  exact hlacks (((completes_missingDefaults hkind).keys key).mpr (.inr hkey))

/-- A graph without ids that stand twice, with one node changed. -/
theorem WellFormed.updateNode_eq (h : g.WellFormed) (hnode : g.node? id = some node)
    (change : Node → Node) : (g.updateNode id change).nodes =
      g.nodes.map fun n => if n.id = id then change node else n := by
  refine (updateFirst_eq_map_of_nodup h.nodup_nodes id change).trans ?_
  refine List.map_congr_left fun n hn => ?_
  split
  · next hid =>
    subst hid
    rw [Option.some.inj ((h.node?_id hn).symm.trans hnode)]
  · rfl

end Graph

namespace Store

/-- What filling in a node's defaults answers, and what it does. -/
theorem apply_fillDefaults {store : Store} {id : NodeId} {node : Node}
    (h : store.graph.node? id = some node) :
    store.apply (.fillDefaults id) =
      if missingDefaults node = [] then (.filled false, store)
      else
        (.filled true,
          store.commit (store.graph.updateNode id NodeChange.fillDefaults.onNode)) := by
  rw [apply, Edit.perform, fillDefaults_of_found h]
  by_cases hmissing : missingDefaults node = []
  · rw [if_pos hmissing, if_pos hmissing]
  · rw [if_neg hmissing, if_neg hmissing]

/-- **Filling in defaults** never makes a node look more or less configured than
it is.  In every graph that a run leads to, the data of the node, of a known
kind, gets the defaults for the keys that it lacks, and nothing else changes.
The node misses the entries that it missed before, in the same order, only that
an agent without a version of its interface then has one.  The answer tells
whether any default was lacking, so the second time there is nothing to do. -/
theorem defaults_keep_readiness (history : List Edit) {id : NodeId} {node : Node} {kind : Kind}
    (hnode : (new.run history).graph.node? id = some node)
    (hkind : Kind.ofTypeId? node.typeId = some kind) :
    let reached := new.run history
    let answer := (reached.apply (.fillDefaults id)).1
    let after := (reached.apply (.fillDefaults id)).2
    (∃ data, kind.Completes node.data data ∧
      after.graph.nodes =
        reached.graph.nodes.map (fun n => if n.id = id then { node with data := data } else n) ∧
      after.graph.edges = reached.graph.edges ∧
      kind.readiness data =
        .ofMissing (if kind = .agent ∧ "api_version" ∉ node.data.keys then
            (kind.readiness node.data).missing.filter (· ≠ "api_version")
          else (kind.readiness node.data).missing)) ∧
    (∃ any, answer = .filled any ∧
      (any = true ↔ ∃ key ∈ kind.defaultData.keys, key ∉ node.data.keys)) ∧
    after.apply (.fillDefaults id) = (.filled false, after) := by
  intro reached answer after
  have hcompletes := completes_missingDefaults hkind
  have hgraph : after.graph = reached.graph.updateNode id NodeChange.fillDefaults.onNode :=
    (NodeChange.apply_edit reached id .fillDefaults).2
  have hafter : after.graph.node? id = some (NodeChange.fillDefaults.onNode node) := by
    rw [hgraph, node?_updateNode (NodeChange.id_onNode .fillDefaults), hnode]
    rfl
  refine ⟨⟨_, hcompletes, ?_, ?_, hcompletes.readiness_eq⟩, ?_, ?_⟩
  · rw [hgraph]
    exact (wellFormed_run wellFormed_new history).updateNode_eq hnode _
  · rw [hgraph]
    rfl
  · have hanswer : answer = .filled (decide (missingDefaults node ≠ [])) := by
      by_cases hmissing : missingDefaults node = [] <;>
        simp [answer, apply_fillDefaults hnode, reached, hmissing]
    exact ⟨_, hanswer, decide_eq_true_iff.trans (missingDefaults_ne_nil_iff hkind)⟩
  · rw [apply_fillDefaults hafter, if_pos (missingDefaults_filled hkind)]

/-- An agent at Azure without a model, a key and a text for the system: filling
in the defaults gives it a version of the interface and nothing else that it misses. -/
theorem defaults_keep_readiness_azure :
    let node := ((Node.new ⟨"a"⟩ "agent" .origin).withData "provider" (.str "azure")).withData
      "model" (.str " ")
    let reached := new.run [.addNode (.new ⟨"b"⟩ "tavily" .origin), .addNode node]
    let after := (reached.apply (.fillDefaults ⟨"a"⟩)).2
    reached.graph.node? ⟨"a"⟩ = some node ∧ Kind.ofTypeId? node.typeId = some .agent ∧
      (Kind.agent.readiness node.data).missing =
        ["model", "API_key", "system_message", "api_version", "azure_endpoint"] ∧
      (∃ data, after.graph.nodes = [.new ⟨"b"⟩ "tavily" .origin, { node with data := data }] ∧
        Kind.agent.readiness data =
          .incomplete ["model", "API_key", "system_message", "azure_endpoint"]) ∧
      after.apply (.fillDefaults ⟨"a"⟩) = (.filled false, after) := by
  intro node reached after
  have hnode : reached.graph.node? ⟨"a"⟩ = some node := rfl
  have hkind : Kind.ofTypeId? node.typeId = some .agent := by decide
  have hmissing : (Kind.agent.readiness node.data).missing =
    ["model", "API_key", "system_message", "api_version", "azure_endpoint"] := by decide
  obtain ⟨⟨data, -, hnodes, -, hready⟩, -, hagain⟩ := defaults_keep_readiness
    [.addNode (.new ⟨"b"⟩ "tavily" .origin), .addNode node] hnode hkind
  refine ⟨hnode, hkind, hmissing, ⟨data, hnodes, ?_⟩, hagain⟩
  rw [hready, hmissing]
  decide

end Store

end WorkflowEditor
