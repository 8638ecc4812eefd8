import WorkflowEditor.Proofs.Connection
import WorkflowEditor.Proofs.Graph.Batch

/-!
# WorkflowEditor.Proofs.Graph.Minting

Ids that a store mints never collide, whatever texts they are made of.

An id that is minted ends with its stamp (`Id.Bears`), and stamps have one
length, so an id determines its stamp; and one stamp is spent in one turn only.
What stands before the stamp matters only for the two edges of one pair.

* `nodup_minted` — ids that bear the stamps of their turns differ;
* `Registry.connect_cases` — how a connection can fail;
* `Store.minted_ids_differ` — over every run of a store no id is minted twice, so
  a connection fails only over missing ends and over edges from elsewhere.
-/

namespace WorkflowEditor

/-! ## turns -/

namespace Edit

/-- The stamps that an edit draws; a drop of a type that is not registered draws none. -/
def drawn : Edit → List Stamp
  | connect _ _ stamp => [stamp]
  | drop registry payload _ _ stamp =>
      if (registry.lookup? (Text.trim payload.nodeType)).isSome then [stamp] else []
  | _ => []

/-- The node ids that an edit mints, also if the node cannot be added. -/
def mintedNodes : Edit → List NodeId
  | drop registry payload point toCanvas stamp =>
      ((registry.dropped? payload (toCanvas point) stamp).map Node.id).toList
  | _ => []

/-- The edge ids that an edit of a graph mints, also if the edges cannot be added. -/
def mintedEdges (g : Graph) : Edit → List EdgeId
  | connect registry c stamp =>
      match registry.plan g c stamp with
      | .ok edges => edges.map Edge.id
      | .error _ => []
  | _ => []

end Edit

/-- What is done with a store: an edit, the id of a node minted ahead of it, or
a stamp drawn for some other use. -/
inductive Turn where
  | edit (edit : Edit)
  | mintNode (typeId : String) (stamp : Stamp)
  | draw (stamp : Stamp)

namespace Turn

def drawn : Turn → List Stamp
  | edit e => e.drawn
  | mintNode _ stamp | draw stamp => [stamp]

def mintedNodes : Turn → List NodeId
  | edit e => e.mintedNodes
  | mintNode typeId stamp => [.mint typeId stamp]
  | draw _ => []

def mintedEdges (g : Graph) : Turn → List EdgeId
  | edit e => e.mintedEdges g
  | _ => []

end Turn

namespace Store

/-- The store after one turn; only edits change it. -/
def turn (store : Store) : Turn → Store
  | .edit e => (store.apply e).2
  | _ => store

def after (store : Store) (turns : List Turn) : Store := turns.foldl turn store

/-- Each turn with the graph that it finds. -/
def moments (store : Store) : List Turn → List (Graph × Turn)
  | [] => []
  | t :: rest => (store.graph, t) :: (store.turn t).moments rest

/-- The edge ids that the connections of a run mint. -/
def mintedEdges (store : Store) (turns : List Turn) : List EdgeId :=
  (store.moments turns).flatMap fun m => m.2.mintedEdges m.1

theorem moments_append (store : Store) (earlier later : List Turn) :
    store.moments (earlier ++ later) =
      store.moments earlier ++ (store.after earlier).moments later := by
  induction earlier generalizing store with
  | nil => rfl
  | cons t rest ih => exact congrArg ((store.graph, t) :: ·) (ih (store.turn t))

theorem map_snd_moments (store : Store) (turns : List Turn) :
    (store.moments turns).map Prod.snd = turns := by
  induction turns generalizing store with
  | nil => rfl
  | cons t rest ih => exact congrArg (t :: ·) (ih (store.turn t))

end Store

/-! ## ids that bear stamps -/

/-- Ids that bear the stamps of their turns differ, if no stamp is drawn twice
and all have one length, and the ids of one turn differ. -/
theorem nodup_minted {turns : List τ} (drawn : τ → List Stamp) {minted : τ → List (Id subject)}
    (hstamps : (turns.flatMap drawn).Nodup)
    (hlength : ∀ stamp ∈ turns.flatMap drawn, stamp.text.length = 26)
    (hbears : ∀ t ∈ turns, ∀ id ∈ minted t, ∃ stamp ∈ drawn t, id.Bears stamp)
    (hturn : ∀ t ∈ turns, (minted t).Nodup) : (turns.flatMap minted).Nodup := by
  refine List.nodup_flatMap.mpr ⟨hturn, ?_⟩
  refine (List.nodup_flatMap.mp hstamps).2.imp_of_mem ?_
  intro t u ht hu hapart id hid hid'
  obtain ⟨r, hr, hbearsr⟩ := hbears t ht id hid
  obtain ⟨s, hs, hbearss⟩ := hbears u hu id hid'
  have hlengths : r.text.length = s.text.length := by
    rw [hlength r (List.mem_flatMap_of_mem ht hr), hlength s (List.mem_flatMap_of_mem hu hs)]
  obtain rfl := hbearsr.unique hbearss hlengths
  exact hapart hr hs

namespace Turn

theorem bears_of_mem_mintedNodes {t : Turn} :
    ∀ id ∈ t.mintedNodes, ∃ stamp ∈ t.drawn, id.Bears stamp := by
  intro id hid
  cases t with
  | edit e => cases e with
    | drop registry payload point toCanvas stamp =>
        obtain ⟨node, hnode, rfl⟩ := Option.map_eq_some_iff.mp (Option.mem_toList.mp hid)
        obtain ⟨d, hd, rfl⟩ := Option.map_eq_some_iff.mp hnode
        refine ⟨stamp, ?_, NodeId.bears_mint d.typeId stamp⟩
        simp [drawn, Edit.drawn, hd]
    | _ => cases hid
  | mintNode typeId stamp =>
      obtain rfl := List.mem_singleton.mp hid
      exact ⟨stamp, List.mem_singleton_self stamp, NodeId.bears_mint typeId stamp⟩
  | draw => cases hid

theorem nodup_mintedNodes (t : Turn) : t.mintedNodes.Nodup := by
  cases t with
  | edit e => cases e with
    | drop registry payload point toCanvas stamp =>
        rw [mintedNodes, Edit.mintedNodes]
        cases registry.dropped? payload (toCanvas point) stamp with
        | none => exact List.nodup_nil
        | some node => exact List.nodup_singleton node.id
    | _ => exact List.nodup_nil
  | mintNode => exact List.nodup_singleton _
  | draw => exact List.nodup_nil

/-- Edge ids are minted by connections that can be planned. -/
theorem mintedEdges_cases (g : Graph) (t : Turn) :
    t.mintedEdges g = [] ∨ ∃ registry c stamp edges, t = .edit (.connect registry c stamp) ∧
      registry.plan g c stamp = .ok edges ∧ t.mintedEdges g = edges.map Edge.id := by
  cases t with
  | edit e => cases e with
    | connect registry c stamp => cases hplan : registry.plan g c stamp with
      | error error => simp [mintedEdges, Edit.mintedEdges, hplan]
      | ok edges => exact .inr ⟨registry, c, stamp, edges, rfl, hplan,
          by simp [mintedEdges, Edit.mintedEdges, hplan]⟩
    | _ => exact .inl rfl
  | mintNode | draw => exact .inl rfl

theorem bears_of_mem_mintedEdges {g : Graph} {t : Turn} :
    ∀ id ∈ t.mintedEdges g, ∃ stamp ∈ t.drawn, id.Bears stamp := by
  intro id hid
  obtain hnone | ⟨registry, c, stamp, edges, rfl, hplan, hids⟩ := t.mintedEdges_cases g
  · exact absurd (hnone ▸ hid) List.not_mem_nil
  · obtain ⟨e, he, rfl⟩ := List.mem_map.mp (hids ▸ hid)
    exact ⟨stamp, List.mem_singleton_self stamp, Registry.bears_of_mem_plan hplan e he⟩

theorem nodup_mintedEdges (g : Graph) (t : Turn) : (t.mintedEdges g).Nodup := by
  obtain hnone | ⟨registry, c, stamp, edges, rfl, hplan, hids⟩ := t.mintedEdges_cases g
  · exact hnone ▸ List.nodup_nil
  · exact hids ▸ Registry.nodup_plan hplan

end Turn

/-! ## connections that fail -/

/-- Edges with their ends there, and with ids of their own, can only be refused
for an id that is taken. -/
theorem Graph.checkEdges_eq_error {g : Graph} {taken : List EdgeId} {edges : List Edge}
    {error : GraphError} (hends : ∀ e ∈ edges, g.hasEnds e = true)
    (hnodup : (edges.map Edge.id).Nodup) (h : g.checkEdges taken edges = .error error) :
    ∃ e ∈ edges, e.id ∈ taken ∧ error = .duplicateEdge e.id := by
  obtain ⟨before, e, later, rfl, -, hfault⟩ := exists_fault_of_checkEdges h
  have he : e ∈ before ++ e :: later := List.mem_append_right _ List.mem_cons_self
  obtain ⟨hsource, htarget⟩ := hasEnds_iff.mp (hends e he)
  cases hfault with
  | source missing => exact absurd hsource missing
  | target _ missing => exact absurd htarget missing
  | id _ _ twice =>
      rw [List.map_append, List.nodup_append] at hnodup
      have hnew : e.id ∉ before.map Edge.id := fun hmem =>
        hnodup.2.2 _ hmem _ (List.mem_map_of_mem List.mem_cons_self) rfl
      exact ⟨e, he, (List.mem_append.mp twice).resolve_right hnew, rfl⟩

/-- **A connection fails** over an end that is missing or, if both are there,
over the id of a planned edge that is taken. -/
theorem Registry.connect_cases (registry : Registry) (g : Graph) (c : Connection) (stamp : Stamp) :
    ((c.source ∉ g.nodes.map Node.id ∨ c.target ∉ g.nodes.map Node.id) ∧
        ∃ id, registry.connect g c stamp = .error (.nodeNotFound id)) ∨
      (c.source ∈ g.nodes.map Node.id ∧ c.target ∈ g.nodes.map Node.id ∧
        ∃ edges, registry.plan g c stamp = .ok edges ∧
          ((∃ g', registry.connect g c stamp = .ok (edges, g')) ∨
            ∃ e ∈ edges, e.id ∈ g.edges.map Edge.id ∧
              registry.connect g c stamp = .error (.duplicateEdge e.id))) := by
  by_cases hends : c.source ∈ g.nodes.map Node.id ∧ c.target ∈ g.nodes.map Node.id
  · obtain ⟨edges, hplan⟩ : ∃ edges, registry.plan g c stamp = .ok edges :=
      ⟨_, plan_eq_ok_iff.mpr ⟨hends.1, hends.2, rfl⟩⟩
    refine .inr ⟨hends.1, hends.2, edges, hplan, ?_⟩
    cases hadd : g.addEdges edges with
    | ok g' => exact .inl ⟨g', Edit.connect_eq_ok_iff.mpr ⟨hplan, hadd⟩⟩
    | error error =>
        have hconnect : registry.connect g c stamp = .error error := by
          simp only [connect, hplan, hadd, bind, Except.bind]
        rw [Graph.addEdges] at hadd
        split at hadd
        · next hcheck =>
          obtain rfl := Except.error.inj hadd
          obtain ⟨e, he, htaken, rfl⟩ :=
            Graph.checkEdges_eq_error (hasEnds_of_mem_plan hplan) (nodup_plan hplan) hcheck
          exact .inr ⟨e, he, htaken, hconnect⟩
        · cases hadd
  · refine .inl ⟨not_and_or.mp hends, ?_⟩
    obtain ⟨id, hplan⟩ : ∃ id, registry.plan g c stamp = .error (.nodeNotFound id) := by
      rw [plan_eq]
      split
      · exact ⟨_, rfl⟩
      · next hsource =>
        rw [if_pos fun htarget => hends ⟨not_not.mp hsource, htarget⟩]
        exact ⟨_, rfl⟩
    exact ⟨id, by rw [connect, hplan]; rfl⟩

/-! ## runs -/

namespace Store

variable {store : Store} {turns : List Turn}

theorem nodup_mintedNodes_run (hstamps : (turns.flatMap Turn.drawn).Nodup)
    (hlength : ∀ stamp ∈ turns.flatMap Turn.drawn, stamp.text.length = 26) :
    (turns.flatMap Turn.mintedNodes).Nodup :=
  nodup_minted Turn.drawn hstamps hlength (fun _ _ => Turn.bears_of_mem_mintedNodes)
    fun t _ => t.nodup_mintedNodes

theorem nodup_mintedEdges_run (store : Store) (hstamps : (turns.flatMap Turn.drawn).Nodup)
    (hlength : ∀ stamp ∈ turns.flatMap Turn.drawn, stamp.text.length = 26) :
    (store.mintedEdges turns).Nodup := by
  have hdrawn : (store.moments turns).flatMap (fun m => m.2.drawn) = turns.flatMap Turn.drawn := by
    conv_rhs => rw [← store.map_snd_moments turns, List.flatMap_map]
  exact nodup_minted (fun m => m.2.drawn) (hdrawn ▸ hstamps) (hdrawn ▸ hlength)
    (fun _ _ => Turn.bears_of_mem_mintedEdges)
    fun m _ => m.2.nodup_mintedEdges m.1

/-- The ids that a turn mints are none of those minted before it. -/
theorem not_mem_mintedEdges_earlier {earlier later : List Turn} {t : Turn}
    (hnodup : (store.mintedEdges (earlier ++ t :: later)).Nodup) {id : EdgeId}
    (hid : id ∈ t.mintedEdges (store.after earlier).graph) : id ∉ store.mintedEdges earlier := by
  rw [mintedEdges, moments_append, List.flatMap_append] at hnodup
  intro hmem
  refine (List.nodup_append.mp hnodup).2.2 id hmem id ?_ rfl
  exact List.mem_flatMap.mpr ⟨_, List.mem_cons_self, hid⟩

theorem answer_connect (store : Store) (registry : Registry) (c : Connection) (stamp : Stamp) :
    (store.apply (.connect registry c stamp)).1 =
      match registry.connect store.graph c stamp with
      | .ok (edges, _) => .connected edges
      | .error e => .refused e := by
  rw [apply, Edit.perform]
  cases registry.connect store.graph c stamp with
  | ok made => rfl
  | error e => rfl

/-- **Ids that a store mints never collide**, over any run that starts at any
store, if no stamp is drawn twice and each has 26 characters: neither node ids
nor edge ids, the two of a pair included.  So a connection is refused over a
missing node exactly if an end is missing, never over the ends of its edges,
and over an edge only if the graph has one with that id that no connection of
the run has minted. -/
theorem minted_ids_differ (store : Store) (turns : List Turn)
    (hstamps : (turns.flatMap Turn.drawn).Nodup)
    (hlength : ∀ stamp ∈ turns.flatMap Turn.drawn, stamp.text.length = 26) :
    (turns.flatMap Turn.mintedNodes).Nodup ∧ (store.mintedEdges turns).Nodup ∧
      ∀ earlier registry c stamp later,
        turns = earlier ++ .edit (.connect registry c stamp) :: later →
        let g := (store.after earlier).graph
        let answer := ((store.after earlier).apply (.connect registry c stamp)).1
        ((∃ id, answer = .refused (.nodeNotFound id)) ↔
            c.source ∉ g.nodes.map Node.id ∨ c.target ∉ g.nodes.map Node.id) ∧
          (∀ e id, answer ≠ .refused (.endpointMissing e id)) ∧
          ∀ e, answer = .refused (.duplicateEdge e) →
            e ∈ g.edges.map Edge.id ∧ e ∉ store.mintedEdges earlier := by
  have hedges := store.nodup_mintedEdges_run hstamps hlength
  refine ⟨nodup_mintedNodes_run hstamps hlength, hedges, ?_⟩
  rintro earlier registry c stamp later rfl g answer
  have hanswer := (store.after earlier).answer_connect registry c stamp
  change answer = _ at hanswer
  obtain ⟨hmissing, id, hconnect⟩ | ⟨hsource, htarget, edges, hplan, hend⟩ :=
    registry.connect_cases g c stamp
  · rw [hconnect] at hanswer
    rw [hanswer]
    exact ⟨⟨fun _ => hmissing, fun _ => ⟨id, rfl⟩⟩, nofun, nofun⟩
  · have hthere : ¬(c.source ∉ g.nodes.map Node.id ∨ c.target ∉ g.nodes.map Node.id) :=
      not_or.mpr ⟨not_not.mpr hsource, not_not.mpr htarget⟩
    obtain ⟨g', hconnect⟩ | ⟨e, he, htaken, hconnect⟩ := hend
    · rw [hconnect] at hanswer
      rw [hanswer]
      exact ⟨⟨nofun, fun h => absurd h hthere⟩, nofun, nofun⟩
    · rw [hconnect] at hanswer
      rw [hanswer]
      refine ⟨⟨nofun, fun h => absurd h hthere⟩, nofun, ?_⟩
      rintro _ ⟨⟩
      refine ⟨htaken, not_mem_mintedEdges_earlier hedges ?_⟩
      rw [Turn.mintedEdges, Edit.mintedEdges, hplan]
      exact List.mem_map_of_mem he

/-- Two edges of one pair, and a connection drawn again after a reset. -/
theorem minted_ids_differ_over_reset :
    let agent := NodeId.mint "agent" (.ofNat 1)
    let tool := NodeId.mint "tavily" (.ofNat 2)
    let payload : DragPayload := ⟨" tavily ", "", ""⟩
    let earlier : List Turn :=
      [.mintNode "agent" (.ofNat 1), .edit (.addNode (.new agent "agent" .origin)),
        .edit (.drop .builtin payload .origin (fun p => ⟨p.x, p.y⟩) (.ofNat 2)),
        .edit (.connect .builtin ⟨agent, none, tool, none⟩ (.ofNat 3)), .edit .reset]
    let again : Edit := .connect .builtin ⟨agent, none, tool, none⟩ (.ofNat 4)
    let turns := earlier ++ [.edit again]
    (turns.flatMap Turn.drawn).Nodup ∧
      (∀ stamp ∈ turns.flatMap Turn.drawn, stamp.text.length = 26) ∧
      turns.flatMap Turn.mintedNodes = [agent, tool] ∧ agent ≠ tool ∧
      (∃ forward backward, new.mintedEdges turns = [forward, backward] ∧ forward ≠ backward) ∧
      ∃ id, ((new.after earlier).apply again).1 = .refused (.nodeNotFound id) := by
  intro agent tool payload earlier again turns
  have hdrawn : turns.flatMap Turn.drawn = [.ofNat 1, .ofNat 2, .ofNat 3, .ofNat 4] := by
    decide +kernel
  have hstamps : (turns.flatMap Turn.drawn).Nodup := by rw [hdrawn]; decide +kernel
  have hlength : ∀ stamp ∈ turns.flatMap Turn.drawn, stamp.text.length = 26 := by
    simp [hdrawn, Stamp.length_ofNat]
  obtain ⟨hnodes, hedges, hconnect⟩ := minted_ids_differ new turns hstamps hlength
  have hmissing := (hconnect earlier .builtin _ _ [] rfl).1.mpr (.inl List.not_mem_nil)
  have hminted : turns.flatMap Turn.mintedNodes = [agent, tool] := by decide +kernel
  have htwo : (new.mintedEdges turns).length = 2 := by decide +kernel
  obtain ⟨forward, backward, hpair⟩ := List.length_eq_two.mp htwo
  rw [hminted] at hnodes
  rw [hpair] at hedges
  exact ⟨hstamps, hlength, hminted, List.ne_of_not_mem_cons (List.nodup_cons.mp hnodes).1,
    ⟨forward, backward, hpair, List.ne_of_not_mem_cons (List.nodup_cons.mp hedges).1⟩, hmissing⟩

end Store

end WorkflowEditor
