import TrafficGraph.Proofs.Session.Growth
import TrafficGraph.Proofs.Session.Renewal

/-!
# How long positions last

A node lies where it was last put since it came into the graph.  Of the operations only a
merge of positions moves nodes, and only two kinds forget them: those that discard the
graph and full windows that do not mention the host.  A full window puts the nodes that it
creates again back into their places, which works because no place in a graph is ever
infinite.
-/

namespace TrafficGraph

/-- The host is at one of the sides of a connection that a record of the batch
describes. -/
def Batch.Mentions (mapping : Source.Mapping) (host : String) (batch : Batch) : Prop :=
  ∃ connection ∈ batch.events.filterMap (Source.connection? mapping), connection.Joins host

namespace Session

/-- There is a node of the host. -/
def Knows (session : Session) (host : String) : Prop :=
  session.graph.nodes.contains host = true

/-- The positions that an operation merges. -/
def Operation.updates : Operation → List PositionUpdate
  | .mergePositions _ updates => updates
  | _ => []

/-- The operation forgets the host: it is a full window that is folded and does not mention
the host, or it discards the graph. -/
def Forgets (session : Session) (host : String) : Operation → Prop
  | .applyBatch _ batch _ =>
    ∃ mapping, session.mapping = some mapping ∧ session.version < batch.version ∧
      batch.mode = .fullWindow ∧ ¬batch.Mentions mapping host
  | operation => session.Discards operation

/-! ## Operations that do not discard the graph -/

theorem graph_setSource_of_not_discards
    {session : Session}
    {clock : String}
    {source : Source.Description}
    (spared : ¬session.Discards (.setSource clock source)) :
    (session.perform (.setSource clock source)).graph = session.graph := by
  rcases graph_setSource clock source session with
    ⟨_, kept⟩ | ⟨_, _, kept⟩ | ⟨mapped, different, _⟩
  · exact kept
  · exact kept
  · exact absurd ⟨mapped, different⟩ spared

theorem graph_setOptions_of_not_discards
    {session : Session}
    {clock : String}
    {options : GraphOptions}
    (spared : ¬session.Discards (.setOptions clock options)) :
    (session.perform (.setOptions clock options)).graph = session.graph := by
  cases usable : options.validate with
  | error fault => rw [perform_setOptions_of_error usable]
  | ok _ =>
      by_cases same : session.options.portThreshold = options.portThreshold
      · rw [perform_setOptions_of_eq usable same]
      · exact absurd ⟨usable, same⟩ spared

/-! ## Nodes that stay -/

/-- A batch that is folded leaves the hosts that it mentions and, unless it is a full
window, those that were there. -/
theorem contains_nodes_foldBatch
    (mapping : Source.Mapping)
    (options : GraphOptions)
    (batch : Batch)
    (now : UInt64)
    (graph : Graph)
    (host : String) :
    (foldBatch mapping options batch now graph).1.nodes.contains host = true ↔
      batch.Mentions mapping host ∨
        (batch.mode = .incremental ∧ graph.nodes.contains host = true) := by
  rw [foldBatch]
  cases batch.mode with
  | incremental =>
      dsimp only
      rw [Graph.nodes_markProcessed, Graph.contains_nodes_fold, Batch.Mentions]
      simp
  | fullWindow =>
      dsimp only
      rw [Graph.nodes_markProcessed, Graph.contains_nodes_mergePositions,
        Graph.contains_nodes_fold, Batch.Mentions]
      simp [Graph.empty, Table.contains_eq_isSome]

/-- Nothing is there after the graph was discarded. -/
theorem Discards.not_knows
    {session : Session}
    {operation : Operation}
    (discards : session.Discards operation)
    (host : String) :
    ¬(session.perform operation).Knows host := by
  simp [Knows, discards.graph_eq, Graph.empty, Table.contains_eq_isSome]

/-- A host that is forgotten is not there afterwards. -/
theorem Forgets.not_knows
    {session : Session}
    {host : String}
    {operation : Operation}
    (forgets : session.Forgets host operation) :
    ¬(session.perform operation).Knows host := by
  cases operation with
  | setSource clock source =>
      have discards : session.Discards (.setSource clock source) := forgets
      exact discards.not_knows host
  | setOptions clock options =>
      have discards : session.Discards (.setOptions clock options) := forgets
      exact discards.not_knows host
  | applyBatch clock batch now =>
      obtain ⟨mapping, mapped, newer, full, unmentioned⟩ := forgets
      rw [Knows, perform, applyBatch_eq_of_lt mapped newer, graph_notify,
        contains_nodes_foldBatch, full]
      simp [unmentioned]
  | tick clock now => exact forgets.elim
  | mergePositions clock updates => exact forgets.elim

/-- A host that is not forgotten stays. -/
theorem Knows.perform
    {session : Session}
    {host : String}
    (knows : session.Knows host)
    {operation : Operation}
    (spared : ¬session.Forgets host operation) :
    (session.perform operation).Knows host := by
  cases operation with
  | setSource clock source =>
      rw [Knows, graph_setSource_of_not_discards spared]
      exact knows
  | setOptions clock options =>
      rw [Knows, graph_setOptions_of_not_discards spared]
      exact knows
  | applyBatch clock batch now =>
      rcases graph_applyBatch clock batch now session with
        kept | ⟨mapping, mapped, newer, folded⟩
      · rw [Knows, Session.perform, kept]
        exact knows
      · rw [Knows, Session.perform, folded, contains_nodes_foldBatch]
        cases mode_eq : batch.mode with
        | incremental => exact Or.inr ⟨rfl, knows⟩
        | fullWindow =>
            apply Or.inl
            apply Classical.byContradiction
            intro unmentioned
            exact spared ⟨mapping, mapped, newer, mode_eq, unmentioned⟩
  | tick clock now =>
      rw [Knows, Session.perform, graph_tick, Table.contains_eq_isSome,
        Graph.find?_nodes_decayed, Option.isSome_map, ← Table.contains_eq_isSome]
      exact knows
  | mergePositions clock updates =>
      rw [Knows, Session.perform, graph_mergePositions, Graph.contains_nodes_mergePositions]
      exact knows

/-! ## Positions that stay -/

/-- A node that is there after a batch was folded lies where it lay before. -/
theorem position?_foldBatch
    {graph : Graph}
    (placed : graph.Placed)
    {mapping : Source.Mapping}
    {options : GraphOptions}
    {batch : Batch}
    {now : UInt64}
    {host : String}
    (present : (foldBatch mapping options batch now graph).1.nodes.contains host = true) :
    (foldBatch mapping options batch now graph).1.position? host = graph.position? host := by
  rw [foldBatch] at present ⊢
  cases mode_eq : batch.mode with
  | incremental =>
      dsimp only
      rw [Graph.position?_markProcessed, Graph.position?_fold]
  | fullWindow =>
      rw [mode_eq] at present
      dsimp only at present ⊢
      rw [Graph.nodes_markProcessed, Graph.contains_nodes_mergePositions] at present
      rw [Graph.position?_markProcessed, Graph.position?_mergePositions present,
        Graph.lastPosition?_positions placed, Graph.position?_fold, Graph.position?_empty,
        Option.or_none]

/-- A node that is there after an operation lies where the operation puts it, and else
where it lay before. -/
theorem position?_perform
    {session : Session}
    (placed : session.graph.Placed)
    {operation : Operation}
    {host : String}
    (present : (session.perform operation).Knows host) :
    (session.perform operation).graph.position? host =
      (lastPosition? host operation.updates).or (session.graph.position? host) := by
  have spared : ¬session.Discards operation := fun discards => discards.not_knows host present
  cases operation with
  | setSource clock source =>
      rw [graph_setSource_of_not_discards spared]
      rfl
  | setOptions clock options =>
      rw [graph_setOptions_of_not_discards spared]
      rfl
  | applyBatch clock batch now =>
      rcases graph_applyBatch clock batch now session with
        kept | ⟨mapping, mapped, newer, folded⟩
      · rw [perform, kept]
        rfl
      · rw [Knows, perform, folded] at present
        rw [perform, folded, position?_foldBatch placed present]
        rfl
  | tick clock now =>
      rw [perform, graph_tick, Graph.position?_decayed]
      rfl
  | mergePositions clock updates =>
      rw [Knows, perform, graph_mergePositions, Graph.contains_nodes_mergePositions] at present
      rw [perform, graph_mergePositions, Graph.position?_mergePositions present]
      rfl

/-! ## Runs -/

/-- All positions in the graph of a session are finite. -/
theorem IsGrown.placed
    {session : Session}
    (grown : session.IsGrown) :
    session.graph.Placed :=
  Graph.GrownUnder.holds grown Graph.kept_placed Graph.placed_empty

theorem after_append
    (first second : List Operation)
    (session : Session) :
    session.after (first ++ second) = (session.after first).after second :=
  List.foldl_append

/-- The host was last absent before the later of the operations. -/
structure LastAbsent
    (session : Session)
    (host : String)
    (earlier later : List Operation) : Prop where
  /-- It was absent after the earlier ones. -/
  absent : ¬(session.after earlier).Knows host
  /-- From then on it was there. -/
  present : ∀ further, further <+: later → further ≠ [] →
    (session.after (earlier ++ further)).Knows host

/-- After one more operation, the host was absent just now or when it last was before. -/
theorem LastAbsent.step
    {session : Session}
    {host : String}
    {earlier later : List Operation}
    (lastAbsent : session.LastAbsent host earlier later)
    (operation : Operation) :
    ∃ sooner after, earlier ++ later ++ [operation] = sooner ++ after ∧
      session.LastAbsent host sooner after := by
  by_cases present : (session.after (earlier ++ later ++ [operation])).Knows host
  · refine ⟨earlier, later ++ [operation], List.append_assoc .., lastAbsent.absent, ?_⟩
    intro further isPrefix nonempty
    rcases List.prefix_concat_iff.1 isPrefix with rfl | shorter
    · rw [← List.append_assoc]
      exact present
    · exact lastAbsent.present further shorter nonempty
  · refine ⟨earlier ++ later ++ [operation], [], (List.append_nil _).symm, present, ?_⟩
    intro further isPrefix nonempty
    exact absurd (List.prefix_nil.1 isPrefix) nonempty

/-- If a host was ever absent, then at some time it was absent for the last time. -/
theorem LastAbsent.steps
    {session : Session}
    {host : String}
    {earlier later : List Operation}
    (lastAbsent : session.LastAbsent host earlier later)
    (operations : List Operation) :
    ∃ sooner after, earlier ++ later ++ operations = sooner ++ after ∧
      session.LastAbsent host sooner after := by
  induction operations generalizing earlier later with
  | nil => exact ⟨earlier, later, List.append_nil _, lastAbsent⟩
  | cons operation operations inductionHypothesis =>
      obtain ⟨sooner, after, split, next⟩ := lastAbsent.step operation
      rw [List.append_cons, split]
      exact inductionHypothesis next

/-- A host that was there all the time lies where it was put last. -/
theorem position?_after
    {session : Session}
    (grown : session.IsGrown)
    {host : String}
    {operations : List Operation}
    (present : ∀ further, further <+: operations → further ≠ [] →
      (session.after further).Knows host) :
    (session.after operations).graph.position? host =
      (lastPosition? host (operations.flatMap Operation.updates)).or
        (session.graph.position? host) := by
  induction operations generalizing session with
  | nil => rfl
  | cons operation operations inductionHypothesis =>
      have next : (session.perform operation).Knows host :=
        present [operation] (List.prefix_cons_inj operation |>.2 List.nil_prefix) (by simp)
      have later : ∀ further, further <+: operations → further ≠ [] →
          ((session.perform operation).after further).Knows host := by
        intro further isPrefix _
        exact present (operation :: further) ((List.prefix_cons_inj operation).2 isPrefix)
          (by simp)
      have last := inductionHypothesis (grown.perform operation) later
      rw [position?_perform grown.placed next, ← Option.or_assoc, ← lastPosition?_append] at last
      exact last

/-- What merging positions does to a session. -/
structure Moves (updates : List PositionUpdate) (session : Session) (merged : Session × Nat) :
    Prop where
  /-- The identity stays. -/
  viewId_eq : merged.1.viewId = session.viewId
  /-- The mapping stays. -/
  mapping_eq : merged.1.mapping = session.mapping
  /-- The options stay. -/
  options_eq : merged.1.options = session.options
  /-- The counters stay. -/
  counters_eq : merged.1.counters = session.counters
  /-- The graph stays apart from positions. -/
  graph_eq : merged.1.graph.unplaced = session.graph.unplaced
  /-- A node is put where the last finite update for it says. -/
  position?_eq : ∀ host, session.Knows host →
    merged.1.graph.position? host =
      (lastPosition? host updates).or (session.graph.position? host)
  /-- The updates are counted that are finite and name a node. -/
  count_eq : merged.2 = (updates.filter fun update =>
    update.position.x.isFinite && update.position.y.isFinite &&
      session.graph.nodes.contains update.id).length

theorem moves_mergePositions
    (clock : String)
    (updates : List PositionUpdate)
    (session : Session) :
    Moves updates session (session.mergePositions clock updates) := by
  have agrees := agrees_mergePositions clock updates session
  have others : (session.mergePositions clock updates).1.viewId = session.viewId ∧
      (session.mergePositions clock updates).1.counters = session.counters := by
    unfold mergePositions
    dsimp only
    split
    · exact ⟨rfl, rfl⟩
    · exact ⟨rfl, rfl⟩
  refine {
    viewId_eq := others.1
    mapping_eq := agrees.mapping_eq
    options_eq := options_mergePositions clock updates session
    counters_eq := others.2
    graph_eq := ?graph
    position?_eq := ?position
    count_eq := List.countP_eq_length_filter }
  case graph => rw [graph_mergePositions, Graph.unplaced_mergePositions]
  case position =>
    intro host known
    rw [graph_mergePositions, Graph.position?_mergePositions known]

/-- In a session a position lasts as long as its node. -/
structure Remembers (start : Session) (operations : List Operation) : Prop where
  /-- A node lies where the last finite position has put it since the host was last absent,
  or nowhere if there was none. -/
  lastUpdate : ∀ node ∈ (start.after operations).graph.nodes.toList,
    ∃ earlier later, operations = earlier ++ later ∧ start.LastAbsent node.id earlier later ∧
      node.position = lastPosition? node.id (later.flatMap Operation.updates)
  /-- An operation that does not forget a host leaves its node there, and moves it only by
  merging positions. -/
  kept : ∀ operation host, (start.after operations).Knows host →
    ¬(start.after operations).Forgets host operation →
      ((start.after operations).perform operation).Knows host ∧
        (operation.updates = [] →
          ((start.after operations).perform operation).graph.position? host =
            (start.after operations).graph.position? host)
  /-- A host that is forgotten has neither a node nor a position. -/
  forgotten : ∀ operation host, (start.after operations).Forgets host operation →
    ¬((start.after operations).perform operation).Knows host ∧
      ((start.after operations).perform operation).graph.position? host = none
  /-- Both coordinates of every position are finite. -/
  finite : ∀ node ∈ (start.after operations).graph.nodes.toList, ∀ position,
    node.position = some position →
      position.x.isFinite = true ∧ position.y.isFinite = true
  /-- Merging changes nothing but positions, and counts those that are finite and name a
  node. -/
  merged : ∀ clock updates,
    Moves updates (start.after operations)
      ((start.after operations).mergePositions clock updates)

/-- **Position lifetime.** Whatever is done with a new session, a node lies where it was
last put since its host was last absent: nothing but merging positions moves it, and only
what forgets the host takes its place away. -/
theorem remembers_create
    (viewId : String)
    (options : GraphOptions)
    (operations : List Operation) :
    (create viewId options).Remembers operations := by
  have grown := (isGrown_create viewId options).after operations
  refine {
    lastUpdate := ?last
    kept := ?kept
    forgotten := ?forgotten
    finite := ?finite
    merged := fun clock updates => moves_mergePositions clock updates _ }
  case last =>
    intro node listed
    have blank : (create viewId options).LastAbsent node.id [] [] := by
      refine ⟨?_, fun further isPrefix nonempty => absurd (List.prefix_nil.1 isPrefix) nonempty⟩
      simp [after, Knows, create, Graph.empty, Table.contains_eq_isSome]
    obtain ⟨earlier, later, split, lastAbsent⟩ := blank.steps operations
    rw [List.nil_append, List.nil_append] at split
    refine ⟨earlier, later, split, lastAbsent, ?_⟩
    have present : ∀ further, further <+: later → further ≠ [] →
        (((create viewId options).after earlier).after further).Knows node.id := by
      intro further isPrefix nonempty
      rw [← after_append]
      exact lastAbsent.present further isPrefix nonempty
    have lies := position?_after ((isGrown_create viewId options).after earlier) present
    have nowhere := Graph.position?_of_contains_eq_false
      (Bool.eq_false_iff.2 lastAbsent.absent)
    rw [← after_append, ← split, Graph.position?_of_mem listed, nowhere, Option.or_none] at lies
    exact lies
  case kept =>
    intro operation host known spared
    have still := known.perform spared
    refine ⟨still, ?_⟩
    intro unmoved
    rw [position?_perform grown.placed still, unmoved]
    rfl
  case forgotten =>
    intro operation host forgets
    exact ⟨forgets.not_knows,
      Graph.position?_of_contains_eq_false (Bool.eq_false_iff.2 forgets.not_knows)⟩
  case finite =>
    intro node listed position placed
    have isFinite := grown.placed node.id position
      ((Graph.position?_of_mem listed).trans placed)
    exact Bool.and_eq_true_iff.1 isFinite

end Session
end TrafficGraph
