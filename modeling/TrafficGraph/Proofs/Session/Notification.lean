import TrafficGraph.Proofs.Graph.Demotion
import TrafficGraph.Proofs.Graph.Placement
import TrafficGraph.Proofs.Session.Run
import TrafficGraph.Proofs.Window

/-!
# Notifications of a session

An operation either finds nothing to do and tells subscribers nothing, and then the graph
stays as it is, or it tells them once how the session is afterwards.  So the last change
that a subscriber has received states how the session is, however late the subscriber
asks and however many changes were lost to it, and one who has received none can take
the graph for what it was.
-/

namespace TrafficGraph

/-- A change states the version and the sizes of the graph of a session. -/
structure Change.States (session : Session) (change : Change) : Prop where
  /-- The version is that of the session. -/
  version_eq : change.version = session.version
  /-- The number of nodes is that of the graph. -/
  nodeCount_eq : change.nodeCount = session.graph.nodes.size
  /-- The number of edges is that of the graph. -/
  edgeCount_eq : change.edgeCount = session.graph.edges.size

theorem Change.States.of_graph_eq
    {session later : Session}
    {change : Change}
    (states : change.States session)
    (graph_eq : later.graph = session.graph) :
    change.States later := by
  refine ⟨?_, ?_, ?_⟩
  · rw [states.version_eq, Session.version, Session.version, graph_eq]
  · rw [states.nodeCount_eq, graph_eq]
  · rw [states.edgeCount_eq, graph_eq]

namespace Session

/-- The time that an operation gives. -/
def Operation.clock : Operation → String
  | .setSource clock _ => clock
  | .setOptions clock _ => clock
  | .applyBatch clock _ _ => clock
  | .tick clock _ => clock
  | .mergePositions clock _ => clock

/-- What an operation does to the graph, if it does anything. -/
def Operation.kind : Operation → ChangeKind
  | .setSource _ _ => .sourceChanged
  | .setOptions _ _ => .reset
  | .applyBatch _ _ _ => .batchFolded
  | .tick _ _ => .decayed
  | .mergePositions _ _ => .positionsMerged

/-- The change that tells how a session is. -/
def change (clock : String) (kind : ChangeKind) (session : Session) : Change where
  timestamp := clock
  viewId := session.viewId
  kind
  version := session.version
  nodeCount := session.graph.nodes.size
  edgeCount := session.graph.edges.size

theorem states_change
    (clock : String)
    (kind : ChangeKind)
    (session : Session) :
    (session.change clock kind).States session :=
  ⟨rfl, rfl, rfl⟩

/-- The operation finds nothing to do: the mapping is the one that is there, the options
are refused or have the same port threshold, the batch is not folded, no entry is demoted
or no position is used. -/
def IsQuiet (session : Session) : Operation → Prop
  | .setSource _ source => session.mapping = (Source.inspect source).fields
  | .setOptions clock options =>
    (∃ fault, session.setOptions clock options = .error fault) ∨
      session.options.portThreshold = options.portThreshold
  | .applyBatch clock batch now =>
    (session.applyBatch clock batch now).2 = .notApplicable ∨
      ∃ version, (session.applyBatch clock batch now).2 = .stale version
  | .tick clock now => (session.tick clock now).2 = .zero
  | .mergePositions clock updates => (session.mergePositions clock updates).2 = 0

/-! ## What operations send -/

/-- A quiet operation sends nothing and leaves the graph as it is. -/
structure Rests (operation : Operation) (session : Session) : Prop where
  /-- The operation is quiet. -/
  quiet : session.IsQuiet operation
  /-- No change is sent. -/
  changes_eq : (session.perform operation).changes = session.changes
  /-- The graph stays as it is. -/
  graph_eq : (session.perform operation).graph = session.graph

/-- Any other operation sends the change that tells how the session is afterwards. -/
structure Speaks (operation : Operation) (session : Session) : Prop where
  /-- The operation is not quiet. -/
  loud : ¬session.IsQuiet operation
  /-- One change is sent. -/
  changes_eq : (session.perform operation).changes =
    Channel.send ((session.perform operation).change operation.clock operation.kind)
      session.changes

theorem rests_or_speaks_setSource
    (clock : String)
    (source : Source.Description)
    (session : Session) :
    session.Rests (.setSource clock source) ∨ session.Speaks (.setSource clock source) := by
  by_cases same : session.mapping = (Source.inspect source).fields
  · have unchanged : session.perform (.setSource clock source) = session := by
      simp only [perform, setSource, if_pos same]
    exact Or.inl ⟨same, by rw [unchanged], by rw [unchanged]⟩
  · refine Or.inr ⟨same, ?_⟩
    simp only [perform, setSource, if_neg same]
    by_cases mapped : session.hasSource = true
    · rw [if_pos mapped]
      rfl
    · rw [if_neg mapped]
      rfl

theorem rests_or_speaks_setOptions
    (clock : String)
    (options : GraphOptions)
    (session : Session) :
    session.Rests (.setOptions clock options) ∨ session.Speaks (.setOptions clock options) := by
  cases usable : options.validate with
  | error fault =>
      have refused : session.setOptions clock options = .error fault := by
        simp [setOptions, usable, bind, Except.bind]
      have unchanged := perform_setOptions_of_error usable clock session
      exact Or.inl ⟨Or.inl ⟨fault, refused⟩, by rw [unchanged], by rw [unchanged]⟩
  | ok _ =>
      by_cases same : session.options.portThreshold = options.portThreshold
      · have unchanged := perform_setOptions_of_eq usable same clock
        exact Or.inl ⟨Or.inr same, by rw [unchanged], by rw [unchanged]⟩
      · refine Or.inr ⟨?_, by rw [perform_setOptions_of_ne usable same]; rfl⟩
        rintro (⟨fault, refused⟩ | contrary)
        · simp [setOptions, usable, same, bind, Except.bind, pure, Except.pure] at refused
        · exact same contrary

theorem rests_or_speaks_applyBatch
    (clock : String)
    (batch : Batch)
    (now : UInt64)
    (session : Session) :
    session.Rests (.applyBatch clock batch now) ∨
      session.Speaks (.applyBatch clock batch now) := by
  cases mapped : session.mapping with
  | none =>
      have answered := (applyBatch_of_unmapped mapped clock batch now).1
      refine Or.inl ⟨Or.inl answered, ?_, ?_⟩
      · simp only [perform, applyBatch, mapped]
      · simp only [perform, applyBatch, mapped]
  | some mapping =>
      by_cases new : session.version < batch.version
      · obtain ⟨⟨folded, skipped, answered⟩, _⟩ := applyBatch_of_lt mapped new clock now
        have accepted : session.graph.accepts batch.version = true := decide_eq_true new
        refine Or.inr ⟨?_, ?_⟩
        · simp [IsQuiet, answered]
        · simp only [perform, applyBatch, mapped, if_pos accepted]
          rfl
      · have answered := (applyBatch_of_le mapped new clock now).1
        have refused : ¬session.graph.accepts batch.version = true :=
          fun accepted => new (of_decide_eq_true accepted)
        refine Or.inl ⟨Or.inr ⟨_, answered⟩, ?_, ?_⟩
        · simp only [perform, applyBatch, mapped, if_neg refused]
        · simp only [perform, applyBatch, mapped, if_neg refused]

theorem changed_eq_false_iff {outcome : DecayOutcome} :
    ¬outcome.changed = true ↔ outcome = .zero := by
  rw [DecayOutcome.changed_iff]
  constructor
  · intro uncounted
    cases outcome
    simp only [DecayOutcome.count] at uncounted
    rw [DecayOutcome.zero, DecayOutcome.mk.injEq]
    omega
  · rintro rfl
    exact Nat.lt_irrefl 0

/-- The session with one more decay step counted. -/
def withTick (session : Session) : Session :=
  { session with
    counters := { session.counters with decayTicks := session.counters.decayTicks + 1 } }

theorem perform_tick_of_changed
    {session : Session}
    {now : UInt64}
    (changed : (session.graph.demotions session.options.thresholds now).changed = true)
    (clock : String) :
    session.perform (.tick clock now) =
      ({ session.withTick with
        graph := session.graph.decayed session.options.thresholds now } : Session).notify
          clock .decayed :=
  if_pos changed

/-- A step that demotes nothing is only counted. -/
theorem perform_tick_of_not_changed
    {session : Session}
    {now : UInt64}
    (unchanged : ¬(session.graph.demotions session.options.thresholds now).changed = true)
    (clock : String) :
    session.perform (.tick clock now) = session.withTick := by
  refine (if_neg unchanged).trans ?_
  change ({ session.withTick with
    graph := session.graph.decayed session.options.thresholds now } : Session) = _
  rw [Graph.decayed_of_not_changed unchanged]
  rfl

theorem rests_or_speaks_tick
    (clock : String)
    (now : UInt64)
    (session : Session) :
    session.Rests (.tick clock now) ∨ session.Speaks (.tick clock now) := by
  by_cases changed : (session.graph.demotions session.options.thresholds now).changed = true
  · refine Or.inr ⟨fun quiet => changed_eq_false_iff.2 quiet changed, ?_⟩
    rw [perform_tick_of_changed changed]
    rfl
  · have ticked := perform_tick_of_not_changed changed clock
    exact Or.inl ⟨changed_eq_false_iff.1 changed, by rw [ticked]; rfl, by rw [ticked]; rfl⟩

theorem rests_or_speaks_mergePositions
    (clock : String)
    (updates : List PositionUpdate)
    (session : Session) :
    session.Rests (.mergePositions clock updates) ∨
      session.Speaks (.mergePositions clock updates) := by
  by_cases used : 0 < (session.graph.mergePositions updates).2
  · refine Or.inr ⟨Nat.ne_of_gt used, ?_⟩
    simp only [perform, mergePositions, if_pos used]
    rfl
  · have unused := Nat.eq_zero_of_not_pos used
    have graph_eq := Graph.mergePositions_of_applied_eq_zero unused
    refine Or.inl ⟨unused, ?_, ?_⟩
    · simp only [perform, mergePositions, if_neg used]
    · simp only [perform, mergePositions, if_neg used, graph_eq]

theorem rests_or_speaks
    (session : Session)
    (operation : Operation) :
    session.Rests operation ∨ session.Speaks operation := by
  cases operation with
  | setSource clock source => exact rests_or_speaks_setSource clock source session
  | setOptions clock options => exact rests_or_speaks_setOptions clock options session
  | applyBatch clock batch now => exact rests_or_speaks_applyBatch clock batch now session
  | tick clock now => exact rests_or_speaks_tick clock now session
  | mergePositions clock updates => exact rests_or_speaks_mergePositions clock updates session

end Session
end TrafficGraph
