import TrafficGraph.Proofs.Graph.Run
import TrafficGraph.Proofs.Session.Run

/-!
# How the graph of a session grows

The graph of a session is what a run of graph operations makes of the empty graph: the
run began when the session was created or its graph was last discarded, it goes under
the present port threshold, and it observes what records describe.  So a property of
graphs that such runs keep holds in every session.
-/

namespace TrafficGraph

/-- There is a record that describes the connection. -/
def Source.Connection.IsObserved (connection : Source.Connection) : Prop :=
  ∃ mapping record, Source.connection? mapping record = some connection

namespace Graph

/-- A connection is observed under one port threshold. -/
def ObservedUnder (threshold portThreshold : UInt16) (connection : Source.Connection) : Prop :=
  portThreshold = threshold ∧ connection.IsObserved

/-- A graph that grew out of the empty one under one port threshold. -/
def GrownUnder (threshold : UInt16) (graph : Graph) : Prop :=
  ∃ operations : List Operation,
    (∀ operation ∈ operations, operation.Admitted (ObservedUnder threshold)) ∧
      graph = empty.after operations

theorem grownUnder_empty (threshold : UInt16) : empty.GrownUnder threshold :=
  ⟨[], by simp, rfl⟩

namespace GrownUnder

variable {threshold : UInt16} {graph : Graph}

theorem perform
    (grown : graph.GrownUnder threshold)
    (operation : Operation)
    (admitted : operation.Admitted (ObservedUnder threshold)) :
    (graph.perform operation).GrownUnder threshold := by
  obtain ⟨operations, allAdmitted, rfl⟩ := grown
  refine ⟨operations ++ [operation], ?_, ?_⟩
  · intro other listed
    rcases List.mem_append.1 listed with earlier | last
    · exact allAdmitted other earlier
    · rw [List.mem_singleton.1 last]
      exact admitted
  · rw [after, after, List.foldl_append]
    rfl

theorem fold
    (grown : graph.GrownUnder threshold)
    {options : FoldOptions}
    (same : options.portThreshold = threshold)
    (mapping : Source.Mapping)
    (now : UInt64)
    (records : List Record) :
    (graph.fold mapping options now records).1.GrownUnder threshold := by
  apply grown.perform (.fold mapping options now records)
  intro record _ connection described
  exact ⟨same, mapping, record, described⟩

theorem mergePositions
    (grown : graph.GrownUnder threshold)
    (updates : List PositionUpdate) :
    (graph.mergePositions updates).1.GrownUnder threshold :=
  grown.perform (.mergePositions updates) trivial

/-- What the steps of runs keep holds of every grown graph. -/
theorem holds
    (grown : graph.GrownUnder threshold)
    {property : Graph → Prop}
    (kept : Kept (ObservedUnder threshold) property)
    (initial : property empty) :
    property graph := by
  obtain ⟨operations, admitted, rfl⟩ := grown
  exact kept.after admitted initial

/-- A batch grows the graph on, or with a full window a new one. -/
theorem foldBatch
    {options : GraphOptions}
    (grown : graph.GrownUnder options.portThreshold)
    (mapping : Source.Mapping)
    (batch : Batch)
    (now : UInt64) :
    (Session.foldBatch mapping options batch now graph).1.GrownUnder options.portThreshold := by
  rw [Session.foldBatch]
  cases batch.mode with
  | incremental =>
      have folded := grown.fold (Session.threshold_fold options) mapping now batch.events
      exact folded.perform (.markProcessed batch.version) trivial
  | fullWindow =>
      have folded := (grownUnder_empty options.portThreshold).fold
        (Session.threshold_fold options) mapping now batch.events
      have placed := folded.mergePositions graph.positions
      exact placed.perform (.markProcessed batch.version) trivial

end GrownUnder
end Graph

namespace Session

/-- The graph of the session grew under its port threshold. -/
def IsGrown (session : Session) : Prop :=
  session.graph.GrownUnder session.options.portThreshold

theorem isGrown_create (viewId : String) (options : GraphOptions) :
    (create viewId options).IsGrown :=
  Graph.grownUnder_empty options.portThreshold

theorem options_tick (clock : String) (now : UInt64) (session : Session) :
    (session.tick clock now).1.options = session.options := by
  unfold tick
  dsimp only
  split <;> rfl

theorem graph_tick (clock : String) (now : UInt64) (session : Session) :
    (session.tick clock now).1.graph =
      session.graph.decayed session.options.thresholds now := by
  unfold tick
  dsimp only
  split <;> rfl

theorem options_mergePositions
    (clock : String)
    (updates : List PositionUpdate)
    (session : Session) :
    (session.mergePositions clock updates).1.options = session.options := by
  unfold mergePositions
  dsimp only
  split <;> rfl

theorem graph_mergePositions
    (clock : String)
    (updates : List PositionUpdate)
    (session : Session) :
    (session.mergePositions clock updates).1.graph =
      (session.graph.mergePositions updates).1 := by
  unfold mergePositions
  dsimp only
  split <;> rfl

theorem options_applyBatch
    (clock : String)
    (batch : Batch)
    (now : UInt64)
    (session : Session) :
    (session.applyBatch clock batch now).1.options = session.options := by
  unfold applyBatch
  split
  · rfl
  · dsimp only
    split <;> rfl

/-- A batch leaves the graph as it is unless it is folded. -/
theorem graph_applyBatch
    (clock : String)
    (batch : Batch)
    (now : UInt64)
    (session : Session) :
    (session.applyBatch clock batch now).1.graph = session.graph ∨
      ∃ mapping, session.mapping = some mapping ∧ session.version < batch.version ∧
        (session.applyBatch clock batch now).1.graph =
          (foldBatch mapping session.options batch now session.graph).1 := by
  unfold applyBatch
  split
  · exact Or.inl rfl
  · next mapping mapped =>
    dsimp only
    split
    · next accepted => exact Or.inr ⟨mapping, mapped, of_decide_eq_true accepted, rfl⟩
    · exact Or.inl rfl

namespace IsGrown

variable {session : Session}

theorem of_graph_eq
    (grown : session.IsGrown)
    {later : Session}
    (threshold_eq : later.options.portThreshold = session.options.portThreshold)
    (graph_eq : later.graph = session.graph) :
    later.IsGrown := by
  rw [IsGrown, threshold_eq, graph_eq]
  exact grown

theorem of_graph_eq_empty
    (graph_eq : session.graph = .empty) :
    session.IsGrown := by
  rw [IsGrown, graph_eq]
  exact Graph.grownUnder_empty session.options.portThreshold

theorem setOptions
    (grown : session.IsGrown)
    (clock : String)
    (options : GraphOptions) :
    (session.perform (.setOptions clock options)).IsGrown := by
  cases usable : options.validate with
  | error fault =>
      rw [perform_setOptions_of_error usable]
      exact grown
  | ok _ =>
      by_cases same : session.options.portThreshold = options.portThreshold
      · rw [perform_setOptions_of_eq usable same]
        exact grown.of_graph_eq same.symm rfl
      · rw [perform_setOptions_of_ne usable same]
        exact of_graph_eq_empty rfl

theorem applyBatch
    (grown : session.IsGrown)
    (clock : String)
    (batch : Batch)
    (now : UInt64) :
    (session.applyBatch clock batch now).1.IsGrown := by
  have options_eq := options_applyBatch clock batch now session
  rcases graph_applyBatch clock batch now session with graph_eq | ⟨mapping, _, _, graph_eq⟩
  · exact grown.of_graph_eq (congrArg GraphOptions.portThreshold options_eq) graph_eq
  · rw [IsGrown, options_eq, graph_eq]
    exact Graph.GrownUnder.foldBatch grown mapping batch now

/-- Every operation lets the graph grow on under the present port threshold, or
discards it. -/
theorem perform
    (grown : session.IsGrown)
    (operation : Operation) :
    (session.perform operation).IsGrown := by
  cases operation with
  | setSource clock source =>
      have options_eq := options_setSource clock source session
      have threshold_eq := congrArg GraphOptions.portThreshold options_eq
      rcases graph_setSource clock source session with
        ⟨_, graph_eq⟩ | ⟨_, _, graph_eq⟩ | ⟨_, _, graph_eq⟩
      · exact grown.of_graph_eq threshold_eq graph_eq
      · exact grown.of_graph_eq threshold_eq graph_eq
      · exact of_graph_eq_empty graph_eq
  | setOptions clock options => exact grown.setOptions clock options
  | applyBatch clock batch now => exact grown.applyBatch clock batch now
  | tick clock now =>
      rw [Session.perform, IsGrown, options_tick, graph_tick]
      exact Graph.GrownUnder.perform grown (.decay session.options.thresholds now) trivial
  | mergePositions clock updates =>
      rw [Session.perform, IsGrown, options_mergePositions, graph_mergePositions]
      exact Graph.GrownUnder.mergePositions grown updates

theorem after
    (grown : session.IsGrown)
    (operations : List Operation) :
    (session.after operations).IsGrown := by
  induction operations generalizing session with
  | nil => exact grown
  | cons operation operations inductionHypothesis =>
      exact inductionHypothesis (grown.perform operation)

end IsGrown
end Session
end TrafficGraph
