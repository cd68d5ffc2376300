import TrafficGraph.Proofs.Graph.Extension
import TrafficGraph.Proofs.Session.Steps

/-!
# How a session grows between discards

As long as no step of a run discards the graph, a snapshot taken earlier is the beginning
of any taken later: ids stay listed in their order, new ones come behind them, and the
entries under ids that were there are only refreshed.  An increment refreshes and adds, a
tick and a change of places refresh, and everything else leaves the graph as it is.
-/

namespace TrafficGraph

namespace Graph.Extends

/-- An increment extends the graph. -/
theorem foldBatch
    {batch : Batch}
    (increment : batch.mode = .incremental)
    (mapping : Source.Mapping)
    (options : GraphOptions)
    (now : UInt64)
    (graph : Graph) :
    graph.Extends (Session.foldBatch mapping options batch now graph).1 := by
  rw [Session.foldBatch, increment]
  exact (fold mapping options.fold now graph batch.events).trans (markProcessed batch.version _)

end Graph.Extends

namespace Session

/-- What a later session owes to one who knows an earlier one. -/
structure Extends (earlier later : Session) : Prop where
  /-- The nodes are listed as before, and new ones behind them. -/
  nodes_prefix : earlier.graph.snapshot.nodes.map NodeView.id <+:
    later.graph.snapshot.nodes.map NodeView.id
  /-- The edges are listed as before, and new ones behind them. -/
  edges_prefix : earlier.graph.snapshot.edges.map EdgeView.id <+:
    later.graph.snapshot.edges.map EdgeView.id
  /-- Every node is still there, refreshed. -/
  nodes_refreshed : ∀ name node, earlier.graph.nodes.find? name = some node →
    ∃ refreshed, later.graph.nodes.find? name = some refreshed ∧ node.Refreshes refreshed
  /-- Every edge is still there, refreshed. -/
  edges_refreshed : ∀ key edge, earlier.graph.edges.find? key = some edge →
    ∃ refreshed, later.graph.edges.find? key = some refreshed ∧ edge.Refreshes refreshed
  /-- The version does not fall. -/
  version_le : earlier.version ≤ later.version

/-- A session extends an earlier one if its graph does and its version did not fall. -/
theorem extends_of_graph
    {earlier later : Session}
    (extension : earlier.graph.Extends later.graph)
    (version_le : earlier.version ≤ later.version) :
    earlier.Extends later := by
  refine ⟨?nodes, ?edges, ?nodeAt, ?edgeAt, version_le⟩
  case nodes =>
    rw [Graph.snapshot, Graph.snapshot, List.map_map, List.map_map]
    exact extension.nodes.map_prefix fun _ _ refreshed => refreshed.id_eq
  case edges =>
    rw [Graph.snapshot, Graph.snapshot, List.map_map, List.map_map]
    exact extension.edges.map_prefix fun _ _ refreshed => congrArg EdgeKey.print refreshed.key_eq
  case nodeAt =>
    intro name node found
    exact extension.nodes.find? (fun _ _ refreshed => refreshed.id_eq) found
  case edgeAt =>
    intro key edge found
    exact extension.edges.find? (fun _ _ refreshed => refreshed.key_eq) found

/-- A batch that does not discard the graph extends it and does not lower the version. -/
theorem graph_extends_applyBatch
    {session : Session}
    {clock : String}
    {batch : Batch}
    {now : UInt64}
    (steady : (Step.mk session (.applyBatch clock batch now)).isDiscard = false) :
    session.graph.Extends (session.perform (.applyBatch clock batch now)).graph ∧
      session.version ≤ (session.perform (.applyBatch clock batch now)).version := by
  rw [version, version, perform]
  rcases graph_applyBatch clock batch now session with graph_eq | ⟨mapping, mapped, newer, graph_eq⟩
  · rw [graph_eq]
    exact ⟨.refl _, Int64.le_refl _⟩
  · rw [graph_eq]
    have increment := Step.incremental_of_not_isDiscard mapped newer steady
    refine ⟨.foldBatch increment mapping session.options now session.graph, ?_⟩
    rw [foldBatch, increment]
    dsimp only
    rw [Graph.version_markProcessed (by rw [Graph.version_fold]; exact newer)]
    exact Int64.le_of_lt newer

/-- A step that does not discard the graph extends it and does not lower the version. -/
theorem graph_extends_perform
    {session : Session}
    {operation : Operation}
    (steady : (Step.mk session operation).isDiscard = false) :
    session.graph.Extends (session.perform operation).graph ∧
      session.version ≤ (session.perform operation).version := by
  have spared : ¬session.Discards operation := by
    intro discards
    rw [Step.isDiscard, (Step.isReset_iff session operation).2 discards] at steady
    cases steady
  cases operation with
  | setSource clock source =>
      rw [version, version, graph_setSource_of_not_discards spared]
      exact ⟨.refl _, Int64.le_refl _⟩
  | setOptions clock options =>
      rw [version, version, graph_setOptions_of_not_discards spared]
      exact ⟨.refl _, Int64.le_refl _⟩
  | applyBatch clock batch now => exact graph_extends_applyBatch steady
  | tick clock now =>
      rw [version, version, perform, graph_tick]
      exact ⟨.decayed session.options.thresholds now session.graph, Int64.le_refl _⟩
  | mergePositions clock updates =>
      rw [version, version, perform, graph_mergePositions, Graph.version_mergePositions]
      exact ⟨.mergePositions updates session.graph, Int64.le_refl _⟩

theorem graph_extends_after
    (session : Session)
    {operations : List Operation}
    (steady : ∀ step ∈ session.steps operations, step.isDiscard = false) :
    session.graph.Extends (session.after operations).graph ∧
      session.version ≤ (session.after operations).version := by
  induction operations generalizing session with
  | nil => exact ⟨.refl _, Int64.le_refl _⟩
  | cons operation operations inductionHypothesis =>
      rw [steps] at steady
      obtain ⟨first, others⟩ := List.forall_mem_cons.1 steady
      obtain ⟨extension, version_le⟩ := graph_extends_perform first
      obtain ⟨further, version_le_after⟩ := inductionHypothesis (session.perform operation) others
      exact ⟨extension.trans further, Int64.le_trans version_le version_le_after⟩

/-- **Growth in place.** As long as no step of a run discards the graph, whatever was shown
before the run is shown after it in its old place, refreshed, and what is new comes behind. -/
theorem extends_after
    (session : Session)
    {operations : List Operation}
    (steady : ∀ step ∈ session.steps operations, step.isDiscard = false) :
    session.Extends (session.after operations) := by
  obtain ⟨extension, version_le⟩ := session.graph_extends_after steady
  exact extends_of_graph extension version_le

/-- A session to which a call was delivered. -/
def called : Session :=
  (create "view" .standard).after
    [.setSource "" (.ofRecord call),
      .applyBatch "" { version := 1, mode := .incremental, events := [call] } 4]

/-- The call is delivered again by a clock that went back, entries fade, a node is placed, and
a full window comes too late. -/
def calledAgain : List Operation :=
  [.setOptions "" { GraphOptions.standard with fadeAfter := 1 },
    .applyBatch "" { version := 7, mode := .incremental, events := [call, call] } 2,
    .tick "" 9000,
    .mergePositions "" [⟨"db", ⟨0, 0⟩⟩],
    .applyBatch "" { version := 7, mode := .fullWindow, events := [] } 9]

/-- Calls that are delivered again extend what is shown. -/
theorem extends_after_calledAgain :
    (∀ step ∈ called.steps calledAgain, step.isDiscard = false) ∧
      called.Extends (called.after calledAgain) := by
  have accounts := (Ledger.accounts_create "view" .standard).after
    [.setSource "" (.ofRecord call),
      .applyBatch "" { version := 1, mode := .incremental, events := [call] } 4]
  rw [← called] at accounts
  have steady : ∀ step ∈ called.steps calledAgain, step.isDiscard = false := by
    have same : ¬called.Discards (.setOptions "" { GraphOptions.standard with fadeAfter := 1 }) :=
      fun discards => discards.2 (accounts.threshold_eq.trans rfl)
    have spared := mt (Step.isReset_iff called _).1 same
    have late := ((accounts.after (calledAgain.take 4)).determines.stale_iff ""
      { version := 7, mode := .fullWindow, events := [] } 9 7).2 (by decide)
    simp only [calledAgain, steps, List.forall_mem_cons]
    refine ⟨?options, ?again, ?tick, ?place, ?late, by simp⟩
    case options => rw [Step.isDiscard, Bool.eq_false_iff.2 spared]; rfl
    case again => exact Step.isDiscard_of_incremental rfl _ _ _
    case tick => rfl
    case place => rfl
    case late =>
      change (some _).any BatchOutcome.isReset = false
      rw [Option.any_some]
      exact congrArg BatchOutcome.isReset late
  exact ⟨steady, extends_after called steady⟩

end Session
end TrafficGraph
