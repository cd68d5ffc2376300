import TrafficGraph.Proofs.Graph.Lookup

/-!
# Runs of a graph

A run is a sequence of operations on one graph.  All of them are made of four steps:
observing a connection, demoting what is stale, giving a position, and noting a
version.  So a property that these four keep holds after every run.  Which connections
are observed may be restricted, since some properties hold only of connections that
records describe, or under one port threshold.
-/

namespace TrafficGraph
namespace Graph

/-- What can be done with a graph. -/
inductive Operation
  /-- The connections that records describe are observed. -/
  | fold (mapping : Source.Mapping) (options : FoldOptions) (now : UInt64)
      (records : List Record)
  /-- A connection is observed. -/
  | foldConnection (options : FoldOptions) (now : UInt64) (connection : Source.Connection)
  /-- Stale entries are demoted. -/
  | decay (thresholds : Thresholds) (now : UInt64)
  /-- Nodes are given positions. -/
  | mergePositions (updates : List PositionUpdate)
  /-- A processed version is noted. -/
  | markProcessed (version : Int64)

/-- The graph after an operation. -/
def perform (graph : Graph) : Operation → Graph
  | .fold mapping options now records => (graph.fold mapping options now records).1
  | .foldConnection options now connection => (graph.foldConnection options now connection).1
  | .decay thresholds now => (graph.decay thresholds now).1
  | .mergePositions updates => (graph.mergePositions updates).1
  | .markProcessed version => graph.markProcessed version

/-- The graph after a run. -/
def after (operations : List Operation) (graph : Graph) : Graph :=
  operations.foldl perform graph

/-- The observed connections, with the port thresholds under which they are observed,
are among the admitted ones. -/
def Operation.Admitted (admits : UInt16 → Source.Connection → Prop) : Operation → Prop
  | .fold mapping options _ records => ∀ record ∈ records, ∀ connection,
      Source.connection? mapping record = some connection →
        admits options.portThreshold connection
  | .foldConnection options _ connection => admits options.portThreshold connection
  | _ => True

/-- A property of graphs that all steps keep. -/
structure Kept (admits : UInt16 → Source.Connection → Prop) (property : Graph → Prop) :
    Prop where
  /-- Observing an admitted connection keeps it. -/
  observe : ∀ options now graph connection, admits options.portThreshold connection →
    property graph → property (graph.observe options now connection)
  /-- Demoting what is stale keeps it. -/
  decayed : ∀ thresholds now graph, property graph → property (graph.decayed thresholds now)
  /-- Giving a position keeps it. -/
  applyPosition : ∀ update graph, property graph → property (graph.applyPosition update)
  /-- Noting a version keeps it. -/
  withVersion : ∀ (version : Int64) (graph : Graph), property graph →
    property { graph with version }

namespace Kept

variable {admits : UInt16 → Source.Connection → Prop} {property : Graph → Prop}

theorem foldl_observe
    (kept : Kept admits property)
    (options : FoldOptions)
    (now : UInt64)
    {connections : List Source.Connection}
    (admitted : ∀ connection ∈ connections, admits options.portThreshold connection)
    {graph : Graph}
    (holds : property graph) :
    property (connections.foldl (Graph.observe options now) graph) := by
  induction connections generalizing graph with
  | nil => exact holds
  | cons connection connections inductionHypothesis =>
      obtain ⟨first, others⟩ := List.forall_mem_cons.1 admitted
      exact inductionHypothesis others (kept.observe options now graph connection first holds)

theorem mergePositions
    (kept : Kept admits property)
    (updates : List PositionUpdate)
    {graph : Graph}
    (holds : property graph) :
    property (graph.mergePositions updates).1 := by
  unfold Graph.mergePositions
  induction updates generalizing graph with
  | nil => exact holds
  | cons update updates inductionHypothesis =>
      exact inductionHypothesis (kept.applyPosition update graph holds)

/-- An operation keeps what its steps keep. -/
theorem perform
    (kept : Kept admits property)
    {operation : Operation}
    (admitted : operation.Admitted admits)
    {graph : Graph}
    (holds : property graph) :
    property (graph.perform operation) := by
  cases operation with
  | fold mapping options now records =>
      rw [Graph.perform, fold_fst]
      apply kept.foldl_observe options now ?_ holds
      intro connection described
      obtain ⟨record, listed, found⟩ := List.mem_filterMap.1 described
      exact admitted record listed connection found
  | foldConnection options now connection =>
      exact kept.observe options now graph connection admitted holds
  | decay thresholds now => exact kept.decayed thresholds now graph holds
  | mergePositions updates => exact kept.mergePositions updates holds
  | markProcessed version =>
      rw [Graph.perform, markProcessed]
      split
      · exact kept.withVersion version graph holds
      · exact holds

/-- A run keeps what its steps keep. -/
theorem after
    (kept : Kept admits property)
    {operations : List Operation}
    (admitted : ∀ operation ∈ operations, operation.Admitted admits)
    {graph : Graph}
    (holds : property graph) :
    property (graph.after operations) := by
  induction operations generalizing graph with
  | nil => exact holds
  | cons operation operations inductionHypothesis =>
      obtain ⟨first, others⟩ := List.forall_mem_cons.1 admitted
      exact inductionHypothesis others (kept.perform first holds)

/-- What the steps keep whatever is observed holds after every run from the empty
graph. -/
theorem after_empty
    (kept : Kept (fun _ _ => True) property)
    (initial : property empty)
    (operations : List Operation) :
    property (empty.after operations) := by
  apply kept.after ?_ initial
  intro operation _
  cases operation with
  | fold mapping options now records => exact fun _ _ _ _ => trivial
  | foldConnection options now connection => trivial
  | decay thresholds now => trivial
  | mergePositions updates => trivial
  | markProcessed version => trivial

end Kept

/-! ## Properties of single entries -/

/-- A property of single nodes is kept if it holds of the hosts of admitted connections
and if observing, demoting and moving a node keep it. -/
theorem kept_nodes
    {admits : UInt16 → Source.Connection → Prop}
    {property : Node → Prop}
    (first : ∀ threshold connection host seenAt, admits threshold connection →
      (EdgeKey.ofConnection threshold connection).Joins host → property (.first host seenAt))
    (observe : ∀ seenAt node, property node → property (node.observe seenAt))
    (decay : ∀ thresholds now node, property node → property (node.decay thresholds now))
    (moveTo : ∀ position node, property node → property (node.moveTo position)) :
    Kept admits fun graph => ∀ node ∈ graph.nodes.toList, property node where
  observe options now graph connection admitted holds := by
    intro node listed
    obtain wasListed | ⟨joins, observed⟩ := mem_nodes_observe listed
    · exact holds node wasListed
    · rw [← observed]
      apply observe
      cases found : graph.nodes.find? node.id with
      | none => exact first _ connection _ _ admitted joins
      | some old =>
          apply holds old
          rw [Table.mem_toList_iff, Table.key_of_find? found, found]
  decayed thresholds now graph holds := by
    intro node listed
    obtain ⟨old, wasListed, rfl⟩ := mem_nodes_decayed_iff.1 listed
    exact decay thresholds now old (holds old wasListed)
  applyPosition update graph holds := by
    intro node listed
    obtain wasListed | ⟨old, wasListed, rfl⟩ := mem_nodes_applyPosition listed
    · exact holds node wasListed
    · exact moveTo update.position old (holds old wasListed)
  withVersion version graph holds := holds

/-- A property of single edges is kept if it holds of the first observations of
admitted connections and if observing and demoting an edge keep it. -/
theorem kept_edges
    {admits : UInt16 → Source.Connection → Prop}
    {property : Edge → Prop}
    (first : ∀ threshold connection seenAt byteCount, admits threshold connection →
      property ((Edge.fresh threshold (.ofConnection threshold connection) seenAt).observe
        seenAt byteCount))
    (observe : ∀ seenAt byteCount edge, property edge → property (edge.observe seenAt byteCount))
    (decay : ∀ thresholds now edge, property edge → property (edge.decay thresholds now)) :
    Kept admits fun graph => ∀ edge ∈ graph.edges.toList, property edge where
  observe options now graph connection admitted holds := by
    intro edge listed
    obtain wasListed | rfl := mem_edges_observe listed
    · exact holds edge wasListed
    · cases found : graph.edges.find? (.ofConnection options.portThreshold connection) with
      | none => exact first _ connection _ _ admitted
      | some old =>
          apply observe
          apply holds old
          rw [Table.mem_toList_iff, Table.key_of_find? found, found]
  decayed thresholds now graph holds := by
    intro edge listed
    obtain ⟨old, wasListed, rfl⟩ := mem_edges_decayed_iff.1 listed
    exact decay thresholds now old (holds old wasListed)
  applyPosition update graph holds := by
    rw [edges_applyPosition]
    exact holds
  withVersion version graph holds := holds

end Graph
end TrafficGraph
