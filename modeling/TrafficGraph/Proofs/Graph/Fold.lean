import TrafficGraph.Graph.Decay
import TrafficGraph.Graph.Fold
import TrafficGraph.Graph.Snapshot

/-!
# Folds as runs over connections

Folding a batch of records observes, one after the other, the connections that
the records describe.  Neither observing nor decaying nor moving nodes touches
the version of a graph.
-/

namespace TrafficGraph
namespace Graph

theorem foldRecord_fst
    (mapping : Source.Mapping)
    (options : FoldOptions)
    (now : UInt64)
    (graph : Graph)
    (record : Record) :
    (graph.foldRecord mapping options now record).1 =
      ((Source.connection? mapping record).toList.foldl (observe options now) graph) := by
  unfold foldRecord
  cases Source.connection? mapping record with
  | none => rfl
  | some connection => rfl

/-- The graph after a batch observes the connections of its records in turn. -/
theorem fold_fst
    (mapping : Source.Mapping)
    (options : FoldOptions)
    (now : UInt64)
    (graph : Graph)
    (records : List Record) :
    (graph.fold mapping options now records).1 =
      (records.filterMap (Source.connection? mapping)).foldl (observe options now) graph := by
  unfold fold
  generalize FoldOutcome.zero = outcome
  induction records generalizing graph outcome with
  | nil => rfl
  | cons record records inductionHypothesis =>
      rw [List.foldl_cons]
      refine (inductionHypothesis (foldRecord mapping options now graph record).1 _).trans ?_
      rw [foldRecord_fst, List.filterMap_cons]
      cases Source.connection? mapping record with
      | none => rfl
      | some connection => rfl

/-- A number that a fold adds up counts the records for which one step adds one to it. -/
theorem count_fold
    {mapping : Source.Mapping}
    {options : FoldOptions}
    {now : UInt64}
    {count : FoldOutcome → Nat}
    {counts : Record → Bool}
    (zero : count .zero = 0)
    (add : ∀ first second, count (.add first second) = count first + count second)
    (step : ∀ (graph : Graph) record,
      count (graph.foldRecord mapping options now record).2 = if counts record then 1 else 0)
    (graph : Graph)
    (records : List Record) :
    count (graph.fold mapping options now records).2 = records.countP counts := by
  unfold fold
  rw [← Nat.zero_add (records.countP counts), ← zero]
  generalize FoldOutcome.zero = outcome
  induction records generalizing graph outcome with
  | nil => rfl
  | cons record records inductionHypothesis =>
      rw [List.foldl_cons, List.countP_cons]
      have counted := step graph record
      refine (inductionHypothesis (graph.foldRecord mapping options now record).1
        (outcome.add (graph.foldRecord mapping options now record).2)).trans ?_
      rw [add, counted]
      omega

theorem folded_fold
    (mapping : Source.Mapping)
    (options : FoldOptions)
    (now : UInt64)
    (graph : Graph)
    (records : List Record) :
    (graph.fold mapping options now records).2.folded =
      records.countP fun record => (Source.connection? mapping record).isSome := by
  apply count_fold rfl fun _ _ => rfl
  intro graph record
  unfold foldRecord
  cases Source.connection? mapping record with
  | none => rfl
  | some connection => rfl

theorem skipped_fold
    (mapping : Source.Mapping)
    (options : FoldOptions)
    (now : UInt64)
    (graph : Graph)
    (records : List Record) :
    (graph.fold mapping options now records).2.skipped =
      records.countP fun record => (Source.connection? mapping record).isNone := by
  apply count_fold rfl fun _ _ => rfl
  intro graph record
  unfold foldRecord
  cases Source.connection? mapping record with
  | none => rfl
  | some connection => rfl

@[simp] theorem version_observe
    (options : FoldOptions)
    (now : UInt64)
    (graph : Graph)
    (connection : Source.Connection) :
    (graph.observe options now connection).version = graph.version := rfl

@[simp] theorem version_foldl
    (options : FoldOptions)
    (now : UInt64)
    (graph : Graph)
    (connections : List Source.Connection) :
    (connections.foldl (observe options now) graph).version = graph.version := by
  induction connections generalizing graph with
  | nil => rfl
  | cons connection connections inductionHypothesis =>
      rw [List.foldl_cons, inductionHypothesis, version_observe]

@[simp] theorem version_fold
    (mapping : Source.Mapping)
    (options : FoldOptions)
    (now : UInt64)
    (graph : Graph)
    (records : List Record) :
    (graph.fold mapping options now records).1.version = graph.version := by
  rw [fold_fst, version_foldl]

@[simp] theorem version_applyPosition
    (graph : Graph)
    (update : PositionUpdate) :
    (graph.applyPosition update).version = graph.version := by
  unfold applyPosition
  split <;> rfl

@[simp] theorem version_mergePositions
    (graph : Graph)
    (updates : List PositionUpdate) :
    (graph.mergePositions updates).1.version = graph.version := by
  unfold mergePositions
  induction updates generalizing graph with
  | nil => rfl
  | cons update updates inductionHypothesis =>
      exact (inductionHypothesis _).trans (version_applyPosition graph update)

theorem version_markProcessed
    {graph : Graph}
    {version : Int64}
    (accepted : graph.version < version) :
    (graph.markProcessed version).version = version := by
  rw [markProcessed, accepts, if_pos (by simpa using accepted)]

end Graph
end TrafficGraph
