import TrafficGraph.Proofs.Graph.Freshness

/-!
# Observations in another order

Read as partial functions from keys to entries, the tables of a graph do not tell in which
order connections were observed: of the times an entry keeps the earliest and the latest,
its counters are sums that stop at the largest word, and every observation makes it active.
So observing the same connections in another order, each at the time that it carries, gives
the same entries under the same keys, and demoting entries keeps them the same.
-/

namespace TrafficGraph

/-- The tables of a graph as partial functions from keys to entries. -/
structure Lookups where
  /-- The node of a host. -/
  node? : String → Option Node
  /-- The edge of a key. -/
  edge? : EdgeKey → Option Edge

/-- What is found in a graph. -/
def Graph.lookups (graph : Graph) : Lookups where
  node? := graph.nodes.find?
  edge? := graph.edges.find?

/-! ## Entries -/

theorem Milestone.pick_right_comm
    (milestone : Milestone)
    (first second third : UInt64) :
    milestone.pick (milestone.pick first second) third =
      milestone.pick (milestone.pick first third) second := by
  rw [pick_assoc, pick_comm milestone second third, ← pick_assoc]

theorem saturatingAdd_right_comm (first second third : UInt64) :
    saturatingAdd (saturatingAdd first second) third =
      saturatingAdd (saturatingAdd first third) second := by
  apply UInt64.toNat_inj.1
  simp only [toNat_saturatingAdd]
  omega

namespace Node

/-- What is found of a host after it was observed. -/
def noted (host : String) (seenAt : UInt64) (found : Option Node) : Option Node :=
  some ((found.getD (.first host seenAt)).observe seenAt)

/-- Of two observations of a host either may come first, also if the host is new. -/
theorem noted_right_comm
    (host : String)
    (first second : UInt64)
    (found : Option Node) :
    noted host second (noted host first found) = noted host first (noted host second found) := by
  cases found with
  | none =>
      have earliest := Milestone.first.pick_comm first second
      have latest := Milestone.last.pick_comm first second
      simp only [Milestone.pick] at earliest latest
      simp only [noted, Option.getD_none, Option.getD_some, Node.first, observe]
      simp only [Std.min_self, Std.max_self, earliest, latest]
  | some node =>
      have earliest := Milestone.first.pick_right_comm node.firstSeen first second
      have latest := Milestone.last.pick_right_comm node.lastSeen first second
      simp only [Milestone.pick] at earliest latest
      simp only [noted, Option.getD_some, observe, earliest, latest]

end Node

namespace Edge

/-- What is found of an edge after it was observed. -/
def noted (threshold : UInt16) (key : EdgeKey) (seenAt byteCount : UInt64)
    (found : Option Edge) : Option Edge :=
  some ((found.getD (.fresh threshold key seenAt)).observe seenAt byteCount)

/-- Of two observations of an edge either may come first, also if the edge is new. -/
theorem noted_right_comm
    (threshold : UInt16)
    (key : EdgeKey)
    (first second firstBytes secondBytes : UInt64)
    (found : Option Edge) :
    noted threshold key second secondBytes (noted threshold key first firstBytes found) =
      noted threshold key first firstBytes (noted threshold key second secondBytes found) := by
  cases found with
  | none =>
      have earliest := Milestone.first.pick_comm first second
      have latest := Milestone.last.pick_comm first second
      have bytes := saturatingAdd_right_comm 0 firstBytes secondBytes
      simp only [Milestone.pick] at earliest latest
      simp only [noted, Option.getD_none, Option.getD_some, fresh, observe]
      simp only [Std.min_self, Std.max_self, earliest, latest, bytes]
  | some edge =>
      have earliest := Milestone.first.pick_right_comm edge.firstSeen first second
      have latest := Milestone.last.pick_right_comm edge.lastSeen first second
      have bytes := saturatingAdd_right_comm edge.byteTotal firstBytes secondBytes
      simp only [Milestone.pick] at earliest latest
      simp only [noted, Option.getD_some, observe, earliest, latest, bytes]

end Edge

/-! ## Observations -/

namespace Lookups

/-- Nothing is found. -/
def empty : Lookups := ⟨fun _ => none, fun _ => none⟩

/-- What is found after a connection was observed at the time that it carries. -/
def observe (threshold : UInt16) (lookups : Lookups) (connection : Source.Connection) :
    Lookups where
  node? host :=
    if connection.Joins host then
      Node.noted host (connection.timestamp.getD 0) (lookups.node? host)
    else lookups.node? host
  edge? key :=
    if key = EdgeKey.ofConnection threshold connection then
      Edge.noted threshold key (connection.timestamp.getD 0) (connection.byteCount.getD 0)
        (lookups.edge? key)
    else lookups.edge? key

/-- Of two observations either may come first. -/
theorem observe_right_comm
    (threshold : UInt16)
    (lookups : Lookups)
    (first second : Source.Connection) :
    (lookups.observe threshold first).observe threshold second =
      (lookups.observe threshold second).observe threshold first := by
  rw [Lookups.mk.injEq]
  constructor
  · funext host
    dsimp only [observe]
    by_cases joinsFirst : first.Joins host
    · by_cases joinsSecond : second.Joins host
      · simp only [if_pos joinsFirst, if_pos joinsSecond, Node.noted_right_comm]
      · simp only [if_pos joinsFirst, if_neg joinsSecond]
    · simp only [if_neg joinsFirst]
  · funext key
    dsimp only [observe]
    by_cases namesFirst : key = EdgeKey.ofConnection threshold first
    · by_cases namesSecond : key = EdgeKey.ofConnection threshold second
      · simp only [if_pos namesFirst, if_pos namesSecond, Edge.noted_right_comm]
      · simp only [if_pos namesFirst, if_neg namesSecond]
    · simp only [if_neg namesFirst]

/-- What is found after some connections were observed does not depend on their order. -/
theorem foldl_observe_perm
    {first second : List Source.Connection}
    (perm : first.Perm second)
    (threshold : UInt16)
    (lookups : Lookups) :
    first.foldl (observe threshold) lookups = second.foldl (observe threshold) lookups := by
  apply perm.foldl_eq'
  intro one _ other _ between
  exact observe_right_comm threshold between one other

/-- What is found after a demotion. -/
def decay (thresholds : Thresholds) (now : UInt64) (lookups : Lookups) : Lookups where
  node? host := (lookups.node? host).map (Node.decay thresholds now)
  edge? key := (lookups.edge? key).map (Edge.decay thresholds now)

end Lookups

namespace Graph

/-- In a graph that shows nothing nothing is found. -/
theorem lookups_of_snapshot_eq_empty
    {graph : Graph}
    (blank : graph.snapshot = .empty) :
    graph.lookups = .empty := by
  rw [snapshot, Snapshot.empty, Snapshot.mk.injEq, List.map_eq_nil_iff, List.map_eq_nil_iff]
    at blank
  have nodes_eq : graph.nodes = .empty := Table.ext_toList blank.1
  have edges_eq : graph.edges = .empty := Table.ext_toList blank.2
  rw [lookups, nodes_eq, edges_eq, Lookups.empty, Lookups.mk.injEq]
  exact ⟨funext Table.find?_empty, funext Table.find?_empty⟩

/-- A connection that is observed at the time that it carries. -/
theorem lookups_observe
    {options : FoldOptions}
    {now : UInt64}
    {connection : Source.Connection}
    (time_eq : observationTime options now connection = connection.timestamp.getD 0)
    (graph : Graph) :
    (graph.observe options now connection).lookups =
      graph.lookups.observe options.portThreshold connection := by
  rw [lookups, Lookups.observe, Lookups.mk.injEq]
  constructor
  · funext host
    rw [graph.find?_nodes_observe rfl time_eq]
    simp only [EdgeKey.joins_ofConnection_iff]
    rfl
  · funext key
    rw [graph.find?_edges_observe rfl time_eq]
    split
    · next named =>
      rw [← named]
      rfl
    · rfl

/-- If every connection carries a time, then a fold observes each at its time. -/
theorem lookups_fold
    {options : FoldOptions}
    (timed : options.useEventTime = true)
    {mapping : Source.Mapping}
    {records : List Record}
    (dated : ∀ connection ∈ records.filterMap (Source.connection? mapping),
      connection.timestamp ≠ none)
    (now : UInt64)
    (graph : Graph) :
    (graph.fold mapping options now records).1.lookups =
      (records.filterMap (Source.connection? mapping)).foldl
        (Lookups.observe options.portThreshold) graph.lookups := by
  have carried : ∀ connection ∈ records.filterMap (Source.connection? mapping),
      observationTime options now connection = connection.timestamp.getD 0 := by
    intro connection described
    obtain ⟨time, isTime⟩ := Option.ne_none_iff_exists'.1 (dated connection described)
    rw [observationTime, if_pos timed, isTime]
    rfl
  rw [fold_fst]
  clear dated
  generalize records.filterMap (Source.connection? mapping) = connections at carried ⊢
  induction connections generalizing graph with
  | nil => rfl
  | cons connection connections inductionHypothesis =>
      obtain ⟨first, others⟩ := List.forall_mem_cons.1 carried
      rw [List.foldl_cons, List.foldl_cons, ← lookups_observe first]
      exact inductionHypothesis (graph.observe options now connection) others

@[simp] theorem lookups_markProcessed
    (graph : Graph)
    (version : Int64) :
    (graph.markProcessed version).lookups = graph.lookups := by
  unfold markProcessed
  split <;> rfl

@[simp] theorem lookups_decayed
    (thresholds : Thresholds)
    (now : UInt64)
    (graph : Graph) :
    (graph.decayed thresholds now).lookups = graph.lookups.decay thresholds now := by
  rw [lookups, Lookups.decay, Lookups.mk.injEq]
  exact ⟨funext (find?_nodes_decayed thresholds now graph),
    funext (find?_edges_decayed thresholds now graph)⟩

end Graph
end TrafficGraph
