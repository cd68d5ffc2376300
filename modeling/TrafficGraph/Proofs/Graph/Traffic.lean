import TrafficGraph.Proofs.Graph.Fold

/-!
# The traffic of a graph

The traffic of a graph is what remains of it when times, freshness and places are
left out: its hosts and edges in order, with port labels and counters.  Observing
a connection changes the traffic in a way that depends on the traffic and the
port threshold alone; decaying and moving nodes leave it as it is.  So the
traffic of a graph is decided by the records that were folded into it.
-/

namespace TrafficGraph

/-- What an edge tells apart from times and freshness. -/
structure EdgeTraffic where
  /-- The key of the edge. -/
  key : EdgeKey
  /-- The port at the source side as it is shown. -/
  sourcePortLabel : String
  /-- The port at the destination side as it is shown. -/
  destinationPortLabel : String
  /-- The number of observations. -/
  eventCount : UInt64
  /-- The number of bytes transferred. -/
  byteTotal : UInt64
  deriving DecidableEq

namespace EdgeTraffic

/-- The traffic of an edge that is about to be observed for the first time. -/
def fresh (threshold : UInt16) (key : EdgeKey) : EdgeTraffic where
  key := key
  sourcePortLabel := portLabel threshold key.sourcePort
  destinationPortLabel := portLabel threshold key.destinationPort
  eventCount := 0
  byteTotal := 0

/-- The traffic of an edge after one more observation. -/
def observe (byteCount : UInt64) (edge : EdgeTraffic) : EdgeTraffic :=
  { edge with
    eventCount := saturatingAdd edge.eventCount 1
    byteTotal := saturatingAdd edge.byteTotal byteCount }

end EdgeTraffic

/-- The hosts and edges of a graph in order, apart from times and places. -/
structure Traffic where
  /-- The keys of the nodes, oldest first. -/
  hosts : List String
  /-- The edges, oldest first. -/
  edges : List EdgeTraffic
  deriving DecidableEq

namespace Traffic

/-- The traffic of a graph without nodes and edges. -/
def empty : Traffic := ⟨[], []⟩

/-- Lists a host unless it is listed. -/
def observeHost (address : String) (traffic : Traffic) : Traffic :=
  { traffic with
    hosts :=
      if address ∈ traffic.hosts then traffic.hosts
      else traffic.hosts ++ [address] }

/-- Counts an observation for the edge of a key, which is listed unless it is. -/
def observeEdge (threshold : UInt16) (key : EdgeKey) (byteCount : UInt64)
    (traffic : Traffic) : Traffic :=
  { traffic with
    edges :=
      if key ∈ traffic.edges.map EdgeTraffic.key then
        traffic.edges.map fun edge => if edge.key = key then edge.observe byteCount else edge
      else traffic.edges ++ [(EdgeTraffic.fresh threshold key).observe byteCount] }

theorem observeHost_of_mem
    {address : String}
    {traffic : Traffic}
    (listed : address ∈ traffic.hosts) :
    traffic.observeHost address = traffic := by
  rw [observeHost, if_pos listed]

theorem observeHost_of_not_mem
    {address : String}
    {traffic : Traffic}
    (fresh : address ∉ traffic.hosts) :
    traffic.observeHost address = { traffic with hosts := traffic.hosts ++ [address] } := by
  rw [observeHost, if_neg fresh]

theorem observeEdge_of_mem
    {threshold : UInt16}
    {key : EdgeKey}
    {byteCount : UInt64}
    {traffic : Traffic}
    (listed : key ∈ traffic.edges.map EdgeTraffic.key) :
    traffic.observeEdge threshold key byteCount =
      { traffic with
        edges := traffic.edges.map fun edge =>
          if edge.key = key then edge.observe byteCount else edge } := by
  rw [observeEdge, if_pos listed]

theorem observeEdge_of_not_mem
    {threshold : UInt16}
    {key : EdgeKey}
    {byteCount : UInt64}
    {traffic : Traffic}
    (fresh : key ∉ traffic.edges.map EdgeTraffic.key) :
    traffic.observeEdge threshold key byteCount =
      { traffic with
        edges := traffic.edges ++ [(EdgeTraffic.fresh threshold key).observe byteCount] } := by
  rw [observeEdge, if_neg fresh]

/-- The traffic after one more connection. -/
def observe (threshold : UInt16) (traffic : Traffic) (connection : Source.Connection) :
    Traffic :=
  let key := EdgeKey.ofConnection threshold connection
  ((traffic.observeHost key.source).observeHost key.destination).observeEdge threshold key
    (connection.byteCount.getD 0)

/-- The traffic of the connections that records describe. -/
def ofRecords (mapping : Source.Mapping) (threshold : UInt16) (records : List Record) :
    Traffic :=
  (records.filterMap (Source.connection? mapping)).foldl (observe threshold) empty

theorem ofRecords_append
    (mapping : Source.Mapping)
    (threshold : UInt16)
    (first second : List Record) :
    ofRecords mapping threshold (first ++ second) =
      (second.filterMap (Source.connection? mapping)).foldl (observe threshold)
        (ofRecords mapping threshold first) := by
  rw [ofRecords, ofRecords, List.filterMap_append, List.foldl_append]

end Traffic

theorem Table.contains_iff_mem
    {κ ρ : Type}
    [DecidableEq κ]
    [Hashable κ]
    {key : ρ → κ}
    (table : Table key)
    (name : κ) :
    table.contains name = true ↔ name ∈ table.toList.map key := by
  rw [table.contains_iff, List.mem_map]

/-- The traffic of an edge. -/
def Edge.traffic (edge : Edge) : EdgeTraffic where
  key := edge.key
  sourcePortLabel := edge.sourcePortLabel
  destinationPortLabel := edge.destinationPortLabel
  eventCount := edge.eventCount
  byteTotal := edge.byteTotal

namespace Graph

/-- The traffic of a graph. -/
def traffic (graph : Graph) : Traffic where
  hosts := graph.nodes.toList.map Node.id
  edges := graph.edges.toList.map Edge.traffic

@[simp] theorem traffic_empty : empty.traffic = .empty := rfl

theorem traffic_observeHost
    (address : String)
    (seenAt : UInt64)
    (graph : Graph) :
    (graph.observeHost address seenAt).traffic = graph.traffic.observeHost address := by
  have contains_iff := graph.nodes.contains_iff_mem (Node.first address seenAt).id
  by_cases listed : address ∈ graph.traffic.hosts
  · rw [Traffic.observeHost_of_mem listed]
    simp only [traffic, observeHost, Traffic.mk.injEq, and_true]
    rw [Table.toList_upsert, if_pos (contains_iff.2 listed), List.map_map]
    apply List.map_congr_left
    intro node _
    simp only [Function.comp]
    split <;> rfl
  · rw [Traffic.observeHost_of_not_mem listed]
    simp only [traffic, observeHost, Traffic.mk.injEq, and_true]
    rw [Table.toList_upsert, if_neg fun contained => listed (contains_iff.1 contained),
      List.map_append]
    rfl

theorem traffic_observeEdge
    (threshold : UInt16)
    (key : EdgeKey)
    (seenAt byteCount : UInt64)
    (graph : Graph) :
    (graph.observeEdge threshold key seenAt byteCount).traffic =
      graph.traffic.observeEdge threshold key byteCount := by
  have contains_iff := graph.edges.contains_iff_mem (Edge.fresh threshold key seenAt).key
  have keys_eq : graph.traffic.edges.map EdgeTraffic.key = graph.edges.toList.map Edge.key := by
    rw [traffic, List.map_map]
    rfl
  by_cases listed : key ∈ graph.traffic.edges.map EdgeTraffic.key
  · rw [Traffic.observeEdge_of_mem listed]
    rw [keys_eq] at listed
    simp only [traffic, observeEdge, Traffic.mk.injEq, true_and]
    rw [Table.toList_upsert, if_pos (contains_iff.2 listed), List.map_map, List.map_map]
    apply List.map_congr_left
    intro edge _
    change Edge.traffic (if edge.key = key then _ else _) = if edge.key = key then _ else _
    split <;> rfl
  · rw [Traffic.observeEdge_of_not_mem listed]
    rw [keys_eq] at listed
    simp only [traffic, observeEdge, Traffic.mk.injEq, true_and]
    rw [Table.toList_upsert, if_neg fun contained => listed (contains_iff.1 contained),
      List.map_append]
    rfl

/-- The traffic after an observation depends on the traffic before it and on the
port threshold. -/
theorem traffic_observe
    (options : FoldOptions)
    (now : UInt64)
    (graph : Graph)
    (connection : Source.Connection) :
    (graph.observe options now connection).traffic =
      graph.traffic.observe options.portThreshold connection := by
  rw [observe, Traffic.observe, traffic_observeEdge, traffic_observeHost, traffic_observeHost]

theorem traffic_foldl
    (options : FoldOptions)
    (now : UInt64)
    (graph : Graph)
    (connections : List Source.Connection) :
    (connections.foldl (observe options now) graph).traffic =
      connections.foldl (Traffic.observe options.portThreshold) graph.traffic := by
  induction connections generalizing graph with
  | nil => rfl
  | cons connection connections inductionHypothesis =>
      rw [List.foldl_cons, List.foldl_cons, inductionHypothesis, traffic_observe]

/-- The traffic after a batch depends on the traffic before it, the port threshold
and the connections that the mapping finds in the records. -/
theorem traffic_fold
    (mapping : Source.Mapping)
    (options : FoldOptions)
    (now : UInt64)
    (graph : Graph)
    (records : List Record) :
    (graph.fold mapping options now records).1.traffic =
      (records.filterMap (Source.connection? mapping)).foldl
        (Traffic.observe options.portThreshold) graph.traffic := by
  rw [fold_fst, traffic_foldl]

@[simp] theorem traffic_decayed
    (thresholds : Thresholds)
    (now : UInt64)
    (graph : Graph) :
    (graph.decayed thresholds now).traffic = graph.traffic := by
  simp only [traffic, decayed, Table.toList_map, List.map_map]
  rfl

@[simp] theorem traffic_applyPosition
    (graph : Graph)
    (update : PositionUpdate) :
    (graph.applyPosition update).traffic = graph.traffic := by
  unfold applyPosition
  split
  · simp only [traffic, Table.toList_modify, List.map_map, Traffic.mk.injEq, and_true]
    apply List.map_congr_left
    intro node _
    simp only [Function.comp]
    split <;> rfl
  · rfl

@[simp] theorem traffic_mergePositions
    (graph : Graph)
    (updates : List PositionUpdate) :
    (graph.mergePositions updates).1.traffic = graph.traffic := by
  unfold mergePositions
  induction updates generalizing graph with
  | nil => rfl
  | cons update updates inductionHypothesis =>
      exact (inductionHypothesis _).trans (traffic_applyPosition graph update)

@[simp] theorem traffic_markProcessed
    (graph : Graph)
    (version : Int64) :
    (graph.markProcessed version).traffic = graph.traffic := by
  unfold markProcessed
  split <;> rfl

/-- A graph tallies records if it has the nodes and edges, port labels and
counters, in order, of one fold of the records into an empty graph, at whatever
time and with whatever choice of times. -/
def Tallies (mapping : Source.Mapping) (threshold : UInt16) (records : List Record)
    (graph : Graph) : Prop :=
  ∀ useEventTime now, graph.traffic =
    ((empty.fold mapping ⟨threshold, useEventTime⟩ now records).1).traffic

/-- A graph tallies records exactly if it has their traffic. -/
theorem tallies_iff
    {mapping : Source.Mapping}
    {threshold : UInt16}
    {records : List Record}
    {graph : Graph} :
    graph.Tallies mapping threshold records ↔
      graph.traffic = .ofRecords mapping threshold records := by
  simp only [Tallies, traffic_fold, traffic_empty]
  constructor
  · intro tallies
    exact tallies false 0
  · intro equality _ _
    exact equality

end Graph
end TrafficGraph
