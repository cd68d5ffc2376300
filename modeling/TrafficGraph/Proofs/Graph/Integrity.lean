import TrafficGraph.Proofs.Graph.Run

/-!
# Integrity of a graph

The hosts in the table of nodes are exactly those at the sides of the edges, in every
graph that a run makes of the empty one.  Together with what single nodes and edges
repeat of their keys, and with the index of each table, this makes every snapshot
readable: each end of an edge names one listed node.
-/

namespace TrafficGraph

/-- The index of a table finds exactly its entries, each at its own place. -/
structure Table.IsIndexed
    {κ ρ : Type}
    [DecidableEq κ]
    [Hashable κ]
    {key : ρ → κ}
    (table : Table key) : Prop where
  /-- No two entries have the same key. -/
  distinct : (table.toList.map key).Nodup
  /-- The key of an entry leads to the place of the entry. -/
  position_eq : ∀ place entry, table.toList[place]? = some entry →
    table.positions[key entry]? = some place
  /-- Every place in the index lies inside the table and holds an entry with the key. -/
  entry_of_position : ∀ name place, table.positions[name]? = some place →
    ∃ entry, table.toList[place]? = some entry ∧ key entry = name

theorem Table.isIndexed
    {κ ρ : Type}
    [DecidableEq κ]
    [Hashable κ]
    {key : ρ → κ}
    (table : Table key) :
    table.IsIndexed where
  distinct := table.nodup_keys
  position_eq place entry found := by
    apply (table.indexed (key entry) place).2
    rw [toList, Array.getElem?_toList] at found
    rw [found, Option.map_some]
  entry_of_position name place found := by
    have present := (table.indexed name place).1 found
    rw [toList, Array.getElem?_toList]
    exact Option.map_eq_some_iff.1 present

/-- What an edge repeats of its key is the same there, and it was observed. -/
structure Edge.FollowsKey (edge : Edge) : Prop where
  /-- The node at the source side is the host of the key. -/
  sourceId_eq : edge.sourceId = edge.key.source
  /-- The node at the destination side is the host of the key. -/
  destinationId_eq : edge.destinationId = edge.key.destination
  /-- The protocol is that of the key. -/
  protocol_eq : edge.protocol = edge.key.protocol
  /-- The edge was observed. -/
  observed : 1 ≤ edge.eventCount

theorem Edge.one_le_eventCount_observe
    (seenAt byteCount : UInt64)
    (edge : Edge) :
    1 ≤ (edge.observe seenAt byteCount).eventCount := by
  rw [UInt64.le_iff_toNat_le, observe, toNat_saturatingAdd, largestWord, UInt64.toNat_one]
  omega

namespace Graph

variable {admits : UInt16 → Source.Connection → Prop}

theorem kept_address :
    Kept admits fun graph => ∀ node ∈ graph.nodes.toList, node.id = node.address := by
  apply kept_nodes
  · intro threshold connection host seenAt _ _
    rfl
  · intro seenAt node same
    exact same
  · intro thresholds now node same
    exact same
  · intro position node same
    exact same

theorem kept_followsKey :
    Kept admits fun graph => ∀ edge ∈ graph.edges.toList, edge.FollowsKey := by
  apply kept_edges
  · intro threshold connection seenAt byteCount _
    exact ⟨rfl, rfl, rfl, Edge.one_le_eventCount_observe seenAt byteCount _⟩
  · intro seenAt byteCount edge follows
    exact ⟨follows.sourceId_eq, follows.destinationId_eq, follows.protocol_eq,
      Edge.one_le_eventCount_observe seenAt byteCount edge⟩
  · intro thresholds now edge follows
    exact ⟨follows.sourceId_eq, follows.destinationId_eq, follows.protocol_eq, follows.observed⟩

/-- The nodes are exactly the hosts at the sides of the edges. -/
def Spans (graph : Graph) : Prop :=
  ∀ host, graph.nodes.contains host = true ↔
    ∃ key, key.Joins host ∧ graph.edges.contains key = true

theorem spans_empty : empty.Spans := by
  intro host
  simp [empty, Table.contains_eq_isSome]

theorem kept_spans : Kept admits Spans where
  observe options now graph connection _ spans := by
    intro host
    generalize key_eq : EdgeKey.ofConnection options.portThreshold connection = key
    simp only [Table.contains_eq_isSome, graph.find?_nodes_observe key_eq rfl,
      graph.find?_edges_observe key_eq rfl]
    by_cases joins : key.Joins host
    · rw [if_pos joins]
      exact iff_of_true rfl ⟨key, joins, by rw [if_pos rfl, Option.isSome_some]⟩
    · rw [if_neg joins, ← Table.contains_eq_isSome, spans host]
      apply exists_congr
      intro name
      apply and_congr_right
      intro joined
      have different : name ≠ key := fun same => joins (same ▸ joined)
      rw [if_neg different, Table.contains_eq_isSome]
  decayed thresholds now graph spans := by
    intro host
    simpa [Table.contains_eq_isSome] using spans host
  applyPosition update graph spans := by
    intro host
    rw [edges_applyPosition, ← spans host, Table.contains_eq_isSome, Table.contains_eq_isSome,
      find?_nodes_applyPosition]
    split
    · rw [Option.isSome_map]
    · rfl
  withVersion version graph spans := spans

/-- No host at the side of an edge is missing. -/
theorem Spans.exists_node
    {graph : Graph}
    (spans : graph.Spans)
    {key : EdgeKey}
    {edge : Edge}
    (found : graph.edges.find? key = some edge)
    {host : String}
    (joins : key.Joins host) :
    ∃ node, graph.nodes.find? host = some node := by
  rw [← Option.isSome_iff_exists, ← Table.contains_eq_isSome]
  apply (spans host).2
  exact ⟨key, joins, by rw [Table.contains_eq_isSome, found, Option.isSome_some]⟩

/-- Every node is at the side of an edge. -/
theorem Spans.exists_edge
    {graph : Graph}
    (spans : graph.Spans)
    {host : String}
    {node : Node}
    (found : graph.nodes.find? host = some node) :
    ∃ key edge, key.Joins host ∧ graph.edges.find? key = some edge := by
  have present : graph.nodes.contains host = true := by
    rw [Table.contains_eq_isSome, found, Option.isSome_some]
  obtain ⟨key, joins, contained⟩ := (spans host).1 present
  rw [Table.contains_eq_isSome, Option.isSome_iff_exists] at contained
  obtain ⟨edge, foundEdge⟩ := contained
  exact ⟨key, edge, joins, foundEdge⟩

/-- What holds of the tables of a graph and of its snapshots. -/
structure Intact (graph : Graph) : Prop where
  /-- The nodes are found by their identities. -/
  nodes_indexed : graph.nodes.IsIndexed
  /-- The edges are found by their keys. -/
  edges_indexed : graph.edges.IsIndexed
  /-- The identity of a node is the name of its host. -/
  address_eq : ∀ node ∈ graph.nodes.toList, node.id = node.address
  /-- Edges agree with their keys and were observed. -/
  followsKey : ∀ edge ∈ graph.edges.toList, edge.FollowsKey
  /-- Both ends of every edge are nodes. -/
  closed : graph.isClosed = true
  /-- Every node is at the end of an edge. -/
  incident : ∀ node ∈ graph.nodes.toList, ∃ edge ∈ graph.edges.toList,
    edge.sourceId = node.id ∨ edge.destinationId = node.id
  /-- In the snapshot each end of an edge names exactly one listed node. -/
  named_once : ∀ edge ∈ graph.snapshot.edges,
    (graph.snapshot.nodes.map NodeView.id).count edge.sourceId = 1 ∧
      (graph.snapshot.nodes.map NodeView.id).count edge.destinationId = 1

theorem count_snapshot_nodes
    {graph : Graph}
    {host : String}
    {node : Node}
    (found : graph.nodes.find? host = some node) :
    (graph.snapshot.nodes.map NodeView.id).count host = 1 := by
  have ids_eq : graph.snapshot.nodes.map NodeView.id = graph.nodes.toList.map Node.id := by
    rw [snapshot, List.map_map]
    rfl
  obtain ⟨listed, named⟩ := (graph.nodes.find?_eq_some_iff host node).1 found
  rw [ids_eq, graph.nodes.nodup_keys.count, if_pos (List.mem_map.2 ⟨node, listed, named⟩)]

/-- The tables are intact if the nodes are the ends of the edges and both repeat their
keys. -/
theorem Spans.intact
    {graph : Graph}
    (spans : graph.Spans)
    (address_eq : ∀ node ∈ graph.nodes.toList, node.id = node.address)
    (followsKey : ∀ edge ∈ graph.edges.toList, edge.FollowsKey) :
    graph.Intact := by
  have ends : ∀ edge ∈ graph.edges.toList,
      (∃ node, graph.nodes.find? edge.sourceId = some node) ∧
        ∃ node, graph.nodes.find? edge.destinationId = some node := by
    intro edge listed
    have found := (graph.edges.mem_toList_iff edge).1 listed
    rw [(followsKey edge listed).sourceId_eq, (followsKey edge listed).destinationId_eq]
    exact ⟨spans.exists_node found (EdgeKey.joins_source _),
      spans.exists_node found (EdgeKey.joins_destination _)⟩
  refine {
    nodes_indexed := graph.nodes.isIndexed
    edges_indexed := graph.edges.isIndexed
    address_eq := address_eq
    followsKey := followsKey
    closed := ?closed
    incident := ?incident
    named_once := ?named }
  case closed =>
    rw [isClosed, List.all_eq_true]
    intro edge listed
    rw [Bool.and_eq_true, Table.contains_eq_isSome, Table.contains_eq_isSome,
      Option.isSome_iff_exists, Option.isSome_iff_exists]
    exact ends edge listed
  case incident =>
    intro node listed
    have found := (graph.nodes.mem_toList_iff node).1 listed
    obtain ⟨key, edge, joins, foundEdge⟩ := spans.exists_edge found
    obtain ⟨listedEdge, named⟩ := (graph.edges.find?_eq_some_iff key edge).1 foundEdge
    refine ⟨edge, listedEdge, ?_⟩
    rw [(followsKey edge listedEdge).sourceId_eq, (followsKey edge listedEdge).destinationId_eq,
      named]
    exact joins
  case named =>
    intro view shown
    obtain ⟨edge, listed, rfl⟩ := List.mem_map.1 shown
    obtain ⟨⟨source, isSource⟩, destination, isDestination⟩ := ends edge listed
    exact ⟨count_snapshot_nodes isSource, count_snapshot_nodes isDestination⟩

/-- **Integrity.** Whatever is folded, demoted, moved and noted in a graph that was
empty, its tables and snapshots are intact. -/
theorem intact_after (operations : List Operation) :
    (empty.after operations).Intact := by
  apply Spans.intact
  · exact kept_spans.after_empty spans_empty operations
  · exact kept_address.after_empty (by simp [empty]) operations
  · exact kept_followsKey.after_empty (by simp [empty]) operations

end Graph
end TrafficGraph
