import TrafficGraph.Proofs.Graph.Grouping

/-!
# Collapsed ports as merged edges

Without a threshold every port is a class of its own, and the graph is a literal one.  The
key of a connection under a threshold can be read off its literal key.  So the edges of the
graph under the threshold partition those of the literal graph: each has the sums of the
counters and the extremes of the times of the literal edges that it merges.  Hosts are not
touched by the threshold, so the nodes are the same.
-/

namespace TrafficGraph

/-! ## Counters and times of gathered edges -/

/-- The two counters that edges keep in the same way. -/
inductive Counter
  /-- The number of observations. -/
  | events
  /-- The number of bytes. -/
  | bytes

namespace Counter

/-- The number that an edge has counted. -/
def ofEdge : Counter → Edge → UInt64
  | events => Edge.eventCount
  | bytes => Edge.byteTotal

/-- The number that a connection adds. -/
def ofConnection : Counter → Source.Connection → Nat
  | events => fun _ => 1
  | bytes => fun connection => (connection.byteCount.getD 0).toNat

end Counter

namespace Milestone

/-- Which of several times is kept. -/
def best? : Milestone → List UInt64 → Option UInt64
  | first => List.min?
  | last => List.max?

/-- The time that is kept of several leads them all. -/
theorem best?_eq_some_iff {milestone : Milestone} {times : List UInt64} {best : UInt64} :
    milestone.best? times = some best ↔
      best ∈ times ∧ ∀ time ∈ times, milestone.Leads best time := by
  cases milestone with
  | first =>
      simp only [leads_first_iff]
      exact List.min?_eq_some_iff
  | last =>
      simp only [leads_last_iff]
      exact List.max?_eq_some_iff

theorem Leads.antisymm
    {milestone : Milestone}
    {first second : UInt64}
    (before : milestone.Leads first second)
    (behind : milestone.Leads second first) :
    first = second :=
  before.symm.trans ((milestone.pick_comm first second).trans behind)

end Milestone

namespace Edge.Gathers

variable {options : FoldOptions} {now : UInt64} {key : EdgeKey}
  {group : List Source.Connection} {edge : Edge}

/-- A new edge adds up what its group counts. -/
theorem counter_eq
    (gathers : edge.Gathers options now key group none)
    (counter : Counter) :
    (counter.ofEdge edge).toNat = min largestWord (sumOf counter.ofConnection group) := by
  cases counter with
  | events =>
      have counted := gathers.eventCount_eq
      rw [Option.map_none, Option.getD_none, Nat.zero_add, ← sumOf_one] at counted
      exact counted
  | bytes =>
      have counted := gathers.byteTotal_eq
      rw [Option.map_none, Option.getD_none, Nat.zero_add] at counted
      exact counted

/-- A new edge keeps the extremes of the times of its group. -/
theorem best?_eq
    (gathers : edge.Gathers options now key group none)
    (milestone : Milestone) :
    milestone.best? (group.map (Graph.observationTime options now)) =
      some (milestone.ofEdge edge) := by
  cases milestone with
  | first => exact gathers.recency.earliest
  | last => exact gathers.recency.latest

end Edge.Gathers

namespace Graph.Gathers

variable {options : FoldOptions} {now : UInt64} {connections : List Source.Connection}
  {graph : Graph}

/-- The keys of a gathered graph are those of its connections. -/
theorem mem_keys_iff
    (gathers : empty.Gathers options now connections graph)
    {key : EdgeKey} :
    key ∈ graph.edges.toList.map Edge.key ↔
      ∃ connection ∈ connections, EdgeKey.ofConnection options.portThreshold connection = key := by
  rw [gathers.keys_eq, newKeys, keysOf]
  simp [empty]

/-- Every edge gathers its group from nothing. -/
theorem gathers_new
    (gathers : empty.Gathers options now connections graph)
    {edge : Edge}
    (isEdge : edge ∈ graph.edges.toList) :
    edge.Gathers options now edge.key (groupOf options.portThreshold connections edge.key)
      none := by
  have gathered := gathers.edges edge isEdge
  rwa [empty, Table.find?_empty] at gathered

/-- The edges with selected keys add up what the connections with selected keys count. -/
theorem sumOf_counter
    (gathers : empty.Gathers options now connections graph)
    (counter : Counter)
    (selected : EdgeKey → Bool) :
    min largestWord (sumOf (fun edge => (counter.ofEdge edge).toNat)
        (graph.edges.toList.filter fun edge => selected edge.key)) =
      min largestWord (sumOf counter.ofConnection (connections.filter fun connection =>
        selected (.ofConnection options.portThreshold connection))) := by
  have counted : ∀ edge ∈ graph.edges.toList.filter fun edge => selected edge.key,
      (counter.ofEdge edge).toNat = min largestWord (sumOf counter.ofConnection
        ((connections.filter fun connection =>
          selected (.ofConnection options.portThreshold connection)).filter
            (EdgeKey.ofConnection options.portThreshold · = edge.key))) := by
    intro edge isSelected
    obtain ⟨isEdge, hasKey⟩ := List.mem_filter.1 isSelected
    rw [(gathers.gathers_new isEdge).counter_eq, groupOf, List.filter_filter]
    congr 2
    apply List.filter_congr
    intro connection _
    by_cases same : EdgeKey.ofConnection options.portThreshold connection = edge.key
    · simp [same, hasKey]
    · simp [same]
  have distinct : ((graph.edges.toList.filter fun edge => selected edge.key).map
      Edge.key).Nodup :=
    graph.edges.nodup_keys.sublist (List.filter_sublist.map Edge.key)
  have covered : ∀ connection ∈ connections.filter fun connection =>
      selected (.ofConnection options.portThreshold connection),
      EdgeKey.ofConnection options.portThreshold connection ∈
        (graph.edges.toList.filter fun edge => selected edge.key).map Edge.key := by
    intro connection isSelected
    obtain ⟨isObserved, hasKey⟩ := List.mem_filter.1 isSelected
    obtain ⟨edge, isEdge, named⟩ := List.mem_map.1
      (gathers.mem_keys_iff.2 ⟨connection, isObserved, rfl⟩)
    exact List.mem_map.2 ⟨edge, List.mem_filter.2 ⟨isEdge, named ▸ hasKey⟩, named⟩
  rw [sumOf_congr counted, min_sumOf_min, ← sumOf_groups _ _ distinct covered]
  simp only [sumOf, List.map_map, Function.comp_def]

/-- The edges with selected keys have the extremes of the times of the connections with
selected keys. -/
theorem best?_edges
    (gathers : empty.Gathers options now connections graph)
    {milestone : Milestone}
    (selected : EdgeKey → Bool)
    {time : UInt64}
    (best : milestone.best? ((connections.filter fun connection =>
      selected (.ofConnection options.portThreshold connection)).map
        (observationTime options now)) = some time) :
    milestone.best? ((graph.edges.toList.filter fun edge => selected edge.key).map
      milestone.ofEdge) = some time := by
  obtain ⟨isTime, leads⟩ := Milestone.best?_eq_some_iff.1 best
  have group_times {edge : Edge} (isEdge : edge ∈ graph.edges.toList) :=
    Milestone.best?_eq_some_iff.1 ((gathers.gathers_new isEdge).best?_eq milestone)
  -- The time of an edge is one of a connection that has its key.
  have time_leads : ∀ edge ∈ graph.edges.toList, selected edge.key = true →
      milestone.Leads time (milestone.ofEdge edge) := by
    intro edge isEdge hasKey
    obtain ⟨connection, inGroup, same⟩ := List.mem_map.1 (group_times isEdge).1
    obtain ⟨isObserved, named⟩ := List.mem_filter.1 inGroup
    apply leads
    refine List.mem_map.2 ⟨connection, List.mem_filter.2 ⟨isObserved, ?_⟩, same⟩
    rwa [of_decide_eq_true named]
  rw [Milestone.best?_eq_some_iff]
  constructor
  · obtain ⟨connection, isSelected, same⟩ := List.mem_map.1 isTime
    obtain ⟨isObserved, hasKey⟩ := List.mem_filter.1 isSelected
    obtain ⟨edge, isEdge, named⟩ := List.mem_map.1
      (gathers.mem_keys_iff.2 ⟨connection, isObserved, rfl⟩)
    have inGroup : connection ∈ groupOf options.portThreshold connections edge.key :=
      List.mem_filter.2 ⟨isObserved, decide_eq_true named.symm⟩
    have edge_leads := (group_times isEdge).2 time (List.mem_map.2 ⟨connection, inGroup, same⟩)
    rw [← named] at hasKey
    exact List.mem_map.2 ⟨edge, List.mem_filter.2 ⟨isEdge, hasKey⟩,
      edge_leads.antisymm (time_leads edge isEdge hasKey)⟩
  · intro other isOther
    obtain ⟨edge, isSelected, rfl⟩ := List.mem_map.1 isOther
    obtain ⟨isEdge, hasKey⟩ := List.mem_filter.1 isSelected
    exact time_leads edge isEdge hasKey

end Graph.Gathers

/-! ## Literal keys -/

namespace EdgeKey

/-- The connection with the parts of a literal key. -/
def literalConnection (key : EdgeKey) : Source.Connection where
  source := key.source
  destination := key.destination
  sourcePort := key.sourcePort
  destinationPort := key.destinationPort
  protocol := some key.protocol
  timestamp := none
  byteCount := none

/-- The key under a threshold of what has a literal key. -/
def collapse (threshold : UInt16) (key : EdgeKey) : EdgeKey :=
  ofConnection threshold key.literalConnection

@[simp] theorem namedPort_namedPort (port : Option UInt16) :
    namedPort (namedPort port) = namedPort port := by
  simp [namedPort]

/-- Without a threshold a key shows the connection as it was observed. -/
theorem ofConnection_zero (connection : Source.Connection) :
    ofConnection 0 connection = {
      source := connection.source
      destination := connection.destination
      protocol := connection.protocol.getD ""
      sourcePort := namedPort connection.sourcePort
      destinationPort := namedPort connection.destinationPort } := by
  have kept : isReversed 0 (namedPort connection.sourcePort)
      (namedPort connection.destinationPort) = false := by
    unfold isReversed
    split
    · simp
    · rfl
  have portClass_zero : portClass 0 = id := funext fun port => if_neg (by simp)
  rw [ofConnection, kept, portClass_zero, Option.map_id]
  rfl

/-- A literal key decides the key under every threshold. -/
theorem collapse_ofConnection (threshold : UInt16) (connection : Source.Connection) :
    (ofConnection 0 connection).collapse threshold = ofConnection threshold connection := by
  rw [ofConnection_zero, collapse, ofConnection, ofConnection]
  simp only [literalConnection, namedPort_namedPort, Option.getD_some]

end EdgeKey

/-- An edge merges others if it has the sums of their counters, cut at the largest word, and
the extremes of their times. -/
structure Edge.Merges (parts : List Edge) (edge : Edge) : Prop where
  /-- The observations add up. -/
  eventCount_eq : edge.eventCount.toNat =
    min largestWord (sumOf (fun part => part.eventCount.toNat) parts)
  /-- The bytes add up. -/
  byteTotal_eq : edge.byteTotal.toNat =
    min largestWord (sumOf (fun part => part.byteTotal.toNat) parts)
  /-- The first time is the earliest. -/
  earliest : (parts.map Edge.firstSeen).min? = some edge.firstSeen
  /-- The last time is the latest. -/
  latest : (parts.map Edge.lastSeen).max? = some edge.lastSeen

namespace Graph

/-- The edges of a literal graph that have a given key under a threshold. -/
def edgesInto (literal : Graph) (threshold : UInt16) (key : EdgeKey) : List Edge :=
  literal.edges.toList.filter fun edge => edge.key.collapse threshold = key

/-- A graph under a threshold is a quotient of a literal one. -/
structure Collapses (threshold : UInt16) (literal collapsed : Graph) : Prop where
  /-- The literal keys are mapped onto the keys. -/
  keys_onto : ∀ key, key ∈ collapsed.edges.toList.map Edge.key ↔
    key ∈ (literal.edges.toList.map Edge.key).map (EdgeKey.collapse threshold)
  /-- Every edge merges the literal ones that are mapped to its key. -/
  merges : ∀ edge ∈ collapsed.edges.toList, edge.Merges (literal.edgesInto threshold edge.key)
  /-- The nodes are the same. -/
  find?_nodes_eq : ∀ host, collapsed.nodes.find? host = literal.nodes.find? host
  /-- There are not more edges. -/
  size_le : collapsed.edges.size ≤ literal.edges.size
  /-- No observation is lost or invented. -/
  events_eq : min largestWord (sumOf (fun edge => edge.eventCount.toNat) collapsed.edges.toList) =
    min largestWord (sumOf (fun edge => edge.eventCount.toNat) literal.edges.toList)
  /-- Nor is any traffic. -/
  bytes_eq : min largestWord (sumOf (fun edge => edge.byteTotal.toNat) collapsed.edges.toList) =
    min largestWord (sumOf (fun edge => edge.byteTotal.toNat) literal.edges.toList)

namespace Gathers

variable {literalOptions collapsedOptions : FoldOptions} {now : UInt64}
  {connections : List Source.Connection} {literal collapsed : Graph}

/-- The literal keys of connections are mapped onto their keys under a threshold. -/
theorem keys_onto
    (literalGathers : empty.Gathers literalOptions now connections literal)
    (collapsedGathers : empty.Gathers collapsedOptions now connections collapsed)
    (isLiteral : literalOptions.portThreshold = 0)
    (key : EdgeKey) :
    key ∈ collapsed.edges.toList.map Edge.key ↔
      key ∈ (literal.edges.toList.map Edge.key).map
        (EdgeKey.collapse collapsedOptions.portThreshold) := by
  rw [collapsedGathers.mem_keys_iff, List.mem_map]
  simp only [literalGathers.mem_keys_iff, isLiteral]
  constructor
  · rintro ⟨connection, isObserved, rfl⟩
    exact ⟨_, ⟨connection, isObserved, rfl⟩, EdgeKey.collapse_ofConnection _ connection⟩
  · rintro ⟨_, ⟨connection, isObserved, rfl⟩, rfl⟩
    exact ⟨connection, isObserved, (EdgeKey.collapse_ofConnection _ connection).symm⟩

/-- An edge merges the literal edges whose keys are mapped to its own: both sides count the
same connections. -/
theorem merges
    (literalGathers : empty.Gathers literalOptions now connections literal)
    (collapsedGathers : empty.Gathers collapsedOptions now connections collapsed)
    (isLiteral : literalOptions.portThreshold = 0)
    (sameTimes : observationTime literalOptions now = observationTime collapsedOptions now)
    {edge : Edge}
    (isEdge : edge ∈ collapsed.edges.toList) :
    edge.Merges (literal.edgesInto collapsedOptions.portThreshold edge.key) := by
  have gathered := collapsedGathers.gathers_new isEdge
  have group_eq : groupOf collapsedOptions.portThreshold connections edge.key =
      connections.filter fun connection =>
        decide ((EdgeKey.ofConnection literalOptions.portThreshold connection).collapse
          collapsedOptions.portThreshold = edge.key) := by
    simp only [isLiteral, EdgeKey.collapse_ofConnection]
    rfl
  have counted (counter : Counter) := (gathered.counter_eq counter).trans
    (group_eq ▸ (literalGathers.sumOf_counter counter fun key =>
      decide (key.collapse collapsedOptions.portThreshold = edge.key)).symm)
  have kept (milestone : Milestone) := literalGathers.best?_edges
    (fun key => decide (key.collapse collapsedOptions.portThreshold = edge.key))
    (sameTimes ▸ group_eq ▸ gathered.best?_eq milestone)
  exact ⟨counted .events, counted .bytes, kept .first, kept .last⟩

end Gathers

/-- **Collapsing.** A batch folded into an empty graph under a threshold gives a quotient of
what it gives without one. -/
theorem collapses_fold
    (mapping : Source.Mapping)
    (useEventTime : Bool)
    (now : UInt64)
    (records : List Record)
    (threshold : UInt16) :
    Collapses threshold
      (empty.fold mapping ⟨0, useEventTime⟩ now records).1
      (empty.fold mapping ⟨threshold, useEventTime⟩ now records).1 := by
  rw [fold_fst, fold_fst]
  generalize records.filterMap (Source.connection? mapping) = connections
  have literal := gathers_foldl ⟨0, useEventTime⟩ now empty connections
  have collapsed := gathers_foldl ⟨threshold, useEventTime⟩ now empty connections
  have keys_onto := literal.keys_onto collapsed rfl
  have conserved (counter : Counter) :=
    (collapsed.sumOf_counter counter fun _ => true).trans
      (literal.sumOf_counter counter fun _ => true).symm
  simp only [List.filter_true] at conserved
  refine {
    keys_onto := keys_onto
    merges := fun edge isEdge => literal.merges collapsed rfl rfl isEdge
    find?_nodes_eq := fun host => ?nodes
    size_le := ?size
    events_eq := conserved .events
    bytes_eq := conserved .bytes }
  case nodes =>
    rw [find?_nodes_foldl, find?_nodes_foldl]
    rfl
  case size =>
    have listed_le := (Table.nodup_keys _).length_le_of_subset fun key listed =>
      (keys_onto key).1 listed
    rw [List.length_map, List.length_map, List.length_map] at listed_le
    exact listed_le

end Graph
end TrafficGraph
