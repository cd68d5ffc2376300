import TrafficGraph.Proofs.Graph.Counting
import TrafficGraph.Proofs.Graph.Extension
import TrafficGraph.Proofs.Graph.Recency
import TrafficGraph.Proofs.Graph.Reordering
import TrafficGraph.Proofs.Sum

/-!
# A fold as a grouping

Folding a batch visits its connections one after the other.  The same graph comes out if the
connections are grouped first: by key for the edges and by host for the nodes.  Every entry
then takes the extremes of the times of its group and adds up the group's counters, which
stop at the largest word only once, at the end; entries that were missing are listed behind
the others in the order in which the batch names them first.
-/

namespace TrafficGraph

/-! ## Entries in order of first occurrence -/

/-- Lists an item behind the others unless it is listed. -/
def listed {α : Type} [DecidableEq α] (items : List α) (item : α) : List α :=
  if item ∈ items then items else items ++ [item]

/-- Listing items one after the other adds those that are not listed, each at its first
occurrence. -/
theorem foldl_listed
    {α : Type}
    [DecidableEq α]
    (base items : List α) :
    items.foldl listed base = base ++ (items.filter (· ∉ base)).eraseDups := by
  induction items generalizing base with
  | nil => simp
  | cons item items inductionHypothesis =>
      rw [List.foldl_cons, inductionHypothesis, listed]
      by_cases known : item ∈ base
      · rw [if_pos known, List.filter_cons_of_neg (by simpa using known)]
      · rw [if_neg known, List.filter_cons_of_pos (by simpa using known), List.eraseDups_cons,
          List.filter_filter, List.append_assoc, List.singleton_append]
        have remaining : (items.filter (· ∉ base ++ [item])) =
            items.filter fun other => !other == item && decide (other ∉ base) := by
          apply List.filter_congr
          intro other _
          by_cases same : other = item <;> simp [same]
        rw [remaining]

namespace Graph

/-- The keys under which connections are observed, in order. -/
def keysOf (threshold : UInt16) (connections : List Source.Connection) : List EdgeKey :=
  connections.map (.ofConnection threshold)

/-- The hosts of these keys in order, of each key the source side first. -/
def hostsOf (threshold : UInt16) (connections : List Source.Connection) : List String :=
  (keysOf threshold connections).flatMap fun key => [key.source, key.destination]

/-- The hosts that connections add to a graph, in order of first occurrence. -/
def newHosts (threshold : UInt16) (connections : List Source.Connection) (graph : Graph) :
    List String :=
  ((hostsOf threshold connections).filter
    (· ∉ graph.nodes.toList.map Node.id)).eraseDups

/-- The keys that connections add to a graph, in order of first occurrence. -/
def newKeys (threshold : UInt16) (connections : List Source.Connection) (graph : Graph) :
    List EdgeKey :=
  ((keysOf threshold connections).filter
    (· ∉ graph.edges.toList.map Edge.key)).eraseDups

end Graph

namespace Traffic

theorem hosts_observe
    (threshold : UInt16)
    (traffic : Traffic)
    (connection : Source.Connection) :
    (traffic.observe threshold connection).hosts =
      (Graph.hostsOf threshold [connection]).foldl listed traffic.hosts := rfl

/-- A batch lists its hosts one after the other. -/
theorem hosts_foldl
    (threshold : UInt16)
    (traffic : Traffic)
    (connections : List Source.Connection) :
    (connections.foldl (observe threshold) traffic).hosts =
      (Graph.hostsOf threshold connections).foldl listed traffic.hosts := by
  induction connections generalizing traffic with
  | nil => rfl
  | cons connection connections inductionHypothesis =>
      rw [List.foldl_cons, inductionHypothesis, hosts_observe, ← List.foldl_append]
      rfl

theorem keys_observe
    (threshold : UInt16)
    (traffic : Traffic)
    (connection : Source.Connection) :
    (traffic.observe threshold connection).edges.map EdgeTraffic.key =
      listed (traffic.edges.map EdgeTraffic.key) (.ofConnection threshold connection) := by
  rw [Traffic.observe, observeEdge, listed]
  change (if _ ∈ traffic.edges.map EdgeTraffic.key then _ else _ : List EdgeTraffic).map _ = _
  split
  · exact keys_count _ _ _
  · rw [List.map_append]
    rfl

/-- A batch lists its keys one after the other. -/
theorem keys_foldl
    (threshold : UInt16)
    (traffic : Traffic)
    (connections : List Source.Connection) :
    (connections.foldl (observe threshold) traffic).edges.map EdgeTraffic.key =
      (Graph.keysOf threshold connections).foldl listed (traffic.edges.map EdgeTraffic.key) := by
  induction connections generalizing traffic with
  | nil => rfl
  | cons connection connections inductionHypothesis =>
      rw [List.foldl_cons, inductionHypothesis, keys_observe]
      rfl

end Traffic

/-! ## Nodes and edges with their groups -/

/-- What a group of observations makes of the node of a host, or of none. -/
structure Node.Gathers (host : String) (times : List UInt64) (before : Option Node)
    (node : Node) : Prop where
  /-- The times are the extremes, and an observed node is active. -/
  recency : node.recency.Gathers (before.map Node.recency) times
  /-- A new node has the name of the host. -/
  address_eq : node.address = (before.map Node.address).getD host
  /-- The node stays in its place, and a new one has none. -/
  position_eq : node.position = before.bind Node.position
  /-- A node that was not observed stays as it was. -/
  untouched : times = [] → before = some node

/-- What a group of connections makes of the edge of a key, or of none. -/
structure Edge.Gathers (options : FoldOptions) (now : UInt64) (key : EdgeKey)
    (group : List Source.Connection) (before : Option Edge) (edge : Edge) : Prop where
  /-- The times are the extremes, and an observed edge is active. -/
  recency : edge.recency.Gathers (before.map Edge.recency)
    (group.map (Graph.observationTime options now))
  /-- The observations are counted up to the largest word. -/
  eventCount_eq : edge.eventCount.toNat =
    min largestWord ((before.map (·.eventCount.toNat)).getD 0 + group.length)
  /-- The bytes are added up to the largest word, those not given as none. -/
  byteTotal_eq : edge.byteTotal.toNat =
    min largestWord ((before.map (·.byteTotal.toNat)).getD 0 +
      sumOf (fun connection => (connection.byteCount.getD 0).toNat) group)
  /-- A new edge begins at the source of its key. -/
  sourceId_eq : edge.sourceId = (before.map Edge.sourceId).getD key.source
  /-- A new edge ends at the destination of its key. -/
  destinationId_eq : edge.destinationId = (before.map Edge.destinationId).getD key.destination
  /-- A new edge has the protocol of its key. -/
  protocol_eq : edge.protocol = (before.map Edge.protocol).getD key.protocol
  /-- The port of a new edge is shown under the present threshold. -/
  sourcePortLabel_eq : edge.sourcePortLabel =
    (before.map Edge.sourcePortLabel).getD (portLabel options.portThreshold key.sourcePort)
  /-- So is its other port. -/
  destinationPortLabel_eq : edge.destinationPortLabel =
    (before.map Edge.destinationPortLabel).getD
      (portLabel options.portThreshold key.destinationPort)
  /-- An edge that was not observed stays as it was. -/
  untouched : group = [] → before = some edge

/-- A sum may stop at the largest word after its first part or at the end. -/
theorem min_saturatingAdd (first second : UInt64) (rest : Nat) :
    min largestWord ((saturatingAdd first second).toNat + rest) =
      min largestWord (first.toNat + (second.toNat + rest)) := by
  rw [toNat_saturatingAdd]
  omega

/-- Noting a host at one time after the other gathers the times. -/
theorem Node.gathers_of_foldl_noted
    {host : String}
    {times : List UInt64}
    {before : Option Node}
    {node : Node}
    (noted : times.foldl (fun found seenAt => Node.noted host seenAt found) before = some node) :
    node.Gathers host times before := by
  induction times generalizing before with
  | nil =>
      rw [List.foldl_nil] at noted
      rw [noted]
      exact ⟨Recency.gathers_nil _, rfl, rfl, fun _ => rfl⟩
  | cons seenAt times inductionHypothesis =>
      have gathers := inductionHypothesis noted
      refine ⟨.cons ?recency, ?address, ?position, fun nothing => ?_⟩
      case recency => cases before <;> exact gathers.recency
      case address => cases before <;> exact gathers.address_eq
      case position => cases before <;> exact gathers.position_eq
      cases nothing

/-- Noting one connection after the other under a key gathers the connections. -/
theorem Edge.gathers_of_foldl_noted
    {options : FoldOptions}
    {now : UInt64}
    {key : EdgeKey}
    {group : List Source.Connection}
    {before : Option Edge}
    {edge : Edge}
    (noted : group.foldl (fun found connection =>
      Edge.noted options.portThreshold key (Graph.observationTime options now connection)
        (connection.byteCount.getD 0) found) before = some edge) :
    edge.Gathers options now key group before := by
  induction group generalizing before with
  | nil =>
      rw [List.foldl_nil] at noted
      have eventBound := edge.eventCount.toNat_lt
      have byteBound := edge.byteTotal.toNat_lt
      rw [noted]
      refine ⟨Recency.gathers_nil _, ?count, ?bytes, rfl, rfl, rfl, rfl, rfl, fun _ => rfl⟩
      case count =>
        rw [Option.map_some, Option.getD_some, List.length_nil, largestWord]
        omega
      case bytes =>
        rw [Option.map_some, Option.getD_some, sumOf_nil, largestWord]
        omega
  | cons connection group inductionHypothesis =>
      have gathers := inductionHypothesis noted
      refine ⟨.cons ?recency, ?count, ?bytes, ?source, ?destination, ?protocol, ?sourcePort,
        ?destinationPort, fun nothing => ?_⟩
      case recency => cases before <;> exact gathers.recency
      case count =>
        rw [gathers.eventCount_eq, List.length_cons, Nat.add_comm group.length]
        cases before with
        | none => exact min_saturatingAdd 0 1 group.length
        | some old => exact min_saturatingAdd old.eventCount 1 group.length
      case bytes =>
        rw [gathers.byteTotal_eq, sumOf_cons]
        cases before with
        | none => exact min_saturatingAdd 0 (connection.byteCount.getD 0) _
        | some old => exact min_saturatingAdd old.byteTotal (connection.byteCount.getD 0) _
      case source => cases before <;> exact gathers.sourceId_eq
      case destination => cases before <;> exact gathers.destinationId_eq
      case protocol => cases before <;> exact gathers.protocol_eq
      case sourcePort => cases before <;> exact gathers.sourcePortLabel_eq
      case destinationPort => cases before <;> exact gathers.destinationPortLabel_eq
      cases nothing

namespace Graph

/-- The times at which a host is observed. -/
def timesAt (options : FoldOptions) (now : UInt64) (connections : List Source.Connection)
    (host : String) : List UInt64 :=
  (connections.filter (·.Joins host)).map (observationTime options now)

/-- The connections that are observed under a key. -/
def groupOf (threshold : UInt16) (connections : List Source.Connection) (key : EdgeKey) :
    List Source.Connection :=
  connections.filter (EdgeKey.ofConnection threshold · = key)

/-- Under a host a batch notes the times of the connections at that host. -/
theorem find?_nodes_foldl
    (options : FoldOptions)
    (now : UInt64)
    (graph : Graph)
    (connections : List Source.Connection)
    (host : String) :
    (connections.foldl (observe options now) graph).nodes.find? host =
      (timesAt options now connections host).foldl
        (fun found seenAt => Node.noted host seenAt found) (graph.nodes.find? host) := by
  induction connections generalizing graph with
  | nil => rfl
  | cons connection connections inductionHypothesis =>
      rw [List.foldl_cons, inductionHypothesis, graph.find?_nodes_observe rfl rfl]
      simp only [EdgeKey.joins_ofConnection_iff]
      by_cases joins : connection.Joins host
      · rw [if_pos joins, timesAt, timesAt, List.filter_cons_of_pos (by simpa using joins)]
        rfl
      · rw [if_neg joins, timesAt, timesAt, List.filter_cons_of_neg (by simpa using joins)]

/-- Under a key a batch notes the connections that have the key. -/
theorem find?_edges_foldl
    (options : FoldOptions)
    (now : UInt64)
    (graph : Graph)
    (connections : List Source.Connection)
    (key : EdgeKey) :
    (connections.foldl (observe options now) graph).edges.find? key =
      (groupOf options.portThreshold connections key).foldl
        (fun found connection =>
          Edge.noted options.portThreshold key (observationTime options now connection)
            (connection.byteCount.getD 0) found) (graph.edges.find? key) := by
  induction connections generalizing graph with
  | nil => rfl
  | cons connection connections inductionHypothesis =>
      rw [List.foldl_cons, inductionHypothesis, graph.find?_edges_observe rfl rfl]
      by_cases same : EdgeKey.ofConnection options.portThreshold connection = key
      · rw [groupOf, groupOf, List.filter_cons_of_pos (by simpa using same), if_pos same.symm,
          same]
        rfl
      · rw [groupOf, groupOf, List.filter_cons_of_neg (by simpa using same),
          if_neg fun named => same named.symm]

/-- What connections make of a graph, group by group. -/
structure Gathers (options : FoldOptions) (now : UInt64) (connections : List Source.Connection)
    (before after : Graph) : Prop where
  /-- The new hosts come behind the old ones in order of first occurrence. -/
  hosts_eq : after.nodes.toList.map Node.id =
    before.nodes.toList.map Node.id ++ before.newHosts options.portThreshold connections
  /-- So do the new keys. -/
  keys_eq : after.edges.toList.map Edge.key =
    before.edges.toList.map Edge.key ++ before.newKeys options.portThreshold connections
  /-- Every node gathers the times of the connections at its host. -/
  nodes : ∀ node ∈ after.nodes.toList,
    node.Gathers node.id (timesAt options now connections node.id)
      (before.nodes.find? node.id)
  /-- Every edge gathers the connections that have its key. -/
  edges : ∀ edge ∈ after.edges.toList,
    edge.Gathers options now edge.key (groupOf options.portThreshold connections edge.key)
      (before.edges.find? edge.key)
  /-- The version stays. -/
  version_eq : after.version = before.version

/-- Observing connections one after the other gathers them. -/
theorem gathers_foldl
    (options : FoldOptions)
    (now : UInt64)
    (before : Graph)
    (connections : List Source.Connection) :
    before.Gathers options now connections (connections.foldl (observe options now) before) := by
  have traffic_eq := traffic_foldl options now before connections
  refine ⟨?hosts, ?keys, ?nodes, ?edges, version_foldl options now before connections⟩
  case hosts =>
    have hosts_eq := congrArg Traffic.hosts traffic_eq
    rw [Traffic.hosts_foldl, foldl_listed] at hosts_eq
    exact hosts_eq
  case keys =>
    have keys_eq := congrArg (fun traffic => traffic.edges.map EdgeTraffic.key) traffic_eq
    rw [Traffic.keys_foldl, foldl_listed, traffic, traffic, List.map_map, List.map_map] at keys_eq
    exact keys_eq
  case nodes =>
    intro node isNode
    have found := (Table.mem_toList_iff _ node).1 isNode
    rw [find?_nodes_foldl] at found
    exact Node.gathers_of_foldl_noted found
  case edges =>
    intro edge isEdge
    have found := (Table.mem_toList_iff _ edge).1 isEdge
    rw [find?_edges_foldl] at found
    exact Edge.gathers_of_foldl_noted found

/-! ## What a fold counts -/

/-- A number that every record raises by as much as it makes the graph larger tells how much
larger the whole batch makes it. -/
theorem grown_fold
    {mapping : Source.Mapping}
    {options : FoldOptions}
    {now : UInt64}
    (size : Graph → Nat)
    (count : FoldOutcome → Nat)
    (zero : count .zero = 0)
    (add : ∀ first second, count (.add first second) = count first + count second)
    (step : ∀ (graph : Graph) record,
      size (graph.foldRecord mapping options now record).1 =
        size graph + count (graph.foldRecord mapping options now record).2)
    (graph : Graph)
    (records : List Record) :
    size (graph.fold mapping options now records).1 =
      size graph + count (graph.fold mapping options now records).2 := by
  refine List.foldlRecOn
    (motive := fun result : Graph × FoldOutcome => size result.1 = size graph + count result.2)
    records _ ?initial ?next
  case initial => rw [zero, Nat.add_zero]
  case next =>
    intro result balanced record _
    change size (result.1.foldRecord mapping options now record).1 =
      size graph + count (result.2.add (result.1.foldRecord mapping options now record).2)
    rw [step, add, balanced, Nat.add_assoc]

/-- The numbers of new nodes and edges are those by which a fold makes the tables longer. -/
theorem size_fold
    (mapping : Source.Mapping)
    (options : FoldOptions)
    (now : UInt64)
    (graph : Graph)
    (records : List Record) :
    (graph.fold mapping options now records).1.nodes.size =
        graph.nodes.size + (graph.fold mapping options now records).2.newNodes ∧
      (graph.fold mapping options now records).1.edges.size =
        graph.edges.size + (graph.fold mapping options now records).2.newEdges := by
  have longer (graph : Graph) (connection : Source.Connection) :
      graph.nodes.size ≤ (graph.observe options now connection).nodes.size ∧
        graph.edges.size ≤ (graph.observe options now connection).edges.size := by
    have extension := Extends.observe options now graph connection
    have hosts_le := (extension.nodes.map_prefix fun _ _ refreshes => refreshes.id_eq).length_le
    have keys_le := (extension.edges.map_prefix fun _ _ refreshes => refreshes.key_eq).length_le
    rw [List.length_map, List.length_map] at hosts_le keys_le
    exact ⟨hosts_le, keys_le⟩
  constructor
  · apply grown_fold (fun graph => graph.nodes.size) FoldOutcome.newNodes rfl fun _ _ => rfl
    intro graph record
    unfold foldRecord
    cases Source.connection? mapping record with
    | none => rfl
    | some connection =>
        exact (Nat.add_sub_of_le (longer graph connection).1).symm
  · apply grown_fold (fun graph => graph.edges.size) FoldOutcome.newEdges rfl fun _ _ => rfl
    intro graph record
    unfold foldRecord
    cases Source.connection? mapping record with
    | none => rfl
    | some connection =>
        exact (Nat.add_sub_of_le (longer graph connection).2).symm

/-- **Grouping.** A fold makes of a graph what its connections make of it group by group: the
new hosts and keys come behind the old ones in order of first occurrence, every entry gathers
its group, and nothing else changes; and it counts its records and what it added. -/
theorem groups_fold
    (mapping : Source.Mapping)
    (options : FoldOptions)
    (now : UInt64)
    (graph : Graph)
    (records : List Record) :
    graph.Gathers options now (records.filterMap (Source.connection? mapping))
        (graph.fold mapping options now records).1 ∧
      (graph.fold mapping options now records).2 = {
        folded := (records.filterMap (Source.connection? mapping)).length
        skipped := records.countP fun record => (Source.connection? mapping record).isNone
        newNodes := (graph.newHosts options.portThreshold
          (records.filterMap (Source.connection? mapping))).length
        newEdges := (graph.newKeys options.portThreshold
          (records.filterMap (Source.connection? mapping))).length } := by
  have gathers := gathers_foldl options now graph
    (records.filterMap (Source.connection? mapping))
  rw [← fold_fst] at gathers
  refine ⟨gathers, ?_⟩
  obtain ⟨nodes_grown, edges_grown⟩ := size_fold mapping options now graph records
  have hosts_added := congrArg List.length gathers.hosts_eq
  have keys_added := congrArg List.length gathers.keys_eq
  rw [List.length_append, List.length_map, List.length_map, Table.length_toList,
    Table.length_toList] at hosts_added keys_added
  rw [FoldOutcome.mk.injEq, folded_fold, skipped_fold, List.length_filterMap_eq_countP]
  exact ⟨rfl, rfl, Nat.add_left_cancel (nodes_grown.symm.trans hosts_added),
    Nat.add_left_cancel (edges_grown.symm.trans keys_added)⟩

end Graph
end TrafficGraph
