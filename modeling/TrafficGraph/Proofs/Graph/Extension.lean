import TrafficGraph.Proofs.Graph.Run

/-!
# How graphs grow in place

A graph never loses an entry or moves it to another place in its table.  Observing,
demoting and moving refresh entries: what identifies them stays, counts and last times
never fall and first times never rise.  New entries come behind all others, so a list of
keys taken earlier is the beginning of any taken later.
-/

namespace TrafficGraph

namespace Table

variable {κ ρ : Type} [DecidableEq κ] [Hashable κ] {key : ρ → κ}

/-- The entry at each place of one table is found at the same place of a later one, where
it is related to what it was. -/
def Extends (refreshes : ρ → ρ → Prop) (earlier later : Table key) : Prop :=
  ∀ (place : Nat) (entry : ρ), earlier.toList[place]? = some entry →
    ∃ refreshed, later.toList[place]? = some refreshed ∧ refreshes entry refreshed

variable {refreshes : ρ → ρ → Prop} {earlier middle later : Table key}

theorem Extends.refl
    (same : ∀ entry, refreshes entry entry)
    (table : Table key) :
    table.Extends refreshes table :=
  fun _ entry found => ⟨entry, found, same entry⟩

theorem Extends.trans
    (compose : ∀ first second third, refreshes first second → refreshes second third →
      refreshes first third)
    (before : earlier.Extends refreshes middle)
    (behind : middle.Extends refreshes later) :
    earlier.Extends refreshes later := by
  intro place entry found
  obtain ⟨second, isSecond, toSecond⟩ := before place entry found
  obtain ⟨third, isThird, toThird⟩ := behind place second isSecond
  exact ⟨third, isThird, compose entry second third toSecond toThird⟩

/-- Refreshing the entries of a table extends it. -/
theorem extends_of_toList_eq_map
    {change : ρ → ρ}
    (change_refreshes : ∀ entry, refreshes entry (change entry))
    (entries_eq : later.toList = earlier.toList.map change) :
    earlier.Extends refreshes later := by
  intro place entry found
  refine ⟨change entry, ?_, change_refreshes entry⟩
  rw [entries_eq, List.getElem?_map, found, Option.map_some]

theorem extends_map
    {change : ρ → ρ}
    (change_refreshes : ∀ entry, refreshes entry (change entry))
    (keeps : ∀ entry, key (change entry) = key entry)
    (table : Table key) :
    table.Extends refreshes (table.map change keeps) :=
  extends_of_toList_eq_map change_refreshes (toList_map table change keeps)

theorem extends_modify
    {change : ρ → ρ}
    (same : ∀ entry, refreshes entry entry)
    (change_refreshes : ∀ entry, refreshes entry (change entry))
    (keeps : ∀ entry, key (change entry) = key entry)
    (table : Table key)
    (name : κ) :
    table.Extends refreshes (table.modify name change keeps) := by
  apply extends_of_toList_eq_map ?_ (toList_modify table name change keeps)
  intro entry
  split
  · exact change_refreshes entry
  · exact same entry

/-- Refreshing the entry of a key extends a table, and so does adding one behind all
others. -/
theorem extends_upsert
    {change : ρ → ρ}
    (same : ∀ entry, refreshes entry entry)
    (change_refreshes : ∀ entry, refreshes entry (change entry))
    (keeps : ∀ entry, key (change entry) = key entry)
    (table : Table key)
    (entry : ρ) :
    table.Extends refreshes (table.upsert entry change keeps) := by
  have entries_eq := toList_upsert table entry change keeps
  by_cases present : table.contains (key entry) = true
  · rw [if_pos present] at entries_eq
    apply extends_of_toList_eq_map ?_ entries_eq
    intro other
    split
    · exact change_refreshes other
    · exact same other
  · rw [if_neg present] at entries_eq
    intro place other found
    refine ⟨other, ?_, same other⟩
    rw [entries_eq, List.getElem?_append_left (List.getElem?_eq_some_iff.1 found).1]
    exact found

/-- Whatever refreshing keeps of the entries is listed as before, and more behind it. -/
theorem Extends.map_prefix
    {α : Type}
    {shown : ρ → α}
    (extension : earlier.Extends refreshes later)
    (kept : ∀ entry refreshed, refreshes entry refreshed → shown refreshed = shown entry) :
    earlier.toList.map shown <+: later.toList.map shown := by
  rw [List.prefix_iff_getElem?]
  intro place inside
  rw [List.length_map] at inside
  obtain ⟨refreshed, isRefreshed, toRefreshed⟩ :=
    extension place _ (List.getElem?_eq_getElem inside)
  rw [List.getElem?_map, isRefreshed, Option.map_some, List.getElem_map,
    kept _ refreshed toRefreshed]

/-- What is found under a key is found there later, refreshed. -/
theorem Extends.find?
    (extension : earlier.Extends refreshes later)
    (kept : ∀ entry refreshed, refreshes entry refreshed → key refreshed = key entry)
    {name : κ}
    {entry : ρ}
    (found : earlier.find? name = some entry) :
    ∃ refreshed, later.find? name = some refreshed ∧ refreshes entry refreshed := by
  obtain ⟨listed, named⟩ := (earlier.find?_eq_some_iff name entry).1 found
  obtain ⟨place, isAt⟩ := List.getElem?_of_mem listed
  obtain ⟨refreshed, isRefreshed, toRefreshed⟩ := extension place entry isAt
  refine ⟨refreshed, (later.find?_eq_some_iff name refreshed).2 ⟨?_, ?_⟩, toRefreshed⟩
  · exact List.mem_of_getElem? isRefreshed
  · rw [kept entry refreshed toRefreshed, named]

end Table

/-- A sum that stops at the end of the range is not below what was added to. -/
theorem le_saturatingAdd (first second : UInt64) : first ≤ saturatingAdd first second := by
  have bound := first.toNat_lt
  rw [UInt64.le_iff_toNat_le, toNat_saturatingAdd, largestWord]
  omega

/-! ## Nodes and edges -/

/-- How a node may differ from what it was. -/
structure Node.Refreshes (earlier later : Node) : Prop where
  /-- The key stays. -/
  id_eq : later.id = earlier.id
  /-- The host stays. -/
  address_eq : later.address = earlier.address
  /-- The first time does not rise. -/
  firstSeen_le : later.firstSeen ≤ earlier.firstSeen
  /-- The last time does not fall. -/
  lastSeen_le : earlier.lastSeen ≤ later.lastSeen

namespace Node.Refreshes

theorem refl (node : Node) : node.Refreshes node :=
  ⟨rfl, rfl, UInt64.le_refl _, UInt64.le_refl _⟩

theorem trans
    (first second third : Node)
    (before : first.Refreshes second)
    (behind : second.Refreshes third) :
    first.Refreshes third where
  id_eq := behind.id_eq.trans before.id_eq
  address_eq := behind.address_eq.trans before.address_eq
  firstSeen_le := UInt64.le_trans behind.firstSeen_le before.firstSeen_le
  lastSeen_le := UInt64.le_trans before.lastSeen_le behind.lastSeen_le

theorem observe (seenAt : UInt64) (node : Node) : node.Refreshes (node.observe seenAt) :=
  ⟨rfl, rfl, Std.min_le_left, Std.left_le_max⟩

theorem decay
    (thresholds : Thresholds)
    (now : UInt64)
    (node : Node) :
    node.Refreshes (node.decay thresholds now) :=
  ⟨rfl, rfl, UInt64.le_refl _, UInt64.le_refl _⟩

theorem moveTo (position : Position) (node : Node) : node.Refreshes (node.moveTo position) :=
  ⟨rfl, rfl, UInt64.le_refl _, UInt64.le_refl _⟩

end Node.Refreshes

/-- How an edge may differ from what it was. -/
structure Edge.Refreshes (earlier later : Edge) : Prop where
  /-- The key stays. -/
  key_eq : later.key = earlier.key
  /-- The node at the source side stays. -/
  sourceId_eq : later.sourceId = earlier.sourceId
  /-- The node at the destination side stays. -/
  destinationId_eq : later.destinationId = earlier.destinationId
  /-- The protocol stays. -/
  protocol_eq : later.protocol = earlier.protocol
  /-- The port shown at the source side stays. -/
  sourcePortLabel_eq : later.sourcePortLabel = earlier.sourcePortLabel
  /-- The port shown at the destination side stays. -/
  destinationPortLabel_eq : later.destinationPortLabel = earlier.destinationPortLabel
  /-- The first time does not rise. -/
  firstSeen_le : later.firstSeen ≤ earlier.firstSeen
  /-- The last time does not fall. -/
  lastSeen_le : earlier.lastSeen ≤ later.lastSeen
  /-- The number of observations does not fall. -/
  eventCount_le : earlier.eventCount ≤ later.eventCount
  /-- The number of bytes does not fall. -/
  byteTotal_le : earlier.byteTotal ≤ later.byteTotal

namespace Edge.Refreshes

theorem refl (edge : Edge) : edge.Refreshes edge :=
  ⟨rfl, rfl, rfl, rfl, rfl, rfl, UInt64.le_refl _, UInt64.le_refl _, UInt64.le_refl _,
    UInt64.le_refl _⟩

theorem trans
    (first second third : Edge)
    (before : first.Refreshes second)
    (behind : second.Refreshes third) :
    first.Refreshes third where
  key_eq := behind.key_eq.trans before.key_eq
  sourceId_eq := behind.sourceId_eq.trans before.sourceId_eq
  destinationId_eq := behind.destinationId_eq.trans before.destinationId_eq
  protocol_eq := behind.protocol_eq.trans before.protocol_eq
  sourcePortLabel_eq := behind.sourcePortLabel_eq.trans before.sourcePortLabel_eq
  destinationPortLabel_eq :=
    behind.destinationPortLabel_eq.trans before.destinationPortLabel_eq
  firstSeen_le := UInt64.le_trans behind.firstSeen_le before.firstSeen_le
  lastSeen_le := UInt64.le_trans before.lastSeen_le behind.lastSeen_le
  eventCount_le := UInt64.le_trans before.eventCount_le behind.eventCount_le
  byteTotal_le := UInt64.le_trans before.byteTotal_le behind.byteTotal_le

theorem observe
    (seenAt byteCount : UInt64)
    (edge : Edge) :
    edge.Refreshes (edge.observe seenAt byteCount) :=
  ⟨rfl, rfl, rfl, rfl, rfl, rfl, Std.min_le_left, Std.left_le_max,
    le_saturatingAdd edge.eventCount 1, le_saturatingAdd edge.byteTotal byteCount⟩

theorem decay
    (thresholds : Thresholds)
    (now : UInt64)
    (edge : Edge) :
    edge.Refreshes (edge.decay thresholds now) :=
  ⟨rfl, rfl, rfl, rfl, rfl, rfl, UInt64.le_refl _, UInt64.le_refl _, UInt64.le_refl _,
    UInt64.le_refl _⟩

end Edge.Refreshes

namespace Graph

/-- Nodes and edges of one graph are found in a later one at the same places,
refreshed. -/
structure Extends (earlier later : Graph) : Prop where
  /-- Nodes stay in place. -/
  nodes : earlier.nodes.Extends Node.Refreshes later.nodes
  /-- Edges stay in place. -/
  edges : earlier.edges.Extends Edge.Refreshes later.edges

namespace Extends

variable {earlier middle later : Graph}

theorem refl (graph : Graph) : graph.Extends graph :=
  ⟨.refl Node.Refreshes.refl _, .refl Edge.Refreshes.refl _⟩

theorem trans
    (before : earlier.Extends middle)
    (behind : middle.Extends later) :
    earlier.Extends later :=
  ⟨.trans Node.Refreshes.trans before.nodes behind.nodes,
    .trans Edge.Refreshes.trans before.edges behind.edges⟩

theorem observeHost
    (address : String)
    (seenAt : UInt64)
    (graph : Graph) :
    graph.Extends (graph.observeHost address seenAt) where
  nodes := Table.extends_upsert Node.Refreshes.refl (Node.Refreshes.observe seenAt) _ _ _
  edges := .refl Edge.Refreshes.refl _

theorem observeEdge
    (threshold : UInt16)
    (key : EdgeKey)
    (seenAt byteCount : UInt64)
    (graph : Graph) :
    graph.Extends (graph.observeEdge threshold key seenAt byteCount) where
  nodes := .refl Node.Refreshes.refl _
  edges := Table.extends_upsert Edge.Refreshes.refl (Edge.Refreshes.observe seenAt byteCount) _ _ _

/-- Observing a connection refreshes what is known of it and adds the rest. -/
theorem observe
    (options : FoldOptions)
    (now : UInt64)
    (graph : Graph)
    (connection : Source.Connection) :
    graph.Extends (graph.observe options now connection) :=
  ((observeHost _ _ graph).trans (observeHost _ _ _)).trans (observeEdge _ _ _ _ _)

theorem decayed
    (thresholds : Thresholds)
    (now : UInt64)
    (graph : Graph) :
    graph.Extends (graph.decayed thresholds now) where
  nodes := Table.extends_map (Node.Refreshes.decay thresholds now)
    (Node.id_decay thresholds now) graph.nodes
  edges := Table.extends_map (Edge.Refreshes.decay thresholds now)
    (Edge.key_decay thresholds now) graph.edges

theorem applyPosition
    (update : PositionUpdate)
    (graph : Graph) :
    graph.Extends (graph.applyPosition update) := by
  unfold Graph.applyPosition
  split
  · exact ⟨Table.extends_modify Node.Refreshes.refl (Node.Refreshes.moveTo update.position)
      (Node.id_moveTo update.position) graph.nodes update.id, .refl Edge.Refreshes.refl _⟩
  · exact .refl graph

end Extends

/-- All steps of a run extend what extended an earlier graph. -/
theorem kept_extends (earlier : Graph) : Kept (fun _ _ => True) earlier.Extends where
  observe options now graph connection _ extension :=
    extension.trans (.observe options now graph connection)
  decayed thresholds now graph extension := extension.trans (.decayed thresholds now graph)
  applyPosition update graph extension := extension.trans (.applyPosition update graph)
  withVersion _ _ extension := ⟨extension.nodes, extension.edges⟩

namespace Extends

theorem fold
    (mapping : Source.Mapping)
    (options : FoldOptions)
    (now : UInt64)
    (graph : Graph)
    (records : List Record) :
    graph.Extends (graph.fold mapping options now records).1 := by
  rw [fold_fst]
  exact (kept_extends graph).foldl_observe options now (fun _ _ => trivial) (.refl graph)

theorem mergePositions
    (updates : List PositionUpdate)
    (graph : Graph) :
    graph.Extends (graph.mergePositions updates).1 :=
  (kept_extends graph).mergePositions updates (.refl graph)

theorem markProcessed
    (version : Int64)
    (graph : Graph) :
    graph.Extends (graph.markProcessed version) := by
  rw [Graph.markProcessed]
  split
  · exact (kept_extends graph).withVersion version graph (.refl graph)
  · exact .refl graph

end Extends
end Graph
end TrafficGraph
