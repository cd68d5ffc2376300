import TrafficGraph.Proofs.Graph.Fold

/-!
# Lookups in a graph

The keys of a table decide which entry is found, so a table is read best as a partial
function from keys to entries.  Of each operation this module says what a lookup finds
afterwards: observing a connection refreshes or adds the nodes of its two hosts and
the edge of its key, and decaying and moving change what is found under each key.
-/

namespace TrafficGraph
namespace Table

variable {κ ρ : Type} [DecidableEq κ] [Hashable κ] {key : ρ → κ}

theorem key_of_find?
    {table : Table key}
    {name : κ}
    {entry : ρ}
    (found : table.find? name = some entry) :
    key entry = name :=
  ((table.find?_eq_some_iff name entry).1 found).2

/-- The entries are what is found under their keys. -/
theorem mem_toList_iff
    (table : Table key)
    (entry : ρ) :
    entry ∈ table.toList ↔ table.find? (key entry) = some entry := by
  rw [find?_eq_some_iff]
  exact (and_iff_left rfl).symm

theorem contains_eq_isSome
    (table : Table key)
    (name : κ) :
    table.contains name = (table.find? name).isSome := by
  rw [Bool.eq_iff_iff, contains_iff, Option.isSome_iff_exists]
  apply exists_congr
  intro entry
  rw [find?_eq_some_iff]

@[simp] theorem find?_empty (name : κ) : (empty : Table key).find? name = none := by
  simp [find?, empty]

/-- If all entries are changed without changing their keys, then the changed entries
are found. -/
theorem find?_of_toList_eq_map
    {table later : Table key}
    {change : ρ → ρ}
    (keeps : ∀ entry ∈ table.toList, key (change entry) = key entry)
    (entries_eq : later.toList = table.toList.map change)
    (name : κ) :
    later.find? name = (table.find? name).map change := by
  apply Option.ext
  intro entry
  rw [find?_eq_some_iff, entries_eq, Option.map_eq_some_iff]
  constructor
  · rintro ⟨listed, named⟩
    obtain ⟨old, isOld, rfl⟩ := List.mem_map.1 listed
    rw [keeps old isOld] at named
    exact ⟨old, (table.find?_eq_some_iff name old).2 ⟨isOld, named⟩, rfl⟩
  · rintro ⟨old, found, rfl⟩
    obtain ⟨isOld, named⟩ := (table.find?_eq_some_iff name old).1 found
    exact ⟨List.mem_map_of_mem isOld, (keeps old isOld).trans named⟩

@[simp] theorem find?_map
    (table : Table key)
    (change : ρ → ρ)
    (keeps : ∀ entry, key (change entry) = key entry)
    (name : κ) :
    (table.map change keeps).find? name = (table.find? name).map change :=
  find?_of_toList_eq_map (fun entry _ => keeps entry) (toList_map table change keeps) name

/-- A change that leaves every entry as it is leaves the table as it is. -/
theorem map_eq_self
    {table : Table key}
    {change : ρ → ρ}
    (keeps : ∀ entry, key (change entry) = key entry)
    (unchanged : ∀ entry ∈ table.toList, change entry = entry) :
    table.map change keeps = table := by
  apply ext_toList
  rw [toList_map]
  exact (List.map_congr_left unchanged).trans (List.map_id _)

/-- A change of the entries with one key is seen under that key only. -/
theorem map_find?_ite
    (table : Table key)
    (change : ρ → ρ)
    (changed name : κ) :
    ((table.find? name).map fun entry => if key entry = changed then change entry else entry) =
      if name = changed then (table.find? name).map change else table.find? name := by
  cases found : table.find? name with
  | none => simp
  | some entry =>
      rw [Option.map_some, key_of_find? found]
      split
      · rfl
      · rfl

theorem find?_modify
    (table : Table key)
    (changed : κ)
    (change : ρ → ρ)
    (keeps : ∀ entry, key (change entry) = key entry)
    (name : κ) :
    (table.modify changed change keeps).find? name =
      if name = changed then (table.find? name).map change else table.find? name := by
  rw [← map_find?_ite]
  apply find?_of_toList_eq_map
  · intro entry _
    split
    · exact keeps entry
    · rfl
  · exact toList_modify table changed change keeps

/-- Under the key of an entry that is changed or added, the old entry or else the new
one is found, changed in either case. -/
theorem find?_upsert
    (table : Table key)
    (entry : ρ)
    (change : ρ → ρ)
    (keeps : ∀ entry, key (change entry) = key entry)
    (name : κ) :
    (table.upsert entry change keeps).find? name =
      if name = key entry then some (change ((table.find? (key entry)).getD entry))
      else table.find? name := by
  have entries_eq := toList_upsert table entry change keeps
  cases found : table.find? (key entry) with
  | some old =>
      rw [if_pos (by rw [contains_eq_isSome, found, Option.isSome_some])] at entries_eq
      have keepsAll : ∀ other ∈ table.toList,
          key (if key other = key entry then change other else other) = key other := by
        intro other _
        split
        · exact keeps other
        · rfl
      rw [find?_of_toList_eq_map keepsAll entries_eq, map_find?_ite]
      split
      · next named => rw [named, found, Option.map_some, Option.getD_some]
      · rfl
  | none =>
      rw [if_neg (by simp [contains_eq_isSome, found])] at entries_eq
      apply Option.ext
      intro other
      rw [find?_eq_some_iff, entries_eq, List.mem_append, List.mem_singleton, or_and_right,
        ← find?_eq_some_iff]
      split
      · next named =>
        rw [named, found, Option.getD_none]
        simp only [reduceCtorEq, false_or, Option.some.injEq]
        constructor
        · intro added
          exact added.1.symm
        · intro added
          rw [← added]
          exact ⟨rfl, keeps entry⟩
      · next different =>
        apply or_iff_left
        rintro ⟨added, named⟩
        rw [added, keeps] at named
        exact different named.symm

end Table

namespace EdgeKey

/-- The host is at one of the sides of the edge. -/
def Joins (host : String) (key : EdgeKey) : Prop :=
  key.source = host ∨ key.destination = host

instance (host : String) (key : EdgeKey) : Decidable (key.Joins host) :=
  inferInstanceAs (Decidable (_ ∨ _))

theorem joins_source (key : EdgeKey) : key.Joins key.source := Or.inl rfl

theorem joins_destination (key : EdgeKey) : key.Joins key.destination := Or.inr rfl

end EdgeKey

/-- The host is at one of the sides of the connection. -/
def Source.Connection.Joins (host : String) (connection : Source.Connection) : Prop :=
  connection.source = host ∨ connection.destination = host

instance (host : String) (connection : Source.Connection) : Decidable (connection.Joins host) :=
  inferInstanceAs (Decidable (_ ∨ _))

/-- The hosts of a key are those of the connection. -/
theorem EdgeKey.joins_ofConnection_iff
    {threshold : UInt16}
    {connection : Source.Connection}
    {host : String} :
    (ofConnection threshold connection).Joins host ↔ connection.Joins host := by
  unfold ofConnection
  dsimp only
  split
  · exact Or.comm
  · exact Iff.rfl

/-- The larger of two words is the first unless the second lies above it. -/
instance leftLeaningMax_word : Std.LawfulOrderLeftLeaningMax UInt64 where
  max_eq_left first second ordered := by
    change (if first ≤ second then second else first) = first
    grind
  max_eq_right first second ordered := by
    change (if first ≤ second then second else first) = second
    grind

namespace Node

/-- Two observations at one time count as one. -/
theorem observe_observe (seenAt : UInt64) (node : Node) :
    (node.observe seenAt).observe seenAt = node.observe seenAt := by
  have earlier : min (min node.firstSeen seenAt) seenAt = min node.firstSeen seenAt :=
    Std.LawfulOrderLeftLeaningMin.min_eq_left _ _ Std.min_le_right
  have later : max (max node.lastSeen seenAt) seenAt = max node.lastSeen seenAt :=
    Std.LawfulOrderLeftLeaningMax.max_eq_left _ _ Std.right_le_max
  simp only [observe, earlier, later]

end Node

namespace Graph

theorem find?_nodes_observeHost
    (address : String)
    (seenAt : UInt64)
    (graph : Graph)
    (host : String) :
    (graph.observeHost address seenAt).nodes.find? host =
      if host = address then
        some (((graph.nodes.find? host).getD (.first host seenAt)).observe seenAt)
      else graph.nodes.find? host := by
  refine (graph.nodes.find?_upsert (.first address seenAt) _ _ host).trans ?_
  change (if host = address then _ else _) = _
  split
  · next same =>
    rw [same]
    rfl
  · rfl

/-- The nodes of both hosts are refreshed or added, and a host that is at both sides
counts once. -/
theorem find?_nodes_observe
    (graph : Graph)
    {options : FoldOptions}
    {now seenAt : UInt64}
    {connection : Source.Connection}
    {key : EdgeKey}
    (key_eq : EdgeKey.ofConnection options.portThreshold connection = key)
    (time_eq : observationTime options now connection = seenAt)
    (host : String) :
    (graph.observe options now connection).nodes.find? host =
      if key.Joins host then
        some (((graph.nodes.find? host).getD (.first host seenAt)).observe seenAt)
      else graph.nodes.find? host := by
  have nodes_eq : (graph.observe options now connection).nodes =
      ((graph.observeHost key.source seenAt).observeHost key.destination seenAt).nodes := by
    rw [observe, key_eq, time_eq]
    rfl
  rw [nodes_eq, find?_nodes_observeHost, find?_nodes_observeHost]
  by_cases source : host = key.source
  · have joins : key.Joins host := Or.inl source.symm
    rw [if_pos joins, if_pos source, Option.getD_some, Node.observe_observe, ite_self]
  · rw [if_neg source]
    by_cases destination : host = key.destination
    · have joins : key.Joins host := Or.inr destination.symm
      rw [if_pos joins, if_pos destination]
    · have apart : ¬key.Joins host := by
        rintro (same | same)
        · exact source same.symm
        · exact destination same.symm
      rw [if_neg apart, if_neg destination]

/-- The hosts of a connection join those that are there. -/
theorem contains_nodes_observe
    (graph : Graph)
    (options : FoldOptions)
    (now : UInt64)
    (connection : Source.Connection)
    (host : String) :
    (graph.observe options now connection).nodes.contains host = true ↔
      connection.Joins host ∨ graph.nodes.contains host = true := by
  rw [Table.contains_eq_isSome, graph.find?_nodes_observe rfl rfl,
    ← @EdgeKey.joins_ofConnection_iff options.portThreshold, Table.contains_eq_isSome]
  split
  · next joins => exact iff_of_true rfl (Or.inl joins)
  · next apart => exact (or_iff_right apart).symm

/-- After a fold the hosts are there that were there before or are at the sides of a
described connection. -/
theorem contains_nodes_fold
    (mapping : Source.Mapping)
    (options : FoldOptions)
    (now : UInt64)
    (graph : Graph)
    (records : List Record)
    (host : String) :
    (graph.fold mapping options now records).1.nodes.contains host = true ↔
      (∃ connection ∈ records.filterMap (Source.connection? mapping), connection.Joins host) ∨
        graph.nodes.contains host = true := by
  rw [fold_fst]
  generalize records.filterMap (Source.connection? mapping) = connections
  induction connections generalizing graph with
  | nil => simp
  | cons connection connections inductionHypothesis =>
      simp only [List.foldl_cons, List.mem_cons, exists_eq_or_imp]
      rw [or_assoc, or_left_comm, ← contains_nodes_observe graph options now]
      exact inductionHypothesis (graph.observe options now connection)

/-- The edge of the key is refreshed or added. -/
theorem find?_edges_observe
    (graph : Graph)
    {options : FoldOptions}
    {now seenAt : UInt64}
    {connection : Source.Connection}
    {key : EdgeKey}
    (key_eq : EdgeKey.ofConnection options.portThreshold connection = key)
    (time_eq : observationTime options now connection = seenAt)
    (name : EdgeKey) :
    (graph.observe options now connection).edges.find? name =
      if name = key then
        some (((graph.edges.find? key).getD (.fresh options.portThreshold key seenAt)).observe
          seenAt (connection.byteCount.getD 0))
      else graph.edges.find? name := by
  rw [observe, key_eq, time_eq]
  exact graph.edges.find?_upsert (.fresh options.portThreshold key seenAt) _ _ name

@[simp] theorem find?_nodes_decayed
    (thresholds : Thresholds)
    (now : UInt64)
    (graph : Graph)
    (host : String) :
    (graph.decayed thresholds now).nodes.find? host =
      (graph.nodes.find? host).map (Node.decay thresholds now) :=
  graph.nodes.find?_map _ (Node.id_decay thresholds now) host

@[simp] theorem find?_edges_decayed
    (thresholds : Thresholds)
    (now : UInt64)
    (graph : Graph)
    (name : EdgeKey) :
    (graph.decayed thresholds now).edges.find? name =
      (graph.edges.find? name).map (Edge.decay thresholds now) :=
  graph.edges.find?_map _ (Edge.key_decay thresholds now) name

/-- Giving a position moves at most the node that it names. -/
theorem find?_nodes_applyPosition
    (graph : Graph)
    (update : PositionUpdate)
    (host : String) :
    (graph.applyPosition update).nodes.find? host =
      if update.position.isFinite = true ∧ host = update.id then
        (graph.nodes.find? host).map (Node.moveTo update.position)
      else graph.nodes.find? host := by
  have moved := graph.nodes.find?_modify update.id _ (Node.id_moveTo update.position) host
  unfold applyPosition
  by_cases finite : update.position.isFinite = true
  · rw [if_pos finite]
    simpa only [finite, true_and] using moved
  · rw [if_neg finite, if_neg fun named => finite named.1]

@[simp] theorem edges_applyPosition
    (graph : Graph)
    (update : PositionUpdate) :
    (graph.applyPosition update).edges = graph.edges := by
  unfold applyPosition
  split <;> rfl

/-! ## Where the entries after a step come from -/

section Origins

variable {graph : Graph}

/-- A node after an observation was there before or is at a side of the connection. -/
theorem mem_nodes_observe
    {options : FoldOptions}
    {now : UInt64}
    {connection : Source.Connection}
    {node : Node}
    (listed : node ∈ (graph.observe options now connection).nodes.toList) :
    node ∈ graph.nodes.toList ∨
      (EdgeKey.ofConnection options.portThreshold connection).Joins node.id ∧
        ((graph.nodes.find? node.id).getD
          (.first node.id (observationTime options now connection))).observe
            (observationTime options now connection) = node := by
  rw [Table.mem_toList_iff, graph.find?_nodes_observe rfl rfl] at listed
  split at listed
  · next joins => exact Or.inr ⟨joins, Option.some.inj listed⟩
  · exact Or.inl ((graph.nodes.mem_toList_iff node).2 listed)

/-- An edge after an observation was there before or has the key of the connection. -/
theorem mem_edges_observe
    {options : FoldOptions}
    {now : UInt64}
    {connection : Source.Connection}
    {edge : Edge}
    (listed : edge ∈ (graph.observe options now connection).edges.toList) :
    edge ∈ graph.edges.toList ∨
      ((graph.edges.find? (.ofConnection options.portThreshold connection)).getD
        (.fresh options.portThreshold (.ofConnection options.portThreshold connection)
          (observationTime options now connection))).observe
            (observationTime options now connection) (connection.byteCount.getD 0) = edge := by
  rw [Table.mem_toList_iff, graph.find?_edges_observe rfl rfl] at listed
  split at listed
  · exact Or.inr (Option.some.inj listed)
  · exact Or.inl ((graph.edges.mem_toList_iff edge).2 listed)

theorem mem_nodes_decayed_iff {thresholds : Thresholds} {now : UInt64} {node : Node} :
    node ∈ (graph.decayed thresholds now).nodes.toList ↔
      ∃ old ∈ graph.nodes.toList, old.decay thresholds now = node := by
  rw [decayed, Table.toList_map, List.mem_map]

theorem mem_edges_decayed_iff {thresholds : Thresholds} {now : UInt64} {edge : Edge} :
    edge ∈ (graph.decayed thresholds now).edges.toList ↔
      ∃ old ∈ graph.edges.toList, old.decay thresholds now = edge := by
  rw [decayed, Table.toList_map, List.mem_map]

/-- A node after giving a position was there before, or it was moved. -/
theorem mem_nodes_applyPosition
    {update : PositionUpdate}
    {node : Node}
    (listed : node ∈ (graph.applyPosition update).nodes.toList) :
    node ∈ graph.nodes.toList ∨
      ∃ old ∈ graph.nodes.toList, old.moveTo update.position = node := by
  rw [Table.mem_toList_iff, find?_nodes_applyPosition] at listed
  split at listed
  · obtain ⟨old, found, rfl⟩ := Option.map_eq_some_iff.1 listed
    exact Or.inr ⟨old, (graph.nodes.mem_toList_iff old).2 found, rfl⟩
  · exact Or.inl ((graph.nodes.mem_toList_iff node).2 listed)

end Origins

end Graph
end TrafficGraph
