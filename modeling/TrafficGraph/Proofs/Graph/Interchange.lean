import TrafficGraph.Proofs.Graph.Lookup

/-!
# Demoting before or after an observation

A decay step that reads a time not later than that of an observation may come before or
after it.  An observed entry was last seen at that time or later, so the step leaves it
active, and if the step comes first then the observation revives the entry.  An entry that is
not observed is demoted alike in both orders.
-/

namespace TrafficGraph

namespace Table

variable {κ ρ : Type} [DecidableEq κ] [Hashable κ] {key : ρ → κ}

theorem size_map
    (table : Table key)
    (shift : ρ → ρ)
    (keepsShift : ∀ entry, key (shift entry) = key entry) :
    (table.map shift keepsShift).size = table.size := by
  rw [← length_toList, toList_map, List.length_map, length_toList]

theorem contains_map
    (table : Table key)
    (shift : ρ → ρ)
    (keepsShift : ∀ entry, key (shift entry) = key entry)
    (name : κ) :
    (table.map shift keepsShift).contains name = table.contains name := by
  rw [contains_eq_isSome, contains_eq_isSome, find?_map, Option.isSome_map]

/-- The entry with a key may be changed before or after all entries if the two changes
commute. -/
theorem map_modify
    (table : Table key)
    (name : κ)
    {change shift : ρ → ρ}
    (keeps : ∀ entry, key (change entry) = key entry)
    (keepsShift : ∀ entry, key (shift entry) = key entry)
    (commute : ∀ entry, shift (change entry) = change (shift entry)) :
    (table.modify name change keeps).map shift keepsShift =
      (table.map shift keepsShift).modify name change keeps := by
  apply ext_toList
  rw [toList_map, toList_modify, toList_modify, toList_map, List.map_map, List.map_map]
  apply List.map_congr_left
  intro entry _
  simp only [Function.comp_apply, keepsShift]
  split
  · exact commute entry
  · rfl

/-- An entry may be changed or added before or after all entries are changed, if the two
changes commute and the other one leaves an added entry as it is. -/
theorem map_upsert
    (table : Table key)
    (entry : ρ)
    {change shift : ρ → ρ}
    (keeps : ∀ entry, key (change entry) = key entry)
    (keepsShift : ∀ entry, key (shift entry) = key entry)
    (commute : ∀ entry, shift (change entry) = change (shift entry))
    (settled : shift (change entry) = change entry) :
    (table.upsert entry change keeps).map shift keepsShift =
      (table.map shift keepsShift).upsert entry change keeps := by
  apply ext_toList
  rw [toList_map, toList_upsert, toList_upsert, contains_map, toList_map]
  by_cases present : table.contains (key entry) = true
  · rw [if_pos present, if_pos present, List.map_map, List.map_map]
    apply List.map_congr_left
    intro other _
    simp only [Function.comp_apply, keepsShift]
    split
    · exact commute other
    · rfl
  · rw [if_neg present, if_neg present, List.map_append, List.map_singleton, settled]

end Table

/-! ## Entries -/

/-- No time has gone by since an observation that is not in the past. -/
theorem saturatingSub_eq_zero
    {time seenAt : UInt64}
    (notLater : time ≤ seenAt) :
    saturatingSub time seenAt = 0 := by
  rw [← UInt64.toNat_inj, toNat_saturatingSub]
  exact Nat.sub_eq_zero_of_le (UInt64.le_iff_toNat_le.1 notLater)

/-- An active entry stays active if no time has gone by since it was observed. -/
theorem Activity.next_active
    {time seenAt : UInt64}
    (notLater : time ≤ seenAt)
    (thresholds : Thresholds) :
    Activity.active.next thresholds (saturatingSub time seenAt) = .active := by
  rw [saturatingSub_eq_zero notLater, next, if_neg UInt64.not_lt_zero]

section Entries

variable {time now : UInt64} (notLater : time ≤ now) (thresholds : Thresholds)

include notLater

/-- What has just been observed is not demoted. -/
theorem Node.decay_observe (node : Node) :
    (node.observe now).decay thresholds time = node.observe now := by
  have seen : time ≤ (node.observe now).lastSeen := UInt64.le_trans notLater Std.right_le_max
  have active : (node.observe now).nextActivity thresholds time = .active :=
    Activity.next_active seen thresholds
  rw [decay, active]
  rfl

/-- What has just been observed is not demoted. -/
theorem Edge.decay_observe (byteCount : UInt64) (edge : Edge) :
    (edge.observe now byteCount).decay thresholds time = edge.observe now byteCount := by
  have seen : time ≤ (edge.observe now byteCount).lastSeen :=
    UInt64.le_trans notLater Std.right_le_max
  have active : (edge.observe now byteCount).nextActivity thresholds time = .active :=
    Activity.next_active seen thresholds
  rw [decay, active]
  rfl

end Entries

namespace Graph

/-! ## Observations -/

section Observations

variable {time now : UInt64} (notLater : time ≤ now) (thresholds : Thresholds)

include notLater

theorem decayed_observeHost (address : String) (graph : Graph) :
    (graph.observeHost address now).decayed thresholds time =
      (graph.decayed thresholds time).observeHost address now := by
  have nodes_eq := graph.nodes.map_upsert (.first address now) (Node.id_observe now)
    (Node.id_decay thresholds time) (Node.decay_observe notLater thresholds)
    (Node.decay_observe notLater thresholds _)
  simp only [decayed, observeHost, nodes_eq]

theorem decayed_observeEdge
    (threshold : UInt16)
    (key : EdgeKey)
    (byteCount : UInt64)
    (graph : Graph) :
    (graph.observeEdge threshold key now byteCount).decayed thresholds time =
      (graph.decayed thresholds time).observeEdge threshold key now byteCount := by
  have edges_eq := graph.edges.map_upsert (.fresh threshold key now)
    (Edge.key_observe now byteCount) (Edge.key_decay thresholds time)
    (Edge.decay_observe notLater thresholds byteCount)
    (Edge.decay_observe notLater thresholds byteCount _)
  simp only [decayed, observeEdge, edges_eq]

variable {options : FoldOptions} (wallClock : options.useEventTime = false)

include wallClock

theorem decayed_observe (graph : Graph) (connection : Source.Connection) :
    (graph.observe options now connection).decayed thresholds time =
      (graph.decayed thresholds time).observe options now connection := by
  have seenAt_eq : observationTime options now connection = now := by
    rw [observationTime, wallClock]
    rfl
  simp only [observe, seenAt_eq, decayed_observeEdge notLater, decayed_observeHost notLater]

/-- One record has the same outcome before and after a step. -/
theorem foldRecord_decayed (mapping : Source.Mapping) (graph : Graph) (record : Record) :
    (graph.decayed thresholds time).foldRecord mapping options now record =
      ((graph.foldRecord mapping options now record).1.decayed thresholds time,
        (graph.foldRecord mapping options now record).2) := by
  unfold foldRecord
  cases Source.connection? mapping record with
  | none => rfl
  | some connection =>
      have after_eq := decayed_observe notLater thresholds wallClock graph connection
      simp only [foldConnection, ← after_eq]
      simp only [decayed, Table.size_map]

/-- A batch has the same outcome before and after a step, and leaves the same graph. -/
theorem fold_decayed (mapping : Source.Mapping) (graph : Graph) (records : List Record) :
    (graph.decayed thresholds time).fold mapping options now records =
      ((graph.fold mapping options now records).1.decayed thresholds time,
        (graph.fold mapping options now records).2) := by
  unfold fold
  generalize FoldOutcome.zero = outcome
  induction records generalizing graph outcome with
  | nil => rfl
  | cons record records inductionHypothesis =>
      rw [List.foldl_cons, List.foldl_cons]
      simp only [foldRecord_decayed notLater thresholds wallClock]
      exact inductionHypothesis _ _

end Observations

/-! ## Positions and versions -/

theorem decayed_empty (thresholds : Thresholds) (time : UInt64) :
    empty.decayed thresholds time = empty := by
  have nodes_eq : empty.nodes.map (Node.decay thresholds time) (Node.id_decay thresholds time) =
      empty.nodes :=
    Table.map_eq_self _ (by simp [empty])
  have edges_eq : empty.edges.map (Edge.decay thresholds time) (Edge.key_decay thresholds time) =
      empty.edges :=
    Table.map_eq_self _ (by simp [empty])
  rw [decayed, nodes_eq, edges_eq]

variable (thresholds : Thresholds) (time : UInt64)

theorem decayed_applyPosition (graph : Graph) (update : PositionUpdate) :
    (graph.applyPosition update).decayed thresholds time =
      (graph.decayed thresholds time).applyPosition update := by
  unfold applyPosition
  split
  · have nodes_eq := graph.nodes.map_modify update.id (Node.id_moveTo update.position)
      (Node.id_decay thresholds time) fun _ => rfl
    simp only [decayed, nodes_eq]
  · rfl

theorem decayed_mergePositions (graph : Graph) (updates : List PositionUpdate) :
    (graph.mergePositions updates).1.decayed thresholds time =
      ((graph.decayed thresholds time).mergePositions updates).1 :=
  (List.foldl_hom (decayed thresholds time)
    fun graph update => (decayed_applyPosition thresholds time graph update).symm).symm

theorem positions_decayed (graph : Graph) :
    (graph.decayed thresholds time).positions = graph.positions := by
  rw [positions, positions, decayed, Table.toList_map, List.filterMap_map]
  rfl

theorem decayed_markProcessed (graph : Graph) (version : Int64) :
    (graph.markProcessed version).decayed thresholds time =
      (graph.decayed thresholds time).markProcessed version := by
  unfold markProcessed
  by_cases accepted : graph.accepts version = true
  · rw [if_pos accepted]
    exact (if_pos accepted).symm
  · rw [if_neg accepted]
    exact (if_neg accepted).symm

end Graph
end TrafficGraph
