import TrafficGraph.Proofs.Graph.Run

/-!
# Positions of nodes

Of the positions that are given to a node the last finite one counts, and neither
observing nor demoting the node changes it.  A position that is not finite or names no
node is as good as none, and whatever positions a graph is given, it stays the same apart
from them.
-/

namespace TrafficGraph

/-- The place that the last finite one of some positions gives to a node. -/
def lastPosition? (host : String) (updates : List PositionUpdate) : Option Position :=
  (updates.filter fun update => update.position.isFinite && update.id == host).getLast?.map
    PositionUpdate.position

/-- Later positions count before earlier ones. -/
theorem lastPosition?_append
    (host : String)
    (first second : List PositionUpdate) :
    lastPosition? host (first ++ second) =
      (lastPosition? host second).or (lastPosition? host first) := by
  rw [lastPosition?, List.filter_append, List.getLast?_append, Option.map_or]
  rfl

theorem lastPosition?_singleton
    (host : String)
    (update : PositionUpdate) :
    lastPosition? host [update] =
      if update.position.isFinite = true ∧ host = update.id then some update.position
      else none := by
  rw [lastPosition?, List.filter_cons, List.filter_nil]
  by_cases counts : update.position.isFinite = true ∧ host = update.id
  · rw [if_pos counts, counts.1, counts.2]
    simp
  · have ignored : (update.position.isFinite && update.id == host) = false := by
      rw [Bool.eq_false_iff]
      intro both
      rw [Bool.and_eq_true, beq_iff_eq] at both
      exact counts ⟨both.1, both.2.symm⟩
    rw [if_neg counts, ignored]
    rfl

/-- The place that is given last is one of those given. -/
theorem exists_update_of_lastPosition?
    {host : String}
    {updates : List PositionUpdate}
    {position : Position}
    (found : lastPosition? host updates = some position) :
    position.isFinite = true ∧ ⟨host, position⟩ ∈ updates := by
  obtain ⟨update, last, rfl⟩ := Option.map_eq_some_iff.1 found
  obtain ⟨listed, counts⟩ := List.mem_filter.1 (List.mem_of_getLast? last)
  rw [Bool.and_eq_true, beq_iff_eq] at counts
  refine ⟨counts.1, ?_⟩
  rw [← counts.2]
  exact listed

/-- A finite place among those given to a node makes one of them the last. -/
theorem exists_lastPosition?_of_mem
    {host : String}
    {updates : List PositionUpdate}
    {position : Position}
    (finite : position.isFinite = true)
    (listed : ⟨host, position⟩ ∈ updates) :
    ∃ last, lastPosition? host updates = some last := by
  have counts : (⟨host, position⟩ : PositionUpdate) ∈ updates.filter fun update =>
      update.position.isFinite && update.id == host :=
    List.mem_filter.2 ⟨listed, by simp [finite]⟩
  cases last : (updates.filter fun update =>
      update.position.isFinite && update.id == host).getLast? with
  | none =>
      rw [List.getLast?_eq_none_iff] at last
      rw [last] at counts
      cases counts
  | some update => exact ⟨update.position, by rw [lastPosition?, last, Option.map_some]⟩

theorem Table.modify_of_contains_eq_false
    {κ ρ : Type}
    [DecidableEq κ]
    [Hashable κ]
    {key : ρ → κ}
    {table : Table key}
    {name : κ}
    (absent : table.contains name = false)
    (change : ρ → ρ)
    (keeps : ∀ entry, key (change entry) = key entry) :
    table.modify name change keeps = table := by
  unfold modify
  split
  · rfl
  · next position found =>
    rw [contains, found] at absent
    cases absent

/-- The node without a position. -/
def Node.unplaced (node : Node) : Node :=
  { node with position := none }

@[simp] theorem Node.id_unplaced (node : Node) : node.unplaced.id = node.id := rfl

namespace Graph

/-- The position of a node, if there is the node and it has one. -/
def position? (graph : Graph) (host : String) : Option Position :=
  (graph.nodes.find? host).bind Node.position

@[simp] theorem position?_empty (host : String) : empty.position? host = none := by
  simp [position?, empty]

theorem position?_of_contains_eq_false
    {graph : Graph}
    {host : String}
    (absent : graph.nodes.contains host = false) :
    graph.position? host = none := by
  rw [Table.contains_eq_isSome, Option.isSome_eq_false_iff, Option.isNone_iff_eq_none] at absent
  rw [position?, absent, Option.bind_none]

theorem position?_of_mem
    {graph : Graph}
    {node : Node}
    (listed : node ∈ graph.nodes.toList) :
    graph.position? node.id = node.position := by
  rw [position?, (graph.nodes.mem_toList_iff node).1 listed, Option.bind_some]

/-! ## Observing and demoting -/

/-- Observing a connection gives and takes no position. -/
@[simp] theorem position?_observe
    (options : FoldOptions)
    (now : UInt64)
    (graph : Graph)
    (connection : Source.Connection)
    (host : String) :
    (graph.observe options now connection).position? host = graph.position? host := by
  rw [position?, graph.find?_nodes_observe rfl rfl, position?]
  split
  · cases graph.nodes.find? host with
    | none => rfl
    | some node => rfl
  · rfl

@[simp] theorem position?_fold
    (mapping : Source.Mapping)
    (options : FoldOptions)
    (now : UInt64)
    (graph : Graph)
    (records : List Record)
    (host : String) :
    (graph.fold mapping options now records).1.position? host = graph.position? host := by
  rw [fold_fst]
  induction records.filterMap (Source.connection? mapping) generalizing graph with
  | nil => rfl
  | cons connection connections inductionHypothesis =>
      rw [List.foldl_cons, inductionHypothesis, position?_observe]

@[simp] theorem position?_decayed
    (thresholds : Thresholds)
    (now : UInt64)
    (graph : Graph)
    (host : String) :
    (graph.decayed thresholds now).position? host = graph.position? host := by
  rw [position?, find?_nodes_decayed, position?]
  cases graph.nodes.find? host with
  | none => rfl
  | some node => rfl

theorem nodes_markProcessed
    (graph : Graph)
    (version : Int64) :
    (graph.markProcessed version).nodes = graph.nodes := by
  unfold markProcessed
  split <;> rfl

@[simp] theorem position?_markProcessed
    (graph : Graph)
    (version : Int64)
    (host : String) :
    (graph.markProcessed version).position? host = graph.position? host := by
  rw [position?, nodes_markProcessed, position?]

/-! ## Giving positions -/

@[simp] theorem contains_nodes_applyPosition
    (graph : Graph)
    (update : PositionUpdate)
    (host : String) :
    (graph.applyPosition update).nodes.contains host = graph.nodes.contains host := by
  rw [Table.contains_eq_isSome, find?_nodes_applyPosition, Table.contains_eq_isSome]
  split
  · rw [Option.isSome_map]
  · rfl

@[simp] theorem contains_nodes_mergePositions
    (graph : Graph)
    (updates : List PositionUpdate)
    (host : String) :
    (graph.mergePositions updates).1.nodes.contains host = graph.nodes.contains host := by
  unfold mergePositions
  induction updates generalizing graph with
  | nil => rfl
  | cons update updates inductionHypothesis =>
      exact (inductionHypothesis _).trans (contains_nodes_applyPosition graph update host)

/-- A node that is there gets the position if it is finite and meant for the node. -/
theorem position?_applyPosition
    {graph : Graph}
    {host : String}
    (present : graph.nodes.contains host = true)
    (update : PositionUpdate) :
    (graph.applyPosition update).position? host =
      (lastPosition? host [update]).or (graph.position? host) := by
  rw [Table.contains_eq_isSome, Option.isSome_iff_exists] at present
  obtain ⟨node, found⟩ := present
  rw [position?, find?_nodes_applyPosition, lastPosition?_singleton, position?, found]
  split
  · rfl
  · rfl

/-- The last finite position that is meant for a node decides where it lies. -/
theorem position?_mergePositions
    {graph : Graph}
    {host : String}
    (present : graph.nodes.contains host = true)
    (updates : List PositionUpdate) :
    (graph.mergePositions updates).1.position? host =
      (lastPosition? host updates).or (graph.position? host) := by
  induction updates generalizing graph with
  | nil => rfl
  | cons update updates inductionHypothesis =>
      have later := inductionHypothesis
        ((contains_nodes_applyPosition graph update host).trans present)
      rw [position?_applyPosition present, ← Option.or_assoc, ← lastPosition?_append] at later
      exact later

/-- A position that is not used leaves the graph as it is. -/
theorem applyPosition_of_not_taken
    {graph : Graph}
    {update : PositionUpdate}
    (ignored : ¬graph.takesPosition update = true) :
    graph.applyPosition update = graph := by
  unfold applyPosition
  split
  · next finite =>
    rw [takesPosition, finite, Bool.true_and, Bool.not_eq_true] at ignored
    rw [Table.modify_of_contains_eq_false ignored]
  · rfl

/-- If no position is used, then the graph stays as it is. -/
theorem mergePositions_of_applied_eq_zero
    {graph : Graph}
    {updates : List PositionUpdate}
    (unused : (graph.mergePositions updates).2 = 0) :
    (graph.mergePositions updates).1 = graph := by
  have ignored : ∀ update ∈ updates, ¬graph.takesPosition update = true :=
    List.countP_eq_zero.1 unused
  clear unused
  unfold mergePositions
  induction updates with
  | nil => rfl
  | cons update updates inductionHypothesis =>
      obtain ⟨first, others⟩ := List.forall_mem_cons.1 ignored
      rw [List.foldl_cons, applyPosition_of_not_taken first]
      exact inductionHypothesis others

/-! ## The positions of a graph -/

/-- All positions in the graph are finite. -/
def Placed (graph : Graph) : Prop :=
  ∀ host position, graph.position? host = some position → position.isFinite = true

theorem placed_empty : empty.Placed := by
  intro host position found
  rw [position?_empty] at found
  cases found

theorem kept_placed {admits : UInt16 → Source.Connection → Prop} : Kept admits Placed where
  observe options now graph connection _ placed := by
    intro host position found
    rw [position?_observe] at found
    exact placed host position found
  decayed thresholds now graph placed := by
    intro host position found
    rw [position?_decayed] at found
    exact placed host position found
  applyPosition update graph placed := by
    intro host position found
    by_cases present : graph.nodes.contains host = true
    · rw [position?_applyPosition present, Option.or_eq_some_iff] at found
      rcases found with given | ⟨_, kept⟩
      · exact (exists_update_of_lastPosition? given).1
      · exact placed host position kept
    · rw [← contains_nodes_applyPosition graph update host, Bool.not_eq_true] at present
      rw [position?_of_contains_eq_false present] at found
      cases found
  withVersion version graph placed := placed

theorem mem_positions_iff
    {graph : Graph}
    {host : String}
    {position : Position} :
    ⟨host, position⟩ ∈ graph.positions ↔ graph.position? host = some position := by
  rw [positions, List.mem_filterMap, position?, Option.bind_eq_some_iff]
  apply exists_congr
  intro node
  rw [Option.map_eq_some_iff, Table.find?_eq_some_iff, and_assoc]
  apply and_congr_right
  intro _
  constructor
  · rintro ⟨given, isGiven, same⟩
    rw [PositionUpdate.mk.injEq] at same
    exact ⟨same.1, same.2 ▸ isGiven⟩
  · rintro ⟨named, isGiven⟩
    exact ⟨position, isGiven, by rw [named]⟩

/-- Finite positions that are taken from a graph can be given back. -/
theorem lastPosition?_positions
    {graph : Graph}
    (placed : graph.Placed)
    (host : String) :
    lastPosition? host graph.positions = graph.position? host := by
  cases found : graph.position? host with
  | some position =>
      have finite := placed host position found
      obtain ⟨last, isLast⟩ := exists_lastPosition?_of_mem finite (mem_positions_iff.2 found)
      have listed := mem_positions_iff.1 (exists_update_of_lastPosition? isLast).2
      rw [isLast, ← listed, found]
  | none =>
      rw [Option.eq_none_iff_forall_ne_some]
      intro position given
      have listed := mem_positions_iff.1 (exists_update_of_lastPosition? given).2
      rw [found] at listed
      cases listed

/-! ## Graphs apart from positions -/

/-- The graph without positions. -/
def unplaced (graph : Graph) : Graph :=
  { graph with nodes := graph.nodes.map Node.unplaced Node.id_unplaced }

@[simp] theorem unplaced_applyPosition
    (graph : Graph)
    (update : PositionUpdate) :
    (graph.applyPosition update).unplaced = graph.unplaced := by
  unfold applyPosition
  split
  · simp only [unplaced, mk.injEq, and_true]
    apply Table.ext_toList
    rw [Table.toList_map, Table.toList_map, Table.toList_modify, List.map_map]
    apply List.map_congr_left
    intro node _
    simp only [Function.comp]
    split <;> rfl
  · rfl

/-- Apart from positions a graph stays as it is, whatever positions it is given. -/
@[simp] theorem unplaced_mergePositions
    (graph : Graph)
    (updates : List PositionUpdate) :
    (graph.mergePositions updates).1.unplaced = graph.unplaced := by
  unfold mergePositions
  induction updates generalizing graph with
  | nil => rfl
  | cons update updates inductionHypothesis =>
      exact (inductionHypothesis _).trans (unplaced_applyPosition graph update)

theorem unplaced_markProcessed
    (graph : Graph)
    (version : Int64) :
    (graph.markProcessed version).unplaced = graph.unplaced.markProcessed version := by
  unfold markProcessed
  split
  · next accepted => rw [if_pos (by exact accepted)]; rfl
  · next refused => rw [if_neg (by exact refused)]

/-- A graph without positions is the same without its positions. -/
theorem unplaced_of_position?_eq_none
    {graph : Graph}
    (blank : ∀ host, graph.position? host = none) :
    graph.unplaced = graph := by
  have nodes_eq : graph.nodes.map Node.unplaced Node.id_unplaced = graph.nodes := by
    apply Table.map_eq_self
    intro node listed
    have position_eq := (position?_of_mem listed).symm.trans (blank node.id)
    cases node
    cases position_eq
    rfl
  rw [unplaced, nodes_eq]

end Graph
end TrafficGraph
