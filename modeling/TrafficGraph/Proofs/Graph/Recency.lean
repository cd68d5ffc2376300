import TrafficGraph.Proofs.Graph.Lookup

/-!
# Recency of entries

Nodes and edges keep the times of their first and of their last observation, and how recent
the last one is, in the same way: an observation widens the times to its own and makes the
entry active, and a decay step changes the activity alone.  What the observations of an
entry make of all three together is the same for nodes and for edges.
-/

namespace TrafficGraph

/-- When an entry was observed, and how recent that is. -/
structure Recency where
  /-- The time of the first observation. -/
  firstSeen : UInt64
  /-- The time of the last observation. -/
  lastSeen : UInt64
  /-- How recent that is. -/
  activity : Activity

namespace Recency

/-- The recency of an entry that is observed for the first time. -/
def first (seenAt : UInt64) : Recency := ⟨seenAt, seenAt, .active⟩

/-- The recency after one more observation. -/
def observe (seenAt : UInt64) (recency : Recency) : Recency where
  firstSeen := min recency.firstSeen seenAt
  lastSeen := max recency.lastSeen seenAt
  activity := .active

/-- The recency after a decay step. -/
def decay (thresholds : Thresholds) (now : UInt64) (recency : Recency) : Recency :=
  { recency with
    activity := recency.activity.next thresholds (saturatingSub now recency.lastSeen) }

end Recency

/-- The recency of a node. -/
def Node.recency (node : Node) : Recency := ⟨node.firstSeen, node.lastSeen, node.activity⟩

/-- The recency of an edge. -/
def Edge.recency (edge : Edge) : Recency := ⟨edge.firstSeen, edge.lastSeen, edge.activity⟩

@[simp] theorem Node.recency_observe (seenAt : UInt64) (node : Node) :
    (node.observe seenAt).recency = node.recency.observe seenAt := rfl

@[simp] theorem Node.recency_decay (thresholds : Thresholds) (now : UInt64) (node : Node) :
    (node.decay thresholds now).recency = node.recency.decay thresholds now := rfl

@[simp] theorem Node.recency_moveTo (position : Position) (node : Node) :
    (node.moveTo position).recency = node.recency := rfl

@[simp] theorem Edge.recency_observe (seenAt byteCount : UInt64) (edge : Edge) :
    (edge.observe seenAt byteCount).recency = edge.recency.observe seenAt := rfl

@[simp] theorem Edge.recency_decay (thresholds : Thresholds) (now : UInt64) (edge : Edge) :
    (edge.decay thresholds now).recency = edge.recency.decay thresholds now := rfl

namespace Recency

/-- What observations at some times make of an entry, or of none: its times are the extremes
of theirs and of those it had, and it is active if there was one. -/
structure Gathers (before : Option Recency) (times : List UInt64) (after : Recency) : Prop where
  /-- The first time is the earliest of all. -/
  earliest : ((before.map firstSeen).toList ++ times).min? = some after.firstSeen
  /-- The last time is the latest of all. -/
  latest : ((before.map lastSeen).toList ++ times).max? = some after.lastSeen
  /-- The entry is active if it was observed, and as before otherwise. -/
  activity_eq : some after.activity = if times = [] then before.map activity else some .active

theorem gathers_nil (recency : Recency) : recency.Gathers (some recency) [] :=
  ⟨rfl, rfl, rfl⟩

/-- The first of the observations may be made before the others are gathered. -/
theorem Gathers.cons
    {before : Option Recency}
    {seenAt : UInt64}
    {times : List UInt64}
    {after : Recency}
    (gathers : after.Gathers (some ((before.getD (.first seenAt)).observe seenAt)) times) :
    after.Gathers before (seenAt :: times) := by
  have active : after.activity = .active := by
    have activity_eq := gathers.activity_eq
    rw [Option.map_some, observe, ite_self] at activity_eq
    exact Option.some.inj activity_eq
  refine ⟨?earliest, ?latest, ?activity⟩
  case earliest =>
    rw [← gathers.earliest]
    cases before with
    | none =>
        change (seenAt :: times).min? = (min seenAt seenAt :: times).min?
        rw [Std.min_self]
    | some recency => rfl
  case latest =>
    rw [← gathers.latest]
    cases before with
    | none =>
        change (seenAt :: times).max? = (max seenAt seenAt :: times).max?
        rw [Std.max_self]
    | some recency => rfl
  case activity => rw [if_neg (List.cons_ne_nil seenAt times), active]

end Recency

namespace Graph

/-- The recencies of all entries, those of the nodes first. -/
def recencies (graph : Graph) : List Recency :=
  graph.nodes.toList.map Node.recency ++ graph.edges.toList.map Edge.recency

variable {thresholds : Thresholds} {now : UInt64} {graph : Graph}

@[simp] theorem recencies_decayed :
    (graph.decayed thresholds now).recencies =
      graph.recencies.map (Recency.decay thresholds now) := by
  rw [recencies, recencies, decayed, Table.toList_map, Table.toList_map, List.map_map,
    List.map_map, List.map_append, List.map_map, List.map_map]
  rfl

/-- A step that demotes no entry leaves the graph as it is. -/
theorem decayed_eq_self
    (rests : ∀ recency ∈ graph.recencies, recency.decay thresholds now = recency) :
    graph.decayed thresholds now = graph := by
  have nodes_eq : graph.nodes.map (Node.decay thresholds now) (Node.id_decay thresholds now) =
      graph.nodes := by
    apply Table.map_eq_self
    intro node listed
    have rest := rests node.recency (List.mem_append_left _ (List.mem_map_of_mem listed))
    have same : node.nextActivity thresholds now = node.activity :=
      congrArg Recency.activity rest
    rw [Node.decay, same]
  have edges_eq : graph.edges.map (Edge.decay thresholds now) (Edge.key_decay thresholds now) =
      graph.edges := by
    apply Table.map_eq_self
    intro edge listed
    have rest := rests edge.recency (List.mem_append_right _ (List.mem_map_of_mem listed))
    have same : edge.nextActivity thresholds now = edge.activity :=
      congrArg Recency.activity rest
    rw [Edge.decay, same]
  rw [decayed, nodes_eq, edges_eq]

end Graph
end TrafficGraph
