import TrafficGraph.Graph.Saturating
import TrafficGraph.Graph.State

/-!
# Decay of activity

What has not been observed for longer than the first threshold fades, and what
has been fading for longer than the second is idle.  One call moves an entry by
at most one step, and nothing is removed.  A time in the future counts as no
time gone by.
-/

namespace TrafficGraph

/-- The times after which entries are demoted, in milliseconds. -/
structure Thresholds where
  /-- Active entries fade after more than this. -/
  fadeAfter : UInt64
  /-- Fading entries are idle after more than this. -/
  idleAfter : UInt64
  deriving DecidableEq

/-- Why options are not usable. -/
inductive OptionsError
  /-- Active entries would fade at once. -/
  | fadeNotPositive
  /-- Entries would be idle before they fade. -/
  | idleNotLater (idleAfter fadeAfter : UInt64)
  deriving DecidableEq

namespace OptionsError

/-- The wording of an error. -/
def message : OptionsError → String
  | fadeNotPositive => "Invalid graph options: fade_after_ms must be greater than 0"
  | idleNotLater idleAfter fadeAfter =>
    "Invalid graph options: idle_after_ms (" ++ String.ofList (Text.decimal idleAfter.toNat) ++
      ") must be greater than fade_after_ms (" ++
      String.ofList (Text.decimal fadeAfter.toNat) ++ ")"

end OptionsError

namespace Thresholds

/-- The thresholds unless others are given. -/
def standard : Thresholds := ⟨5000, 30000⟩

instance : Inhabited Thresholds := ⟨standard⟩

/-- Thresholds are usable if both are positive and entries fade before they are
idle. -/
def validate (thresholds : Thresholds) : Except OptionsError Unit :=
  if thresholds.fadeAfter = 0 then .error .fadeNotPositive
  else if thresholds.idleAfter ≤ thresholds.fadeAfter then
    .error (.idleNotLater thresholds.idleAfter thresholds.fadeAfter)
  else .ok ()

end Thresholds

/-- The next activity of an entry that was last observed some time ago. -/
def Activity.next (thresholds : Thresholds) (elapsed : UInt64) : Activity → Activity
  | .active => if thresholds.fadeAfter < elapsed then .fading else .active
  | .fading => if thresholds.idleAfter < elapsed then .idle else .fading
  | .idle => .idle

/-- The number of entries that were demoted. -/
structure DecayOutcome where
  /-- The entries that began to fade. -/
  faded : Nat
  /-- The entries that became idle. -/
  idled : Nat
  deriving DecidableEq

namespace DecayOutcome

/-- The outcome of a call that demotes nothing. -/
def zero : DecayOutcome := ⟨0, 0⟩

/-- The outcome of one call after another. -/
def add (first second : DecayOutcome) : DecayOutcome :=
  ⟨first.faded + second.faded, first.idled + second.idled⟩

/-- Something was demoted. -/
def changed (outcome : DecayOutcome) : Bool :=
  0 < outcome.faded + outcome.idled

/-- The outcome for one entry. -/
def ofStep (before after : Activity) : DecayOutcome :=
  if before = after then zero
  else match after with
    | .active => zero
    | .fading => ⟨1, 0⟩
    | .idle => ⟨0, 1⟩

/-- The outcome for a list of entries. -/
def sum (outcomes : List DecayOutcome) : DecayOutcome :=
  outcomes.foldl add zero

end DecayOutcome

namespace Node

/-- The activity of a node after a call. -/
def nextActivity (thresholds : Thresholds) (now : UInt64) (node : Node) : Activity :=
  node.activity.next thresholds (saturatingSub now node.lastSeen)

/-- The node after a call. -/
def decay (thresholds : Thresholds) (now : UInt64) (node : Node) : Node :=
  { node with activity := node.nextActivity thresholds now }

@[simp] theorem id_decay (thresholds : Thresholds) (now : UInt64) (node : Node) :
    (node.decay thresholds now).id = node.id := rfl

end Node

namespace Edge

/-- The activity of an edge after a call. -/
def nextActivity (thresholds : Thresholds) (now : UInt64) (edge : Edge) : Activity :=
  edge.activity.next thresholds (saturatingSub now edge.lastSeen)

/-- The edge after a call. -/
def decay (thresholds : Thresholds) (now : UInt64) (edge : Edge) : Edge :=
  { edge with activity := edge.nextActivity thresholds now }

@[simp] theorem key_decay (thresholds : Thresholds) (now : UInt64) (edge : Edge) :
    (edge.decay thresholds now).key = edge.key := rfl

end Edge

namespace Graph

/-- The graph after demoting every stale node and edge by one step. -/
def decayed (thresholds : Thresholds) (now : UInt64) (graph : Graph) : Graph :=
  { graph with
    nodes := graph.nodes.map (Node.decay thresholds now) (Node.id_decay thresholds now)
    edges := graph.edges.map (Edge.decay thresholds now) (Edge.key_decay thresholds now) }

/-- The entries that one step demotes. -/
def demotions (thresholds : Thresholds) (now : UInt64) (graph : Graph) : DecayOutcome :=
  DecayOutcome.sum
    (graph.nodes.toList.map (fun node => .ofStep node.activity (node.nextActivity thresholds now)) ++
      graph.edges.toList.map fun edge => .ofStep edge.activity (edge.nextActivity thresholds now))

/-- Demotes every stale node and edge by one step, and counts them. -/
def decay (thresholds : Thresholds) (now : UInt64) (graph : Graph) : Graph × DecayOutcome :=
  (graph.decayed thresholds now, graph.demotions thresholds now)

end Graph
end TrafficGraph
