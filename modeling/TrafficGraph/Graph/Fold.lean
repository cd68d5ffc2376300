import TrafficGraph.Graph.Saturating
import TrafficGraph.Graph.State

/-!
# Folding observations into a graph

Each observation creates or refreshes its two nodes, source side first, and then
its edge, whose counters saturate.  Records that describe no connection are
skipped and never end a batch.  The processed version is left to the caller.
-/

namespace TrafficGraph

/-- How observations are folded. -/
structure FoldOptions where
  /-- Ports at or above this number are collapsed; zero collapses none. -/
  portThreshold : UInt16
  /-- Take the time of an observation from its record if it has one. -/
  useEventTime : Bool
  deriving DecidableEq

/-- The number from which ports are ephemeral unless other options are given. -/
def defaultPortThreshold : UInt16 := 32768

instance : Inhabited FoldOptions where
  default := ⟨defaultPortThreshold, false⟩

/-- What became of the records of a batch. -/
structure FoldOutcome where
  /-- The records that described a connection. -/
  folded : Nat
  /-- The records that described none. -/
  skipped : Nat
  /-- The nodes that were added. -/
  newNodes : Nat
  /-- The edges that were added. -/
  newEdges : Nat
  deriving DecidableEq

namespace FoldOutcome

/-- The outcome of no records. -/
def zero : FoldOutcome := ⟨0, 0, 0, 0⟩

/-- The outcome of one batch after another. -/
def add (first second : FoldOutcome) : FoldOutcome where
  folded := first.folded + second.folded
  skipped := first.skipped + second.skipped
  newNodes := first.newNodes + second.newNodes
  newEdges := first.newEdges + second.newEdges

end FoldOutcome

namespace Edge

/-- The edge after one more observation; a late one moves no time backwards. -/
def observe (seenAt byteCount : UInt64) (edge : Edge) : Edge :=
  { edge with
    firstSeen := min edge.firstSeen seenAt
    lastSeen := max edge.lastSeen seenAt
    eventCount := saturatingAdd edge.eventCount 1
    byteTotal := saturatingAdd edge.byteTotal byteCount
    activity := .active }

@[simp] theorem key_observe (seenAt byteCount : UInt64) (edge : Edge) :
    (edge.observe seenAt byteCount).key = edge.key := rfl

end Edge

namespace Graph

/-- Adds or refreshes the node of a host. -/
def observeHost (address : String) (seenAt : UInt64) (graph : Graph) : Graph :=
  { graph with
    nodes := graph.nodes.upsert (.first address seenAt) (Node.observe seenAt)
      (Node.id_observe seenAt) }

/-- Adds or refreshes the edge of a key. -/
def observeEdge (threshold : UInt16) (key : EdgeKey) (seenAt byteCount : UInt64)
    (graph : Graph) : Graph :=
  { graph with
    edges := graph.edges.upsert (.fresh threshold key seenAt) (Edge.observe seenAt byteCount)
      (Edge.key_observe seenAt byteCount) }

/-- The time at which a connection counts as observed. -/
def observationTime (options : FoldOptions) (now : UInt64)
    (connection : Source.Connection) : UInt64 :=
  if options.useEventTime then connection.timestamp.getD now else now

/-- The graph after one observation. -/
def observe (options : FoldOptions) (now : UInt64) (graph : Graph)
    (connection : Source.Connection) : Graph :=
  let seenAt := observationTime options now connection
  let key := EdgeKey.ofConnection options.portThreshold connection
  ((graph.observeHost key.source seenAt).observeHost key.destination seenAt).observeEdge
    options.portThreshold key seenAt (connection.byteCount.getD 0)

/-- The graph after one observation, and what it added. -/
def foldConnection (options : FoldOptions) (now : UInt64) (graph : Graph)
    (connection : Source.Connection) : Graph × FoldOutcome :=
  let nodeCount := graph.nodes.size
  let edgeCount := graph.edges.size
  let after := graph.observe options now connection
  (after, {
    folded := 1
    skipped := 0
    newNodes := after.nodes.size - nodeCount
    newEdges := after.edges.size - edgeCount })

/-- The graph after one record, and what became of it. -/
def foldRecord (mapping : Source.Mapping) (options : FoldOptions) (now : UInt64) (graph : Graph)
    (record : Record) : Graph × FoldOutcome :=
  match Source.connection? mapping record with
  | some connection => graph.foldConnection options now connection
  | none => (graph, { FoldOutcome.zero with skipped := 1 })

/-- The graph after a batch of records, and what became of them. -/
def fold (mapping : Source.Mapping) (options : FoldOptions) (now : UInt64) (graph : Graph)
    (records : List Record) : Graph × FoldOutcome :=
  records.foldl (fun (graph, outcome) record =>
    let (after, next) := graph.foldRecord mapping options now record
    (after, outcome.add next)) (graph, .zero)

end Graph
end TrafficGraph
