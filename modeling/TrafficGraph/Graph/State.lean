import TrafficGraph.Graph.EdgeKey
import TrafficGraph.Graph.Table

/-!
# The state of a graph

Nodes are hosts and edges are connections between them.  Both are kept in
tables in the order in which they were first observed, and nothing is ever
removed.  The state also knows the version of the last batch that it processed.
-/

namespace TrafficGraph

/-- How recently a node or an edge was observed, from fresh to stale. -/
inductive Activity
  | active
  | fading
  | idle
  deriving DecidableEq, Ord

namespace Activity

/-- The number of steps from fresh. -/
def rank : Activity → Nat
  | active => 0
  | fading => 1
  | idle => 2

@[simp] theorem rank_active : active.rank = 0 := rfl
@[simp] theorem rank_fading : fading.rank = 1 := rfl
@[simp] theorem rank_idle : idle.rank = 2 := rfl

end Activity

/-- A place on the screen. -/
structure Position where
  /-- The horizontal coordinate. -/
  x : Float
  /-- The vertical coordinate. -/
  y : Float

namespace Position

/-- Both coordinates are finite. -/
def isFinite (position : Position) : Bool :=
  position.x.isFinite && position.y.isFinite

end Position

/-- A host that was observed. -/
structure Node where
  /-- The key of the node. -/
  id : String
  /-- The canonical name of the host. -/
  address : String
  /-- The place given to the node, if any. -/
  position : Option Position
  /-- The time of the first observation. -/
  firstSeen : UInt64
  /-- The time of the last observation. -/
  lastSeen : UInt64
  /-- How recent that is. -/
  activity : Activity

namespace Node

/-- A host observed for the first time. -/
def first (address : String) (seenAt : UInt64) : Node where
  id := address
  address := address
  position := none
  firstSeen := seenAt
  lastSeen := seenAt
  activity := .active

/-- The node after one more observation; a late one moves no time backwards. -/
def observe (seenAt : UInt64) (node : Node) : Node :=
  { node with
    firstSeen := min node.firstSeen seenAt
    lastSeen := max node.lastSeen seenAt
    activity := .active }

@[simp] theorem id_observe (seenAt : UInt64) (node : Node) :
    (node.observe seenAt).id = node.id := rfl

end Node

/-- A connection that was observed. -/
structure Edge where
  /-- The key of the edge. -/
  key : EdgeKey
  /-- The node at the source side. -/
  sourceId : String
  /-- The node at the destination side. -/
  destinationId : String
  /-- The protocol, empty if it is not known. -/
  protocol : String
  /-- The port at the source side as it is shown. -/
  sourcePortLabel : String
  /-- The port at the destination side as it is shown. -/
  destinationPortLabel : String
  /-- The time of the first observation. -/
  firstSeen : UInt64
  /-- The time of the last observation. -/
  lastSeen : UInt64
  /-- The number of observations. -/
  eventCount : UInt64
  /-- The number of bytes transferred. -/
  byteTotal : UInt64
  /-- How recent the last observation is. -/
  activity : Activity

namespace Edge

/-- An edge that is about to be observed for the first time. -/
def fresh (threshold : UInt16) (key : EdgeKey) (seenAt : UInt64) : Edge where
  key := key
  sourceId := key.source
  destinationId := key.destination
  protocol := key.protocol
  sourcePortLabel := portLabel threshold key.sourcePort
  destinationPortLabel := portLabel threshold key.destinationPort
  firstSeen := seenAt
  lastSeen := seenAt
  eventCount := 0
  byteTotal := 0
  activity := .active

end Edge

/-- The nodes and edges observed so far. -/
structure Graph where
  /-- The hosts. -/
  nodes : Table Node.id
  /-- The connections between them. -/
  edges : Table Edge.key
  /-- The version of the last processed batch. -/
  version : Int64

namespace Graph

/-- The version of a graph that has processed no batch. -/
def unprocessedVersion : Int64 := -1

/-- The graph without nodes and edges. -/
def empty : Graph where
  nodes := .empty
  edges := .empty
  version := unprocessedVersion

/-- The graph has no nodes. -/
def isEmpty (graph : Graph) : Bool :=
  graph.nodes.size == 0

/-- A batch of this version is still to be processed. -/
def accepts (graph : Graph) (version : Int64) : Bool :=
  graph.version < version

/-- Notes that a batch of this version was processed; older versions are ignored. -/
def markProcessed (graph : Graph) (version : Int64) : Graph :=
  if graph.accepts version then { graph with version } else graph

/-- Both ends of every edge are nodes. -/
def isClosed (graph : Graph) : Bool :=
  graph.edges.toList.all fun edge =>
    graph.nodes.contains edge.sourceId && graph.nodes.contains edge.destinationId

end Graph
end TrafficGraph
