import TrafficGraph.Graph.State

/-!
# Snapshots and positions

A snapshot lists what a renderer needs of each node and edge, in the order of
the tables.  The renderer gives positions back; those that are not finite or
name no node are ignored.
-/

namespace TrafficGraph

/-- A node as a renderer sees it. -/
structure NodeView where
  /-- The identity of the node. -/
  id : String
  /-- The canonical name of the host. -/
  address : String
  /-- The place given to the node, if any. -/
  position : Option Position
  /-- How recently the node was observed. -/
  activity : Activity

/-- An edge as a renderer sees it. -/
structure EdgeView where
  /-- The identity of the edge. -/
  id : String
  /-- The node at the source side. -/
  sourceId : String
  /-- The node at the destination side. -/
  destinationId : String
  /-- The protocol, empty if it is not known. -/
  protocol : String
  /-- The port at the source side as it is shown. -/
  sourcePortLabel : String
  /-- The port at the destination side as it is shown. -/
  destinationPortLabel : String
  /-- How recently the edge was observed. -/
  activity : Activity
  /-- The number of observations. -/
  eventCount : UInt64
  /-- The number of bytes transferred. -/
  byteTotal : UInt64

/-- A graph as a renderer sees it. -/
structure Snapshot where
  /-- The nodes, oldest first. -/
  nodes : List NodeView
  /-- The edges, oldest first. -/
  edges : List EdgeView

/-- The snapshot of a graph without nodes and edges. -/
def Snapshot.empty : Snapshot := ⟨[], []⟩

/-- A place that a renderer gave to a node. -/
structure PositionUpdate where
  /-- The identity of the node. -/
  id : String
  /-- Its place. -/
  position : Position

/-- The view of a node. -/
def Node.view (node : Node) : NodeView where
  id := node.id
  address := node.address
  position := node.position
  activity := node.activity

/-- The view of an edge. -/
def Edge.view (edge : Edge) : EdgeView where
  id := edge.key.print
  sourceId := edge.sourceId
  destinationId := edge.destinationId
  protocol := edge.protocol
  sourcePortLabel := edge.sourcePortLabel
  destinationPortLabel := edge.destinationPortLabel
  activity := edge.activity
  eventCount := edge.eventCount
  byteTotal := edge.byteTotal

/-- The node at a given place. -/
def Node.moveTo (position : Position) (node : Node) : Node :=
  { node with position := some position }

@[simp] theorem Node.id_moveTo (position : Position) (node : Node) :
    (node.moveTo position).id = node.id := rfl

namespace Graph

/-- The snapshot of a graph. -/
def snapshot (graph : Graph) : Snapshot where
  nodes := graph.nodes.toList.map Node.view
  edges := graph.edges.toList.map Edge.view

/-- A position that is finite and names a node. -/
def takesPosition (graph : Graph) (update : PositionUpdate) : Bool :=
  update.position.isFinite && graph.nodes.contains update.id

/-- Moves the named node, if the position is finite. -/
def applyPosition (graph : Graph) (update : PositionUpdate) : Graph :=
  if update.position.isFinite then
    { graph with
      nodes := graph.nodes.modify update.id (Node.moveTo update.position)
        (Node.id_moveTo update.position) }
  else graph

/-- Moves the named nodes, and counts the positions that were used. -/
def mergePositions (graph : Graph) (updates : List PositionUpdate) : Graph × Nat :=
  (updates.foldl applyPosition graph, updates.countP graph.takesPosition)

/-- The positions of the nodes that have one. -/
def positions (graph : Graph) : List PositionUpdate :=
  graph.nodes.toList.filterMap fun node => node.position.map (PositionUpdate.mk node.id)

end Graph
end TrafficGraph
