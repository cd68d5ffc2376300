/-!
# Change notifications

A notification tells subscribers that the graph of a view has changed, how it
came about, and the version and the sizes of the graph after the change.
-/

namespace TrafficGraph

/-- What changed a graph. -/
inductive ChangeKind
  /-- A batch was folded. -/
  | batchFolded
  /-- Entries were demoted. -/
  | decayed
  /-- The graph was discarded for a new port policy. -/
  | reset
  /-- The graph was discarded for another source. -/
  | sourceChanged
  /-- Nodes were given positions. -/
  | positionsMerged
  deriving DecidableEq

/-- A notification of a change. -/
structure Change where
  /-- The time of the change, in RFC 3339 form. -/
  timestamp : String
  /-- The view whose graph changed. -/
  viewId : String
  /-- What changed it. -/
  kind : ChangeKind
  /-- The version of the last processed batch after the change. -/
  version : Int64
  /-- The number of nodes after the change. -/
  nodeCount : Nat
  /-- The number of edges after the change. -/
  edgeCount : Nat
  deriving DecidableEq

end TrafficGraph
