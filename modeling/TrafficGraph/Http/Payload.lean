import TrafficGraph.Graph.Snapshot

/-!
# Answers of the interface

The answers that are more than a value of the graph or its session.
-/

namespace TrafficGraph

/-- The graph of a view at some time. -/
structure GraphResponse where
  /-- The identity of the view. -/
  viewId : String
  /-- The version of the last processed batch. -/
  version : Int64
  /-- The time of the snapshot, in RFC 3339 form. -/
  timestamp : String
  /-- The nodes and edges. -/
  snapshot : Snapshot

/-- The answer to positions given by a renderer. -/
structure PositionsResponse where
  /-- The number of positions that were used. -/
  applied : Nat
  deriving DecidableEq

end TrafficGraph
