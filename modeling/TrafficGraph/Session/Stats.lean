/-!
# Counters of a session

The counters tell what a session has done since it was opened; discarding a
graph never lowers them.  The sizes of the graph and the time of the last batch
tell how it is now.
-/

namespace TrafficGraph

/-- The counters of one session. -/
structure Stats where
  /-- Batches that were folded. -/
  batchesApplied : Nat
  /-- Batches whose version was not new. -/
  batchesStale : Nat
  /-- Batches that came while there was no source. -/
  batchesNotApplicable : Nat
  /-- Folded batches that brought a full window. -/
  fullWindowBatches : Nat
  /-- Records that described a connection. -/
  eventsFolded : Nat
  /-- Records that described none. -/
  eventsSkipped : Nat
  /-- Graphs that were discarded. -/
  resets : Nat
  /-- Decay steps. -/
  decayTicks : Nat
  /-- Nodes of the graph. -/
  nodeCount : Nat
  /-- Edges of the graph. -/
  edgeCount : Nat
  /-- The time of the last folded batch, in RFC 3339 form. -/
  lastBatchAt : Option String
  deriving DecidableEq

namespace Stats

/-- The counters of a new session. -/
def zero : Stats where
  batchesApplied := 0
  batchesStale := 0
  batchesNotApplicable := 0
  fullWindowBatches := 0
  eventsFolded := 0
  eventsSkipped := 0
  resets := 0
  decayTicks := 0
  nodeCount := 0
  edgeCount := 0
  lastBatchAt := none

/-- Counts a folded batch. -/
def recordApplied (stats : Stats) (folded skipped : Nat) (fullWindow : Bool)
    (clock : String) : Stats :=
  { stats with
    batchesApplied := stats.batchesApplied + 1
    eventsFolded := stats.eventsFolded + folded
    eventsSkipped := stats.eventsSkipped + skipped
    fullWindowBatches := stats.fullWindowBatches + if fullWindow then 1 else 0
    lastBatchAt := some clock }

/-- Notes the sizes of the graph. -/
def recordSize (stats : Stats) (nodeCount edgeCount : Nat) : Stats :=
  { stats with nodeCount, edgeCount }

end Stats
end TrafficGraph
