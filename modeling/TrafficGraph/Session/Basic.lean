import TrafficGraph.Graph.Snapshot
import TrafficGraph.Session.Batch
import TrafficGraph.Session.Change
import TrafficGraph.Session.Channel
import TrafficGraph.Session.Options
import TrafficGraph.Session.Stats

/-!
# Sessions

A session owns the graph of one view.  A batch is folded if the session has a
source and the version of the batch is new; a batch with a full window is folded
into an empty graph, and the nodes that are created again keep their positions.
The graph is discarded when the source maps to other fields or the port policy
changes.  Each operation runs to completion before the next.

The clock text that the operations take is the time, in RFC 3339 form, that
notifications and counters carry.
-/

namespace TrafficGraph

/-- The owner of the graph of one view. -/
structure Session where
  /-- The identity of the view. -/
  viewId : String
  /-- The graph. -/
  graph : Graph
  /-- The field mapping of the source, if there is one. -/
  mapping : Option Source.Mapping
  /-- The options of the graph. -/
  options : GraphOptions
  /-- The counters. -/
  counters : Stats
  /-- The notifications sent to subscribers. -/
  changes : Channel Change

namespace Session

/-- A new session without a source. -/
def create (viewId : String) (options : GraphOptions) : Session where
  viewId
  graph := .empty
  mapping := none
  options
  counters := .zero
  changes := Window.empty

/-- A new session, if the options are usable. -/
def create? (viewId : String) (options : GraphOptions) : Except OptionsError Session := do
  options.validate
  return create viewId options

/-- The session has a source with address fields. -/
def hasSource (session : Session) : Bool :=
  session.mapping.isSome

/-- The version of the last processed batch. -/
def version (session : Session) : Int64 :=
  session.graph.version

/-- The counters together with the sizes of the graph. -/
def stats (session : Session) : Stats :=
  session.counters.recordSize session.graph.nodes.size session.graph.edges.size

/-- Sends a notification that tells how the graph is now. -/
def notify (clock : String) (kind : ChangeKind) (session : Session) : Session :=
  { session with
    changes := Channel.send {
      timestamp := clock
      viewId := session.viewId
      kind
      version := session.graph.version
      nodeCount := session.graph.nodes.size
      edgeCount := session.graph.edges.size } session.changes }

/-- Discards the graph. -/
def reset (session : Session) : Session :=
  { session with
    graph := .empty
    counters := { session.counters with resets := session.counters.resets + 1 } }

/-- Takes the records of a source.  Another mapping discards the graph of the
one before it. -/
def setSource (clock : String) (source : Source.Description) (session : Session) :
    Session × Source.Config :=
  let config := Source.inspect source
  if session.mapping = config.fields then (session, config)
  else
    let cleared := if session.hasSource then session.reset else session
    (({ cleared with mapping := config.fields } : Session).notify clock .sourceChanged, config)

/-- Takes other options and tells whether the graph was discarded, because the
identities of its edges depend on the port threshold. -/
def setOptions (clock : String) (options : GraphOptions) (session : Session) :
    Except OptionsError (Session × Bool) := do
  options.validate
  if session.options.portThreshold = options.portThreshold then
    return ({ session with options }, false)
  else
    return (({ session.reset with options } : Session).notify clock .reset, true)

/-- The graph after a batch whose version is new, and what became of its records. -/
def foldBatch (mapping : Source.Mapping) (options : GraphOptions) (batch : Batch) (now : UInt64)
    (graph : Graph) : Graph × FoldOutcome :=
  match batch.mode with
  | .incremental =>
    let (folded, outcome) := graph.fold mapping options.fold now batch.events
    (folded.markProcessed batch.version, outcome)
  | .fullWindow =>
    let (folded, outcome) := Graph.empty.fold mapping options.fold now batch.events
    ((folded.mergePositions graph.positions).1.markProcessed batch.version, outcome)

/-- Folds a batch, if there is a source and the version is new. -/
def applyBatch (clock : String) (batch : Batch) (now : UInt64) (session : Session) :
    Session × BatchOutcome :=
  match session.mapping with
  | none =>
    ({ session with counters := { session.counters with
        batchesNotApplicable := session.counters.batchesNotApplicable + 1 } }, .notApplicable)
  | some mapping =>
    if session.graph.accepts batch.version then
      let reset := batch.mode = .fullWindow
      let (graph, outcome) := foldBatch mapping session.options batch now session.graph
      let counters := session.counters.recordApplied outcome.folded outcome.skipped reset clock
      (({ session with graph, counters } : Session).notify clock .batchFolded,
        .applied outcome.folded outcome.skipped reset)
    else
      ({ session with counters := { session.counters with
          batchesStale := session.counters.batchesStale + 1 } }, .stale session.graph.version)

/-- Demotes what is stale by one step. -/
def tick (clock : String) (now : UInt64) (session : Session) : Session × DecayOutcome :=
  let (graph, outcome) := session.graph.decay session.options.thresholds now
  let counters := { session.counters with decayTicks := session.counters.decayTicks + 1 }
  let ticked : Session := { session with graph, counters }
  (if outcome.changed then ticked.notify clock .decayed else ticked, outcome)

/-- Gives positions to nodes, and counts those that were used. -/
def mergePositions (clock : String) (updates : List PositionUpdate) (session : Session) :
    Session × Nat :=
  let (graph, applied) := session.graph.mergePositions updates
  let merged : Session := { session with graph }
  (if 0 < applied then merged.notify clock .positionsMerged else merged, applied)

end Session
end TrafficGraph
