import TrafficGraph.Http.Payload
import TrafficGraph.Session.Basic
import TrafficGraph.Wire.Graph

/-!
# Sessions on the wire

Batches, their outcomes, options, counters and notifications.  An outcome is an
object whose member `status` tells its kind, or an array whose first item does;
the answer with a graph lists the members of the snapshot among its own, and
cannot be given as an array.  Both are read as a whole before their parts are.
-/

namespace TrafficGraph
namespace Wire

/-- The names of the batch modes. -/
def batchModeNames : List (String × BatchMode) :=
  [("incremental", .incremental), ("full_window", .fullWindow)]

/-- The name of a batch mode. -/
def batchModeName : BatchMode → String
  | .incremental => "incremental"
  | .fullWindow => "full_window"

instance : Wire BatchMode where
  encode mode := .string (batchModeName mode)
  decoder := .choice batchModeNames

instance : Wire Batch where
  encode batch := .object [
    ("version", int64 batch.version),
    ("mode", encode batch.mode),
    ("events", encode batch.events)]
  decoder := ((Json.Fields.build Batch.mk)
    |>.required "version" .int64
    |>.defaulted "mode" decoder .incremental
    |>.required "events" decoder).decoder

/-- The name of the kind of an outcome. -/
def outcomeStatus : BatchOutcome → String
  | .notApplicable => "not_applicable"
  | .stale _ => "stale"
  | .applied _ _ _ => "applied"

/-- The fields of an outcome whose kind has this name. -/
def outcomeFields? (status : String) : Option (Json.Fields BatchOutcome) :=
  if status = "not_applicable" then some (.build .notApplicable)
  else if status = "stale" then
    some ((Json.Fields.build BatchOutcome.stale)
      |>.required "last_processed_version" .int64)
  else if status = "applied" then
    some ((Json.Fields.build BatchOutcome.applied)
      |>.required "folded" .count
      |>.required "skipped" .count
      |>.required "reset" .bool)
  else none

/-- Reads an outcome of the kind that a value names from its other parts. -/
def outcomeOfKind (status : Json.Tree) : Json.Decoder BatchOutcome := fun allowance others =>
  match status.text?.bind outcomeFields? with
  | some fields => fields.decoder allowance others
  | none => .error .mismatch

/-- Reads an outcome from an object that tells its kind once, or from an array that
tells it first. -/
def outcomeDecoder : Json.Decoder BatchOutcome := fun allowance tree => do
  let _ ← tree.value allowance
  match tree with
  | .object members complete =>
    match members.partition fun member => member.1 == some "status" with
    | ([(_, status)], others) => outcomeOfKind status allowance (.object others complete)
    | _ => .error .mismatch
  | .array (status :: others) complete =>
    outcomeOfKind status allowance (.array others complete)
  | tree => .error tree.reject

instance : Wire BatchOutcome where
  encode outcome := .object (("status", .string (outcomeStatus outcome)) ::
    match outcome with
    | .notApplicable => []
    | .stale lastVersion => [("last_processed_version", int64 lastVersion)]
    | .applied folded skipped reset =>
      [("folded", count folded), ("skipped", count skipped), ("reset", .bool reset)])
  decoder := outcomeDecoder

instance : Wire GraphOptions where
  encode options := .object [
    ("ephemeral_port_threshold", word16 options.portThreshold),
    ("fade_after_ms", word64 options.fadeAfter),
    ("idle_after_ms", word64 options.idleAfter),
    ("use_event_time", .bool options.useEventTime)]
  decoder := ((Json.Fields.build GraphOptions.mk)
    |>.required "ephemeral_port_threshold" .word16
    |>.required "fade_after_ms" .word64
    |>.required "idle_after_ms" .word64
    |>.defaulted "use_event_time" .bool false).decoder

instance : Wire Stats where
  encode stats := .object [
    ("batches_applied", count stats.batchesApplied),
    ("batches_stale", count stats.batchesStale),
    ("batches_not_applicable", count stats.batchesNotApplicable),
    ("full_window_batches", count stats.fullWindowBatches),
    ("events_folded", count stats.eventsFolded),
    ("events_skipped", count stats.eventsSkipped),
    ("resets", count stats.resets),
    ("decay_ticks", count stats.decayTicks),
    ("node_count", count stats.nodeCount),
    ("edge_count", count stats.edgeCount),
    ("last_batch_at", nullable .string stats.lastBatchAt)]
  decoder := ((Json.Fields.build Stats.mk)
    |>.required "batches_applied" .count
    |>.required "batches_stale" .count
    |>.required "batches_not_applicable" .count
    |>.required "full_window_batches" .count
    |>.required "events_folded" .count
    |>.required "events_skipped" .count
    |>.required "resets" .count
    |>.required "decay_ticks" .count
    |>.required "node_count" .count
    |>.required "edge_count" .count
    |>.optional "last_batch_at" .string).decoder

/-- The names of the kinds of change. -/
def changeKindNames : List (String × ChangeKind) :=
  [("batch_folded", .batchFolded), ("decayed", .decayed), ("reset", .reset),
    ("source_changed", .sourceChanged), ("positions_merged", .positionsMerged)]

/-- The name of a kind of change. -/
def changeKindName : ChangeKind → String
  | .batchFolded => "batch_folded"
  | .decayed => "decayed"
  | .reset => "reset"
  | .sourceChanged => "source_changed"
  | .positionsMerged => "positions_merged"

instance : Wire ChangeKind where
  encode kind := .string (changeKindName kind)
  decoder := .choice changeKindNames

instance : Wire Change where
  encode change := .object [
    ("timestamp", .string change.timestamp),
    ("view_id", .string change.viewId),
    ("kind", encode change.kind),
    ("version", int64 change.version),
    ("node_count", count change.nodeCount),
    ("edge_count", count change.edgeCount)]
  decoder := ((Json.Fields.build Change.mk)
    |>.required "timestamp" .string
    |>.required "view_id" .string
    |>.required "kind" decoder
    |>.required "version" .int64
    |>.required "node_count" .count
    |>.required "edge_count" .count).decoder

/-- The fields of an answer with a graph that are not those of the snapshot. -/
def responseFields : Json.Fields (Snapshot → GraphResponse) :=
  (Json.Fields.build GraphResponse.mk)
    |>.required "view_id" .string
    |>.required "version" .int64
    |>.required "timestamp" .string

/-- A name among the fields of an answer with a graph that are not those of the
snapshot. -/
def isResponseField (name : String) : Bool :=
  name == "view_id" || name == "version" || name == "timestamp"

/-- Reads an answer with a graph from an object. -/
def responseDecoder : Json.Decoder GraphResponse
  | allowance, .object members complete => do
    let inner ← Json.nest allowance
    let (own, others) := members.partition fun member => member.1.any isResponseField
    let response ← responseFields.fromMembers inner own true
    let _ ← Json.Tree.memberValues inner others complete
    let snapshot ← (snapshotFields (.settledChoice activityNames)).fromMembers inner others true
    return response snapshot
  | _, tree => .error tree.reject

instance : Wire GraphResponse where
  encode response := .object (
    [("view_id", .string response.viewId),
      ("version", int64 response.version),
      ("timestamp", .string response.timestamp)] ++
    snapshotMembers response.snapshot)
  decoder := responseDecoder

instance : Wire PositionsResponse where
  encode response := .object [("applied", count response.applied)]
  decoder := ((Json.Fields.build PositionsResponse.mk)
    |>.required "applied" .count).decoder

end Wire
end TrafficGraph
