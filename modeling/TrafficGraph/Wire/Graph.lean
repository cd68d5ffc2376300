import TrafficGraph.Graph.Decay
import TrafficGraph.Graph.Fold
import TrafficGraph.Graph.Snapshot
import TrafficGraph.Wire.Basic

/-!
# Graphs on the wire

Edge keys, activities, positions, the views of a snapshot, the options of the
operations on a graph and their outcomes.  A node without a position is written
without the member for it; the ports of a key are null when they are absent.  The
views are decoded with a decoder of activities, because inside a larger answer an
activity can be written in more ways.
-/

namespace TrafficGraph
namespace Wire

/-- The names of the activities. -/
def activityNames : List (String × Activity) :=
  [("active", .active), ("fading", .fading), ("idle", .idle)]

/-- The name of an activity. -/
def activityName : Activity → String
  | .active => "active"
  | .fading => "fading"
  | .idle => "idle"

instance : Wire Activity where
  encode activity := .string (activityName activity)
  decoder := .choice activityNames

instance : Wire EdgeKey where
  encode key := .object [
    ("src_addr", .string key.source),
    ("dst_addr", .string key.destination),
    ("protocol", .string key.protocol),
    ("src_port", nullable word16 key.sourcePort),
    ("dst_port", nullable word16 key.destinationPort)]
  decoder := ((Json.Fields.build EdgeKey.mk)
    |>.required "src_addr" .string
    |>.required "dst_addr" .string
    |>.required "protocol" .string
    |>.optional "src_port" .word16
    |>.optional "dst_port" .word16).decoder

instance : Wire Position where
  encode position := .object [
    ("x", .number (.float position.x)),
    ("y", .number (.float position.y))]
  decoder := ((Json.Fields.build Position.mk)
    |>.required "x" .float
    |>.required "y" .float).decoder

instance : Wire PositionUpdate where
  encode update := .object [
    ("id", .string update.id),
    ("position", encode update.position)]
  decoder := ((Json.Fields.build PositionUpdate.mk)
    |>.required "id" .string
    |>.required "position" decoder).decoder

/-- The fields of a node. -/
def nodeFields (activity : Json.Decoder Activity) : Json.Fields NodeView :=
  (Json.Fields.build NodeView.mk)
    |>.required "id" .string
    |>.required "address" .string
    |>.omissible "position" decoder
    |>.required "activity" activity

instance : Wire NodeView where
  encode node := .object (
    [("id", .string node.id), ("address", .string node.address)] ++
    omissible "position" encode node.position ++
    [("activity", encode node.activity)])
  decoder := (nodeFields decoder).decoder

/-- The fields of an edge. -/
def edgeFields (activity : Json.Decoder Activity) : Json.Fields EdgeView :=
  (Json.Fields.build EdgeView.mk)
    |>.required "id" .string
    |>.required "src_id" .string
    |>.required "dst_id" .string
    |>.required "protocol" .string
    |>.required "src_port_display" .string
    |>.required "dst_port_display" .string
    |>.required "activity" activity
    |>.required "event_count" .word64
    |>.required "byte_total" .word64

instance : Wire EdgeView where
  encode edge := .object [
    ("id", .string edge.id),
    ("src_id", .string edge.sourceId),
    ("dst_id", .string edge.destinationId),
    ("protocol", .string edge.protocol),
    ("src_port_display", .string edge.sourcePortLabel),
    ("dst_port_display", .string edge.destinationPortLabel),
    ("activity", encode edge.activity),
    ("event_count", word64 edge.eventCount),
    ("byte_total", word64 edge.byteTotal)]
  decoder := (edgeFields decoder).decoder

/-- The fields of a snapshot. -/
def snapshotFields (activity : Json.Decoder Activity) : Json.Fields Snapshot :=
  (Json.Fields.build Snapshot.mk)
    |>.required "nodes" (.list (nodeFields activity).decoder)
    |>.required "edges" (.list (edgeFields activity).decoder)

/-- The members of a snapshot. -/
def snapshotMembers (snapshot : Snapshot) : List (String × Json) :=
  [("nodes", encode snapshot.nodes), ("edges", encode snapshot.edges)]

instance : Wire Snapshot where
  encode snapshot := .object (snapshotMembers snapshot)
  decoder := (snapshotFields decoder).decoder

instance : Wire FoldOptions where
  encode options := .object [
    ("ephemeral_port_threshold", word16 options.portThreshold),
    ("use_event_time", .bool options.useEventTime)]
  decoder := ((Json.Fields.build FoldOptions.mk)
    |>.required "ephemeral_port_threshold" .word16
    |>.defaulted "use_event_time" .bool false).decoder

instance : Wire Thresholds where
  encode thresholds := .object [
    ("fade_after_ms", word64 thresholds.fadeAfter),
    ("idle_after_ms", word64 thresholds.idleAfter)]
  decoder := ((Json.Fields.build Thresholds.mk)
    |>.required "fade_after_ms" .word64
    |>.required "idle_after_ms" .word64).decoder

instance : Wire FoldOutcome where
  encode outcome := .object [
    ("folded", count outcome.folded),
    ("skipped", count outcome.skipped),
    ("new_nodes", count outcome.newNodes),
    ("new_edges", count outcome.newEdges)]
  decoder := ((Json.Fields.build FoldOutcome.mk)
    |>.required "folded" .count
    |>.required "skipped" .count
    |>.required "new_nodes" .count
    |>.required "new_edges" .count).decoder

instance : Wire DecayOutcome where
  encode outcome := .object [
    ("faded", count outcome.faded),
    ("idled", count outcome.idled)]
  decoder := ((Json.Fields.build DecayOutcome.mk)
    |>.required "faded" .count
    |>.required "idled" .count).decoder

end Wire
end TrafficGraph
