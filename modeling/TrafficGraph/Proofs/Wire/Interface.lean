import TrafficGraph.Proofs.Wire.Buffered
import TrafficGraph.Proofs.Wire.Source

/-!
# The interface survives the wire

Each type that clients exchange with the service is encoded on one side and decoded on the
other, and the two are declared apart.
-/

namespace TrafficGraph
namespace Wire

/-- The values of all types of the interface come back from the wire. -/
structure IsLossless : Prop where
  descriptor : Lossless Source.FieldDescriptor
  description : Lossless Source.Description
  mapping : Lossless Source.Mapping
  config : Lossless Source.Config
  record : Lossless Record
  batchMode : Lossless BatchMode
  batch : Lossless Batch
  outcome : Lossless BatchOutcome
  graphOptions : Lossless GraphOptions
  foldOptions : Lossless FoldOptions
  thresholds : Lossless Thresholds
  activity : Lossless Activity
  edgeKey : Lossless EdgeKey
  nodeView : Lossless NodeView
  edgeView : Lossless EdgeView
  snapshot : Lossless Snapshot
  foldOutcome : Lossless FoldOutcome
  decayOutcome : Lossless DecayOutcome
  stats : Lossless Stats
  changeKind : Lossless ChangeKind
  change : Lossless Change
  response : Lossless GraphResponse
  positionsResponse : Lossless PositionsResponse

/-- Encoding and decoding agree on the whole interface: whatever is sent is decoded again, with
its fields in any order, among unknown fields, and with absent parts null or left out. -/
theorem isLossless : IsLossless where
  descriptor := lossless_descriptor
  description := lossless_description
  mapping := lossless_mapping
  config := lossless_config
  record := lossless_record
  batchMode := lossless_batchMode
  batch := lossless_batch
  outcome := lossless_outcome
  graphOptions := lossless_graphOptions
  foldOptions := lossless_foldOptions
  thresholds := lossless_thresholds
  activity := lossless_activity
  edgeKey := lossless_edgeKey
  nodeView := lossless_nodeView
  edgeView := lossless_edgeView
  snapshot := lossless_snapshot
  foldOutcome := lossless_foldOutcome
  decayOutcome := lossless_decayOutcome
  stats := lossless_stats
  changeKind := lossless_changeKind
  change := lossless_change
  response := lossless_response
  positionsResponse := lossless_positionsResponse

end Wire
end TrafficGraph
