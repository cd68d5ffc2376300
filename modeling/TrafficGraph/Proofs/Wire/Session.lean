import TrafficGraph.Proofs.Wire.Graph
import TrafficGraph.Wire.Session

/-!
# Sessions survive the wire

Batches carry records as they are, and the counters of a session are words.
-/

namespace TrafficGraph
namespace Wire

open Json (Decoder Fields nestingOfMembers)

/-! ## Batches -/

instance : Layout Record where
  shape _ := .free

theorem lossless_record : Lossless Record :=
  lossless_of_respects rfl (fun _ => Decoder.respects_record (by decide)) fun sendable =>
    Decoder.read?_record_toJson sendable.fits

instance : Layout BatchMode where
  shape _ := .fixed

theorem read?_batchMode (allowance : Nat) (mode : BatchMode) :
    decoder.read? allowance (encode mode) = some mode := by
  cases mode <;> rfl

theorem lossless_batchMode : Lossless BatchMode :=
  lossless_of_respects rfl (fun _ => Decoder.respects_fixed _ _) fun {mode} _ =>
    read?_batchMode _ mode

instance : Layout Batch where
  shape _ := .object [
    .required "version" .fixed,
    .defaulted "mode" (encode BatchMode.incremental) .fixed,
    .required "events" (.list .free)]

theorem respects_events (allowance : Nat) :
    (decoder : Decoder (List Record)).Respects allowance (.list .free) :=
  Decoder.Respects.list fun _ nested => Decoder.respects_record (Json.nest_eq_ok nested).2

theorem lossless_batch : Lossless Batch := by
  refine lossless_of_respects rfl (fun _ => ?_) fun {batch} sendable => ?_
  · refine Fields.respects_decoder (by decide) fun inner _ => ?_
    simp [Fields.required, Fields.defaulted, respects_events, read?_batchMode]
  · refine Fields.read?_decoder_eq_some (by decide) sendable.fits fun inner fits => ?_
    simp only [nestingOfMembers, Nat.max_lt] at fits
    obtain ⟨_, _, eventsFit, _⟩ := fits
    have events : decoder.read? inner (encode batch.events) = some batch.events :=
      Decoder.read?_list_map eventsFit fun _ _ _ => Decoder.read?_record_toJson
    simp [Fields.required, Fields.defaulted, read?_batchMode, events]

/-! ## Options, counters and changes -/

instance : Layout GraphOptions where
  shape _ := .object [
    .required "ephemeral_port_threshold" .fixed,
    .required "fade_after_ms" .fixed,
    .required "idle_after_ms" .fixed,
    .defaulted "use_event_time" (.bool false) .fixed]

theorem lossless_graphOptions : Lossless GraphOptions := by
  refine lossless_of_fields rfl (fun _ => rfl) rfl (fun _ => rfl) (by decide) ?_ ?_
  · intro inner
    simp [Fields.required, Fields.defaulted]
  · intro inner options _
    simp [Fields.required, Fields.defaulted]

instance : Layout Stats where
  shape _ := .object [
    .required "batches_applied" .fixed,
    .required "batches_stale" .fixed,
    .required "batches_not_applicable" .fixed,
    .required "full_window_batches" .fixed,
    .required "events_folded" .fixed,
    .required "events_skipped" .fixed,
    .required "resets" .fixed,
    .required "decay_ticks" .fixed,
    .required "node_count" .fixed,
    .required "edge_count" .fixed,
    .optional "last_batch_at" .fixed]
  counts stats := [stats.batchesApplied, stats.batchesStale, stats.batchesNotApplicable,
    stats.fullWindowBatches, stats.eventsFolded, stats.eventsSkipped, stats.resets,
    stats.decayTicks, stats.nodeCount, stats.edgeCount]

theorem lossless_stats : Lossless Stats := by
  refine lossless_of_fields rfl (fun _ => rfl) rfl (fun _ => rfl) (by decide) ?_ ?_
  · intro inner
    simp [Fields.required, Fields.optional]
  · intro inner stats counted
    simp [Fields.required, Fields.optional, counted.reads inner, Layout.counts]

instance : Layout ChangeKind where
  shape _ := .fixed

theorem read?_changeKind (allowance : Nat) (kind : ChangeKind) :
    decoder.read? allowance (encode kind) = some kind := by
  cases kind <;> rfl

theorem lossless_changeKind : Lossless ChangeKind :=
  lossless_of_respects rfl (fun _ => Decoder.respects_fixed _ _) fun {kind} _ =>
    read?_changeKind _ kind

instance : Layout Change where
  shape _ := .object [
    .required "timestamp" .fixed,
    .required "view_id" .fixed,
    .required "kind" .fixed,
    .required "version" .fixed,
    .required "node_count" .fixed,
    .required "edge_count" .fixed]
  counts change := [change.nodeCount, change.edgeCount]

theorem lossless_change : Lossless Change := by
  refine lossless_of_fields rfl (fun _ => rfl) rfl (fun _ => rfl) (by decide) ?_ ?_
  · intro inner
    simp [Fields.required]
  · intro inner change counted
    simp [Fields.required, counted.reads inner, Layout.counts, read?_changeKind]

instance : Layout PositionsResponse where
  shape _ := .object [.required "applied" .fixed]
  counts response := [response.applied]

theorem lossless_positionsResponse : Lossless PositionsResponse := by
  refine lossless_of_fields rfl (fun _ => rfl) rfl (fun _ => rfl) (by decide) ?_ ?_
  · intro inner
    simp [Fields.required]
  · intro inner response counted
    simp [Fields.required, counted.reads inner, Layout.counts]

end Wire
end TrafficGraph
