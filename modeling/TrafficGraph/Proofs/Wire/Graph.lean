import TrafficGraph.Proofs.Wire.Layout
import TrafficGraph.Wire.Graph

/-!
# Graphs survive the wire

The views of nodes and edges are read back with any decoder of activities that reads their
names, so they come back inside a larger answer as well.
-/

namespace TrafficGraph
namespace Wire

open Json (Decoder Fields Shape nesting nestingOfMembers)

variable {allowance : Nat}

/-! ## Activities and keys -/

instance : Layout Activity where
  shape _ := .fixed

/-- A decoder of activities reads their names. -/
def ReadsActivities (activity : Decoder Activity) : Prop :=
  ∀ (allowance : Nat) (value : Activity), activity.read? allowance (encode value) = some value

theorem readsActivities_choice : ReadsActivities (.choice activityNames) := by
  intro allowance value
  cases value <;> rfl

theorem readsActivities_settledChoice : ReadsActivities (.settledChoice activityNames) := by
  intro allowance value
  cases value <;> rfl

theorem lossless_activity : Lossless Activity :=
  lossless_of_respects rfl (fun _ => Decoder.respects_fixed _ _) fun {value} _ =>
    readsActivities_choice _ value

instance : Layout EdgeKey where
  shape _ := .object [
    .required "src_addr" .fixed,
    .required "dst_addr" .fixed,
    .required "protocol" .fixed,
    .optional "src_port" .fixed,
    .optional "dst_port" .fixed]

theorem read?_optionalPort (allowance : Nat) (port? : Option UInt16) :
    Decoder.word16.nullable.read? allowance (nullable word16 port?) = some port? :=
  Decoder.read?_nullable_encode (fun _ => nofun) fun port _ => read?_word16 allowance port

theorem lossless_edgeKey : Lossless EdgeKey := by
  refine lossless_of_fields rfl (fun _ => rfl) rfl (fun _ => rfl) (by decide) ?_ ?_
  · intro inner
    simp [Fields.required, Fields.optional]
  · intro inner key _
    simp [Fields.required, Fields.optional, read?_optionalPort]

/-! ## Nodes -/

/-- The shape of a position. -/
def positionShape : Shape :=
  .object [.required "x" .fixed, .required "y" .fixed]

/-- The shape of a node. -/
def nodeShape : Shape :=
  .object [
    .required "id" .fixed,
    .required "address" .fixed,
    .optional "position" positionShape,
    .required "activity" .fixed]

instance : Layout NodeView where
  shape _ := nodeShape

theorem respects_position (allowance : Nat) :
    (decoder : Decoder Position).Respects allowance positionShape := by
  refine Fields.respects_decoder (by decide) fun inner _ => ?_
  simp [Fields.required]

theorem read?_position
    {position : Position}
    (fits : nesting (encode position) < allowance) :
    decoder.read? allowance (encode position) = some position := by
  refine Fields.read?_decoder_eq_some (by decide) fits fun inner _ => ?_
  have coordinate : ∀ value,
      Decoder.float.read? inner (.number (.float value)) = some value := fun _ => rfl
  simp [Fields.required, coordinate]

theorem distinct_nodeFields (activity : Decoder Activity) : (nodeFields activity).names.Nodup := by
  have names_eq : (nodeFields activity).names = ["activity", "position", "address", "id"] := rfl
  rw [names_eq]
  decide

theorem respects_node (activity : Decoder Activity) (allowance : Nat) :
    (nodeFields activity).decoder.Respects allowance nodeShape := by
  refine Fields.respects_decoder (distinct_nodeFields activity) fun inner _ => ?_
  simp [nodeFields, Fields.required, Fields.omissible, (respects_position inner).nullable]

theorem read?_node
    {activity : Decoder Activity}
    (readsActivities : ReadsActivities activity)
    {node : NodeView}
    (fits : nesting (encode node) < allowance) :
    (nodeFields activity).decoder.read? allowance (encode node) = some node := by
  obtain ⟨id, address, position, value⟩ := node
  refine Fields.read?_decoder_eq_some (distinct_nodeFields activity) fits fun inner innerFits => ?_
  cases position with
  | none =>
      simp [nodeFields, Fields.required, Fields.omissible, omissible, readsActivities inner value]
  | some position =>
      have positionFits : nesting (encode position) < inner := by
        simp only [omissible, nestingOfMembers, List.cons_append, List.nil_append,
          Nat.max_lt] at innerFits
        exact innerFits.2.2.1
      have present : decoder.nullable.read? inner (encode position) = some (some position) :=
        Decoder.read?_nullable_eq_some nofun (read?_position positionFits)
      simp [nodeFields, Fields.required, Fields.omissible, omissible, present,
        readsActivities inner value]

theorem lossless_nodeView : Lossless NodeView :=
  lossless_of_respects rfl (fun _ => respects_node _ _) fun sendable =>
    read?_node readsActivities_choice sendable.fits

/-! ## Edges -/

/-- The shape of an edge. -/
def edgeShape : Shape :=
  .object [
    .required "id" .fixed,
    .required "src_id" .fixed,
    .required "dst_id" .fixed,
    .required "protocol" .fixed,
    .required "src_port_display" .fixed,
    .required "dst_port_display" .fixed,
    .required "activity" .fixed,
    .required "event_count" .fixed,
    .required "byte_total" .fixed]

instance : Layout EdgeView where
  shape _ := edgeShape

theorem distinct_edgeFields (activity : Decoder Activity) : (edgeFields activity).names.Nodup := by
  have names_eq : (edgeFields activity).names = ["byte_total", "event_count", "activity",
      "dst_port_display", "src_port_display", "protocol", "dst_id", "src_id", "id"] := rfl
  rw [names_eq]
  decide

theorem respects_edge (activity : Decoder Activity) (allowance : Nat) :
    (edgeFields activity).decoder.Respects allowance edgeShape := by
  refine Fields.respects_decoder (distinct_edgeFields activity) fun inner _ => ?_
  simp [edgeFields, Fields.required]

theorem read?_edge
    {activity : Decoder Activity}
    (readsActivities : ReadsActivities activity)
    {edge : EdgeView}
    (fits : nesting (encode edge) < allowance) :
    (edgeFields activity).decoder.read? allowance (encode edge) = some edge := by
  refine Fields.read?_decoder_eq_some (distinct_edgeFields activity) fits fun inner _ => ?_
  simp [edgeFields, Fields.required, readsActivities inner edge.activity]

theorem lossless_edgeView : Lossless EdgeView :=
  lossless_of_respects rfl (fun _ => respects_edge _ _) fun sendable =>
    read?_edge readsActivities_choice sendable.fits

/-! ## Snapshots -/

/-- The fields of the shape of a snapshot. -/
def snapshotSlots : List (Json.Slot Shape) :=
  [.required "nodes" (.list nodeShape), .required "edges" (.list edgeShape)]

instance : Layout Snapshot where
  shape _ := .object snapshotSlots

theorem fit_snapshotFields (activity : Decoder Activity) (inner : Nat) :
    (snapshotFields activity).Fit snapshotSlots inner := by
  have nodes : (Decoder.list (nodeFields activity).decoder).Respects inner (.list nodeShape) :=
    Decoder.Respects.list fun innermost _ => respects_node activity innermost
  have edges : (Decoder.list (edgeFields activity).decoder).Respects inner (.list edgeShape) :=
    Decoder.Respects.list fun innermost _ => respects_edge activity innermost
  simp [snapshotFields, snapshotSlots, Fields.required, nodes, edges]

theorem collect_snapshotFields
    {activity : Decoder Activity}
    (readsActivities : ReadsActivities activity)
    {snapshot : Snapshot}
    {inner : Nat}
    (fits : nestingOfMembers (snapshotMembers snapshot) < inner) :
    (snapshotFields activity).collect inner (snapshotMembers snapshot) = some snapshot := by
  rw [snapshotMembers, nestingOfMembers, nestingOfMembers, Nat.max_lt, Nat.max_lt] at fits
  obtain ⟨nodesFit, edgesFit, _⟩ := fits
  have nodes : (Decoder.list (nodeFields activity).decoder).read? inner (encode snapshot.nodes) =
      some snapshot.nodes :=
    Decoder.read?_list_map nodesFit fun _ _ _ => read?_node readsActivities
  have edges : (Decoder.list (edgeFields activity).decoder).read? inner (encode snapshot.edges) =
      some snapshot.edges :=
    Decoder.read?_list_map edgesFit fun _ _ _ => read?_edge readsActivities
  simp [snapshotFields, snapshotMembers, Fields.required, nodes, edges]

theorem lossless_snapshot : Lossless Snapshot := by
  refine lossless_of_respects rfl (fun _ => ?_) fun {snapshot} sendable => ?_
  · exact Fields.respects_decoder (by decide) fun inner _ => fit_snapshotFields _ inner
  · exact Fields.read?_decoder_eq_some (by decide) sendable.fits fun inner fits =>
      collect_snapshotFields readsActivities_choice fits

/-! ## Options and outcomes -/

instance : Layout FoldOptions where
  shape _ := .object [
    .required "ephemeral_port_threshold" .fixed,
    .defaulted "use_event_time" (.bool false) .fixed]

theorem lossless_foldOptions : Lossless FoldOptions := by
  refine lossless_of_fields rfl (fun _ => rfl) rfl (fun _ => rfl) (by decide) ?_ ?_
  · intro inner
    simp [Fields.required, Fields.defaulted]
  · intro inner options _
    simp [Fields.required, Fields.defaulted]

example : (decode? (.object [("hops", .array []), ("ephemeral_port_threshold", word16 1024)]) :
    Option FoldOptions) = some ⟨1024, false⟩ := rfl

instance : Layout Thresholds where
  shape _ := .object [.required "fade_after_ms" .fixed, .required "idle_after_ms" .fixed]

theorem lossless_thresholds : Lossless Thresholds := by
  refine lossless_of_fields rfl (fun _ => rfl) rfl (fun _ => rfl) (by decide) ?_ ?_
  · intro inner
    simp [Fields.required]
  · intro inner thresholds _
    simp [Fields.required]

instance : Layout FoldOutcome where
  shape _ := .object [
    .required "folded" .fixed,
    .required "skipped" .fixed,
    .required "new_nodes" .fixed,
    .required "new_edges" .fixed]
  counts outcome := [outcome.folded, outcome.skipped, outcome.newNodes, outcome.newEdges]

theorem lossless_foldOutcome : Lossless FoldOutcome := by
  refine lossless_of_fields rfl (fun _ => rfl) rfl (fun _ => rfl) (by decide) ?_ ?_
  · intro inner
    simp [Fields.required]
  · intro inner outcome counted
    simp [Fields.required, counted.reads inner, Layout.counts]

instance : Layout DecayOutcome where
  shape _ := .object [.required "faded" .fixed, .required "idled" .fixed]
  counts outcome := [outcome.faded, outcome.idled]

theorem lossless_decayOutcome : Lossless DecayOutcome := by
  refine lossless_of_fields rfl (fun _ => rfl) rfl (fun _ => rfl) (by decide) ?_ ?_
  · intro inner
    simp [Fields.required]
  · intro inner outcome counted
    simp [Fields.required, counted.reads inner, Layout.counts]

end Wire
end TrafficGraph
