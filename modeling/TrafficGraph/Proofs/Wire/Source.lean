import TrafficGraph.Proofs.Wire.Layout
import TrafficGraph.Wire.Source

/-!
# Sources survive the wire

The name of a source and the tags of its fields may be missing when they are empty, and what is
optional in a mapping may be null or missing.
-/

namespace TrafficGraph
namespace Wire

open Json (Decoder Fields Shape nesting nestingOfMembers)
open Source

variable {allowance : Nat}

/-! ## Descriptions -/

/-- The shape of a field of a source. -/
def descriptorShape : Shape :=
  .object [.required "name" .fixed, .defaulted "tags" (.array []) .fixed]

/-- The shape of a source. -/
def descriptionShape : Shape :=
  .object [.defaulted "name" (.string "") .fixed, .required "fields" (.list descriptorShape)]

instance : Layout FieldDescriptor where
  shape _ := descriptorShape

instance : Layout Description where
  shape _ := descriptionShape

theorem read?_tags
    (tags : List String)
    (fits : nesting (.array (tags.map .string)) < allowance) :
    (Decoder.list .string).read? allowance (.array (tags.map .string)) = some tags :=
  Decoder.read?_list_map fits fun tag _ inner _ => Decoder.read?_string inner tag

theorem respects_descriptor (roomy : 2 < allowance) :
    (decoder : Decoder FieldDescriptor).Respects allowance descriptorShape := by
  refine Fields.respects_decoder (by decide) fun inner nested => ?_
  obtain ⟨rfl, _⟩ := Json.nest_eq_ok nested
  have room : nesting (.array []) < inner := Nat.lt_of_succ_lt_succ roomy
  have untagged : (Decoder.list .string).read? inner (.array []) = some [] :=
    read?_tags [] room
  simp [Fields.required, Fields.defaulted, untagged]

theorem read?_descriptor
    {field : FieldDescriptor}
    (fits : nesting (encode field) < allowance) :
    decoder.read? allowance (encode field) = some field := by
  refine Fields.read?_decoder_eq_some (by decide) fits fun inner innerFits => ?_
  rw [nestingOfMembers, nestingOfMembers, Nat.max_lt, Nat.max_lt] at innerFits
  obtain ⟨_, tagsFit, _⟩ := innerFits
  simp [Fields.required, Fields.defaulted, read?_tags field.tags tagsFit]

theorem lossless_descriptor : Lossless FieldDescriptor :=
  lossless_of_respects rfl (fun _ => respects_descriptor (by decide)) fun sendable =>
    read?_descriptor sendable.fits

theorem respects_description (roomy : 4 < allowance) :
    (decoder : Decoder Description).Respects allowance descriptionShape := by
  refine Fields.respects_decoder (by decide) fun inner nested => ?_
  obtain ⟨rfl, _⟩ := Json.nest_eq_ok nested
  have fields : (decoder : Decoder (List FieldDescriptor)).Respects inner
      (.list descriptorShape) := by
    refine Decoder.Respects.list fun innermost nestedAgain => ?_
    obtain ⟨rfl, _⟩ := Json.nest_eq_ok nestedAgain
    exact respects_descriptor (by omega)
  simp [Fields.required, Fields.defaulted, fields]

theorem read?_description
    {source : Description}
    (fits : nesting (encode source) < allowance) :
    decoder.read? allowance (encode source) = some source := by
  refine Fields.read?_decoder_eq_some (by decide) fits fun inner innerFits => ?_
  rw [nestingOfMembers, nestingOfMembers, Nat.max_lt, Nat.max_lt] at innerFits
  obtain ⟨_, fieldsFit, _⟩ := innerFits
  have fields : decoder.read? inner (encode source.fields) = some source.fields :=
    Decoder.read?_list_map fieldsFit fun _ _ _ => read?_descriptor
  simp [Fields.required, Fields.defaulted, fields]

theorem lossless_description : Lossless Description :=
  lossless_of_respects rfl (fun _ => respects_description (by decide)) fun sendable =>
    read?_description sendable.fits

/-! ## Mappings -/

/-- The shape of a mapping. -/
def mappingShape : Shape :=
  .object [
    .required "src_addr" .fixed,
    .required "dst_addr" .fixed,
    .optional "src_port" .fixed,
    .optional "dst_port" .fixed,
    .optional "protocol" .fixed,
    .optional "timestamp" .fixed,
    .optional "bytes" .fixed]

/-- The shape of a verdict on a source. -/
def configShape : Shape :=
  .object [.required "is_valid" .fixed, .optional "fields" mappingShape]

instance : Layout Mapping where
  shape _ := mappingShape

instance : Layout Config where
  shape _ := configShape

theorem respects_mapping (allowance : Nat) :
    (decoder : Decoder Mapping).Respects allowance mappingShape := by
  refine Fields.respects_decoder (by decide) fun inner _ => ?_
  simp [Fields.required, Fields.optional]

theorem read?_mapping
    {mapping : Mapping}
    (fits : nesting (encode mapping) < allowance) :
    decoder.read? allowance (encode mapping) = some mapping := by
  refine Fields.read?_decoder_eq_some (by decide) fits fun inner _ => ?_
  simp [Fields.required, Fields.optional]

theorem lossless_mapping : Lossless Mapping :=
  lossless_of_respects rfl (fun _ => respects_mapping _) fun sendable =>
    read?_mapping sendable.fits

theorem respects_config (allowance : Nat) :
    (decoder : Decoder Config).Respects allowance configShape := by
  refine Fields.respects_decoder (by decide) fun inner _ => ?_
  simp [Fields.required, Fields.optional, (respects_mapping inner).nullable]

theorem read?_config
    {config : Config}
    (fits : nesting (encode config) < allowance) :
    decoder.read? allowance (encode config) = some config := by
  obtain ⟨isValid, fields⟩ := config
  refine Fields.read?_decoder_eq_some (by decide) fits fun inner innerFits => ?_
  cases fields with
  | none => simp [Fields.required, Fields.optional, omissible]
  | some mapping =>
      rw [omissible, nestingOfMembers, nestingOfMembers, Nat.max_lt, Nat.max_lt] at innerFits
      obtain ⟨_, mappingFits, _⟩ := innerFits
      have present : decoder.nullable.read? inner (encode mapping) = some (some mapping) :=
        Decoder.read?_nullable_eq_some nofun (read?_mapping mappingFits)
      simp [Fields.required, Fields.optional, omissible, present]

theorem lossless_config : Lossless Config :=
  lossless_of_respects rfl (fun _ => respects_config _) fun sendable =>
    read?_config sendable.fits

end Wire
end TrafficGraph
