import TrafficGraph.Source.Mapping
import TrafficGraph.Wire.Basic

/-!
# Sources on the wire

A field is known by its name alone, so its tags may be missing, as may the name
of a source.  The optional parts of a mapping are written as null when they are
absent; the mapping of a source that has none is left out.
-/

namespace TrafficGraph
namespace Wire

open Source

instance : Wire FieldDescriptor where
  encode field := .object [
    ("name", .string field.name),
    ("tags", .array (field.tags.map .string))]
  decoder := ((Json.Fields.build FieldDescriptor.mk)
    |>.required "name" .string
    |>.defaulted "tags" (.list .string) []).decoder

instance : Wire Description where
  encode source := .object [
    ("name", .string source.name),
    ("fields", encode source.fields)]
  decoder := ((Json.Fields.build Description.mk)
    |>.defaulted "name" .string ""
    |>.required "fields" decoder).decoder

instance : Wire Mapping where
  encode mapping := .object [
    ("src_addr", .string mapping.sourceAddress),
    ("dst_addr", .string mapping.destinationAddress),
    ("src_port", nullable .string mapping.sourcePort),
    ("dst_port", nullable .string mapping.destinationPort),
    ("protocol", nullable .string mapping.protocol),
    ("timestamp", nullable .string mapping.timestamp),
    ("bytes", nullable .string mapping.byteCount)]
  decoder := ((Json.Fields.build Mapping.mk)
    |>.required "src_addr" .string
    |>.required "dst_addr" .string
    |>.optional "src_port" .string
    |>.optional "dst_port" .string
    |>.optional "protocol" .string
    |>.optional "timestamp" .string
    |>.optional "bytes" .string).decoder

instance : Wire Config where
  encode config := .object
    (("is_valid", .bool config.isValid) :: omissible "fields" encode config.fields)
  decoder := ((Json.Fields.build Config.mk)
    |>.required "is_valid" .bool
    |>.optional "fields" decoder).decoder

end Wire
end TrafficGraph
