import TrafficGraph.Text.Trim

/-!
# Roles of record fields

A field of a record can play one of seven roles in a connection.  A field is
recognized for a role by one of its tags, which may carry the mark `net.`, or by
its name without hyphens, underscores and dots.  Letter case never matters.
-/

namespace TrafficGraph
namespace Source

/-- The part of a connection that a field carries. -/
inductive Role
  | sourceAddress
  | destinationAddress
  | sourcePort
  | destinationPort
  | protocol
  | timestamp
  | byteCount
  deriving DecidableEq

namespace Role

/-- All roles, in the order in which they choose fields. -/
def all : List Role :=
  [.sourceAddress, .destinationAddress, .sourcePort, .destinationPort, .protocol, .timestamp,
    .byteCount]

/-- The tag of a role. -/
def tag : Role → String
  | .sourceAddress => "src_addr"
  | .destinationAddress => "dst_addr"
  | .sourcePort => "src_port"
  | .destinationPort => "dst_port"
  | .protocol => "protocol"
  | .timestamp => "timestamp"
  | .byteCount => "bytes"

/-- The plain names by which a field is recognized for a role. -/
def aliases : Role → List String
  | .sourceAddress =>
    ["srcaddr", "srcip", "src", "sourceaddr", "sourceaddress", "sourceip", "saddr", "localaddr",
      "localaddress", "idorigh"]
  | .destinationAddress =>
    ["dstaddr", "dstip", "dst", "destaddr", "destinationaddr", "destinationaddress",
      "destinationip", "daddr", "remoteaddr", "remoteaddress", "idresph"]
  | .sourcePort => ["srcport", "sport", "sourceport", "localport", "idorigp"]
  | .destinationPort =>
    ["dstport", "dport", "destport", "destinationport", "remoteport", "idrespp"]
  | .protocol => ["protocol", "proto", "l4proto", "transport"]
  | .timestamp => ["timestamp", "ts", "time", "timestampms", "eventtime"]
  | .byteCount => ["bytes", "bytecount", "size", "len", "length", "octets"]

/-- The lower-case letters of a tag without the mark `net.` in front. -/
def plainTag (tag : String) : List Char :=
  match (Text.trimmed tag).map Char.toLower with
  | 'n' :: 'e' :: 't' :: '.' :: rest => rest
  | letters => letters

/-- A field name in lower case without hyphens, underscores and dots. -/
def plainName (name : String) : List Char :=
  (name.toList.filter fun character =>
    character != '_' && character != '-' && character != '.').map Char.toLower

/-- A tag that names the role. -/
def matchesTag (role : Role) (tag : String) : Bool :=
  plainTag tag == role.tag.toList

/-- A field name that is one of the plain names of the role. -/
def matchesName (role : Role) (name : String) : Bool :=
  role.aliases.any fun known => plainName name == known.toList

end Role
end Source
end TrafficGraph
