import TrafficGraph.Address.Host
import TrafficGraph.Source.Mapping
import TrafficGraph.Text.Numeral
import TrafficGraph.Time.Rfc3339

/-!
# Connections observed in records

A record gives a connection if the fields of both addresses hold texts that
name hosts.  Every other part is absent when its field is missing or holds
nothing of its kind.  Numbers may be given as JSON integers or in decimal; the
protocols with a number of their own are known by name.
-/

namespace TrafficGraph
namespace Source

/-- One observation of two hosts talking to each other. -/
structure Connection where
  /-- The canonical name of the host at the source side. -/
  source : String
  /-- The canonical name of the host at the destination side. -/
  destination : String
  /-- The port at the source side. -/
  sourcePort : Option UInt16
  /-- The port at the destination side. -/
  destinationPort : Option UInt16
  /-- The protocol spoken. -/
  protocol : Option String
  /-- The time of the observation, in milliseconds since the start of 1970. -/
  timestamp : Option UInt64
  /-- The number of bytes transferred. -/
  byteCount : Option UInt64
  deriving DecidableEq

/-- The canonical name of the host that a value names. -/
def address? : Json → Option String
  | .string text => Address.canonical? text
  | _ => none

/-- A word of 64 bits, as a number or in decimal. -/
def word64? : Json → Option UInt64
  | .number number => number.word64?
  | .string text => Text.word64? (Text.trimmed text)
  | _ => none

/-- A port, as a number or in decimal. -/
def port? (value : Json) : Option UInt16 := do
  let word ← word64? value
  if word < 65536 then some word.toUInt16 else none

/-- The name of a protocol that is given by number or name. -/
def protocolName? (text : String) : Option String :=
  if text = "" then none
  else if text = "1" then some "icmp"
  else if text = "6" then some "tcp"
  else if text = "17" then some "udp"
  else if text = "58" then some "icmpv6"
  else some text

/-- The name of a protocol. -/
def protocol? : Json → Option String
  | .number number => do
    let word ← number.word64?
    protocolName? (String.ofList (Text.decimal word.toNat))
  | .string text => protocolName? (Text.lowerCase (Text.trimmed text))
  | _ => none

/-- Seconds in whole milliseconds, at most the largest word. -/
def millisOfSeconds? (seconds : Float) : Option UInt64 :=
  if seconds.isFinite && 0 ≤ seconds then some (seconds * 1000).toUInt64 else none

/-- The milliseconds of a time in RFC 3339 form that is not before 1970. -/
def millisOfText? (text : List Char) : Option UInt64 := do
  let millis ← Time.millisOfRfc3339? text
  if 0 ≤ millis then some (UInt64.ofNat millis.toNat) else none

/-- A time in milliseconds since the start of 1970: integers are milliseconds,
other numbers seconds, and texts either milliseconds or a time in RFC 3339 form. -/
def timestamp? : Json → Option UInt64
  | .number number =>
    match number.word64? with
    | some millis => some millis
    | none => millisOfSeconds? number.toFloat
  | .string text =>
    let text := Text.trimmed text
    match Text.word64? text with
    | some millis => some millis
    | none => millisOfText? text
  | _ => none

/-- The value of a field that may be unmapped. -/
def field? (record : Record) (name : Option String) : Option Json :=
  name.bind record.get?

/-- The connection that a record describes under a mapping. -/
def connection? (mapping : Mapping) (record : Record) : Option Connection := do
  let source ← (record.get? mapping.sourceAddress).bind address?
  let destination ← (record.get? mapping.destinationAddress).bind address?
  some {
    source
    destination
    sourcePort := (field? record mapping.sourcePort).bind port?
    destinationPort := (field? record mapping.destinationPort).bind port?
    protocol := (field? record mapping.protocol).bind protocol?
    timestamp := (field? record mapping.timestamp).bind timestamp?
    byteCount := (field? record mapping.byteCount).bind word64? }

end Source
end TrafficGraph
