import TrafficGraph.Json.Decoder
import TrafficGraph.Json.Reader

/-!
# Values on the wire

A type of the interface has a JSON encoding and a decoder.  The decoder takes
more than the encoding gives: absent parts may be left out or be null, unknown
members are passed over, and the fields may come in any order.
-/

namespace TrafficGraph

/-- A type whose values are exchanged as JSON. -/
class Wire (α : Type) where
  /-- The JSON value of a value. -/
  encode : α → Json
  /-- Reads a value from a tree. -/
  decoder : Json.Decoder α

namespace Wire

/-- The value of a JSON value, if it has the right shape. -/
def decode? {α : Type} [Wire α] (json : Json) : Option α :=
  (decoder Json.nestingAllowance (.ofJson json)).toOption

/-- The value of a text that holds one JSON value and otherwise white space. -/
def parse? {α : Type} [Wire α] (input : Bytes) : Option α := do
  let tree ← Json.readWhole input
  (decoder Json.nestingAllowance tree).toOption

/-- The first value of a text, or the first fault in reading order. -/
def parseFirst (α : Type) [Wire α] (input : Bytes) : Except Json.Fault α :=
  decoder Json.nestingAllowance (Json.read input).1

/-- A word of 64 bits as a JSON number. -/
def word64 (word : UInt64) : Json :=
  .number (.ofWord64 word)

/-- A word of 16 bits as a JSON number. -/
def word16 (word : UInt16) : Json :=
  .number (.ofWord64 word.toUInt64)

/-- A signed word of 64 bits as a JSON number. -/
def int64 (word : Int64) : Json :=
  .number (.ofInt64 word)

/-- A count as a JSON number; counts beyond 64 bits are not told apart. -/
def count (number : Nat) : Json :=
  .number (.integer (min number 18446744073709551615 : Nat) (by omega))

/-- An absent value as null. -/
def nullable {α : Type} (encode : α → Json) : Option α → Json
  | some value => encode value
  | none => .null

/-- A member that is left out when its value is absent. -/
def omissible {α : Type} (name : String) (encode : α → Json) :
    Option α → List (String × Json)
  | some value => [(name, encode value)]
  | none => []

instance : Wire Record where
  encode := Record.toJson
  decoder := Json.Decoder.record

instance {α : Type} [Wire α] : Wire (List α) where
  encode values := .array (values.map encode)
  decoder := Json.Decoder.list decoder

end Wire
end TrafficGraph
