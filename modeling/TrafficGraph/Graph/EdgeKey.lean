import TrafficGraph.Source.Connection

/-!
# Edge identities

Observations are merged into an edge when they agree in both hosts, the
protocol and the classes of both ports.  A port at or above the threshold
belongs to the collapsed class, which the key shows as port zero; an observed
port zero counts as absent, so the two are never confused.  Between two ports
below the threshold the lower one is taken for the destination side.
-/

namespace TrafficGraph

/-- What makes an edge: its hosts, its protocol and the classes of its ports. -/
structure EdgeKey where
  /-- The host at the source side. -/
  source : String
  /-- The host at the destination side. -/
  destination : String
  /-- The protocol, empty if it is not known. -/
  protocol : String
  /-- The port at the source side, zero for the collapsed class. -/
  sourcePort : Option UInt16
  /-- The port at the destination side, zero for the collapsed class. -/
  destinationPort : Option UInt16
  deriving DecidableEq, Hashable, Ord

namespace EdgeKey

/-- The port number that stands for all ports at or above the threshold. -/
def collapsedPort : UInt16 := 0

/-- A port that names an endpoint: port zero counts as absent. -/
def namedPort (port : Option UInt16) : Option UInt16 :=
  port.filter (· != collapsedPort)

theorem namedPort_eq_some_iff {port : Option UInt16} {number : UInt16} :
    namedPort port = some number ↔ port = some number ∧ number ≠ collapsedPort := by
  rw [namedPort, Option.filter_eq_some_iff, bne_iff_ne]

/-- The class of a port under a threshold; with threshold zero every port is a
class of its own. -/
def portClass (threshold port : UInt16) : UInt16 :=
  if 0 < threshold ∧ threshold ≤ port then collapsedPort else port

/-- Both ports lie below the threshold and the lower one is at the source side. -/
def isReversed (threshold : UInt16) (sourcePort destinationPort : Option UInt16) : Bool :=
  match sourcePort, destinationPort with
  | some first, some second => first < threshold && second < threshold && first < second
  | _, _ => false

/-- The key of an observed connection under a threshold. -/
def ofConnection (threshold : UInt16) (connection : Source.Connection) : EdgeKey :=
  let sourcePort := namedPort connection.sourcePort
  let destinationPort := namedPort connection.destinationPort
  let protocol := connection.protocol.getD ""
  if isReversed threshold sourcePort destinationPort then {
    source := connection.destination
    destination := connection.source
    protocol
    sourcePort := destinationPort.map (portClass threshold)
    destinationPort := sourcePort.map (portClass threshold) }
  else {
    source := connection.source
    destination := connection.destination
    protocol
    sourcePort := sourcePort.map (portClass threshold)
    destinationPort := destinationPort.map (portClass threshold) }

/-- A host as it stands in the text of a key: in brackets if it has colons. -/
def printHost (host : String) : List Char :=
  if host.toList.contains ':' then '[' :: host.toList ++ [']'] else host.toList

/-- A port as it stands in the text of a key. -/
def printPort : Option UInt16 → List Char
  | some port => ':' :: Text.decimal port.toNat
  | none => []

/-- A protocol as it stands in the text of a key. -/
def printProtocol (protocol : String) : List Char :=
  if protocol = "" then [] else '/' :: protocol.toList

/-- The characters of the text of a key. -/
def characters (key : EdgeKey) : List Char :=
  printHost key.source ++ printPort key.sourcePort ++ '-' :: '>' ::
    printHost key.destination ++ printPort key.destinationPort ++ printProtocol key.protocol

/-- The text by which an edge is known outside, such as `a:0->b:443/tcp`. -/
def print (key : EdgeKey) : String :=
  String.ofList key.characters

end EdgeKey

/-- A port as it is shown: the number, an asterisk for the collapsed class, and
nothing for an absent port. -/
def portLabel (threshold : UInt16) : Option UInt16 → String
  | none => ""
  | some port =>
    if port = EdgeKey.collapsedPort ∧ 0 < threshold then "*"
    else String.ofList (Text.decimal port.toNat)

@[simp] theorem portLabel_none (threshold : UInt16) : portLabel threshold none = "" := rfl

end TrafficGraph
