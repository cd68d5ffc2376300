import TrafficGraph.Address.Ip
import TrafficGraph.Text.Trim

/-!
# Hosts and their canonical names

A host is named by an internet address, which may stand in brackets, or by a
name of ASCII letters, digits, dots, hyphens and underscores.  Its canonical
text is the address as it is printed, with mapped version 4 addresses unwrapped,
or the name in lower case; it is the key of the host in the graph.
-/

namespace TrafficGraph
namespace Address

/-- A host at one end of a connection. -/
inductive Host
  /-- A host known by its address. -/
  | ip (address : Ip)
  /-- A host known by name, in lower case. -/
  | named (name : List Char)
  deriving DecidableEq

/-- The characters of host names. -/
def isNameCharacter (character : Char) : Bool :=
  character.isAlphanum || character == '.' || character == '-' || character == '_'

/-- The text inside one pair of enclosing brackets, or the text itself. -/
def unbracketed (text : List Char) : List Char :=
  match text with
  | '[' :: rest => if rest.getLast? = some ']' then rest.dropLast else text
  | _ => text

namespace Host

/-- The host that a text without blanks at its ends and brackets names. -/
def ofText? (text : List Char) : Option Host :=
  match Ip.parse? text with
  | some address => some (.ip address.unmap)
  | none =>
    if text ≠ [] ∧ text.all isNameCharacter then some (.named (text.map Char.toLower))
    else none

/-- The host that a text names. -/
def parse? (text : String) : Option Host :=
  ofText? (unbracketed (Text.trimmed text))

/-- The canonical text of a host. -/
def print : Host → String
  | .ip address => String.ofList address.print
  | .named name => String.ofList name

end Host

/-- The canonical text of the host that a text names. -/
def canonical? (text : String) : Option String :=
  (Host.parse? text).map Host.print

end Address
end TrafficGraph
