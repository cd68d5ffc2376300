import TrafficGraph.Json.Basic
import TrafficGraph.Source.Role

/-!
# Sources and their field mappings

A source describes the fields of its records.  The roles choose among those
fields in two rounds: first every role takes the first free field with its tag,
then every role that has none takes the first free field with one of its names.
A source can feed a graph if both address roles have a field.
-/

namespace TrafficGraph
namespace Source

/-- A field that the records of a source may have. -/
structure FieldDescriptor where
  /-- The key of the field in a record. -/
  name : String
  /-- Marks that tell what the field carries. -/
  tags : List String
  deriving DecidableEq

/-- The fields of the records of a source. -/
structure Description where
  /-- A name for messages. -/
  name : String
  /-- The fields, in the order of the source. -/
  fields : List FieldDescriptor
  deriving DecidableEq

/-- The description of a source that delivers records like the given one. -/
def Description.ofRecord (record : Record) : Description where
  name := ""
  fields := record.keys.map fun key => ⟨key, []⟩

/-- The record fields that carry the parts of a connection. -/
structure Mapping where
  /-- The field of the source address. -/
  sourceAddress : String
  /-- The field of the destination address. -/
  destinationAddress : String
  /-- The field of the source port. -/
  sourcePort : Option String
  /-- The field of the destination port. -/
  destinationPort : Option String
  /-- The field of the protocol. -/
  protocol : Option String
  /-- The field of the time of the observation. -/
  timestamp : Option String
  /-- The field of the number of bytes. -/
  byteCount : Option String
  deriving DecidableEq

/-- The outcome of inspecting a source. -/
structure Config where
  /-- The source can feed a graph. -/
  isValid : Bool
  /-- The mapping of a source that can. -/
  fields : Option Mapping
  deriving DecidableEq

/-- The positions of the fields chosen so far, with their roles. -/
abbrev Assignment := List (Role × Nat)

namespace Assignment

/-- The position of the field that plays a role. -/
def position? (assignment : Assignment) (role : Role) : Option Nat :=
  assignment.lookup role

/-- A field at this position plays a role. -/
def isTaken (assignment : Assignment) (position : Nat) : Bool :=
  assignment.any fun chosen => chosen.2 == position

/-- The first position that is free and whose field fits. -/
def firstFree? (assignment : Assignment) (fits : FieldDescriptor → Bool)
    (fields : List FieldDescriptor) : Option Nat :=
  (fields.zipIdx.find? fun (field, position) =>
    !assignment.isTaken position && fits field).map Prod.snd

/-- Lets a role that has no field take the first free one that fits. -/
def choose (fields : List FieldDescriptor) (fits : Role → FieldDescriptor → Bool)
    (assignment : Assignment) (role : Role) : Assignment :=
  match assignment.position? role with
  | some _ => assignment
  | none =>
    match assignment.firstFree? (fits role) fields with
    | some position => (role, position) :: assignment
    | none => assignment

end Assignment

/-- One of the tags of the field names the role. -/
def fitsByTag (role : Role) (field : FieldDescriptor) : Bool :=
  field.tags.any role.matchesTag

/-- The name of the field is one of the role. -/
def fitsByName (role : Role) (field : FieldDescriptor) : Bool :=
  role.matchesName field.name

/-- The fields that the roles choose, first by tag and then by name. -/
def assignment (fields : List FieldDescriptor) : Assignment :=
  Role.all.foldl (Assignment.choose fields fitsByName)
    (Role.all.foldl (Assignment.choose fields fitsByTag) [])

/-- The name of the field that plays a role. -/
def fieldOf? (fields : List FieldDescriptor) (role : Role) : Option String := do
  let position ← (assignment fields).position? role
  let field ← fields[position]?
  some field.name

/-- The mapping of a source, if both address roles have a field. -/
def mapping? (source : Description) : Option Mapping := do
  let sourceAddress ← fieldOf? source.fields .sourceAddress
  let destinationAddress ← fieldOf? source.fields .destinationAddress
  some {
    sourceAddress
    destinationAddress
    sourcePort := fieldOf? source.fields .sourcePort
    destinationPort := fieldOf? source.fields .destinationPort
    protocol := fieldOf? source.fields .protocol
    timestamp := fieldOf? source.fields .timestamp
    byteCount := fieldOf? source.fields .byteCount }

/-- The outcome of inspecting a source. -/
def inspect (source : Description) : Config where
  isValid := (mapping? source).isSome
  fields := mapping? source

end Source
end TrafficGraph
