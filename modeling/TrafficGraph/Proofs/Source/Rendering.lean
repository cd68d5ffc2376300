import TrafficGraph.Graph.Fold
import TrafficGraph.Proofs.Address.Canonical
import TrafficGraph.Proofs.Json.Lookup
import TrafficGraph.Source.Connection

/-!
# Connections written as records

A connection that was read from a record can be written as a record again, under any
mapping that has a field for each of its parts and no field for two: it is read back as
it was, whether numbers are written as integers or in decimal among blanks, and whatever
else the record holds.  For every part of a connection is in the form to which reading
brings it: names of hosts and protocols are canonical, and times are in milliseconds.
-/

namespace TrafficGraph
namespace Source

/-! ## Writing connections -/

/-- The field that plays a role under a mapping. -/
def Mapping.name? (mapping : Mapping) : Role → Option String
  | .sourceAddress => some mapping.sourceAddress
  | .destinationAddress => some mapping.destinationAddress
  | .sourcePort => mapping.sourcePort
  | .destinationPort => mapping.destinationPort
  | .protocol => mapping.protocol
  | .timestamp => mapping.timestamp
  | .byteCount => mapping.byteCount

/-- No field plays two roles. -/
def Mapping.Separates (mapping : Mapping) : Prop :=
  ∀ first second name, mapping.name? first = some name → mapping.name? second = some name →
    first = second

/-- What a field carries. -/
inductive Part
  /-- The name of a host or a protocol. -/
  | name (text : String)
  /-- A number. -/
  | amount (word : UInt64)
  deriving DecidableEq

/-- The part of a connection that belongs to a role. -/
def Connection.part? (connection : Connection) : Role → Option Part
  | .sourceAddress => some (.name connection.source)
  | .destinationAddress => some (.name connection.destination)
  | .sourcePort => connection.sourcePort.map fun port => .amount port.toUInt64
  | .destinationPort => connection.destinationPort.map fun port => .amount port.toUInt64
  | .protocol => connection.protocol.map .name
  | .timestamp => connection.timestamp.map .amount
  | .byteCount => connection.byteCount.map .amount

/-- There is a field for each part of a connection. -/
def Connection.FitsIn (connection : Connection) (mapping : Mapping) : Prop :=
  ∀ role, mapping.name? role = none → connection.part? role = none

/-- A way to write numbers. -/
inductive Spelling
  /-- As a JSON integer. -/
  | integer
  /-- In decimal, with blanks on both sides. -/
  | decimal (front back : List Char)
      (blank : ∀ character ∈ front ++ back, Text.isBlank character = true)

/-- The value that stands for a part. -/
def Spelling.write (spelling : Spelling) : Part → Json
  | .name text => .string text
  | .amount word =>
    match spelling with
    | .integer => .number (.ofWord64 word)
    | .decimal front back _ =>
      .string (String.ofList (front ++ Text.decimal word.toNat ++ back))

/-- A way to write connections. -/
structure Style where
  /-- How the number of a role is written. -/
  spelling : Role → Spelling
  /-- Further members of the record. -/
  others : List (String × Json)

/-- None of the further members stands in a field that plays a role. -/
def Style.Spares (style : Style) (mapping : Mapping) : Prop :=
  ∀ member ∈ style.others, ∀ role, mapping.name? role ≠ some member.1

/-- The member that carries the part of a role. -/
def Connection.member? (mapping : Mapping) (style : Style) (connection : Connection)
    (role : Role) : Option (String × Json) := do
  let name ← mapping.name? role
  let part ← connection.part? role
  some (name, (style.spelling role).write part)

/-- The connection as a record. -/
def Connection.render (mapping : Mapping) (style : Style) (connection : Connection) : Record :=
  .ofMembers (Role.all.filterMap (connection.member? mapping style) ++ style.others)

/-! ## Finding the parts -/

variable {mapping : Mapping} {style : Style} {connection : Connection} {role : Role}

theorem Role.mem_all (role : Role) : role ∈ all := by
  cases role <;> decide

@[simp] theorem normalize_write (spelling : Spelling) (part : Part) :
    (spelling.write part).normalize = spelling.write part := by
  cases part with
  | name text => rfl
  | amount word =>
      cases spelling with
      | integer => rfl
      | decimal front back blank => rfl

/-- Only the part of its role stands in a field. -/
theorem mem_members_iff
    (separates : mapping.Separates)
    (spares : style.Spares mapping)
    {name : String}
    (named : mapping.name? role = some name)
    (value : Json) :
    (name, value) ∈ Role.all.filterMap (connection.member? mapping style) ++ style.others ↔
      (connection.part? role).map (style.spelling role).write = some value := by
  rw [List.mem_append, List.mem_filterMap]
  constructor
  · rintro (⟨other, _, isMember⟩ | listed)
    -- The field of another role has another name.
    · obtain ⟨otherName, otherNamed, isMember⟩ := Option.bind_eq_some_iff.1 isMember
      obtain ⟨part, isPart, isMember⟩ := Option.bind_eq_some_iff.1 isMember
      cases isMember
      rw [separates role other name named otherNamed, isPart, Option.map_some]
    · exact absurd named (spares _ listed role)
  · intro written
    obtain ⟨part, isPart, rfl⟩ := Option.map_eq_some_iff.1 written
    refine Or.inl ⟨role, Role.mem_all role, ?_⟩
    rw [Connection.member?, named, isPart]
    rfl

/-- In a written connection every role finds its part. -/
theorem field?_render
    (separates : mapping.Separates)
    (fits : connection.FitsIn mapping)
    (spares : style.Spares mapping)
    (role : Role) :
    field? (connection.render mapping style) (mapping.name? role) =
      (connection.part? role).map (style.spelling role).write := by
  cases named : mapping.name? role with
  | none => rw [fits role named]; rfl
  | some name =>
      have found : (connection.render mapping style).get? name = _ :=
        Record.get?_ofMembers_of_forall_mem_iff (mem_members_iff separates spares named)
      have same : Json.normalize ∘ (style.spelling role).write = (style.spelling role).write :=
        funext (normalize_write _)
      rw [Option.map_map, same] at found
      exact found

/-! ## Reading numbers -/

theorem trimmed_padded
    {front back : List Char}
    (blank : ∀ character ∈ front ++ back, Text.isBlank character = true)
    (number : Nat) :
    Text.trimmed (String.ofList (front ++ Text.decimal number ++ back)) =
      Text.decimal number := by
  obtain ⟨blankFront, blankBack⟩ := List.forall_mem_append.1 blank
  rw [Text.trimmed, String.toList_ofList, Text.trimEnds_append_right _ blankBack,
    Text.trimEnds_append_left blankFront, Text.trimEnds_of_forall]
  intro character listed
  exact Address.isBlank_of_isDigit (Text.isDigit_of_mem_decimal listed)

@[simp] theorem word64?_write (spelling : Spelling) (word : UInt64) :
    word64? (spelling.write (.amount word)) = some word := by
  cases spelling with
  | integer => exact Number.word64?_ofWord64 word
  | decimal front back blank =>
      change Text.word64? (Text.trimmed _) = some word
      rw [trimmed_padded blank, Text.word64?_decimal]

theorem timestamp?_number
    {number : Number}
    {word : UInt64}
    (read : number.word64? = some word) :
    timestamp? (.number number) = some word := by
  rw [timestamp?]
  simp only [read]

theorem timestamp?_string
    {text : String}
    {word : UInt64}
    (read : Text.word64? (Text.trimmed text) = some word) :
    timestamp? (.string text) = some word := by
  rw [timestamp?]
  simp only [read]

@[simp] theorem timestamp?_write (spelling : Spelling) (word : UInt64) :
    timestamp? (spelling.write (.amount word)) = some word := by
  cases spelling with
  | integer => exact timestamp?_number (Number.word64?_ofWord64 word)
  | decimal front back blank =>
      apply timestamp?_string
      rw [trimmed_padded blank, Text.word64?_decimal]

@[simp] theorem port?_write (spelling : Spelling) (port : UInt16) :
    port? (spelling.write (.amount port.toUInt64)) = some port := by
  have small : port.toUInt64 < 65536 := by
    rw [UInt64.lt_iff_toNat_lt]
    exact port.toNat_lt
  rw [port?, word64?_write]
  simp [small]

theorem lowerCase_decimal (number : Nat) :
    Text.lowerCase (Text.decimal number) = String.ofList (Text.decimal number) := by
  rw [Text.lowerCase, List.map_congr_left (g := id), List.map_id]
  intro character listed
  obtain ⟨digit, small, rfl⟩ := Text.exists_digit_of_mem_toDigits (by decide) listed
  apply Address.toLower_of_not_isUpper
  exact Address.isUpper_digitChar digit (Nat.lt_trans small (by decide))

/-- A protocol number is known by its digits. -/
theorem protocol?_write (spelling : Spelling) (word : UInt64) :
    protocol? (spelling.write (.amount word)) =
      protocolName? (String.ofList (Text.decimal word.toNat)) := by
  cases spelling with
  | integer =>
      rw [Spelling.write, protocol?, Number.word64?_ofWord64]
      rfl
  | decimal front back blank =>
      rw [Spelling.write, protocol?, trimmed_padded blank, lowerCase_decimal]

/-! ## Reading names -/

theorem address?_of_address?
    {value : Json}
    {name : String}
    (read : address? value = some name) :
    address? (.string name) = some name := by
  cases value with
  | string text => exact Address.canonical?_of_canonical? read
  | _ => cases read

/-- A text is in lower case and without blanks at its ends. -/
def IsPlain (text : String) : Prop :=
  Text.lowerCase (Text.trimmed text) = text

theorem isPlain_lowerCase_trimmed (text : String) :
    IsPlain (Text.lowerCase (Text.trimmed text)) := by
  have trimmed_eq : Text.trimmed (Text.lowerCase (Text.trimmed text)) =
      (Text.trimmed text).map Char.toLower := by
    rw [Text.trimmed, Text.toList_lowerCase, Text.trimEnds_map Address.isBlank_toLower,
      Text.trimmed, Text.trimEnds_trimEnds]
  rw [IsPlain, trimmed_eq, Text.lowerCase, List.map_map, Text.lowerCase]
  apply congrArg String.ofList
  apply List.map_congr_left
  intro character _
  exact Address.toLower_toLower character

theorem isPlain_decimal (number : Nat) : IsPlain (String.ofList (Text.decimal number)) := by
  have trimmed_eq : Text.trimmed (String.ofList ([] ++ Text.decimal number ++ [])) = _ :=
    trimmed_padded (by simp) number
  rw [List.nil_append, List.append_nil] at trimmed_eq
  rw [IsPlain, trimmed_eq, lowerCase_decimal]

/-- The name of a protocol is the text that gives it or one of those with a number. -/
theorem eq_or_mem_of_protocolName?
    {text name : String}
    (named : protocolName? text = some name) :
    name = text ∨ name ∈ ["icmp", "tcp", "udp", "icmpv6"] := by
  unfold protocolName? at named
  grind

/-- What a plain text stands for as a protocol is a name that stands for itself. -/
theorem protocol?_of_protocolName?
    {text name : String}
    (plain : IsPlain text)
    (named : protocolName? text = some name) :
    protocol? (.string name) = some name := by
  rcases eq_or_mem_of_protocolName? named with rfl | listed
  -- A plain text is given to the table as it stands; the names in the table have no number.
  · rw [protocol?, plain, named]
  · have fixed : ∀ known ∈ ["icmp", "tcp", "udp", "icmpv6"],
        protocol? (.string known) = some known := by
      decide
    exact fixed name listed

theorem protocol?_of_protocol?
    {value : Json}
    {name : String}
    (read : protocol? value = some name) :
    protocol? (.string name) = some name := by
  cases value with
  | number number =>
      obtain ⟨word, _, named⟩ := Option.bind_eq_some_iff.1 read
      exact protocol?_of_protocolName? (isPlain_decimal word.toNat) named
  | string text => exact protocol?_of_protocolName? (isPlain_lowerCase_trimmed text) read
  | _ => cases read

/-! ## Reading connections back -/

/-- The names in a connection stand for themselves. -/
structure Connection.IsNormal (connection : Connection) : Prop where
  source : Address.canonical? connection.source = some connection.source
  destination : Address.canonical? connection.destination = some connection.destination
  protocol : ∀ name, connection.protocol = some name → protocol? (.string name) = some name

/-- What is read from a record. -/
structure Connection.IsReadFrom (mapping : Mapping) (record : Record) (connection : Connection) :
    Prop where
  source : (field? record (mapping.name? .sourceAddress)).bind address? = some connection.source
  destination : (field? record (mapping.name? .destinationAddress)).bind address? =
    some connection.destination
  sourcePort : (field? record (mapping.name? .sourcePort)).bind port? = connection.sourcePort
  destinationPort : (field? record (mapping.name? .destinationPort)).bind port? =
    connection.destinationPort
  protocol : (field? record (mapping.name? .protocol)).bind protocol? = connection.protocol
  timestamp : (field? record (mapping.name? .timestamp)).bind timestamp? = connection.timestamp
  byteCount : (field? record (mapping.name? .byteCount)).bind word64? = connection.byteCount

theorem connection?_eq_some_iff {record : Record} :
    connection? mapping record = some connection ↔ connection.IsReadFrom mapping record := by
  constructor
  · intro read
    rw [connection?] at read
    obtain ⟨source, isSource, read⟩ := Option.bind_eq_some_iff.1 read
    obtain ⟨destination, isDestination, read⟩ := Option.bind_eq_some_iff.1 read
    cases read
    exact ⟨isSource, isDestination, rfl, rfl, rfl, rfl, rfl⟩
  · intro read
    cases connection with
    | mk source destination sourcePort destinationPort protocol timestamp byteCount =>
        obtain ⟨isSource, isDestination, rfl, rfl, rfl, rfl, rfl⟩ := read
        change (record.get? mapping.sourceAddress).bind address? = some source at isSource
        change (record.get? mapping.destinationAddress).bind address? = some destination
          at isDestination
        rw [connection?, isSource, isDestination]
        rfl

/-- What is read from a record is normal. -/
theorem Connection.IsReadFrom.isNormal
    {record : Record}
    (read : connection.IsReadFrom mapping record) :
    connection.IsNormal where
  source := by
    obtain ⟨value, _, found⟩ := Option.bind_eq_some_iff.1 read.source
    exact address?_of_address? found
  destination := by
    obtain ⟨value, _, found⟩ := Option.bind_eq_some_iff.1 read.destination
    exact address?_of_address? found
  protocol := by
    intro name name_eq
    obtain ⟨value, _, found⟩ := Option.bind_eq_some_iff.1 (read.protocol.trans name_eq)
    exact protocol?_of_protocol? found

/-- What is read from a record fits in the fields from which it was read. -/
theorem Connection.IsReadFrom.fitsIn
    {record : Record}
    (read : connection.IsReadFrom mapping record) :
    connection.FitsIn mapping := by
  intro role unnamed
  cases role with
  | sourceAddress => cases unnamed
  | destinationAddress => cases unnamed
  | sourcePort => rw [part?, ← read.sourcePort, unnamed]; rfl
  | destinationPort => rw [part?, ← read.destinationPort, unnamed]; rfl
  | protocol => rw [part?, ← read.protocol, unnamed]; rfl
  | timestamp => rw [part?, ← read.timestamp, unnamed]; rfl
  | byteCount => rw [part?, ← read.byteCount, unnamed]; rfl

/-- A part is read back if its value is. -/
theorem bind_write
    {α : Type}
    {encode : α → Part}
    {read : Json → Option α}
    {part : Option α}
    (spelling : Spelling)
    (back : ∀ item, part = some item → read (spelling.write (encode item)) = some item) :
    ((part.map encode).map spelling.write).bind read = part := by
  cases part with
  | none => rfl
  | some item => exact back item rfl

/-- A normal connection is read from every record that is written from it. -/
theorem connection?_render
    (normal : connection.IsNormal)
    (separates : mapping.Separates)
    (fits : connection.FitsIn mapping)
    (spares : style.Spares mapping) :
    connection? mapping (connection.render mapping style) = some connection := by
  have found := field?_render separates fits spares
  rw [connection?_eq_some_iff]
  constructor
  case source => rw [found]; exact normal.source
  case destination => rw [found]; exact normal.destination
  case sourcePort => rw [found]; exact bind_write _ fun port _ => port?_write _ port
  case destinationPort => rw [found]; exact bind_write _ fun port _ => port?_write _ port
  case protocol => rw [found]; exact bind_write _ normal.protocol
  case timestamp => rw [found]; exact bind_write _ fun word _ => timestamp?_write _ word
  case byteCount => rw [found]; exact bind_write _ fun word _ => word64?_write _ word

/-! ## Spellings of one number -/

/-- Two fields hold the same, or the same number in two spellings; a host is no number. -/
def Role.ReadsAlike (role : Role) (first second : Option Json) : Prop :=
  first = second ∨
    role ≠ .sourceAddress ∧ role ≠ .destinationAddress ∧
      ∃ (word : UInt64) (spelling other : Spelling),
        first = some (spelling.write (.amount word)) ∧ second = some (other.write (.amount word))

theorem Role.ReadsAlike.bind_eq
    {α : Type}
    {role : Role}
    {first second : Option Json}
    (alike : role.ReadsAlike first second)
    (read : Json → Option α)
    (same : role ≠ .sourceAddress → role ≠ .destinationAddress →
      ∀ (word : UInt64) (spelling other : Spelling),
        read (spelling.write (.amount word)) = read (other.write (.amount word))) :
    first.bind read = second.bind read := by
  rcases alike with rfl | ⟨notSource, notDestination, word, spelling, other, rfl, rfl⟩
  · rfl
  · exact same notSource notDestination word spelling other

/-- Spellings of one number cannot be told apart by what is read from a record. -/
theorem connection?_eq_of_readsAlike
    {first second : Record}
    (alike : ∀ role : Role, role.ReadsAlike (field? first (mapping.name? role))
      (field? second (mapping.name? role))) :
    connection? mapping first = connection? mapping second := by
  have source := (alike .sourceAddress).bind_eq address? fun notSource _ => absurd rfl notSource
  have destination := (alike .destinationAddress).bind_eq address?
    fun _ notDestination => absurd rfl notDestination
  have port_eq (word : UInt64) (spelling other : Spelling) :
      port? (spelling.write (.amount word)) = port? (other.write (.amount word)) := by
    rw [port?, port?, word64?_write, word64?_write]
  have sourcePort := (alike .sourcePort).bind_eq port? fun _ _ => port_eq
  have destinationPort := (alike .destinationPort).bind_eq port? fun _ _ => port_eq
  have protocol := (alike .protocol).bind_eq protocol? fun _ _ word spelling other => by
    rw [protocol?_write, protocol?_write]
  have timestamp := (alike .timestamp).bind_eq timestamp? fun _ _ word spelling other => by
    rw [timestamp?_write, timestamp?_write]
  have byteCount := (alike .byteCount).bind_eq word64? fun _ _ word spelling other => by
    rw [word64?_write, word64?_write]
  simp only [Mapping.name?, field?, Option.bind_some]
    at source destination sourcePort destinationPort protocol timestamp byteCount
  simp only [connection?, field?, source, destination, sourcePort, destinationPort, protocol,
    timestamp, byteCount]

/-! ## Reading again -/

/-- Of a connection that was read from a record nothing is lost or changed if it is written
as a record and read again. -/
structure Connection.IsRestored (mapping : Mapping) (record : Record) (connection : Connection) :
    Prop where
  /-- It is read from every record that is written from it under the mapping. -/
  again : ∀ style : Style, style.Spares mapping →
    connection? mapping (connection.render mapping style) = some connection
  /-- The same holds under any other mapping with fields for its parts; for a graph, the
  written record is the original one. -/
  elsewhere : ∀ other : Mapping, other.Separates → connection.FitsIn other →
    ∀ style : Style, style.Spares other →
      connection? other (connection.render other style) = some connection ∧
        ∀ options now graph,
          Graph.foldRecord other options now graph (connection.render other style) =
            Graph.foldRecord mapping options now graph record
  /-- Records that differ in the spellings of numbers only are read alike. -/
  alike : ∀ first second : Record,
    (∀ role : Role, role.ReadsAlike (field? first (mapping.name? role))
      (field? second (mapping.name? role))) →
    connection? mapping first = connection? mapping second

/-- **Reading brings records to a normal form.**  What is read from a record under a mapping
that gives no field two roles is read again, unchanged, from every record that is written
from it: under the same mapping or another one, with numbers as integers or in decimal among
blanks, and with whatever further members. -/
theorem isRestored_of_read
    {record : Record}
    (separates : mapping.Separates)
    (read : connection? mapping record = some connection) :
    connection.IsRestored mapping record where
  again := by
    intro style spares
    have isRead := connection?_eq_some_iff.1 read
    exact connection?_render isRead.isNormal separates isRead.fitsIn spares
  elsewhere := by
    intro other otherSeparates fits style spares
    have isRead := connection?_eq_some_iff.1 read
    have readAgain := connection?_render isRead.isNormal otherSeparates fits spares
    refine ⟨readAgain, ?_⟩
    intro options now graph
    rw [Graph.foldRecord, Graph.foldRecord, readAgain, read]
  alike := fun _ _ => connection?_eq_of_readsAlike

/-- A mapping with a field for each role. -/
def plainMapping : Mapping where
  sourceAddress := "src"
  destinationAddress := "dst"
  sourcePort := some "sport"
  destinationPort := some "dport"
  protocol := some "proto"
  timestamp := some "ts"
  byteCount := some "bytes"

/-- A record in which every part has to be brought to its normal form. -/
def looseRecord : Record :=
  .ofMembers [("src", .string " [::FFFF:10.0.0.1] "), ("dst", .string "DB-1"),
    ("sport", .string " 51000 "), ("dport", .number (.ofWord64 443)),
    ("proto", .string " 6 "), ("ts", .string "1970-01-01T00:00:01.5Z"),
    ("bytes", .string "0012")]

/-- What is read from it. -/
def strictConnection : Connection where
  source := "10.0.0.1"
  destination := "db-1"
  sourcePort := some 51000
  destinationPort := some 443
  protocol := some "tcp"
  timestamp := some 1500
  byteCount := some 12

theorem isRestored_of_read_loose :
    connection? plainMapping looseRecord = some strictConnection ∧
      strictConnection.IsRestored plainMapping looseRecord := by
  have separates : plainMapping.Separates := by
    intro first second name named otherNamed
    have same := named.trans otherNamed.symm
    revert same
    cases first <;> cases second <;> decide
  have read : connection? plainMapping looseRecord = some strictConnection := by
    decide +kernel
  exact ⟨read, isRestored_of_read separates read⟩

end Source
end TrafficGraph
