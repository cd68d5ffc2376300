import TrafficGraph.Json.Tree

/-!
# Decoders of JSON values

A decoder reads a value of some type from a tree and reports the first fault in
reading order.  A structure is decoded from an object, in which unknown members
are passed over and a known member may stand only once, or from an array of its
fields in the order of their declaration.
-/

namespace TrafficGraph
namespace Json

/-- Reads a value of a type from a tree, within a nesting allowance. -/
abbrev Decoder (α : Type) := Nat → Tree → Except Fault α

namespace Decoder

/-- A value of any shape that a function accepts as JSON scalar. -/
def scalar {α : Type} (accept : Tree → Option α) : Decoder α := fun _ tree =>
  match accept tree with
  | some value => .ok value
  | none => .error tree.reject

/-- A text. -/
def string : Decoder String := scalar fun
  | .string value => some value
  | _ => none

/-- A truth value. -/
def bool : Decoder Bool := scalar fun
  | .bool value => some value
  | _ => none

/-- An integer that is a word of 16 bits. -/
def word16 : Decoder UInt16 := scalar fun
  | .number value => value.word16?
  | _ => none

/-- An integer that is a word of 64 bits. -/
def word64 : Decoder UInt64 := scalar fun
  | .number value => value.word64?
  | _ => none

/-- An integer that is a signed word of 64 bits. -/
def int64 : Decoder Int64 := scalar fun
  | .number value => value.int64?
  | _ => none

/-- A count of at most 64 bits. -/
def count : Decoder Nat := scalar fun
  | .number value => value.word64?.map UInt64.toNat
  | _ => none

/-- A number of either kind, rounded to binary64. -/
def float : Decoder Float := scalar fun
  | .number value => some value.toFloat
  | _ => none

/-- A value that may also be null. -/
def nullable {α : Type} (decoder : Decoder α) : Decoder (Option α)
  | _, .null => .ok none
  | allowance, tree => (decoder allowance tree).map some

/-- The items of an array, decoded one after the other. -/
def items {α : Type} (decoder : Decoder α) (allowance : Nat) :
    List Tree → Bool → Except Fault (List α)
  | [], complete => if complete then .ok [] else .error .malformed
  | item :: rest, complete =>
    match decoder allowance item with
    | .error fault => .error fault
    | .ok first => (items decoder allowance rest complete).map (first :: ·)

/-- An array of values of one type. -/
def list {α : Type} (decoder : Decoder α) : Decoder (List α)
  | allowance, .array trees complete =>
    match nest allowance with
    | .error fault => .error fault
    | .ok inner => items decoder inner trees complete
  | _, tree => .error tree.reject

/-- An object of any members. -/
def record : Decoder Record
  | allowance, .object members complete =>
    match nest allowance with
    | .error fault => .error fault
    | .ok inner => (Tree.memberValues inner members complete).map Record.ofMembers
  | _, tree => .error tree.reject

/-- One of several names, alone or as the only key of an object whose value is
null.  A value of any other shape is no choice at all. -/
def choice {α : Type} (options : List (String × α)) : Decoder α
  | _, .string name =>
    match options.lookup name with
    | some value => .ok value
    | none => .error .mismatch
  | allowance, .object ((some name, content) :: others) complete =>
    match nest allowance, options.lookup name with
    | .error fault, _ => .error fault
    | .ok _, none => .error .mismatch
    | .ok _, some value =>
      match content, others, complete with
      | .null, [], true => .ok value
      | .null, _, _ => .error .malformed
      | other, _, _ => .error other.reject
  | _, _ => .error .malformed

/-- One of several names, where the whole value was read before its type was known:
the only key of an object may then also have an empty object as its value. -/
def settledChoice {α : Type} (options : List (String × α)) : Decoder α
  | allowance, .object [(some name, .object [] true)] true =>
    choice options allowance (.string name)
  | allowance, tree => choice options allowance tree

end Decoder

/-- Whether a field of a structure may be left out. -/
inductive Presence (β : Type)
  /-- The field has to be given. -/
  | required
  /-- The field may be missing from an object, but not from an array. -/
  | optional (absent : β)
  /-- The field may be missing from an object and from the end of an array. -/
  | defaulted (absent : β)

/-- The fields of a structure in the order of their declaration, with what was
found of each so far. -/
inductive Fields : Type → Type 1
  /-- A constructor that takes no more fields. -/
  | build {α : Type} (value : α) : Fields α
  /-- One more field. -/
  | field {α β : Type} (before : Fields (β → α)) (name : String) (decoder : Decoder β)
      (presence : Presence β) (found : Option β) : Fields α

namespace Fields

/-- One more field, which has to be given. -/
def required {α β : Type} (before : Fields (β → α)) (name : String)
    (decoder : Decoder β) : Fields α :=
  .field before name decoder .required none

/-- One more field, which is absent when it is null or missing. -/
def optional {α β : Type} (before : Fields (Option β → α)) (name : String)
    (decoder : Decoder β) : Fields α :=
  .field before name decoder.nullable (.optional none) none

/-- One more field, which has a value of its own when it is missing. -/
def defaulted {α β : Type} (before : Fields (β → α)) (name : String)
    (decoder : Decoder β) (absent : β) : Fields α :=
  .field before name decoder (.defaulted absent) none

/-- One more field, which may be missing anywhere and is then absent. -/
def omissible {α β : Type} (before : Fields (Option β → α)) (name : String)
    (decoder : Decoder β) : Fields α :=
  .field before name decoder.nullable (.defaulted none) none

/-- Decodes a member of an object into the field of its name; none if no field
has that name. -/
def assign {α : Type} (allowance : Nat) (key : String) (tree : Tree) :
    Fields α → Except Fault (Option (Fields α))
  | .build _ => .ok none
  | .field before name decoder presence found =>
    if name = key then
      match found with
      | some _ => .error .mismatch
      | none =>
        match decoder allowance tree with
        | .error fault => .error fault
        | .ok value => .ok (some (.field before name decoder presence (some value)))
    else
      match assign allowance key tree before with
      | .error fault => .error fault
      | .ok none => .ok none
      | .ok (some later) => .ok (some (.field later name decoder presence found))

/-- Decodes the members of an object in the order of the text. -/
def assignAll {α : Type} (allowance : Nat) :
    Fields α → List (Option String × Tree) → Except Fault (Fields α)
  | fields, [] => .ok fields
  | _, (none, _) :: _ => .error .malformed
  | fields, (some key, tree) :: rest =>
    match assign allowance key tree fields with
    | .error fault => .error fault
    | .ok (some later) => assignAll allowance later rest
    | .ok none =>
      match tree.skip with
      | .error fault => .error fault
      | .ok () => assignAll allowance fields rest

/-- The structure whose fields were all looked for. -/
def finish {α : Type} : Fields α → Except Fault α
  | .build value => .ok value
  | .field before _ _ presence found =>
    match finish before with
    | .error fault => .error fault
    | .ok construct =>
      match found, presence with
      | some value, _ => .ok (construct value)
      | none, .required => .error .mismatch
      | none, .optional absent => .ok (construct absent)
      | none, .defaulted absent => .ok (construct absent)

/-- The structure whose fields are the members of an object. -/
def fromMembers {α : Type} (allowance : Nat) (fields : Fields α)
    (members : List (Option String × Tree)) (complete : Bool) : Except Fault α :=
  match fields.assignAll allowance members with
  | .error fault => .error fault
  | .ok found => if complete then found.finish else .error .malformed

/-- The structure whose fields are the items of an array, and the items behind
the last field. -/
def fromItems {α : Type} (allowance : Nat) (trees : List Tree) (complete : Bool) :
    Fields α → Except Fault (α × List Tree)
  | .build value => .ok (value, trees)
  | .field before _ decoder presence _ =>
    match fromItems allowance trees complete before with
    | .error fault => .error fault
    | .ok (construct, tree :: rest) =>
      (decoder allowance tree).map fun value => (construct value, rest)
    | .ok (construct, []) =>
      if complete then
        match presence with
        | .defaulted absent => .ok (construct absent, [])
        | _ => .error .mismatch
      else .error .malformed

/-- The decoder of a structure with these fields. -/
def decoder {α : Type} (fields : Fields α) : Decoder α
  | allowance, .object members complete =>
    match nest allowance with
    | .error fault => .error fault
    | .ok inner => fields.fromMembers inner members complete
  | allowance, .array trees complete =>
    match nest allowance with
    | .error fault => .error fault
    | .ok inner =>
      match fields.fromItems inner trees complete with
      | .error fault => .error fault
      | .ok (value, rest) => if rest.isEmpty && complete then .ok value else .error .malformed
  | _, tree => .error tree.reject

end Fields
end Json
end TrafficGraph
