/-!
# TOML values and tables

A table lists its members in the order in which they were first mentioned, each
key once.  A table remembers how it came about, because only some tables can
still be added to: one that was opened by a header is closed to dotted keys, one
that was made by dotted keys is closed to headers, and one that was only passed
through on the way to a deeper header can still be opened itself.
-/

namespace TrafficGraph
namespace Toml

/-- How a table came about. -/
inductive Origin
  /-- It was written inline, between braces. -/
  | written
  /-- It was opened by a header. -/
  | opened
  /-- It was passed on the way to a deeper header. -/
  | passed
  /-- It was made by a dotted key. -/
  | dotted
  deriving DecidableEq

/-- A value of a document. -/
inductive Value
  | string (text : String)
  | integer (number : Int64)
  | boolean (flag : Bool)
  /-- A number with a fraction or an exponent, as it is written. -/
  | float (text : List Char)
  /-- A date, a time of day or both, as it is written. -/
  | moment (text : List Char)
  | array (items : List Value)
  | table (origin : Origin) (members : List (String × Value))

/-- The members of a table. -/
abbrev Members := List (String × Value)

namespace Members

/-- The value of a key. -/
def get? (members : Members) (key : String) : Option Value :=
  members.lookup key

/-- Puts another value in the place of that of a key. -/
def replace (members : Members) (key : String) (value : Value) : Members :=
  members.map fun member => if member.1 = key then (key, value) else member

/-- Gives a value to a dotted key, whose parts but the last name tables made by
dotted keys. -/
def assign (value : Value) : List String → Members → Option Members
  | [], _ => none
  | [key], members =>
    match members.get? key with
    | some _ => none
    | none => some (members ++ [(key, value)])
  | key :: second :: path, members =>
    match members.get? key with
    | none => do
      let inner ← assign value (second :: path) []
      some (members ++ [(key, .table .dotted inner)])
    | some (.table .dotted inner) => do
      let inner ← assign value (second :: path) inner
      some (members.replace key (.table .dotted inner))
    | some _ => none

/-- Opens the table of a header, which may exist only as one that was passed. -/
def openTable : List String → Members → Option Members
  | [], _ => none
  | [key], members =>
    match members.get? key with
    | none => some (members ++ [(key, .table .opened [])])
    | some (.table .passed inner) => some (members.replace key (.table .opened inner))
    | some _ => none
  | key :: second :: path, members =>
    match members.get? key with
    | none => do
      let inner ← openTable (second :: path) []
      some (members ++ [(key, .table .passed inner)])
    | some (.table .written _) => none
    | some (.table origin inner) => do
      let inner ← openTable (second :: path) inner
      some (members.replace key (.table origin inner))
    | some _ => none

/-- Gives a value to a dotted key inside the table of a header. -/
def assignIn (value : Value) (key : List String) : List String → Members → Option Members
  | [], members => members.assign value key
  | name :: path, members =>
    match members.get? name with
    | some (.table origin inner) => do
      let inner ← assignIn value key path inner
      some (members.replace name (.table origin inner))
    | _ => none

end Members
end Toml
end TrafficGraph
