import TrafficGraph.Json.Basic

/-!
# JSON texts as far as they can be read

A tree holds what was read of a JSON text up to the place where it stops being
JSON.  It also keeps three kinds of value that are well formed as text but mean
nothing as data: numbers beyond the binary64 range, strings that are no Unicode
text, and containers nested more deeply than allowed.  Whoever uses a value
meets those faults in reading order; a value that is skipped may have them.
-/

namespace TrafficGraph
namespace Json

/-- Why a text gives no value of the wanted type. -/
inductive Fault
  /-- The text is not JSON at the place that was reached. -/
  | malformed
  /-- The text is JSON there, but of another shape. -/
  | mismatch
  deriving DecidableEq

/-- What was read of a JSON text. -/
inductive Tree
  | null
  | bool (value : Bool)
  | number (value : Number)
  /-- A number that is too large for binary64. -/
  | hugeNumber
  | string (value : String)
  /-- A string whose characters are no Unicode text. -/
  | brokenString
  /-- An array with the items that were reached. -/
  | array (items : List Tree) (complete : Bool)
  /-- An object with the members that were reached; a key may be no Unicode text. -/
  | object (members : List (Option String × Tree)) (complete : Bool)
  /-- The place where the text stops being JSON. -/
  | broken

/-- The number of containers that may be open at once, plus one. -/
def nestingAllowance : Nat := 128

/-- The allowance that is left inside one more container. -/
def nest : Nat → Except Fault Nat
  | 0 => .error .malformed
  | 1 => .error .malformed
  | allowance + 2 => .ok (allowance + 1)

namespace Tree

/-- The text of a value that is one. -/
def text? : Tree → Option String
  | .string value => some value
  | _ => none

/-- The fault of a value that has not the wanted shape. -/
def reject : Tree → Fault
  | .broken => .malformed
  | .hugeNumber => .malformed
  | .brokenString => .malformed
  | _ => .mismatch

mutual

/-- Passes over a value, noticing only where the text is not JSON. -/
def skip : Tree → Except Fault Unit
  | .broken => .error .malformed
  | .array items complete => skipItems items complete
  | .object members complete => skipMembers members complete
  | .null => .ok ()
  | .bool _ => .ok ()
  | .number _ => .ok ()
  | .hugeNumber => .ok ()
  | .string _ => .ok ()
  | .brokenString => .ok ()

/-- Passes over the items of an array. -/
def skipItems : List Tree → Bool → Except Fault Unit
  | [], complete => if complete then .ok () else .error .malformed
  | item :: rest, complete =>
    match skip item with
    | .error fault => .error fault
    | .ok () => skipItems rest complete

/-- Passes over the members of an object. -/
def skipMembers : List (Option String × Tree) → Bool → Except Fault Unit
  | [], complete => if complete then .ok () else .error .malformed
  | (_, value) :: rest, complete =>
    match skip value with
    | .error fault => .error fault
    | .ok () => skipMembers rest complete

end

mutual

/-- The JSON value of a tree within a nesting allowance, the members of its
objects in the order of the text. -/
def value (allowance : Nat) : Tree → Except Fault Json
  | .null => .ok .null
  | .bool flag => .ok (.bool flag)
  | .number amount => .ok (.number amount)
  | .string text => .ok (.string text)
  | .array items complete =>
    match nest allowance with
    | .error fault => .error fault
    | .ok inner => (itemValues inner items complete).map .array
  | .object members complete =>
    match nest allowance with
    | .error fault => .error fault
    | .ok inner => (memberValues inner members complete).map .object
  | .hugeNumber => .error .malformed
  | .brokenString => .error .malformed
  | .broken => .error .malformed

/-- The values of the items of an array. -/
def itemValues (allowance : Nat) : List Tree → Bool → Except Fault (List Json)
  | [], complete => if complete then .ok [] else .error .malformed
  | item :: rest, complete =>
    match value allowance item with
    | .error fault => .error fault
    | .ok first => (itemValues allowance rest complete).map (first :: ·)

/-- The values of the members of an object. -/
def memberValues (allowance : Nat) :
    List (Option String × Tree) → Bool → Except Fault (List (String × Json))
  | [], complete => if complete then .ok [] else .error .malformed
  | (none, _) :: _, _ => .error .malformed
  | (some key, member) :: rest, complete =>
    match value allowance member with
    | .error fault => .error fault
    | .ok first => (memberValues allowance rest complete).map ((key, first) :: ·)

end

mutual

/-- The tree of a JSON value. -/
def ofJson : Json → Tree
  | .null => .null
  | .bool flag => .bool flag
  | .number amount => .number amount
  | .string text => .string text
  | .array items => .array (ofItems items) true
  | .object members => .object (ofMembers members) true

/-- The trees of the items of an array. -/
def ofItems : List Json → List Tree
  | [] => []
  | item :: rest => ofJson item :: ofItems rest

/-- The trees of the members of an object. -/
def ofMembers : List (String × Json) → List (Option String × Tree)
  | [] => []
  | (key, member) :: rest => (some key, ofJson member) :: ofMembers rest

end

end Tree
end Json
end TrafficGraph
