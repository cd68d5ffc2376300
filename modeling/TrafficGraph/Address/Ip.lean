import TrafficGraph.Text.Digit
import TrafficGraph.Text.Numeral
import TrafficGraph.Text.Split

/-!
# Internet addresses and their texts

An address is four octets or eight groups of sixteen bits.  The parts of a
dotted address have no leading zeros.  An address of groups may leave out one
stretch of zero groups as a double colon and may give its last two groups in
dotted form.  It is written with the first of the longest stretches of two or
more zero groups left out.
-/

namespace TrafficGraph
namespace Address

/-- An address of version 4 or 6. -/
inductive Ip
  /-- Four octets. -/
  | v4 (first second third fourth : UInt8)
  /-- Eight groups of sixteen bits. -/
  | v6 (groups : List UInt16) (length_eq : groups.length = 8)
  deriving DecidableEq

namespace Ip

/-- One part of a dotted address. -/
def octet? (digits : List Char) : Option UInt8 := do
  if digits.length ≤ 3 ∧ (digits.head? ≠ some '0' ∨ digits.length = 1) then
    let value ← Text.natural? digits
    if value < 256 then some (UInt8.ofNat value) else none
  else none

/-- The four parts of a dotted address. -/
def octets? (text : List Char) : Option (UInt8 × UInt8 × UInt8 × UInt8) :=
  match Text.pieces '.' text with
  | [first, second, third, fourth] => do
    some (← octet? first, ← octet? second, ← octet? third, ← octet? fourth)
  | _ => none

/-- One group of at most four hexadecimal digits. -/
def group? (digits : List Char) : Option UInt16 :=
  if digits ≠ [] ∧ digits.length ≤ 4 then (Text.hexadecimal? digits).map UInt16.ofNat else none

/-- Two octets as one group. -/
def pairGroup (high low : UInt8) : UInt16 :=
  high.toUInt16 * 256 + low.toUInt16

/-- The groups of the pieces between colons, the last of which may be dotted. -/
def groupsOfPieces? : List (List Char) → Option (List UInt16)
  | [] => some []
  | [last] =>
    match octets? last with
    | some (first, second, third, fourth) =>
      some [pairGroup first second, pairGroup third fourth]
    | none => (group? last).map ([·])
  | piece :: rest => do
    let group ← group? piece
    let groups ← groupsOfPieces? rest
    some (group :: groups)

/-- The groups between colons of a text that may be empty. -/
def groups? (text : List Char) : Option (List UInt16) :=
  if text = [] then some [] else groupsOfPieces? (Text.pieces ':' text)

/-- The groups between colons of a text that may be empty and has no dotted part. -/
def plainGroups? (text : List Char) : Option (List UInt16) :=
  if text = [] then some [] else (Text.pieces ':' text).mapM group?

/-- The texts before and behind the first double colon. -/
def cutDoubleColon : List Char → Option (List Char × List Char)
  | [] => none
  | ':' :: ':' :: rest => some ([], rest)
  | character :: rest => (cutDoubleColon rest).map fun (front, back) => (character :: front, back)

/-- The eight groups of an address text. -/
def allGroups? (text : List Char) : Option (List UInt16) :=
  match cutDoubleColon text with
  | none => groups? text
  | some (front, back) => do
    let leading ← plainGroups? front
    let trailing ← groups? back
    if leading.length + trailing.length ≤ 7 then
      some (leading ++ List.replicate (8 - leading.length - trailing.length) 0 ++ trailing)
    else none

/-- The address that a text denotes. -/
def parse? (text : List Char) : Option Ip :=
  match octets? text with
  | some (first, second, third, fourth) => some (.v4 first second third fourth)
  | none => do
    let groups ← allGroups? text
    if length_eq : groups.length = 8 then some (.v6 groups length_eq) else none

/-- An address of version 4 that is mapped into version 6, as itself. -/
def unmap : Ip → Ip
  | .v6 [0, 0, 0, 0, 0, 0xFFFF, high, low] _ =>
    .v4 (high >>> 8).toUInt8 high.toUInt8 (low >>> 8).toUInt8 low.toUInt8
  | address => address

/-- The number of zero groups in front. -/
def zeroRun (groups : List UInt16) : Nat :=
  (groups.takeWhile (· == 0)).length

/-- For each place, the number of zero groups from there on. -/
def zeroRuns : List UInt16 → List Nat
  | [] => []
  | group :: rest => zeroRun (group :: rest) :: zeroRuns rest

/-- Groups in lower-case hexadecimal with colons between them. -/
def printGroups (groups : List UInt16) : List Char :=
  Text.join ':' (groups.map fun group => Nat.toDigits 16 group.toNat)

/-- Eight groups, with the first of the longest zero stretches left out. -/
def printCompressed (groups : List UInt16) : List Char :=
  let runs := zeroRuns groups
  let longest := runs.foldl max 0
  if 2 ≤ longest then
    let start := runs.idxOf longest
    printGroups (groups.take start) ++ ':' :: ':' :: printGroups (groups.drop (start + longest))
  else printGroups groups

/-- The text of an address. -/
def print : Ip → List Char
  | .v4 first second third fourth =>
    Text.join '.' ([first, second, third, fourth].map fun octet => Text.decimal octet.toNat)
  | .v6 groups _ => printCompressed groups

end Ip
end Address
end TrafficGraph
