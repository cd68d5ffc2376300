import TrafficGraph.Http.Target

/-!
# Media types

A media type is a type and a subtype, the subtype possibly with a suffix behind
a plus sign, followed by parameters.  Letter case does not matter.
-/

namespace TrafficGraph
namespace Http

/-- The bytes between the quotation marks of a parameter. -/
def isQuotedByte (byte : UInt8) : Bool :=
  0x1F < byte && byte < 0x7F

/-- The parameters behind a quoted value, if only spaces stand between. -/
def afterQuoted? (bytes : Bytes) : Option Bytes :=
  match bytes.dropWhile (· == 0x20) with
  | [] => some []
  | 0x3B :: rest => some rest
  | _ => none

/-- The parameters behind the value of one; a value between quotation marks has at
least one byte. -/
def afterParameterValue? (bytes : Bytes) : Option Bytes :=
  match bytes with
  | 0x22 :: first :: inside =>
    let rest := inside.dropWhile fun byte => isQuotedByte byte && byte != 0x22
    match isQuotedByte first, rest with
    | true, 0x22 :: behind => afterQuoted? behind
    | _, _ => none
  | bytes =>
    match bytes.dropWhile isToken with
    | [] => some []
    | 0x3B :: rest => if (bytes.takeWhile isToken).isEmpty then none else some rest
    | _ => none

/-- Parameters with semicolons between them; spaces may stand in front of each. -/
def areParameters : Nat → Bytes → Bool
  | 0, _ => true
  | fuel + 1, bytes =>
    match bytes.dropWhile (· == 0x20) with
    | [] => true
    | trimmed =>
      match (trimmed.takeWhile isToken).isEmpty, trimmed.dropWhile isToken with
      | false, 0x3D :: value =>
        match afterParameterValue? value with
        | some rest => areParameters fuel rest
        | none => false
      | _, _ => false

/-- An ASCII letter in lower case, and any other byte as it is. -/
def lowerByte (byte : UInt8) : UInt8 :=
  if 0x41 ≤ byte ∧ byte ≤ 0x5A then byte + 0x20 else byte

/-- The subtype in front of the last plus sign that does not begin it, and the
suffix behind that sign. -/
def cutSuffix (subtype : Bytes) : Bytes × Option Bytes :=
  let suffix := (subtype.reverse.takeWhile (· != 0x2B)).reverse
  let rest := subtype.take (subtype.length - suffix.length - 1)
  if rest = [] ∨ suffix.length = subtype.length then (subtype, none) else (rest, some suffix)

/-- The media type stands for JSON: its subtype or its suffix says so. -/
def isJsonType (value : Bytes) : Bool :=
  match value.takeWhile isToken, value.dropWhile isToken with
  | kind, 0x2F :: rest =>
    let subtype := rest.takeWhile isToken
    let parameters := match rest.dropWhile isToken with
      | [] => true
      | 0x3B :: parameters => subtype != [] && areParameters parameters.length parameters
      | _ => false
    let (plain, suffix) := cutSuffix (subtype.map lowerByte)
    kind.map lowerByte == utf8 "application" && parameters &&
      (plain == utf8 "json" || suffix == some (utf8 "json"))
  | _, _ => false

end Http
end TrafficGraph
