import TrafficGraph.Json.Reader
import TrafficGraph.Text.Split

/-!
# Request targets

The target of a request is a path with an optional query and fragment, the same
behind a scheme and an authority, an authority alone, or an asterisk.  Only the
path matters; it is empty for an authority alone.
-/

namespace TrafficGraph
namespace Http

/-- A letter or a digit of ASCII. -/
def isAlphanumeric (byte : UInt8) : Bool :=
  (0x30 ≤ byte && byte ≤ 0x39) || (0x41 ≤ byte && byte ≤ 0x5A) || (0x61 ≤ byte && byte ≤ 0x7A)

/-- The bytes of a token: letters, digits and some marks. -/
def isToken (byte : UInt8) : Bool :=
  isAlphanumeric byte || (utf8 "!#$%&'*+-.^_|~").contains byte || byte == 0x60

/-- A byte that is neither a space nor a control character. -/
def isVisible (byte : UInt8) : Bool :=
  0x20 < byte && byte != 0x7F

/-- The bytes of a path. -/
def isPathByte (byte : UInt8) : Bool :=
  isVisible byte && !(utf8 "#<>?").contains byte && byte != 0x60

/-- The bytes of a query. -/
def isQueryByte (byte : UInt8) : Bool :=
  isVisible byte && byte != 0x22 && !(utf8 "#<>").contains byte

/-- The path of a target that begins with it. -/
def leadingPath? (target : Bytes) : Option Bytes :=
  let path := target.takeWhile isPathByte
  match target.dropWhile isPathByte with
  | [] => some path
  | mark :: rest =>
    if mark = 0x23 then some path
    else if mark = 0x3F then
      match rest.dropWhile isQueryByte with
      | [] => some path
      | other :: _ => if other = 0x23 then some path else none
    else none

/-- The bytes of a scheme. -/
def isSchemeByte (byte : UInt8) : Bool :=
  isAlphanumeric byte || (utf8 "+-.~").contains byte

/-- The longest scheme. -/
def schemeLimit : Nat := 64

/-- The target behind its scheme, if it has one; none if the scheme is too long. -/
def cutScheme (target : Bytes) : Option (Bool × Bytes) :=
  let scheme := target.takeWhile isSchemeByte
  match target.dropWhile isSchemeByte with
  | 0x3A :: 0x2F :: 0x2F :: rest =>
    if scheme.length ≤ schemeLimit then some (true, rest) else none
  | _ => some (false, target)

/-- A byte that ends an authority. -/
def endsAuthority (byte : UInt8) : Bool :=
  byte == 0x2F || byte == 0x3F || byte == 0x23

/-- The bytes of an authority. -/
def isAuthorityByte (byte : UInt8) : Bool :=
  isAlphanumeric byte || (utf8 "!$%&'()*+,-.:;=@[]_~").contains byte

/-- What was seen of an authority since its last at sign or bracket. -/
structure AuthorityScan where
  /-- The number of colons. -/
  colons : Nat
  /-- An opening bracket was seen. -/
  opened : Bool
  /-- A closing bracket was seen. -/
  closed : Bool
  /-- A percent sign was seen. -/
  escaped : Bool

/-- Takes one more byte of an authority. -/
def AuthorityScan.next (scan : AuthorityScan) (byte : UInt8) : Option AuthorityScan :=
  if !isAuthorityByte byte then none
  else if byte = 0x3A then
    if scan.colons < 8 then some { scan with colons := scan.colons + 1 } else none
  else if byte = 0x5B then
    if scan.escaped || scan.opened then none else some { scan with opened := true }
  else if byte = 0x5D then
    if !scan.opened || scan.closed then none
    else some { scan with closed := true, colons := 0, escaped := false }
  else if byte = 0x40 then some { scan with colons := 0, escaped := false }
  else if byte = 0x25 then some { scan with escaped := true }
  else some scan

/-- An authority: a host in brackets or without, an optional port, and an optional
part with an at sign in front. -/
def isAuthority (bytes : Bytes) : Bool :=
  match bytes.foldlM AuthorityScan.next ⟨0, false, false, false⟩ with
  | none => false
  | some scan =>
    scan.opened == scan.closed && scan.colons ≤ 1 && !scan.escaped && bytes.getLast? != some 0x40

/-- The longest target. -/
def targetLimit : Nat := 65534

/-- The path of a target. -/
def path? (target : Bytes) : Option Bytes :=
  if targetLimit < target.length then none
  else match target with
    | [] => none
    | [0x2A] => some [0x2A]
    | 0x2F :: rest => leadingPath? (0x2F :: rest)
    | target => do
      let (absolute, rest) ← cutScheme target
      let authority := rest.takeWhile fun byte => !endsAuthority byte
      let behind := rest.dropWhile fun byte => !endsAuthority byte
      if !isAuthority authority then none
      else if absolute then
        if authority = [] then none else leadingPath? behind
      else if behind = [] then some [] else none

end Http
end TrafficGraph
