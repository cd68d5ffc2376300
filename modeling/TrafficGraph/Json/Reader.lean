import TrafficGraph.Json.Tree

/-!
# Reading JSON texts

A JSON text is a list of bytes.  The grammar is the strict one: no commas at
the end of a container, no leading zeros, no control characters in strings, and
white space is the space, the tab, the carriage return and the line feed.

An integer that fits 64 bits is read exactly.  Any other number is read as
binary64: of its digits those are kept that fit a word of 64 bits, and the
power of ten is multiplied or divided in, each step rounded to the nearest
value with ties to even.
-/

namespace TrafficGraph

/-- The bytes of a text or of a message. -/
abbrev Bytes := List UInt8

/-- The UTF-8 bytes of a text. -/
def utf8 (text : String) : Bytes :=
  text.toByteArray.data.toList

/-- The text with the given UTF-8 bytes, if they are valid. -/
def ofUtf8? (bytes : Bytes) : Option String :=
  String.fromUTF8? ⟨bytes.toArray⟩

/-- The bytes of a text read back as that text. -/
@[simp] theorem ofUtf8?_utf8 (text : String) : ofUtf8? (utf8 text) = some text := by
  have same : (⟨(utf8 text).toArray⟩ : ByteArray) = text.toByteArray := by simp [utf8]
  have valid : ByteArray.IsValidUTF8 ⟨(utf8 text).toArray⟩ := same ▸ text.isValidUTF8
  rw [ofUtf8?, String.fromUTF8?, dif_pos valid]
  congr 1

namespace Json

/-- The white space of JSON. -/
def isSpace (byte : UInt8) : Bool :=
  byte == 0x20 || byte == 0x09 || byte == 0x0A || byte == 0x0D

/-- The text after its leading white space. -/
def skipSpace (input : Bytes) : Bytes :=
  input.dropWhile isSpace

/-- Decimal digits. -/
def isDigit (byte : UInt8) : Bool :=
  0x30 ≤ byte && byte ≤ 0x39

/-- The value of a hexadecimal digit of either case. -/
def hexDigit? (byte : UInt8) : Option Nat :=
  if 0x30 ≤ byte ∧ byte ≤ 0x39 then some (byte.toNat - 0x30)
  else if 0x61 ≤ byte ∧ byte ≤ 0x66 then some (byte.toNat - 0x57)
  else if 0x41 ≤ byte ∧ byte ≤ 0x46 then some (byte.toNat - 0x37)
  else none

/-- The number written by four hexadecimal digits. -/
def hexUnit? (first second third fourth : UInt8) : Option Nat := do
  let first ← hexDigit? first
  let second ← hexDigit? second
  let third ← hexDigit? third
  let fourth ← hexDigit? fourth
  some (((first * 16 + second) * 16 + third) * 16 + fourth)

/-- One item of a quoted string. -/
inductive Piece
  /-- A byte that stands for itself. -/
  | byte (value : UInt8)
  /-- A unit of UTF-16 given by its number. -/
  | unit (value : Nat)

/-- The byte meant by a letter after a backslash. -/
def escapedByte? (letter : UInt8) : Option UInt8 :=
  if letter = 0x22 then some 0x22
  else if letter = 0x5C then some 0x5C
  else if letter = 0x2F then some 0x2F
  else if letter = 0x62 then some 0x08
  else if letter = 0x66 then some 0x0C
  else if letter = 0x6E then some 0x0A
  else if letter = 0x72 then some 0x0D
  else if letter = 0x74 then some 0x09
  else none

/-- The items of a string up to its closing quote, and the text behind it. -/
def scanString : Bytes → Option (List Piece × Bytes)
  | [] => none
  | head :: rest =>
    if head = 0x22 then some ([], rest)
    else if head = 0x5C then
      match rest with
      | [] => none
      | letter :: tail =>
        if letter = 0x75 then
          match tail with
          | first :: second :: third :: fourth :: after => do
            let unit ← hexUnit? first second third fourth
            let (pieces, behind) ← scanString after
            some (.unit unit :: pieces, behind)
          | _ => none
        else do
          let byte ← escapedByte? letter
          let (pieces, behind) ← scanString tail
          some (.byte byte :: pieces, behind)
    else if head < 0x20 then none
    else do
      let (pieces, behind) ← scanString rest
      some (.byte head :: pieces, behind)

/-- The character given by one unit or by a pair of surrogates. -/
def unitBytes (code : Nat) : Bytes :=
  String.utf8EncodeChar (Char.ofNat code)

/-- The bytes of the items of a string; a surrogate that has no partner has none. -/
def assemble : List Piece → Option Bytes
  | [] => some []
  | .byte value :: rest => (assemble rest).map (value :: ·)
  | .unit value :: rest =>
    if value < 0xD800 ∨ 0xDFFF < value then
      (assemble rest).map (unitBytes value ++ ·)
    else match rest with
      | .unit low :: tail =>
        if value < 0xDC00 ∧ 0xDC00 ≤ low ∧ low ≤ 0xDFFF then
          let code := 0x10000 + (value - 0xD800) * 0x400 + (low - 0xDC00)
          (assemble tail).map (unitBytes code ++ ·)
        else none
      | _ => none

/-- The text of the items of a string. -/
def text? (pieces : List Piece) : Option String := do
  ofUtf8? (← assemble pieces)

/-- The parts of a number as it is written. -/
structure Numeral where
  /-- A minus sign stands in front. -/
  negative : Bool
  /-- The digits before the point. -/
  whole : Bytes
  /-- The digits behind the point, if there is one. -/
  fraction : Option Bytes
  /-- The sign and the digits of the exponent, if there is one. -/
  exponent : Option (Bool × Bytes)

/-- The digits in front of a text that has at least one. -/
def scanDigits (input : Bytes) : Option (Bytes × Bytes) :=
  match input.takeWhile isDigit with
  | [] => none
  | digits => some (digits, input.dropWhile isDigit)

/-- The digits of an integer part, without a leading zero before another digit. -/
def scanWhole (input : Bytes) : Option (Bytes × Bytes) := do
  let (digits, rest) ← scanDigits input
  if digits.head? = some 0x30 ∧ digits.length ≠ 1 then none
  else some (digits, rest)

/-- The fraction in front of a text, absent if there is no point. -/
def scanFraction : Bytes → Option (Option Bytes × Bytes)
  | 0x2E :: rest => do
    let (digits, rest) ← scanDigits rest
    some (some digits, rest)
  | rest => some (none, rest)

/-- The sign and the digits of an exponent. -/
def scanSignedDigits : Bytes → Option ((Bool × Bytes) × Bytes)
  | 0x2B :: rest => do
    let (digits, rest) ← scanDigits rest
    some ((false, digits), rest)
  | 0x2D :: rest => do
    let (digits, rest) ← scanDigits rest
    some ((true, digits), rest)
  | rest => do
    let (digits, rest) ← scanDigits rest
    some ((false, digits), rest)

/-- The exponent in front of a text, absent if there is no letter for it. -/
def scanExponent : Bytes → Option (Option (Bool × Bytes) × Bytes)
  | head :: rest =>
    if head = 0x65 ∨ head = 0x45 then do
      let (exponent, rest) ← scanSignedDigits rest
      some (some exponent, rest)
    else some (none, head :: rest)
  | [] => some (none, [])

/-- The number in front of a text. -/
def scanNumeral (input : Bytes) : Option (Numeral × Bytes) := do
  let (negative, rest) := match input with
    | 0x2D :: rest => (true, rest)
    | rest => (false, rest)
  let (whole, rest) ← scanWhole rest
  let (fraction, rest) ← scanFraction rest
  let (exponent, rest) ← scanExponent rest
  some (⟨negative, whole, fraction, exponent⟩, rest)

namespace Numeral

/-- The number written by decimal digits. -/
def digitsValue (digits : Bytes) : Nat :=
  Nat.ofDigitChars 10 (digits.map fun digit => Char.ofNat digit.toNat) 0

/-- Appends digits to a significand while it fits 64 bits, and counts them. -/
def appendDigits (significand : Nat) : Bytes → Nat × Nat
  | [] => (significand, 0)
  | digit :: rest =>
    let longer := significand * 10 + (digit.toNat - 0x30)
    if longer < UInt64.size then
      let (total, count) := appendDigits longer rest
      (total, count + 1)
    else (significand, 0)

/-- A power of ten that binary64 can hold. -/
def powerOfTen (exponent : Nat) : Float :=
  Float.ofScientific 1 false exponent

/-- Divides by a power of ten, by at most `10 ^ 308` at a time. -/
def divideByPower (value : Float) (exponent : Nat) : Float :=
  if exponent ≤ 308 then value / powerOfTen exponent
  else if value == 0 then value
  else divideByPower (value / powerOfTen 308) (exponent - 308)
termination_by exponent

/-- The size of a number with a fraction or an exponent, or of an integer of
more than 64 bits; none beyond the range of binary64. -/
def magnitude? (numeral : Numeral) : Option Float :=
  let (leading, wholeCount) := appendDigits 0 numeral.whole
  let (significand, fractionCount) := appendDigits leading (numeral.fraction.getD [])
  let dropped : Int := numeral.whole.length - wholeCount
  let written : Int := match numeral.exponent with
    | none => 0
    | some (true, digits) => -(digitsValue digits : Int)
    | some (false, digits) => digitsValue digits
  let exponent := dropped - fractionCount + written
  let value := Float.ofNat significand
  if exponent < 0 then some (divideByPower value exponent.natAbs)
  else if exponent ≤ 308 then
    let product := value * powerOfTen exponent.toNat
    if product.isInf then none else some product
  else if value == 0 then some value
  else none

/-- The number that is written; none beyond the range of binary64. -/
def number? (numeral : Numeral) : Option Number :=
  let float := numeral.magnitude?.map fun size =>
    Number.float (if numeral.negative then -size else size)
  if numeral.fraction.isSome || numeral.exponent.isSome then float
  else
    let size := digitsValue numeral.whole
    if numeral.negative then
      if bounds : size ≠ 0 ∧ size ≤ 9223372036854775808 then
        some (.integer (-size) (by omega))
      else float
    else if bounds : size < 18446744073709551616 then some (.integer size (by omega))
    else float

end Numeral

/-- The text behind a word, if it begins with it. -/
def afterWord? : Bytes → Bytes → Option Bytes
  | [], input => some input
  | _ :: _, [] => none
  | letter :: word, byte :: input => if letter = byte then afterWord? word input else none

/-- A value that is a fixed word. -/
def readWord (word : Bytes) (value : Tree) (input : Bytes) : Tree × Option Bytes :=
  match afterWord? word input with
  | some rest => (value, some rest)
  | none => (.broken, none)

mutual

/-- Reads a value and gives the text behind it, if the value is complete. -/
def readValue : Nat → Bytes → Tree × Option Bytes
  | 0, _ => (.broken, none)
  | fuel + 1, input =>
    match skipSpace input with
    | [] => (.broken, none)
    | head :: rest =>
      if head = 0x7B then
        match skipSpace rest with
        | 0x7D :: behind => (.object [] true, some behind)
        | inside =>
          let (members, behind) := readMembers fuel inside
          (.object members behind.isSome, behind)
      else if head = 0x5B then
        match skipSpace rest with
        | 0x5D :: behind => (.array [] true, some behind)
        | inside =>
          let (items, behind) := readItems fuel inside
          (.array items behind.isSome, behind)
      else if head = 0x22 then
        match scanString rest with
        | none => (.broken, none)
        | some (pieces, behind) =>
          match text? pieces with
          | some text => (.string text, some behind)
          | none => (.brokenString, some behind)
      else if head = 0x6E then readWord [0x75, 0x6C, 0x6C] .null rest
      else if head = 0x74 then readWord [0x72, 0x75, 0x65] (.bool true) rest
      else if head = 0x66 then readWord [0x61, 0x6C, 0x73, 0x65] (.bool false) rest
      else
        match scanNumeral (head :: rest) with
        | none => (.broken, none)
        | some (numeral, behind) =>
          match numeral.number? with
          | some amount => (.number amount, some behind)
          | none => (.hugeNumber, some behind)

/-- Reads the items of an array up to its end. -/
def readItems : Nat → Bytes → List Tree × Option Bytes
  | 0, _ => ([], none)
  | fuel + 1, input =>
    match readValue fuel input with
    | (item, none) => ([item], none)
    | (item, some rest) =>
      match skipSpace rest with
      | 0x5D :: behind => ([item], some behind)
      | 0x2C :: behind =>
        let (items, behind) := readItems fuel behind
        (item :: items, behind)
      | _ => ([item], none)

/-- Reads the members of an object up to its end. -/
def readMembers : Nat → Bytes → List (Option String × Tree) × Option Bytes
  | 0, _ => ([], none)
  | fuel + 1, input =>
    match skipSpace input with
    | 0x22 :: quoted =>
      match scanString quoted with
      | none => ([], none)
      | some (pieces, rest) =>
        let key := text? pieces
        match skipSpace rest with
        | 0x3A :: behind =>
          match readValue fuel behind with
          | (value, none) => ([(key, value)], none)
          | (value, some rest) =>
            match skipSpace rest with
            | 0x7D :: behind => ([(key, value)], some behind)
            | 0x2C :: behind =>
              let (members, behind) := readMembers fuel behind
              ((key, value) :: members, behind)
            | _ => ([(key, value)], none)
        | _ => ([(key, .broken)], none)
    | _ => ([], none)

end

/-- Reads the first value of a text and gives the text behind it.  Each step of
the reader that consumes nothing is followed by one that does, so twice the
length is enough fuel. -/
def read (input : Bytes) : Tree × Option Bytes :=
  readValue (2 * input.length + 2) input

/-- The tree of a text that holds one complete value and otherwise white space. -/
def readWhole (input : Bytes) : Option Tree :=
  match read input with
  | (tree, some rest) => if skipSpace rest = [] then some tree else none
  | (_, none) => none

end Json
end TrafficGraph
