import TrafficGraph.Json.Reader
import TrafficGraph.Text.Shortest

/-!
# Writing JSON texts

The compact form of a value has no white space.  Inside strings only the
quotation mark, the backslash and the control characters are escaped, so the
text of a value holds no line break.  A finite binary64 number is written as the
shortest decimal that rounds to it, without an exponent if its point stands at
most sixteen places behind or five places in front of the first digit.
-/

namespace TrafficGraph
namespace Json

/-- The bytes of ASCII characters. -/
def asciiBytes (characters : List Char) : Bytes :=
  characters.map fun character => UInt8.ofNat character.toNat

/-- The lower-case hexadecimal digit of a number below sixteen. -/
def hexDigit (number : Nat) : UInt8 :=
  if number < 10 then UInt8.ofNat (0x30 + number) else UInt8.ofNat (0x57 + number)

/-- A byte as it is written inside a string. -/
def escapeByte (byte : UInt8) : Bytes :=
  if byte = 0x22 then [0x5C, 0x22]
  else if byte = 0x5C then [0x5C, 0x5C]
  else if byte = 0x08 then [0x5C, 0x62]
  else if byte = 0x09 then [0x5C, 0x74]
  else if byte = 0x0A then [0x5C, 0x6E]
  else if byte = 0x0C then [0x5C, 0x66]
  else if byte = 0x0D then [0x5C, 0x72]
  else if byte < 0x20 then
    [0x5C, 0x75, 0x30, 0x30, hexDigit (byte.toNat / 16), hexDigit (byte.toNat % 16)]
  else [byte]

/-- A text between quotation marks. -/
def printString (text : String) : Bytes :=
  0x22 :: (utf8 text).flatMap escapeByte ++ [0x22]

/-- An integer in decimal. -/
def printInteger (value : Int) : Bytes :=
  if value < 0 then 0x2D :: asciiBytes (Text.decimal value.natAbs)
  else asciiBytes (Text.decimal value.natAbs)

/-- The greatest place of the point for which a decimal has no exponent. -/
def greatestPoint : Int := 16

/-- The least place of the point for which a decimal has no exponent. -/
def leastPoint : Int := -4

/-- A decimal with a point or an exponent. -/
def layOut (number : Text.ShortDecimal) : List Char :=
  let digits := number.digits
  let point := number.point
  if digits.length ≤ point ∧ point ≤ greatestPoint then
    digits ++ List.replicate (point.toNat - digits.length) '0' ++ ['.', '0']
  else if 0 < point ∧ point ≤ greatestPoint then
    digits.take point.toNat ++ '.' :: digits.drop point.toNat
  else if leastPoint ≤ point ∧ point ≤ 0 then
    '0' :: '.' :: List.replicate point.natAbs '0' ++ digits
  else
    let exponent := point - 1
    let sign := if exponent < 0 then ['-'] else []
    let fraction := if digits.length = 1 then [] else '.' :: digits.drop 1
    digits.take 1 ++ fraction ++ 'e' :: sign ++ Text.decimal exponent.natAbs

/-- A finite binary64 number, and `null` for any other. -/
def printFloat (value : Float) : Bytes :=
  let bits := value.toBits.toNat
  let fraction := bits % Text.hiddenBit
  let exponent := bits / Text.hiddenBit % 2048
  let sign : Bytes := if bits / Text.hiddenBit < 2048 then [] else [0x2D]
  if exponent = 2047 then asciiBytes ['n', 'u', 'l', 'l']
  else if fraction = 0 ∧ exponent = 0 then sign ++ asciiBytes ['0', '.', '0']
  else sign ++ asciiBytes (layOut (Text.Binary64.ofFields fraction exponent).shortest)

/-- A number as it is written. -/
def printNumber : Number → Bytes
  | .integer value _ => printInteger value
  | .float value => printFloat value

mutual

/-- The compact text of a value. -/
def print : Json → Bytes
  | .null => asciiBytes ['n', 'u', 'l', 'l']
  | .bool true => asciiBytes ['t', 'r', 'u', 'e']
  | .bool false => asciiBytes ['f', 'a', 'l', 's', 'e']
  | .number amount => printNumber amount
  | .string text => printString text
  | .array items => 0x5B :: printItems items ++ [0x5D]
  | .object members => 0x7B :: printMembers members ++ [0x7D]

/-- The items of an array, with commas between them. -/
def printItems : List Json → Bytes
  | [] => []
  | [item] => print item
  | item :: second :: rest => print item ++ 0x2C :: printItems (second :: rest)

/-- The members of an object, with commas between them. -/
def printMembers : List (String × Json) → Bytes
  | [] => []
  | [(key, member)] => printString key ++ 0x3A :: print member
  | (key, member) :: second :: rest =>
    printString key ++ 0x3A :: print member ++ 0x2C :: printMembers (second :: rest)

end

end Json
end TrafficGraph
