import TrafficGraph.Proofs.Text.Encoding
import TrafficGraph.Text.Digit

/-!
# The grammar of JSON texts

A text is a list of characters here, and the grammar says which value it denotes.  Strings are
written with or without escapes, blanks may stand around every item of a container, and a
number denotes what its digits write, if it is in range.  The grammar allows any nesting.
-/

namespace TrafficGraph
namespace Json

/-! ## Strings -/

/-- The letters behind a backslash, with the characters they stand for. -/
def escapes : List (Char × Char) :=
  [('"', '"'), ('\\', '\\'), ('/', '/'), ('b', '\x08'), ('f', '\x0C'), ('n', '\n'), ('r', '\r'),
    ('t', '\t')]

/-- The character of two surrogates. -/
def pairChar (high low : Nat) : Char :=
  Char.ofNat (0x10000 + (high - 0xD800) * 0x400 + (low - 0xDC00))

/-- What is written between quotation marks means a list of characters. -/
inductive Spells : List Char → List Char → Prop
  | done : Spells [] []
  /-- A character that stands for itself. -/
  | plain {character : Char} {written meant : List Char}
      (printable : 0x20 ≤ character.val.toNat) (noQuote : character ≠ '"')
      (noBackslash : character ≠ '\\') (rest : Spells written meant) :
      Spells (character :: written) (character :: meant)
  /-- A letter behind a backslash. -/
  | escape {letter character : Char} {written meant : List Char}
      (listed : (letter, character) ∈ escapes) (rest : Spells written meant) :
      Spells ('\\' :: letter :: written) (character :: meant)
  /-- The hexadecimal code of a character. -/
  | unit {digits written meant : List Char} {code : Nat} (length : digits.length = 4)
      (isCode : Text.hexadecimal? digits = some code) (whole : code < 0xD800 ∨ 0xDFFF < code)
      (rest : Spells written meant) :
      Spells ('\\' :: 'u' :: digits ++ written) (Char.ofNat code :: meant)
  /-- The hexadecimal codes of two surrogates. -/
  | pair {digits others written meant : List Char} {high low : Nat} (length : digits.length = 4)
      (isHigh : Text.hexadecimal? digits = some high) (highRange : 0xD800 ≤ high ∧ high < 0xDC00)
      (otherLength : others.length = 4) (isLow : Text.hexadecimal? others = some low)
      (lowRange : 0xDC00 ≤ low ∧ low ≤ 0xDFFF) (rest : Spells written meant) :
      Spells ('\\' :: 'u' :: digits ++ '\\' :: 'u' :: others ++ written)
        (pairChar high low :: meant)

/-! ## Numbers -/

/-- Decimal digits, at least one. -/
def IsDigits (text : List Char) : Prop :=
  text ≠ [] ∧ ∀ character ∈ text, character.isDigit = true

/-- The digits in front of the point begin with a zero only if that is all. -/
def IsWhole (text : List Char) : Prop :=
  IsDigits text ∧ (text.head? = some '0' → text = ['0'])

/-- The point and the digits behind it, which may be absent together. -/
inductive WritesFraction : List Char → Option Bytes → Prop
  | absent : WritesFraction [] none
  | digits {digits : List Char} (isDigits : IsDigits digits) :
      WritesFraction ('.' :: digits) (some (Text.encode digits))

/-- The signs of an exponent, and whether it is negative. -/
def exponentSigns : List (List Char × Bool) :=
  [([], false), (['+'], false), (['-'], true)]

/-- The exponent, which may be absent. -/
inductive WritesExponent : List Char → Option (Bool × Bytes) → Prop
  | absent : WritesExponent [] none
  | digits {letter : Char} {sign digits : List Char} {negative : Bool}
      (isLetter : letter = 'e' ∨ letter = 'E') (isSign : (sign, negative) ∈ exponentSigns)
      (isDigits : IsDigits digits) :
      WritesExponent (letter :: (sign ++ digits)) (some (negative, Text.encode digits))

/-- The signs of a number, and whether it is negative. -/
def numberSigns : List (List Char × Bool) :=
  [([], false), (['-'], true)]

/-- A number is written by its parts. -/
inductive WritesNumeral : List Char → Numeral → Prop
  | parts {sign whole point exponent : List Char} {negative : Bool} {fraction : Option Bytes}
      {power : Option (Bool × Bytes)} (isSign : (sign, negative) ∈ numberSigns)
      (isWhole : IsWhole whole) (writesFraction : WritesFraction point fraction)
      (writesExponent : WritesExponent exponent power) :
      WritesNumeral (sign ++ (whole ++ (point ++ exponent)))
        ⟨negative, Text.encode whole, fraction, power⟩

/-! ## Values -/

/-- The characters that may stand between the items of a text. -/
def blanks : List Char :=
  [' ', '\t', '\n', '\r']

/-- A text of blanks. -/
def IsBlank (text : List Char) : Prop :=
  ∀ character ∈ text, character ∈ blanks

theorem isBlank_nil : IsBlank [] := nofun

mutual

/-- A text denotes a value; it begins and ends with characters of the value. -/
inductive Denotes : List Char → Json → Prop
  | nullWord : Denotes ['n', 'u', 'l', 'l'] .null
  | trueWord : Denotes ['t', 'r', 'u', 'e'] (.bool true)
  | falseWord : Denotes ['f', 'a', 'l', 's', 'e'] (.bool false)
  | number {text : List Char} {numeral : Numeral} {amount : Number}
      (writes : WritesNumeral text numeral) (inRange : numeral.number? = some amount) :
      Denotes text (.number amount)
  | string {written : List Char} {text : String} (spells : Spells written text.toList) :
      Denotes ('"' :: (written ++ ['"'])) (.string text)
  | emptyArray {blank : List Char} (isBlank : IsBlank blank) :
      Denotes ('[' :: (blank ++ [']'])) (.array [])
  | array {inside : List Char} {items : List Json} (denotesItems : DenotesItems inside items) :
      Denotes ('[' :: (inside ++ [']'])) (.array items)
  | emptyObject {blank : List Char} (isBlank : IsBlank blank) :
      Denotes ('\x7b' :: (blank ++ ['\x7d'])) (.object [])
  | object {inside : List Char} {members : List (String × Json)}
      (denotesMembers : DenotesMembers inside members) :
      Denotes ('\x7b' :: (inside ++ ['\x7d'])) (.object members)

/-- A text denotes a value, with any blanks around it. -/
inductive DenotesWithin : List Char → Json → Prop
  | within {front text back : List Char} {json : Json} (isFront : IsBlank front)
      (denotes : Denotes text json) (isBack : IsBlank back) :
      DenotesWithin (front ++ (text ++ back)) json

/-- A text denotes the items of an array, of which there is one at least. -/
inductive DenotesItems : List Char → List Json → Prop
  | last {text : List Char} {item : Json} (denotes : DenotesWithin text item) :
      DenotesItems text [item]
  | next {text others : List Char} {item : Json} {items : List Json}
      (denotes : DenotesWithin text item) (rest : DenotesItems others items) :
      DenotesItems (text ++ ',' :: others) (item :: items)

/-- A text denotes a member of an object. -/
inductive DenotesMember : List Char → String → Json → Prop
  | member {front written back text : List Char} {key : String} {json : Json}
      (isFront : IsBlank front) (spells : Spells written key.toList) (isBack : IsBlank back)
      (denotes : DenotesWithin text json) :
      DenotesMember (front ++ '"' :: (written ++ '"' :: (back ++ ':' :: text))) key json

/-- A text denotes the members of an object, of which there is one at least. -/
inductive DenotesMembers : List Char → List (String × Json) → Prop
  | last {text : List Char} {key : String} {json : Json} (denotes : DenotesMember text key json) :
      DenotesMembers text [(key, json)]
  | next {text others : List Char} {key : String} {json : Json} {members : List (String × Json)}
      (denotes : DenotesMember text key json) (rest : DenotesMembers others members) :
      DenotesMembers (text ++ ',' :: others) ((key, json) :: members)

end

end Json
end TrafficGraph
