import TrafficGraph.Text.Digit
import TrafficGraph.Time.Rfc3339
import TrafficGraph.Toml.Value

/-!
# Numbers, times and truth values in TOML

Digits may have single underscores between them.  An integer fits a signed word
of 64 bits; in decimal it may have a sign but no leading zero, and in the bases
sixteen, eight and two it has a mark instead.  A number with a fraction or an
exponent must not round to positive infinity, which has a word of its own.
-/

namespace TrafficGraph
namespace Toml

/-- The digits of a base in front of a text that may have an underscore before
each of them, and the text behind them. -/
def moreDigits (base : Nat) : List Char → List Char × List Char
  | '_' :: digit :: rest =>
    if (Text.digit? base digit).isSome then
      let (digits, behind) := moreDigits base rest
      (digit :: digits, behind)
    else ([], '_' :: digit :: rest)
  | character :: rest =>
    if (Text.digit? base character).isSome then
      let (digits, behind) := moreDigits base rest
      (character :: digits, behind)
    else ([], character :: rest)
  | [] => ([], [])

/-- One or more digits of a base, and the text behind them. -/
def readDigits (base : Nat) : List Char → Option (List Char × List Char)
  | [] => none
  | first :: rest =>
    if (Text.digit? base first).isSome then
      let (digits, behind) := moreDigits base rest
      some (first :: digits, behind)
    else none

/-- Decimal digits without a leading zero, and the text behind them. -/
def readWhole : List Char → Option (List Char × List Char)
  | '0' :: rest => some (['0'], rest)
  | text => readDigits 10 text

/-- A sign that may be missing, and the text behind it. -/
def readSign : List Char → Bool × List Char
  | '+' :: rest => (false, rest)
  | '-' :: rest => (true, rest)
  | text => (false, text)

/-- An integer as a signed word of 64 bits, if it fits. -/
def word? (number : Int) : Option Value :=
  if Int64.minValue.toInt ≤ number ∧ number ≤ Int64.maxValue.toInt then
    some (.integer (Int64.ofInt number))
  else none

/-- The digits of a base with a mark of its own as an integer. -/
def readMarked (base : Nat) (text : List Char) : Option (Value × List Char) := do
  let (digits, behind) ← readDigits base text
  let number ← Text.ofDigits? base digits
  some (← word? number, behind)

/-- The integer in front of a text, and the text behind it. -/
def readInteger : List Char → Option (Value × List Char)
  | '0' :: 'x' :: rest => readMarked 16 rest
  | '0' :: 'o' :: rest => readMarked 8 rest
  | '0' :: 'b' :: rest => readMarked 2 rest
  | text => do
    let (negative, rest) := readSign text
    let (digits, behind) ← readWhole rest
    let size ← Text.ofDigits? 10 digits
    some (← word? (if negative then -size else size), behind)

/-- A number with a fraction, an exponent or both. -/
structure Decimal where
  /-- A minus sign stands in front. -/
  negative : Bool
  /-- The digits before and behind the point. -/
  digits : List Char
  /-- The power of ten by which the digits, taken as an integer, are multiplied. -/
  exponent : Int

/-- The size of an exponent, which grows no more once it has passed 65535. -/
def exponentSize (digits : List Char) : Nat :=
  digits.foldl
    (fun size digit => if size < 65536 then size * 10 + (digit.toNat - '0'.toNat) else size) 0

/-- The exponent in front of a text, and the text behind it. -/
def readExponent : List Char → Option (Int × List Char)
  | letter :: rest =>
    if letter = 'e' ∨ letter = 'E' then do
      let (negative, rest) := readSign rest
      let (digits, behind) ← readDigits 10 rest
      let size : Int := exponentSize digits
      some (if negative then -size else size, behind)
    else none
  | [] => none

/-- The digits of the fraction in front of a text, and the text behind it. -/
def readFraction : List Char → Option (List Char × List Char)
  | '.' :: rest => readDigits 10 rest
  | _ => none

/-- The number with a fraction, an exponent or both in front of a text, and the
text behind it. -/
def readDecimal (text : List Char) : Option (Decimal × List Char) := do
  let (negative, rest) := readSign text
  let (whole, rest) ← readWhole rest
  match readFraction rest with
  | some (fraction, rest) =>
    let (exponent, behind) := (readExponent rest).getD (0, rest)
    some (⟨negative, whole ++ fraction, exponent - fraction.length⟩, behind)
  | none => do
    let (exponent, behind) ← readExponent rest
    some (⟨negative, whole, exponent⟩, behind)

namespace Decimal

/-- The number of digits of the largest binary64 number. -/
def greatestPlaces : Nat := 309

/-- The least number that rounds to infinity in binary64: it lies halfway between
the largest number and the next power of two, and a tie goes to the even side. -/
def overflowBound : Nat := Nat.pow 2 1024 - Nat.pow 2 970

/-- The size of the number rounds to infinity in binary64. -/
def overflows (number : Decimal) : Bool :=
  let significant := number.digits.dropWhile (· == '0')
  let places := significant.length + number.exponent
  let whole := (significant ++ List.replicate greatestPlaces '0').take greatestPlaces
  !significant.isEmpty &&
    (greatestPlaces < places ||
      (places == greatestPlaces && overflowBound ≤ Nat.ofDigitChars 10 whole 0))

end Decimal

/-- The text behind one of the words for infinity and for no number. -/
def afterWord? (text : List Char) : Option (List Char) :=
  match (readSign text).2 with
  | 'i' :: 'n' :: 'f' :: rest => some rest
  | 'n' :: 'a' :: 'n' :: rest => some rest
  | _ => none

/-- The text behind a date at its beginning. -/
def afterDate? (text : List Char) : Option (List Char) := do
  let (year, rest) ← Time.digits? 4 text
  let (month, rest) ← Time.digits? 2 (← Time.after? '-' rest)
  let (day, rest) ← Time.digits? 2 (← Time.after? '-' rest)
  let _ ← Time.dayNumber? year month day
  some rest

/-- The text behind a time of day at its beginning. -/
def afterTime? (text : List Char) : Option (List Char) := do
  let (hour, rest) ← Time.digits? 2 text
  let (minute, rest) ← Time.digits? 2 (← Time.after? ':' rest)
  let (second, rest) ← Time.digits? 2 (← Time.after? ':' rest)
  let (_, rest) ← Time.fraction? rest
  if hour ≤ 23 ∧ minute ≤ 59 ∧ second ≤ 60 then some rest else none

/-- The text behind an offset from universal time at its beginning. -/
def afterOffset? : List Char → Option (List Char)
  | sign :: rest =>
    if sign = 'Z' ∨ sign = 'z' then some rest
    else if sign = '+' ∨ sign = '-' then do
      let (hour, rest) ← Time.digits? 2 rest
      let (minute, rest) ← Time.digits? 2 (← Time.after? ':' rest)
      if hour ≤ 23 ∧ minute ≤ 59 then some rest else none
    else none
  | [] => none

/-- The text behind a time of day, and an offset if there is one, that follow a
date. -/
def afterDayTime? (text : List Char) : Option (List Char) := do
  let rest ← afterTime? (← Time.afterDateMark? text)
  some ((afterOffset? rest).getD rest)

/-- The text behind a date, a time of day or both at its beginning. -/
def afterMoment? (text : List Char) : Option (List Char) :=
  match afterDate? text with
  | some rest => some ((afterDayTime? rest).getD rest)
  | none => afterTime? text

/-- The characters of a text in front of its end. -/
def consumed (text rest : List Char) : List Char :=
  text.take (text.length - rest.length)

/-- The number, time or truth value in front of a text, and the text behind it. -/
def readScalar (text : List Char) : Option (Value × List Char) :=
  match text with
  | 't' :: 'r' :: 'u' :: 'e' :: rest => some (.boolean true, rest)
  | 'f' :: 'a' :: 'l' :: 's' :: 'e' :: rest => some (.boolean false, rest)
  | text =>
    match afterMoment? text with
    | some rest => some (.moment (consumed text rest), rest)
    | none =>
      match afterWord? text, readDecimal text with
      | some rest, _ => some (.float (consumed text rest), rest)
      | none, some (number, rest) =>
        if number.overflows && !number.negative then none
        else some (.float (consumed text rest), rest)
      | none, none => readInteger text

end Toml
end TrafficGraph
