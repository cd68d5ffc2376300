import TrafficGraph.Text.Numeral

/-!
# The shortest decimals of binary numbers

A positive binary64 number has an interval of numbers that round to it; its ends
belong to it if the significand is even, because ties go to even significands.
Of the decimals in the interval those with the fewest digits are taken, of these
the nearest to the number, and of two equally near ones the one whose last digit
is even.

All comparisons are made between natural numbers.  A positive number stands for
a multiple of the unit `10 ^ -342 · 2 ^ -1076`, in which every binary64 number,
every end of an interval and every decimal that can be taken is whole.
-/

namespace TrafficGraph
namespace Text

/-- The positive number `significand · 2 ^ (scale - 1075)`. -/
structure Binary64 where
  /-- The bits of the number without leading zeros in front. -/
  significand : Nat
  /-- The power of two by which the significand is multiplied, plus 1075. -/
  scale : Nat
  deriving DecidableEq

/-- The bit in front of the fraction of a normal number. -/
def hiddenBit : Nat := 4503599627370496

namespace Binary64

/-- The positive number with a fraction and a biased exponent. -/
def ofFields (fraction exponent : Nat) : Binary64 where
  significand := if exponent = 0 then fraction else hiddenBit + fraction
  scale := max exponent 1

/-- The power of ten in the unit, without its sign. -/
def tens : Nat := 342

/-- The number in units. -/
def value (number : Binary64) : Nat :=
  number.significand * Nat.pow 2 (number.scale + 1) * Nat.pow 10 tens

/-- Half the distance to the next greater number, in units. -/
def halfStep (number : Binary64) : Nat :=
  Nat.pow 2 number.scale * Nat.pow 10 tens

/-- Half the distance to the next smaller number, in units.  The numbers below a
power of two lie twice as close together as those above it. -/
def halfStepBelow (number : Binary64) : Nat :=
  if number.significand = hiddenBit ∧ 1 < number.scale then number.halfStep / 2
  else number.halfStep

/-- A point, in units, rounds to the number. -/
def covers (number : Binary64) (point : Nat) : Bool :=
  let lower := number.value - number.halfStepBelow
  let upper := number.value + number.halfStep
  if number.significand % 2 = 0 then decide (lower ≤ point ∧ point ≤ upper)
  else decide (lower < point ∧ point < upper)

/-- One at a decimal place, in units; the places are counted from the last one that
the unit can express. -/
def atPlace (place : Nat) : Nat :=
  Nat.pow 10 place * Nat.pow 2 1076

/-- The number of decimal places up to the first digit of the number. -/
def places (number : Binary64) : Nat :=
  (decimal (number.value / atPlace 0)).length

/-- The multiple of one at a place that is nearest to the number, of those on both
sides of it that round to it. -/
def nearest? (number : Binary64) (place : Nat) : Option Nat :=
  let step := atPlace place
  let below := number.value / step
  let above := below + 1
  match number.covers (below * step), number.covers (above * step) with
  | false, false => none
  | true, false => some below
  | false, true => some above
  | true, true =>
    let down := number.value - below * step
    let up := above * step - number.value
    if down < up ∨ (down = up ∧ below % 2 = 0) then some below else some above

/-- The greatest number of digits that are needed to tell two numbers apart. -/
def digitsLimit : Nat := 17

end Binary64

/-- A decimal: digits that begin and end with another one than zero, and the place
of the point among them. -/
structure ShortDecimal where
  /-- The digits. -/
  digits : List Char
  /-- The number of digits in front of the point, which is negative if zeros stand
  between the point and the digits. -/
  point : Int
  deriving DecidableEq

namespace ShortDecimal

/-- The decimal of a count of ones at a place. -/
def ofCount (count place : Nat) : ShortDecimal :=
  let digits := decimal count
  { digits := (digits.reverse.dropWhile (· == '0')).reverse
    point := (digits.length + place : Nat) - (Binary64.tens : Nat) }

end ShortDecimal

/-- The shortest decimal that rounds to a number. -/
def Binary64.shortest (number : Binary64) : ShortDecimal :=
  let places := number.places
  let found := (List.range digitsLimit).findSome? fun count =>
    let place := places - 1 - count
    (number.nearest? place).map fun digits => ShortDecimal.ofCount digits place
  found.getD (.ofCount (number.value / atPlace 0) 0)

end Text
end TrafficGraph
