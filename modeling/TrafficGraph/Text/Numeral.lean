/-!
# Decimal numerals

Unsigned numbers as they are written in records and settings: decimal digits,
with any number of leading zeros and at most one plus sign in front.  A number
that does not fit the stated width is no number of that width.
-/

namespace TrafficGraph
namespace Text

/-- The number written by a nonempty run of decimal digits. -/
def natural? (digits : List Char) : Option Nat :=
  if digits ≠ [] ∧ digits.all Char.isDigit then
    some (Nat.ofDigitChars 10 digits 0)
  else none

/-- The number below a limit written by decimal digits after an optional plus
sign. -/
def unsigned? (limit : Nat) (text : List Char) : Option Nat := do
  let digits := match text with
    | '+' :: digits => digits
    | digits => digits
  let value ← natural? digits
  if value < limit then some value else none

/-- The decimal digits of a number, without leading zeros. -/
def decimal (number : Nat) : List Char :=
  Nat.toDigits 10 number

/-- The digits of a number read back as that number. -/
@[simp] theorem natural?_decimal (number : Nat) :
    natural? (decimal number) = some number := by
  have digits : (decimal number).all Char.isDigit = true := by
    rw [List.all_eq_true]
    intro character member
    exact Nat.isDigit_of_mem_toDigits (by decide) (by decide) member
  have nonempty : decimal number ≠ [] := Nat.toDigits_ne_nil
  rw [natural?, if_pos ⟨nonempty, digits⟩]
  simp [decimal]

/-- A word of 64 bits written in decimal. -/
def word64? (text : List Char) : Option UInt64 :=
  (unsigned? UInt64.size text).map UInt64.ofNat

/-- A word of 16 bits written in decimal. -/
def word16? (text : List Char) : Option UInt16 :=
  (unsigned? UInt16.size text).map UInt16.ofNat

end Text
end TrafficGraph
