/-!
# Digits of other bases

Digits up to base sixteen, with letters of either case for those above nine.
-/

namespace TrafficGraph
namespace Text

/-- The value of a digit in a base up to sixteen. -/
def digit? (base : Nat) (character : Char) : Option Nat :=
  let value :=
    if character.isDigit then some (character.toNat - '0'.toNat)
    else if 'a' ≤ character ∧ character ≤ 'f' then some (character.toNat - 'a'.toNat + 10)
    else if 'A' ≤ character ∧ character ≤ 'F' then some (character.toNat - 'A'.toNat + 10)
    else none
  value.filter (· < base)

/-- The number written by digits of a base, the first one being the highest. -/
def ofDigits? (base : Nat) (characters : List Char) : Option Nat := do
  let values ← characters.mapM (digit? base)
  some (values.foldl (fun total value => total * base + value) 0)

/-- The number written by hexadecimal digits. -/
def hexadecimal? (characters : List Char) : Option Nat :=
  ofDigits? 16 characters

end Text
end TrafficGraph
