/-!
# Blank characters and trimming

The blanks are the characters that Unicode gives the property `White_Space`.
Trimming drops the longest stretch of blanks at both ends and leaves the
characters between them as they are.
-/

namespace TrafficGraph
namespace Text

/-- The characters with the Unicode property `White_Space`. -/
def isBlank (character : Char) : Bool :=
  let code := character.toNat
  (0x09 ≤ code && code ≤ 0x0D) || code == 0x20 || code == 0x85 || code == 0xA0 ||
    code == 0x1680 || (0x2000 ≤ code && code ≤ 0x200A) || code == 0x2028 ||
    code == 0x2029 || code == 0x202F || code == 0x205F || code == 0x3000

/-- Drops the longest stretch of dropped items at each end of a list. -/
def trimEnds {α : Type} (dropped : α → Bool) (items : List α) : List α :=
  ((items.dropWhile dropped).reverse.dropWhile dropped).reverse

/-- The characters of a text without the blanks at its ends. -/
def trimmed (text : String) : List Char :=
  trimEnds isBlank text.toList

/-- ASCII letters in lower case, all other characters as they are. -/
def lowerCase (characters : List Char) : String :=
  String.ofList (characters.map Char.toLower)

@[simp] theorem toList_lowerCase (characters : List Char) :
    (lowerCase characters).toList = characters.map Char.toLower := by
  simp [lowerCase]

end Text
end TrafficGraph
