import TrafficGraph.Address.Host
import TrafficGraph.Proofs.Text.Digits

/-!
# The characters of canonical names

The canonical name of a host consists of letters, digits, dots, hyphens, underscores
and colons, and colons stand only in addresses of version 6.
-/

namespace TrafficGraph
namespace Address

/-- The characters of canonical names. -/
def isCanonicalCharacter (character : Char) : Bool :=
  isNameCharacter character || character == ':'

theorem isNameCharacter_digitChar : ∀ digit < 16, isNameCharacter (Nat.digitChar digit) = true := by
  decide

theorem isUpper_digitChar : ∀ digit < 16, (Nat.digitChar digit).isUpper = false := by
  decide

theorem isNameCharacter_of_mem_toDigits
    {base number : Nat}
    (large : 1 < base)
    (atMost : base ≤ 16)
    {character : Char}
    (listed : character ∈ Nat.toDigits base number) :
    isNameCharacter character = true := by
  obtain ⟨digit, small, rfl⟩ := Text.exists_digit_of_mem_toDigits large listed
  exact isNameCharacter_digitChar digit (Nat.lt_of_lt_of_le small atMost)

theorem toLower_of_not_isUpper
    {character : Char}
    (notUpper : character.isUpper = false) :
    character.toLower = character := by
  unfold Char.toLower
  split
  · next upper =>
    have isUpper : character.isUpper = true := decide_eq_true upper
    rw [isUpper] at notUpper
    cases notUpper
  · rfl

/-- A character in lower case is the character itself or a lower-case letter. -/
theorem toLower_eq_or_isLower (character : Char) :
    character.toLower = character ∨ character.toLower.isLower = true := by
  unfold Char.toLower
  split
  · next upper =>
    apply Or.inr
    have bounds : 65 ≤ character.val.toNat ∧ character.val.toNat ≤ 90 := upper
    unfold Char.isLower
    simp only [Bool.and_eq_true, decide_eq_true_eq, ge_iff_le, UInt32.le_iff_toNat_le,
      UInt32.toNat_add]
    change 97 ≤ (character.val.toNat + 32) % 2 ^ 32 ∧
      (character.val.toNat + 32) % 2 ^ 32 ≤ 122
    omega
  · exact Or.inl rfl

theorem isNameCharacter_toLower
    {character : Char}
    (isName : isNameCharacter character = true) :
    isNameCharacter character.toLower = true := by
  rcases toLower_eq_or_isLower character with same | lower
  · rw [same]
    exact isName
  · unfold isNameCharacter Char.isAlphanum Char.isAlpha
    simp [lower]

theorem eq_or_digit_of_mem_printGroups
    {groups : List UInt16}
    {character : Char}
    (listed : character ∈ Ip.printGroups groups) :
    character = ':' ∨ ∃ digit < 16, character = Nat.digitChar digit := by
  rcases Text.mem_join listed with same | ⟨part, isPart, inside⟩
  · exact Or.inl same
  · obtain ⟨group, _, rfl⟩ := List.mem_map.1 isPart
    exact Or.inr (Text.exists_digit_of_mem_toDigits (by decide) inside)

/-- A printed address consists of dots, colons and digits. -/
theorem eq_or_digit_of_mem_print
    {address : Ip}
    {character : Char}
    (listed : character ∈ address.print) :
    character = '.' ∨ character = ':' ∨ ∃ digit < 16, character = Nat.digitChar digit := by
  cases address with
  | v4 first second third fourth =>
      rcases Text.mem_join listed with same | ⟨part, isPart, inside⟩
      · exact Or.inl same
      · obtain ⟨octet, _, rfl⟩ := List.mem_map.1 isPart
        obtain ⟨digit, small, isDigit⟩ := Text.exists_digit_of_mem_toDigits (by decide) inside
        exact Or.inr (Or.inr ⟨digit, Nat.lt_trans small (by decide), isDigit⟩)
  | v6 groups length_eq =>
      apply Or.inr
      rw [Ip.print, Ip.printCompressed] at listed
      dsimp only at listed
      split at listed
      · rw [List.mem_append, List.mem_cons, List.mem_cons] at listed
        rcases listed with front | colon | colon | back
        · exact eq_or_digit_of_mem_printGroups front
        · exact Or.inl colon
        · exact Or.inl colon
        · exact eq_or_digit_of_mem_printGroups back
      · exact eq_or_digit_of_mem_printGroups listed

theorem isCanonicalCharacter_of_mem_print
    {address : Ip}
    {character : Char}
    (listed : character ∈ address.print) :
    isCanonicalCharacter character = true := by
  unfold isCanonicalCharacter
  rcases eq_or_digit_of_mem_print listed with rfl | rfl | ⟨digit, small, rfl⟩
  · rfl
  · rfl
  · rw [isNameCharacter_digitChar digit small, Bool.true_or]

/-- A canonical name has no other characters. -/
theorem isCanonicalCharacter_of_canonical?
    {text name : String}
    (canonical : canonical? text = some name)
    {character : Char}
    (listed : character ∈ name.toList) :
    isCanonicalCharacter character = true := by
  rw [canonical?, Option.map_eq_some_iff] at canonical
  obtain ⟨host, parsed, rfl⟩ := canonical
  rw [Host.parse?, Host.ofText?] at parsed
  split at parsed
  · rw [← Option.some.inj parsed, Host.print, String.toList_ofList] at listed
    exact isCanonicalCharacter_of_mem_print listed
  · split at parsed
    · next named =>
      rw [← Option.some.inj parsed, Host.print, String.toList_ofList] at listed
      obtain ⟨original, isOriginal, rfl⟩ := List.mem_map.1 listed
      have isName := List.all_eq_true.1 named.2 original isOriginal
      rw [isCanonicalCharacter, isNameCharacter_toLower isName, Bool.true_or]
    · cases parsed

end Address
end TrafficGraph
