import Mathlib.Data.Nat.Init
import TrafficGraph.Proofs.Address.Characters
import TrafficGraph.Proofs.Address.Reading
import TrafficGraph.Proofs.Text.Trimming

/-!
# Canonical names name themselves

The canonical name of a host is its own canonical name.  For addresses this is because
they are read back from their texts.  A name in lower case is no address unless the
name was one before, since addresses without colons have no letters.
-/

namespace TrafficGraph
namespace Address

/-! ## Texts without blanks and brackets -/

theorem toNat_of_isCanonicalCharacter
    {character : Char}
    (canonical : isCanonicalCharacter character = true) :
    45 ≤ character.toNat ∧ character.toNat ≤ 122 := by
  unfold isCanonicalCharacter isNameCharacter Char.isAlphanum Char.isAlpha Char.isUpper
    Char.isLower Char.isDigit at canonical
  simp only [Bool.or_eq_true, Bool.and_eq_true, decide_eq_true_eq, beq_iff_eq] at canonical
  rcases canonical with ((((((upper | lower) | digit) | rfl) | rfl) | rfl) | rfl)
  · have bounds : 65 ≤ character.toNat ∧ character.toNat ≤ 90 := upper
    omega
  · have bounds : 97 ≤ character.toNat ∧ character.toNat ≤ 122 := lower
    omega
  · have bounds : 48 ≤ character.toNat ∧ character.toNat ≤ 57 := digit
    omega
  all_goals decide

theorem isBlank_of_isCanonicalCharacter
    {character : Char}
    (canonical : isCanonicalCharacter character = true) :
    Text.isBlank character = false := by
  have bounds := toNat_of_isCanonicalCharacter canonical
  simp only [Text.isBlank, Bool.or_eq_false_iff, Bool.and_eq_false_iff, decide_eq_false_iff_not,
    beq_eq_false_iff_ne]
  omega

theorem isBlank_of_isNameCharacter
    {character : Char}
    (isName : isNameCharacter character = true) :
    Text.isBlank character = false := by
  apply isBlank_of_isCanonicalCharacter
  rw [isCanonicalCharacter, isName, Bool.true_or]

theorem isBlank_of_isDigit
    {character : Char}
    (digit : character.isDigit = true) :
    Text.isBlank character = false := by
  apply isBlank_of_isNameCharacter
  unfold isNameCharacter Char.isAlphanum
  simp [digit]

/-- Letters of neither case are blank. -/
theorem isBlank_toLower (character : Char) :
    Text.isBlank character.toLower = Text.isBlank character := by
  by_cases isName : isNameCharacter character = true
  · rw [isBlank_of_isNameCharacter isName,
      isBlank_of_isNameCharacter (isNameCharacter_toLower isName)]
  · have notUpper : character.isUpper = false := by
      rw [Bool.eq_false_iff]
      intro upper
      apply isName
      unfold isNameCharacter Char.isAlphanum Char.isAlpha
      simp [upper]
    rw [toLower_of_not_isUpper notUpper]

theorem unbracketed_of_not_mem
    {text : List Char}
    (noBracket : '[' ∉ text) :
    unbracketed text = text := by
  unfold unbracketed
  split
  · exact absurd List.mem_cons_self noBracket
  · rfl

/-- A text of characters of canonical names is read as it stands. -/
theorem parse?_of_isCanonicalCharacter
    {name : String}
    (clean : ∀ character ∈ name.toList, isCanonicalCharacter character = true) :
    Host.parse? name = Host.ofText? name.toList := by
  have noBracket : '[' ∉ name.toList := by
    intro listed
    cases clean '[' listed
  rw [Host.parse?, Text.trimmed, Text.trimEnds_of_forall, unbracketed_of_not_mem noBracket]
  intro character listed
  exact isBlank_of_isCanonicalCharacter (clean character listed)

/-! ## Names -/

theorem isDigit_of_natural?
    {digits : List Char}
    {number : Nat}
    (read : Text.natural? digits = some number) :
    digits.all Char.isDigit = true := by
  rw [Text.natural?] at read
  split at read
  · next digital => exact digital.2
  · cases read

theorem isDigit_of_octet?
    {digits : List Char}
    {octet : UInt8}
    (read : Ip.octet? digits = some octet) :
    digits.all Char.isDigit = true := by
  rw [Ip.octet?] at read
  split at read
  · obtain ⟨number, isNumber, _⟩ := Option.bind_eq_some_iff.1 read
    exact isDigit_of_natural? isNumber
  · cases read

/-- A dotted address has digits and dots only. -/
theorem isDigit_or_eq_of_octets?
    {text : List Char}
    {octets : UInt8 × UInt8 × UInt8 × UInt8}
    (read : Ip.octets? text = some octets)
    {character : Char}
    (listed : character ∈ text) :
    character.isDigit = true ∨ character = '.' := by
  rw [Ip.octets?] at read
  split at read
  · next first second third fourth pieces_eq =>
    obtain ⟨_, isFirst, read⟩ := Option.bind_eq_some_iff.1 read
    obtain ⟨_, isSecond, read⟩ := Option.bind_eq_some_iff.1 read
    obtain ⟨_, isThird, read⟩ := Option.bind_eq_some_iff.1 read
    obtain ⟨_, isFourth, _⟩ := Option.bind_eq_some_iff.1 read
    rw [← Text.join_pieces '.' text, pieces_eq] at listed
    rcases Text.mem_join listed with same | ⟨piece, isPiece, inside⟩
    · exact Or.inr same
    · have digital : piece.all Char.isDigit = true := by
        simp only [List.mem_cons, List.not_mem_nil, or_false] at isPiece
        rcases isPiece with rfl | rfl | rfl | rfl
        · exact isDigit_of_octet? isFirst
        · exact isDigit_of_octet? isSecond
        · exact isDigit_of_octet? isThird
        · exact isDigit_of_octet? isFourth
      exact Or.inl (List.all_eq_true.1 digital character inside)
  · cases read

theorem cutDoubleColon_of_not_mem
    {text : List Char}
    (noColon : ':' ∉ text) :
    Ip.cutDoubleColon text = none := by
  have cut := Ip.cutDoubleColon_append noColon []
  rw [List.append_nil] at cut
  exact cut

/-- A text without colons that is no dotted address is no address. -/
theorem parse?_of_not_mem
    {text : List Char}
    (noColon : ':' ∉ text)
    (noOctets : Ip.octets? text = none) :
    Ip.parse? text = none := by
  rw [Ip.parse?, noOctets, Ip.allGroups?, cutDoubleColon_of_not_mem noColon]
  simp only [Ip.groups?]
  split
  · rfl
  · rw [Text.pieces_of_not_mem noColon, Ip.groupsOfPieces?, noOctets]
    cases Ip.group? text with
    | none => rfl
    | some group => rfl

theorem toLower_of_isLower
    {character : Char}
    (lower : character.isLower = true) :
    character.toLower = character := by
  unfold Char.isLower at lower
  rw [Bool.and_eq_true, decide_eq_true_eq, decide_eq_true_eq] at lower
  have bounds : 97 ≤ character.toNat ∧ character.toNat ≤ 122 := lower
  apply toLower_of_not_isUpper
  rw [Bool.eq_false_iff]
  intro upper
  have upperBounds : 65 ≤ character.toNat ∧ character.toNat ≤ 90 := of_decide_eq_true upper
  omega

theorem toLower_toLower (character : Char) :
    character.toLower.toLower = character.toLower := by
  rcases toLower_eq_or_isLower character with same | lower
  · rw [same, same]
  · exact toLower_of_isLower lower

/-- Digits and dots have only themselves as lower case. -/
theorem eq_of_toLower
    {character : Char}
    (plain : character.toLower.isDigit = true ∨ character.toLower = '.') :
    character.toLower = character := by
  rcases toLower_eq_or_isLower character with same | lower
  · exact same
  · exfalso
    unfold Char.isLower at lower
    rw [Bool.and_eq_true, decide_eq_true_eq, decide_eq_true_eq] at lower
    have bounds : 97 ≤ character.toLower.toNat ∧ character.toLower.toNat ≤ 122 := lower
    rcases plain with digit | dot
    · unfold Char.isDigit at digit
      rw [Bool.and_eq_true, decide_eq_true_eq, decide_eq_true_eq] at digit
      have digitBounds : 48 ≤ character.toLower.toNat ∧ character.toLower.toNat ≤ 57 := digit
      omega
    · rw [dot] at bounds
      exact absurd bounds.1 (by decide)

/-- A name that is no address is none in lower case. -/
theorem parse?_map_toLower
    {text : List Char}
    (isName : ∀ character ∈ text, isNameCharacter character = true)
    (noAddress : Ip.parse? text = none) :
    Ip.parse? (text.map Char.toLower) = none := by
  apply parse?_of_not_mem
  · intro listed
    obtain ⟨character, isCharacter, same⟩ := List.mem_map.1 listed
    have isNameToo := isNameCharacter_toLower (isName character isCharacter)
    rw [same] at isNameToo
    cases isNameToo
  · cases read : Ip.octets? (text.map Char.toLower) with
    | none => rfl
    | some octets =>
        have lower_eq : text.map Char.toLower = text := by
          rw [List.map_congr_left (g := id), List.map_id]
          intro character listed
          apply eq_of_toLower
          exact isDigit_or_eq_of_octets? read (List.mem_map_of_mem listed)
        rw [lower_eq] at read
        rw [Ip.parse?, read] at noAddress
        cases noAddress

theorem unmap_unmap (address : Ip) : address.unmap.unmap = address.unmap := by
  cases mapped : address.unmap with
  | v4 first second third fourth => rfl
  | v6 groups length_eq =>
      have unmapped : address = .v6 groups length_eq := by
        unfold Ip.unmap at mapped
        split at mapped
        · cases mapped
        · exact mapped
      rw [← unmapped, mapped, unmapped]

/-- The host of a text is read from its canonical name. -/
theorem ofText?_print
    {text : List Char}
    {host : Host}
    (parsed : Host.ofText? text = some host) :
    Host.ofText? host.print.toList = some host := by
  rw [Host.ofText?] at parsed
  split at parsed
  · next address read =>
    rw [← Option.some.inj parsed, Host.print, String.toList_ofList, Host.ofText?,
      Ip.parse?_print]
    simp only [unmap_unmap]
  · next noAddress =>
    split at parsed
    · next named =>
      have isName : ∀ character ∈ text, isNameCharacter character = true :=
        List.all_eq_true.1 named.2
      have namedToo : text.map Char.toLower ≠ [] ∧
          (text.map Char.toLower).all isNameCharacter = true := by
        refine ⟨by simpa using named.1, ?_⟩
        rw [List.all_map, List.all_eq_true]
        intro character listed
        exact isNameCharacter_toLower (isName character listed)
      rw [← Option.some.inj parsed, Host.print, String.toList_ofList, Host.ofText?,
        parse?_map_toLower isName noAddress]
      dsimp only
      rw [if_pos namedToo, List.map_map]
      simp only [Option.some.injEq, Host.named.injEq]
      apply List.map_congr_left
      intro character _
      exact toLower_toLower character
    · cases parsed

/-- The canonical name of a host is its own canonical name. -/
theorem canonical?_of_canonical?
    {text name : String}
    (canonical : canonical? text = some name) :
    canonical? name = some name := by
  have clean : ∀ character ∈ name.toList, isCanonicalCharacter character = true :=
    fun character listed => isCanonicalCharacter_of_canonical? canonical listed
  rw [canonical?, Option.map_eq_some_iff] at canonical
  obtain ⟨host, parsed, rfl⟩ := canonical
  rw [canonical?, parse?_of_isCanonicalCharacter clean, ofText?_print parsed, Option.map_some]

end Address
end TrafficGraph
