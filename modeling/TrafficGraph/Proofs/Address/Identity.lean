import TrafficGraph.Proofs.Address.Canonical

/-!
# Canonical names decide which host is meant

Two texts have one canonical name exactly if they name one host: the same address, where an
address of version 4 is the same as the one of version 6 to which it is mapped, or the same
name up to the case of its letters.  A host can be read off its canonical name, so different
hosts have different names, and the name of a host that is no address is none either.
-/

namespace TrafficGraph
namespace Address

/-! ## Mapped addresses -/

namespace Ip

theorem high_pairGroup (high low : UInt8) : (pairGroup high low >>> 8).toUInt8 = high := by
  have highBound := high.toNat_lt
  have lowBound := low.toNat_lt
  rw [← UInt8.toNat_inj]
  simp [pairGroup, Nat.shiftRight_eq_div_pow]
  omega

theorem low_pairGroup (high low : UInt8) : (pairGroup high low).toUInt8 = low := by
  rw [← UInt8.toNat_inj]
  simp [pairGroup]

theorem pairGroup_inj
    {high low otherHigh otherLow : UInt8}
    (same : pairGroup high low = pairGroup otherHigh otherLow) :
    high = otherHigh ∧ low = otherLow := by
  constructor
  · rw [← high_pairGroup high low, same, high_pairGroup]
  · rw [← low_pairGroup high low, same, low_pairGroup]

/-- A group is that of its two octets. -/
theorem pairGroup_octets (group : UInt16) :
    pairGroup (group >>> 8).toUInt8 group.toUInt8 = group := by
  have bound := group.toNat_lt
  rw [← UInt16.toNat_inj]
  simp [pairGroup, Nat.shiftRight_eq_div_pow]
  omega

/-- The eight groups of an address, an address of version 4 being mapped into version 6. -/
def mapped : Ip → List UInt16
  | .v4 first second third fourth =>
    [0, 0, 0, 0, 0, 0xFFFF, pairGroup first second, pairGroup third fourth]
  | .v6 groups _ => groups

/-- Unwrapping a mapped address does not change what is mapped. -/
theorem mapped_unmap (address : Ip) : address.unmap.mapped = address.mapped := by
  unfold unmap
  split
  · simp only [mapped, pairGroup_octets]
  · rfl

theorem unmap_of_mapped_eq_v4
    {first second third fourth : UInt8}
    {address : Ip}
    (same : address.mapped = (v4 first second third fourth).mapped) :
    address.unmap = v4 first second third fourth := by
  cases address with
  | v4 one two three four =>
      simp only [mapped, List.cons.injEq, and_true, true_and] at same
      obtain ⟨first_eq, second_eq⟩ := pairGroup_inj same.1
      obtain ⟨third_eq, fourth_eq⟩ := pairGroup_inj same.2
      rw [first_eq, second_eq, third_eq, fourth_eq]
      rfl
  | v6 groups length_eq =>
      change groups = _ at same
      subst same
      simp only [mapped, unmap, high_pairGroup, low_pairGroup]

/-- Addresses are the same, once mapped ones are unwrapped, exactly if they have the same
groups, once those of version 4 are mapped. -/
theorem unmap_eq_unmap_iff {first second : Ip} :
    first.unmap = second.unmap ↔ first.mapped = second.mapped := by
  constructor
  · intro same
    rw [← mapped_unmap first, same, mapped_unmap]
  · intro same
    cases first with
    | v4 one two three four => exact (unmap_of_mapped_eq_v4 same.symm).symm
    | v6 groups length_eq =>
        cases second with
        | v4 one two three four => exact unmap_of_mapped_eq_v4 same
        | v6 others others_length =>
            change groups = others at same
            subst same
            rfl

end Ip

/-! ## Hosts and their names -/

/-- The characters of a text without blanks at its ends and one pair of brackets. -/
def bare (text : String) : List Char :=
  unbracketed (Text.trimmed text)

/-- Two texts name the same host: both are addresses, and the same once mapped ones are
unwrapped, or neither is one and they differ at most in the case of letters. -/
def NameSameHost (first second : String) : Prop :=
  (∃ address other, Ip.parse? (bare first) = some address ∧
    Ip.parse? (bare second) = some other ∧ address.unmap = other.unmap) ∨
  (Ip.parse? (bare first) = none ∧ Ip.parse? (bare second) = none ∧
    (bare first).map Char.toLower = (bare second).map Char.toLower)

theorem exists_host_of_canonical?
    {text name : String}
    (canonical : canonical? text = some name) :
    ∃ host, Host.ofText? (bare text) = some host ∧ host.print = name :=
  Option.map_eq_some_iff.1 canonical

theorem ofText?_of_address
    {text : List Char}
    {address : Ip}
    (read : Ip.parse? text = some address) :
    Host.ofText? text = some (.ip address.unmap) := by
  rw [Host.ofText?, read]

theorem eq_named_of_no_address
    {text : List Char}
    (noAddress : Ip.parse? text = none)
    {host : Host}
    (parsed : Host.ofText? text = some host) :
    host = .named (text.map Char.toLower) ∧
      ∀ character ∈ text, isNameCharacter character = true := by
  rw [Host.ofText?, noAddress] at parsed
  dsimp only at parsed
  split at parsed
  · next named => exact ⟨(Option.some.inj parsed).symm, List.all_eq_true.1 named.2⟩
  · cases parsed

/-- Hosts that texts name are told apart by their canonical names. -/
theorem print_inj
    {text otherText : List Char}
    {host other : Host}
    (parsed : Host.ofText? text = some host)
    (otherParsed : Host.ofText? otherText = some other)
    (same : host.print = other.print) :
    host = other := by
  have read := ofText?_print parsed
  rw [same, ofText?_print otherParsed] at read
  exact (Option.some.inj read).symm

/-! ## The characters of names -/

theorem isUpper_toLower (character : Char) : character.toLower.isUpper = false := by
  unfold Char.toLower
  split
  · next upper =>
    have bounds : 65 ≤ character.val.toNat ∧ character.val.toNat ≤ 90 := upper
    rw [Bool.eq_false_iff]
    intro raised
    have raisedBounds : 65 ≤ (character.val.toNat + 32) % 2 ^ 32 ∧
        (character.val.toNat + 32) % 2 ^ 32 ≤ 90 := of_decide_eq_true raised
    omega
  · next other => exact decide_eq_false other

theorem isUpper_of_mem_print
    {address : Ip}
    {character : Char}
    (listed : character ∈ address.print) :
    character.isUpper = false := by
  rcases eq_or_digit_of_mem_print listed with rfl | rfl | ⟨digit, small, rfl⟩
  · rfl
  · rfl
  · exact isUpper_digitChar digit small

theorem isUpper_of_canonical?
    {text name : String}
    (canonical : canonical? text = some name)
    {character : Char}
    (listed : character ∈ name.toList) :
    character.isUpper = false := by
  obtain ⟨host, parsed, rfl⟩ := exists_host_of_canonical? canonical
  cases read : Ip.parse? (bare text) with
  | some address =>
      rw [ofText?_of_address read] at parsed
      rw [← Option.some.inj parsed, Host.print, String.toList_ofList] at listed
      exact isUpper_of_mem_print listed
  | none =>
      rw [(eq_named_of_no_address read parsed).1, Host.print, String.toList_ofList] at listed
      obtain ⟨original, _, rfl⟩ := List.mem_map.1 listed
      exact isUpper_toLower original

/-- Brackets, slashes and angles stand in no canonical name. -/
theorem not_mem_of_isCanonicalCharacter
    {character : Char}
    (isCanonical : isCanonicalCharacter character = true) :
    character ∉ ['[', ']', '/', '>'] := by
  intro listed
  simp only [List.mem_cons, List.not_mem_nil, or_false] at listed
  rcases listed with rfl | rfl | rfl | rfl
  all_goals exact absurd isCanonical (by decide)

/-! ## Colons -/

/-- Addresses of version 4 are written without colons. -/
theorem not_mem_of_parse?_eq_v4
    {text : List Char}
    {first second third fourth : UInt8}
    (read : Ip.parse? text = some (.v4 first second third fourth)) :
    ':' ∉ text := by
  intro listed
  rw [Ip.parse?] at read
  split at read
  · next octets =>
    rcases isDigit_or_eq_of_octets? octets listed with digit | dot
    · cases digit
    · cases dot
  · obtain ⟨groups, _, same⟩ := Option.bind_eq_some_iff.1 read
    split at same
    · cases same
    · cases same

/-- Addresses of version 6 are written with colons. -/
theorem mem_of_parse?_eq_v6
    {text : List Char}
    {groups : List UInt16}
    {length_eq : groups.length = 8}
    (read : Ip.parse? text = some (.v6 groups length_eq)) :
    ':' ∈ text := by
  apply Decidable.byContradiction
  intro noColon
  cases octets : Ip.octets? text with
  | none =>
      rw [parse?_of_not_mem noColon octets] at read
      cases read
  | some found =>
      rw [Ip.parse?, octets] at read
      cases read

/-- Of the texts that name hosts those with colons are the addresses of version 6. -/
theorem mem_iff_parse?_eq_v6
    {text : List Char}
    {host : Host}
    (parsed : Host.ofText? text = some host) :
    ':' ∈ text ↔ ∃ groups length_eq, Ip.parse? text = some (.v6 groups length_eq) := by
  constructor
  · intro listed
    cases read : Ip.parse? text with
    | none => cases (eq_named_of_no_address read parsed).2 ':' listed
    | some address =>
        cases address with
        | v4 first second third fourth => exact absurd listed (not_mem_of_parse?_eq_v4 read)
        | v6 groups length_eq => exact ⟨groups, length_eq, rfl⟩
  · rintro ⟨groups, length_eq, read⟩
    exact mem_of_parse?_eq_v6 read

/-! ## Canonical names -/

/-- What the canonical name of a text looks like. -/
structure IsCanonical (text name : String) : Prop where
  /-- It is accepted again and is its own canonical name. -/
  canonical?_eq : canonical? name = some name
  /-- It has neither blanks nor brackets, slashes, angles and capital letters. -/
  clean : ∀ character ∈ name.toList, Text.isBlank character = false ∧
    character ∉ ['[', ']', '/', '>'] ∧ character.isUpper = false
  /-- It has a colon exactly if it is an address of version 6. -/
  colon_iff : ':' ∈ name.toList ↔
    ∃ groups length_eq, Ip.parse? name.toList = some (.v6 groups length_eq)
  /-- The name of a host that is no address is not the name of an address. -/
  ne_of_address : Ip.parse? (bare text) = none → ∀ other address,
    Ip.parse? (bare other) = some address → canonical? other ≠ some name

theorem isCanonical_of_canonical?
    {text name : String}
    (canonical : canonical? text = some name) :
    IsCanonical text name where
  canonical?_eq := canonical?_of_canonical? canonical
  clean := by
    intro character listed
    have isCanonical := isCanonicalCharacter_of_canonical? canonical listed
    exact ⟨isBlank_of_isCanonicalCharacter isCanonical,
      not_mem_of_isCanonicalCharacter isCanonical, isUpper_of_canonical? canonical listed⟩
  colon_iff := by
    obtain ⟨host, parsed, rfl⟩ := exists_host_of_canonical? canonical
    exact mem_iff_parse?_eq_v6 (ofText?_print parsed)
  ne_of_address := by
    intro noAddress other address read sameName
    obtain ⟨host, parsed, rfl⟩ := exists_host_of_canonical? canonical
    obtain ⟨otherHost, otherParsed, same⟩ := exists_host_of_canonical? sameName
    have host_eq := print_inj parsed otherParsed same.symm
    rw [ofText?_of_address read] at otherParsed
    rw [(eq_named_of_no_address noAddress parsed).1, ← Option.some.inj otherParsed] at host_eq
    cases host_eq

/-! ## Which host is meant -/

/-- Texts of hosts name the same host exactly if they are read as the same one. -/
theorem eq_iff_nameSameHost
    {first second : String}
    {host other : Host}
    (parsed : Host.ofText? (bare first) = some host)
    (otherParsed : Host.ofText? (bare second) = some other) :
    host = other ↔ NameSameHost first second := by
  cases read : Ip.parse? (bare first) with
  | some address =>
      rw [ofText?_of_address read] at parsed
      cases parsed
      cases otherRead : Ip.parse? (bare second) with
      | some otherAddress =>
          rw [ofText?_of_address otherRead] at otherParsed
          cases otherParsed
          simp [NameSameHost, read, otherRead]
      | none =>
          rw [(eq_named_of_no_address otherRead otherParsed).1]
          simp [NameSameHost, read, otherRead]
  | none =>
      rw [(eq_named_of_no_address read parsed).1]
      cases otherRead : Ip.parse? (bare second) with
      | some otherAddress =>
          rw [ofText?_of_address otherRead] at otherParsed
          cases otherParsed
          simp [NameSameHost, read, otherRead]
      | none =>
          rw [(eq_named_of_no_address otherRead otherParsed).1]
          simp [NameSameHost, read, otherRead]

/-- What the canonical names of two texts say about the hosts that they name. -/
structure Identifies (first second name other : String) : Prop where
  canonical : IsCanonical first name
  /-- The names are the same exactly if the texts name the same host. -/
  eq_iff : name = other ↔ NameSameHost first second
  /-- Of two addresses they are the same exactly if the addresses are, in version 6. -/
  eq_iff_mapped : ∀ address otherAddress, Ip.parse? (bare first) = some address →
    Ip.parse? (bare second) = some otherAddress →
    (name = other ↔ address.mapped = otherAddress.mapped)

/-- **A canonical name identifies its host.**  Two accepted texts have one canonical name
exactly if they are the same address, mapped ones being unwrapped, or the same name but for
the case of letters.  The canonical name is accepted again as it stands, and is never shared
by a name and an address. -/
theorem identifies_canonical
    {first second name other : String}
    (canonical : canonical? first = some name)
    (otherCanonical : canonical? second = some other) :
    Identifies first second name other := by
  have isCanonical := isCanonical_of_canonical? canonical
  obtain ⟨host, parsed, rfl⟩ := exists_host_of_canonical? canonical
  obtain ⟨otherHost, otherParsed, rfl⟩ := exists_host_of_canonical? otherCanonical
  have print_eq_iff : host.print = otherHost.print ↔ host = otherHost :=
    ⟨print_inj parsed otherParsed, congrArg Host.print⟩
  refine ⟨isCanonical, print_eq_iff.trans (eq_iff_nameSameHost parsed otherParsed), ?_⟩
  intro address otherAddress read otherRead
  rw [ofText?_of_address read] at parsed
  rw [ofText?_of_address otherRead] at otherParsed
  cases parsed
  cases otherParsed
  rw [print_eq_iff, Host.ip.injEq, Ip.unmap_eq_unmap_iff]

/-- A mapped address in brackets and the address of version 4 are one host. -/
theorem identifies_canonical_mapped :
    canonical? " [::FFFF:10.0.0.1] " = some "10.0.0.1" ∧
      Identifies " [::FFFF:10.0.0.1] " "10.0.0.1" "10.0.0.1" "10.0.0.1" :=
  ⟨by decide, identifies_canonical (by decide) (by decide)⟩

end Address
end TrafficGraph
