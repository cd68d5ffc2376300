import TrafficGraph.Json.Reader

/-!
# The bytes of texts

A character has one to four bytes.  The first one tells how many, and only the others lie
between 128 and 191; so no encoding begins another one, and texts compare like their bytes.
-/

namespace TrafficGraph
namespace Text

/-- The bytes of characters. -/
def encode (characters : List Char) : Bytes :=
  characters.flatMap String.utf8EncodeChar

@[simp] theorem encode_nil : encode [] = [] := rfl

@[simp] theorem encode_cons (character : Char) (characters : List Char) :
    encode (character :: characters) = String.utf8EncodeChar character ++ encode characters := rfl

@[simp] theorem encode_append (first second : List Char) :
    encode (first ++ second) = encode first ++ encode second :=
  List.flatMap_append

theorem utf8_eq_encode (text : String) : utf8 text = encode text.toList := by
  rw [utf8, ← String.ofList_toList (s := text), String.toByteArray_ofList, List.utf8Encode,
    String.toList_ofList, List.toList_data_toByteArray]
  rfl

theorem ofUtf8?_encode (characters : List Char) :
    ofUtf8? (encode characters) = some (String.ofList characters) := by
  rw [← ofUtf8?_utf8 (String.ofList characters), utf8_eq_encode, String.toList_ofList]

theorem ofUtf8?_eq_some
    {bytes : Bytes}
    {text : String}
    (valid : ofUtf8? bytes = some text) :
    bytes = encode text.toList := by
  rw [ofUtf8?, String.fromUTF8?] at valid
  split at valid
  · cases valid
    rw [← utf8_eq_encode]
    simp [utf8, String.fromUTF8]
  · cases valid

theorem code_lt (character : Char) : character.val.toNat < 1114112 := by
  rcases character.valid with low | high
  · exact Nat.lt_trans low (by decide)
  · exact high.2

/-- The encoding of a character by the length of its code. -/
theorem encodeChar_cases (character : Char) :
    (character.val.toNat < 128 ∧
      String.utf8EncodeChar character = [UInt8.ofNat character.val.toNat]) ∨
    (∃ a b, 2 ≤ a ∧ a < 32 ∧ b < 64 ∧ character.val.toNat = a * 64 + b ∧
      String.utf8EncodeChar character = [UInt8.ofNat (a + 192), UInt8.ofNat (b + 128)]) ∨
    (∃ a b c, a < 16 ∧ b < 64 ∧ c < 64 ∧ 32 ≤ a * 64 + b ∧
      character.val.toNat = (a * 64 + b) * 64 + c ∧
      String.utf8EncodeChar character =
        [UInt8.ofNat (a + 224), UInt8.ofNat (b + 128), UInt8.ofNat (c + 128)]) ∨
    (∃ a b c d, a < 5 ∧ b < 64 ∧ c < 64 ∧ d < 64 ∧ 16 ≤ a * 64 + b ∧
      character.val.toNat = ((a * 64 + b) * 64 + c) * 64 + d ∧
      String.utf8EncodeChar character =
        [UInt8.ofNat (a + 240), UInt8.ofNat (b + 128), UInt8.ofNat (c + 128),
          UInt8.ofNat (d + 128)]) := by
  have bound := code_lt character
  unfold String.utf8EncodeChar
  generalize character.val.toNat = code at *
  dsimp only
  split
  · exact Or.inl ⟨by omega, rfl⟩
  split
  · exact Or.inr (Or.inl ⟨code / 64 % 32, code % 64, by omega, by omega, by omega, by omega, rfl⟩)
  split
  · exact Or.inr (Or.inr (Or.inl ⟨code / 4096 % 16, code / 64 % 64, code % 64, by omega, by omega,
      by omega, by omega, by omega, rfl⟩))
  · exact Or.inr (Or.inr (Or.inr ⟨code / 262144 % 8, code / 4096 % 64, code / 64 % 64, code % 64,
      by omega, by omega, by omega, by omega, by omega, by omega, rfl⟩))

theorem toNat_ofNat {number : Nat} (small : number < 256) : (UInt8.ofNat number).toNat = number :=
  UInt8.toNat_ofNat_of_lt small

/-- The bytes of a smaller character are smaller, whatever follows. -/
theorem encodeChar_append_lt
    {first second : Char}
    (less : first < second)
    (rest others : Bytes) :
    String.utf8EncodeChar first ++ rest < String.utf8EncodeChar second ++ others := by
  have codes : first.val.toNat < second.val.toNat := less
  rcases encodeChar_cases first with
    ⟨_, shape⟩ | ⟨a, b, _, _, _, code, shape⟩ | ⟨a, b, c, _, _, _, _, code, shape⟩ |
      ⟨a, b, c, d, _, _, _, _, _, code, shape⟩ <;>
  rcases encodeChar_cases second with
    ⟨_, shape'⟩ | ⟨a', b', _, _, _, code', shape'⟩ | ⟨a', b', c', _, _, _, _, code', shape'⟩ |
      ⟨a', b', c', d', _, _, _, _, _, code', shape'⟩ <;>
  · rw [shape, shape']
    simp (disch := omega) only [List.cons_append, List.nil_append, List.cons_lt_cons_iff,
      UInt8.lt_iff_toNat_lt, ← UInt8.toNat_inj, toNat_ofNat]
    omega

/-! ## Where characters begin -/

/-- A byte behind the first one of a character. -/
def IsLater (byte : UInt8) : Prop :=
  128 ≤ byte.toNat ∧ byte.toNat < 192

/-- The first byte of a character tells it if it is below 128, and is no later byte. -/
structure IsLead (character : Char) (lead : UInt8) (later : Bytes) : Prop where
  shape : String.utf8EncodeChar character = lead :: later
  isLater : ∀ byte ∈ later, IsLater byte
  short : character.val.toNat < 128 → lead = UInt8.ofNat character.val.toNat ∧ later = []
  long : 128 ≤ character.val.toNat → 192 ≤ lead.toNat

theorem exists_isLead (character : Char) : ∃ lead later, IsLead character lead later := by
  rcases encodeChar_cases character with
    ⟨small, shape⟩ | ⟨a, b, _, _, _, code, shape⟩ | ⟨a, b, c, _, _, _, _, code, shape⟩ |
      ⟨a, b, c, d, _, _, _, _, _, code, shape⟩
  · exact ⟨_, _, shape, by simp, fun _ => ⟨rfl, rfl⟩, fun large => by omega⟩
  all_goals
    refine ⟨_, _, shape, ?_, fun small => by omega, fun _ => ?_⟩
    · simp (disch := omega) only [List.mem_cons, List.not_mem_nil, or_false, forall_eq_or_imp,
        forall_eq, IsLater, toNat_ofNat]
      omega
    · rw [toNat_ofNat (by omega)]
      omega

theorem IsLead.not_isLater
    {character : Char}
    {lead : UInt8}
    {later : Bytes}
    (isLead : IsLead character lead later) :
    ¬IsLater lead := by
  intro isLater
  rw [IsLater] at isLater
  by_cases small : character.val.toNat < 128
  · rw [(isLead.short small).1, toNat_ofNat (Nat.lt_trans small (by decide))] at isLater
    omega
  · have large := isLead.long (Nat.le_of_not_lt small)
    omega

theorem encodeChar_of_lt
    {character : Char}
    (small : character.val.toNat < 128) :
    String.utf8EncodeChar character = [UInt8.ofNat character.val.toNat] := by
  obtain ⟨lead, later, isLead⟩ := exists_isLead character
  obtain ⟨lead_eq, later_eq⟩ := isLead.short small
  rw [isLead.shape, lead_eq, later_eq]

theorem encode_cons_of_lt
    {character : Char}
    (small : character.val.toNat < 128)
    (characters : List Char) :
    encode (character :: characters) =
      UInt8.ofNat character.val.toNat :: encode characters := by
  rw [encode_cons, encodeChar_of_lt small]
  rfl

/-- Characters below 128 have one byte each. -/
theorem encode_eq_map
    {characters : List Char}
    (small : ∀ character ∈ characters, character.val.toNat < 128) :
    encode characters = characters.map fun character => UInt8.ofNat character.val.toNat := by
  induction characters with
  | nil => rfl
  | cons character characters inductionHypothesis =>
      obtain ⟨here, later⟩ := List.forall_mem_cons.1 small
      rw [encode_cons_of_lt here, inductionHypothesis later, List.map_cons]

/-- A text has no more characters than bytes. -/
theorem length_le_length_encode (characters : List Char) :
    characters.length ≤ (encode characters).length := by
  induction characters with
  | nil => exact Nat.le_refl 0
  | cons character characters inductionHypothesis =>
      obtain ⟨lead, later, isLead⟩ := exists_isLead character
      rw [encode_cons, isLead.shape, List.length_append, List.length_cons, List.length_cons]
      omega

/-- The bytes below 128 are the codes of characters. -/
theorem exists_code_of_lt
    {byte : UInt8}
    (small : byte.toNat < 128) :
    ∃ character : Char, character.val.toNat = byte.toNat ∧
      UInt8.ofNat character.val.toNat = byte := by
  have code_eq : (Char.ofNat byte.toNat).val.toNat = byte.toNat := by
    rw [Char.ofNat, dif_pos (Or.inl (by omega))]
    rfl
  refine ⟨Char.ofNat byte.toNat, code_eq, ?_⟩
  rw [code_eq, UInt8.ofNat_toNat]

/-- No encoding begins another one. -/
theorem encodeChar_append_inj
    {first second : Char}
    {rest others : Bytes}
    (same : String.utf8EncodeChar first ++ rest = String.utf8EncodeChar second ++ others) :
    first = second ∧ rest = others := by
  have first_eq : first = second := by
    rcases Std.lt_trichotomy first second with less | equal | greater
    · have bytesLess := encodeChar_append_lt less rest others
      rw [same] at bytesLess
      exact absurd bytesLess (List.lt_irrefl _)
    · exact equal
    · have bytesGreater := encodeChar_append_lt greater others rest
      rw [same] at bytesGreater
      exact absurd bytesGreater (List.lt_irrefl _)
  rw [first_eq] at same
  exact ⟨first_eq, List.append_cancel_left same⟩

/-! ## Order -/

theorem append_lt_append
    (front : Bytes)
    {first second : Bytes}
    (less : first < second) :
    front ++ first < front ++ second := by
  induction front with
  | nil => exact less
  | cons byte front inductionHypothesis =>
      exact List.cons_lt_cons_iff.2 (Or.inr ⟨rfl, inductionHypothesis⟩)

theorem encode_lt
    {first second : List Char}
    (less : first < second) :
    encode first < encode second := by
  induction first generalizing second with
  | nil =>
      cases second with
      | nil => exact absurd less (List.lt_irrefl [])
      | cons character characters =>
          rw [encode_nil, encode_cons]
          obtain ⟨lead, later, isLead⟩ := exists_isLead character
          rw [isLead.shape]
          exact List.nil_lt_cons _ _
  | cons character characters inductionHypothesis =>
      cases second with
      | nil => cases less
      | cons other others =>
          rw [encode_cons, encode_cons]
          rcases List.cons_lt_cons_iff.1 less with here | ⟨rfl, later⟩
          · exact encodeChar_append_lt here (encode characters) (encode others)
          · exact append_lt_append _ (inductionHypothesis later)

/-- Texts are ordered by their characters as by their bytes. -/
theorem utf8_lt
    {first second : String}
    (less : first < second) :
    utf8 first < utf8 second := by
  rw [utf8_eq_encode, utf8_eq_encode]
  exact encode_lt (String.lt_iff.1 less)

end Text
end TrafficGraph
