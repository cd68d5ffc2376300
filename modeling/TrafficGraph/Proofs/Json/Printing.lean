import TrafficGraph.Json.Printer
import TrafficGraph.Proofs.Json.Reading
import TrafficGraph.Proofs.Text.Digits

/-!
# Printing JSON texts

What is printed for a value denotes it, in one line of text, if the value holds no floating
point number.
-/

namespace TrafficGraph
namespace Json

mutual

/-- A value without floating point numbers. -/
def IsExact : Json → Prop
  | .number (.float _) => False
  | .number (.integer _ _) => True
  | .array items => AreExact items
  | .object members => MembersAreExact members
  | .null => True
  | .bool _ => True
  | .string _ => True

/-- The items of an array are without floating point numbers. -/
def AreExact : List Json → Prop
  | [] => True
  | item :: items => IsExact item ∧ AreExact items

/-- The members of an object are without floating point numbers. -/
def MembersAreExact : List (String × Json) → Prop
  | [] => True
  | (_, value) :: members => IsExact value ∧ MembersAreExact members

end

/-! ## Numbers -/

theorem asciiBytes_eq_encode
    {characters : List Char}
    (small : ∀ character ∈ characters, character.val.toNat < 128) :
    asciiBytes characters = Text.encode characters :=
  (Text.encode_eq_map small).symm

theorem asciiBytes_decimal (number : Nat) :
    asciiBytes (Text.decimal number) = Text.encode (Text.decimal number) :=
  asciiBytes_eq_encode fun _ member => lt_of_isDigit (Text.isDigit_of_mem_decimal member)

theorem isWhole_decimal (number : Nat) : IsWhole (Text.decimal number) := by
  refine ⟨⟨Text.decimal_ne_nil number, fun _ => Text.isDigit_of_mem_decimal⟩, fun zero => ?_⟩
  rw [Text.eq_zero_of_head?_decimal zero]
  rfl

theorem ofNat_toNat_ofNat
    {character : Char}
    (small : character.val.toNat < 128) :
    Char.ofNat (UInt8.ofNat character.val.toNat).toNat = character := by
  rw [Text.toNat_ofNat (Nat.lt_trans small (by decide))]
  exact Char.ofNat_toNat character

theorem digitsValue_decimal (number : Nat) :
    Numeral.digitsValue (Text.encode (Text.decimal number)) = number := by
  have same : (Text.decimal number).map ((fun digit => Char.ofNat digit.toNat) ∘
      fun digit => UInt8.ofNat digit.val.toNat) = Text.decimal number :=
    (List.map_congr_left fun _ member =>
      ofNat_toNat_ofNat (lt_of_isDigit (Text.isDigit_of_mem_decimal member))).trans
      (List.map_id _)
  rw [Numeral.digitsValue, encode_digits fun _ => Text.isDigit_of_mem_decimal, List.map_map, same]
  simp [Text.decimal]

theorem number?_of_neg
    {whole : Bytes}
    {value : Int}
    (bounds : -9223372036854775808 ≤ value ∧ value < 18446744073709551616)
    (nonzero : Numeral.digitsValue whole ≠ 0)
    (same : -(Numeral.digitsValue whole : Int) = value) :
    Numeral.number? ⟨true, whole, none, none⟩ = some (.integer value bounds) := by
  subst same
  have small : Numeral.digitsValue whole ≤ 9223372036854775808 := by omega
  exact dif_pos ⟨nonzero, small⟩

theorem number?_of_nonneg
    {whole : Bytes}
    {value : Int}
    (bounds : -9223372036854775808 ≤ value ∧ value < 18446744073709551616)
    (same : (Numeral.digitsValue whole : Int) = value) :
    Numeral.number? ⟨false, whole, none, none⟩ = some (.integer value bounds) := by
  subst same
  have small : Numeral.digitsValue whole < 18446744073709551616 := by omega
  exact dif_pos small

theorem exists_denotes_printInteger
    {value : Int}
    (bounds : -9223372036854775808 ≤ value ∧ value < 18446744073709551616) :
    ∃ text, Denotes text (.number (.integer value bounds)) ∧
      printInteger value = Text.encode text := by
  have isWhole := isWhole_decimal value.natAbs
  rw [printInteger, asciiBytes_decimal]
  split
  · next negative =>
    have writes := WritesNumeral.parts (by decide : (['-'], true) ∈ numberSigns) isWhole .absent
      .absent
    refine ⟨_, .number writes ?_, ?_⟩
    · refine number?_of_neg bounds ?_ ?_
      · rw [digitsValue_decimal]
        omega
      · rw [digitsValue_decimal]
        omega
    · simp only [List.append_nil]
      rfl
  · next notNegative =>
    have writes := WritesNumeral.parts (by decide : ([], false) ∈ numberSigns) isWhole .absent
      .absent
    refine ⟨_, .number writes ?_, ?_⟩
    · refine number?_of_nonneg bounds ?_
      rw [digitsValue_decimal]
      omega
    · simp only [List.append_nil]
      rfl

/-! ## Strings -/

/-- A character as it is written inside a string. -/
def escaped (character : Char) : List Char :=
  match (escapes.filter (·.1 ≠ '/')).find? (·.2 == character) with
  | some (letter, _) => ['\\', letter]
  | none =>
    let code := character.val.toNat
    if code < 0x20 then
      '\\' :: 'u' :: ['0', '0', Nat.digitChar (code / 16), Nat.digitChar (code % 16)]
    else [character]

theorem escapeByte_ofNat :
    ∀ code < 128, escapeByte (UInt8.ofNat code) =
      (escaped (Char.ofNat code)).map fun character => UInt8.ofNat character.val.toNat := by
  decide +kernel

theorem lt_of_mem_escaped_ofNat :
    ∀ code < 128, ∀ character ∈ escaped (Char.ofNat code), character.val.toNat < 128 := by
  have areSmall : ∀ code < 128,
      (escaped (Char.ofNat code)).all (fun character => character.val.toNat < 128) = true := by
    decide +kernel
  intro code small character listed
  exact of_decide_eq_true (List.all_eq_true.1 (areSmall code small) character listed)

theorem hexadecimal?_control :
    ∀ code < 0x20, Text.hexadecimal?
      ['0', '0', Nat.digitChar (code / 16), Nat.digitChar (code % 16)] = some code := by
  decide +kernel

theorem Spells.escaped_append
    (character : Char)
    {written meant : List Char}
    (spells : Spells written meant) :
    Spells (escaped character ++ written) (character :: meant) := by
  rw [escaped]
  split
  · next letter other found =>
    have same : other = character := by simpa using List.find?_some found
    have listed := (List.mem_filter.1 (List.mem_of_find?_eq_some found)).1
    exact .escape (same ▸ listed) spells
  · next notFound =>
    dsimp only
    split
    · next control =>
      have spells := Spells.unit rfl (hexadecimal?_control _ control) (Or.inl (by omega)) spells
      rwa [show Char.ofNat character.val.toNat = character from Char.ofNat_toNat character]
        at spells
    · next printable =>
      have notListed := List.find?_eq_none.1 notFound
      refine .plain (Nat.le_of_not_lt printable) ?_ ?_ spells
      · rintro rfl
        exact absurd notListed (by decide)
      · rintro rfl
        exact absurd notListed (by decide)

theorem escapeByte_of_le
    {byte : UInt8}
    (large : 128 ≤ byte.toNat) :
    escapeByte byte = [byte] := by
  have other : ∀ mark : UInt8, mark.toNat < 128 → byte ≠ mark := by
    rintro mark small rfl
    omega
  have printable : ¬byte < 0x20 := fun small =>
    absurd (Nat.lt_of_le_of_lt large small) (by decide)
  rw [escapeByte, if_neg (other 0x22 (by decide)), if_neg (other 0x5C (by decide)),
    if_neg (other 0x08 (by decide)), if_neg (other 0x09 (by decide)),
    if_neg (other 0x0A (by decide)), if_neg (other 0x0C (by decide)),
    if_neg (other 0x0D (by decide)), if_neg printable]

theorem escaped_of_le
    {character : Char}
    (large : 128 ≤ character.val.toNat) :
    escaped character = [character] := by
  have other : ∀ pair ∈ escapes.filter (·.1 ≠ '/'), ¬(pair.2 == character) = true := by
    intro pair listed same
    have small := (escapedByte?_of_mem pair (List.mem_filter.1 listed).1).2.1
    rw [eq_of_beq same] at small
    omega
  rw [escaped, List.find?_eq_none.2 other]
  exact if_neg (by omega)

/-- Escaping the bytes of a character is escaping the character. -/
theorem flatMap_escapeByte (character : Char) :
    (String.utf8EncodeChar character).flatMap escapeByte = Text.encode (escaped character) := by
  by_cases small : character.val.toNat < 128
  · have same : Char.ofNat character.val.toNat = character := Char.ofNat_toNat character
    have areSmall := lt_of_mem_escaped_ofNat character.val.toNat small
    have escape_eq := escapeByte_ofNat character.val.toNat small
    rw [same] at areSmall escape_eq
    rw [Text.encodeChar_of_lt small, List.flatMap_singleton, escape_eq, Text.encode_eq_map areSmall]
  · have large := Nat.le_of_not_lt small
    obtain ⟨lead, later, isLead⟩ := Text.exists_isLead character
    have areLarge : ∀ byte ∈ lead :: later, escapeByte byte = [byte] := by
      refine List.forall_mem_cons.2 ⟨escapeByte_of_le ?_, fun byte member => ?_⟩
      · exact Nat.le_trans (by decide) (isLead.long large)
      · exact escapeByte_of_le (isLead.isLater byte member).1
    rw [escaped_of_le large, Text.encode_cons, Text.encode_nil, List.append_nil, isLead.shape,
      List.flatMap_def, List.map_congr_left areLarge, ← List.flatMap_def, List.flatMap_singleton']

theorem exists_spells (meant : List Char) :
    ∃ written, Spells written meant ∧
      (Text.encode meant).flatMap escapeByte = Text.encode written := by
  induction meant with
  | nil => exact ⟨[], .done, rfl⟩
  | cons character meant inductionHypothesis =>
      obtain ⟨written, spells, written_eq⟩ := inductionHypothesis
      refine ⟨escaped character ++ written, spells.escaped_append character, ?_⟩
      rw [Text.encode_cons, List.flatMap_append, written_eq, flatMap_escapeByte, Text.encode_append]

theorem exists_spells_printString (text : String) :
    ∃ written, Spells written text.toList ∧
      printString text = 0x22 :: (Text.encode written ++ [0x22]) := by
  obtain ⟨written, spells, written_eq⟩ := exists_spells text.toList
  refine ⟨written, spells, ?_⟩
  rw [printString, Text.utf8_eq_encode, written_eq, List.cons_append]

/-! ## Values -/

theorem Denotes.toWithin
    {text : List Char}
    {json : Json}
    (denotes : Denotes text json) :
    DenotesWithin text json := by
  simpa using DenotesWithin.within isBlank_nil denotes isBlank_nil

theorem Denotes.toMember
    {written text : List Char}
    {key : String}
    {json : Json}
    (spells : Spells written key.toList)
    (denotes : Denotes text json) :
    DenotesMember ('"' :: (written ++ '"' :: ':' :: text)) key json :=
  .member isBlank_nil spells isBlank_nil denotes.toWithin

theorem encode_bareMember (written text : List Char) :
    Text.encode ('"' :: (written ++ '"' :: ':' :: text)) =
      0x22 :: (Text.encode written ++ [0x22]) ++ 0x3A :: Text.encode text := by
  rw [Text.encode_cons_of_lt (by decide), Text.encode_append, Text.encode_cons_of_lt (by decide),
    Text.encode_cons_of_lt (by decide), List.cons_append, List.append_assoc]
  rfl

mutual

theorem exists_denotes_print :
    ∀ {json : Json}, IsExact json → ∃ text, Denotes text json ∧ print json = Text.encode text
  | .null, _ => ⟨_, .nullWord, rfl⟩
  | .bool true, _ => ⟨_, .trueWord, rfl⟩
  | .bool false, _ => ⟨_, .falseWord, rfl⟩
  | .number (.integer value bounds), _ => exists_denotes_printInteger bounds
  | .string text, _ => by
      obtain ⟨written, spells, print_eq⟩ := exists_spells_printString text
      refine ⟨_, .string spells, print_eq.trans ?_⟩
      rw [← List.append_nil (Text.encode ('"' :: _)), encode_enclosed (by decide) (by decide)]
      rfl
  | .array [], _ => ⟨_, .emptyArray isBlank_nil, rfl⟩
  | .array (item :: items), exact => by
      obtain ⟨text, denotes, print_eq⟩ :=
        exists_denotes_printItems (List.cons_ne_nil item items) exact
      refine ⟨_, .array denotes, ?_⟩
      rw [← List.append_nil (Text.encode ('[' :: _)), encode_enclosed (by decide) (by decide),
        print, print_eq]
      rfl
  | .object [], _ => ⟨_, .emptyObject isBlank_nil, rfl⟩
  | .object (member :: members), exact => by
      obtain ⟨text, denotes, print_eq⟩ :=
        exists_denotes_printMembers (List.cons_ne_nil member members) exact
      refine ⟨_, .object denotes, ?_⟩
      rw [← List.append_nil (Text.encode ('\x7b' :: _)), encode_enclosed (by decide) (by decide),
        print, print_eq]
      rfl

theorem exists_denotes_printItems :
    ∀ {items : List Json}, items ≠ [] → AreExact items →
      ∃ text, DenotesItems text items ∧ printItems items = Text.encode text
  | [item], _, exact => by
      obtain ⟨text, denotes, print_eq⟩ := exists_denotes_print exact.1
      exact ⟨text, .last denotes.toWithin, print_eq⟩
  | item :: second :: items, _, exact => by
      obtain ⟨text, denotes, print_eq⟩ := exists_denotes_print exact.1
      obtain ⟨others, denotesOthers, others_eq⟩ := exists_denotes_printItems
        (List.cons_ne_nil second items) exact.2
      refine ⟨_, .next denotes.toWithin denotesOthers, ?_⟩
      rw [printItems, print_eq, others_eq, Text.encode_append, Text.encode_cons_of_lt (by decide)]
      rfl

theorem exists_denotes_printMembers :
    ∀ {members : List (String × Json)}, members ≠ [] → MembersAreExact members →
      ∃ text, DenotesMembers text members ∧ printMembers members = Text.encode text
  | [(key, json)], _, exact => by
      obtain ⟨text, denotes, print_eq⟩ := exists_denotes_print exact.1
      obtain ⟨written, spells, key_eq⟩ := exists_spells_printString key
      refine ⟨_, .last (denotes.toMember spells), ?_⟩
      rw [printMembers, key_eq, print_eq, encode_bareMember]
  | (key, json) :: second :: members, _, exact => by
      obtain ⟨text, denotes, print_eq⟩ := exists_denotes_print exact.1
      obtain ⟨written, spells, key_eq⟩ := exists_spells_printString key
      obtain ⟨others, denotesOthers, others_eq⟩ := exists_denotes_printMembers
        (List.cons_ne_nil second members) exact.2
      refine ⟨_, .next (denotes.toMember spells) denotesOthers, ?_⟩
      rw [printMembers, key_eq, print_eq, others_eq, Text.encode_append, encode_bareMember,
        Text.encode_cons_of_lt (by decide)]
      rfl

end

/-! ## One line -/

/-- No byte is a control character. -/
def IsPrintable (bytes : Bytes) : Prop :=
  ∀ byte ∈ bytes, 0x20 ≤ byte.toNat

theorem isPrintable_append
    {first second : Bytes}
    (isFirst : IsPrintable first)
    (isSecond : IsPrintable second) :
    IsPrintable (first ++ second) :=
  List.forall_mem_append.2 ⟨isFirst, isSecond⟩

theorem isPrintable_cons
    {byte : UInt8}
    {bytes : Bytes}
    (printable : 0x20 ≤ byte.toNat)
    (isPrintable : IsPrintable bytes) :
    IsPrintable (byte :: bytes) :=
  List.forall_mem_cons.2 ⟨printable, isPrintable⟩

theorem isPrintable_escapeByte_ofNat :
    ∀ code < 256, ∀ byte ∈ escapeByte (UInt8.ofNat code), 0x20 ≤ byte.toNat := by
  decide +kernel

theorem isPrintable_printString (text : String) : IsPrintable (printString text) := by
  refine isPrintable_append (isPrintable_cons (by decide) fun byte member => ?_) (by
    simp [IsPrintable])
  obtain ⟨source, _, member⟩ := List.mem_flatMap.1 member
  have listed := isPrintable_escapeByte_ofNat source.toNat source.toNat_lt byte
  rw [UInt8.ofNat_toNat] at listed
  exact listed member

theorem isPrintable_decimal (number : Nat) : IsPrintable (asciiBytes (Text.decimal number)) := by
  rw [asciiBytes_decimal]
  intro byte member
  have digit := forall_isDigit_encode (fun _ => Text.isDigit_of_mem_decimal) byte member
  exact Nat.le_trans (by decide) (isDigit_iff.1 digit).1

theorem isPrintable_printInteger (value : Int) : IsPrintable (printInteger value) := by
  rw [printInteger]
  split
  · exact isPrintable_cons (by decide) (isPrintable_decimal _)
  · exact isPrintable_decimal _

mutual

/-- What is printed for a value holds no control character, so it is one line. -/
theorem isPrintable_print : ∀ {json : Json}, IsExact json → IsPrintable (print json)
  | .null, _ => by simp [IsPrintable, print, asciiBytes]
  | .bool true, _ => by simp [IsPrintable, print, asciiBytes]
  | .bool false, _ => by simp [IsPrintable, print, asciiBytes]
  | .number (.integer value _), _ => isPrintable_printInteger value
  | .string text, _ => isPrintable_printString text
  | .array _, exact =>
      isPrintable_append (isPrintable_cons (by decide) (isPrintable_printItems exact))
        (isPrintable_cons (by decide) nofun)
  | .object _, exact =>
      isPrintable_append (isPrintable_cons (by decide) (isPrintable_printMembers exact))
        (isPrintable_cons (by decide) nofun)

theorem isPrintable_printItems :
    ∀ {items : List Json}, AreExact items → IsPrintable (printItems items)
  | [], _ => nofun
  | [_], exact => isPrintable_print exact.1
  | _ :: _ :: _, exact =>
      isPrintable_append (isPrintable_print exact.1)
        (isPrintable_cons (by decide) (isPrintable_printItems exact.2))

theorem isPrintable_printMembers :
    ∀ {members : List (String × Json)}, MembersAreExact members →
      IsPrintable (printMembers members)
  | [], _ => nofun
  | [(key, _)], exact =>
      isPrintable_append (isPrintable_printString key)
        (isPrintable_cons (by decide) (isPrintable_print exact.1))
  | (key, _) :: _ :: _, exact =>
      isPrintable_append
        (isPrintable_append (isPrintable_printString key)
          (isPrintable_cons (by decide) (isPrintable_print exact.1)))
        (isPrintable_cons (by decide) (isPrintable_printMembers exact.2))

end

end Json
end TrafficGraph
