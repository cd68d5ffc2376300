import TrafficGraph.Proofs.Json.Grammar

/-!
# Strings in JSON texts

Strings are scanned byte by byte; what is found is a text exactly if the bytes up to the
closing mark write one.  In one direction this needs that the bytes of a character are never
divided by an escape: an escape stands for whole characters, and the later bytes of a
character cannot begin one.
-/

namespace TrafficGraph
namespace Json

/-! ## How strings are scanned -/

/-- A byte that stands for itself. -/
def IsPlain (byte : UInt8) : Prop :=
  byte ≠ 0x22 ∧ byte ≠ 0x5C ∧ ¬byte < 0x20

theorem isPlain_iff
    {byte : UInt8} :
    IsPlain byte ↔ byte.toNat ≠ 0x22 ∧ byte.toNat ≠ 0x5C ∧ 0x20 ≤ byte.toNat := by
  rw [IsPlain, ← Nat.not_lt]
  exact and_congr (not_congr UInt8.toNat_inj.symm)
    (and_congr (not_congr UInt8.toNat_inj.symm) Iff.rfl)

theorem isPlain_of_isLater
    {byte : UInt8}
    (isLater : Text.IsLater byte) :
    IsPlain byte := by
  rw [Text.IsLater] at isLater
  rw [isPlain_iff]
  omega

/-- Whether a character stands for itself is told by its first byte. -/
theorem isPlain_lead_iff
    {character : Char}
    {lead : UInt8}
    {later : Bytes}
    (isLead : Text.IsLead character lead later) :
    IsPlain lead ↔
      0x20 ≤ character.val.toNat ∧ character ≠ '"' ∧ character ≠ '\\' := by
  simp only [isPlain_iff, Ne, Char.ext_iff, ← UInt32.toNat_inj]
  by_cases small : character.val.toNat < 128
  · rw [(isLead.short small).1, Text.toNat_ofNat (Nat.lt_trans small (by decide))]
    exact and_rotate.symm
  · have large := isLead.long (Nat.le_of_not_lt small)
    have quote : '"'.val.toNat = 0x22 := rfl
    have backslash : '\\'.val.toNat = 0x5C := rfl
    omega

/-- The items that are scanned up to a quotation mark with some bytes behind it. -/
inductive Scans (behind : Bytes) : Bytes → List Piece → Prop
  | done : Scans behind (0x22 :: behind) []
  | plain {byte : UInt8} {input : Bytes} {pieces : List Piece} (isPlain : IsPlain byte)
      (rest : Scans behind input pieces) :
      Scans behind (byte :: input) (.byte byte :: pieces)
  | escape {letter byte : UInt8} {input : Bytes} {pieces : List Piece}
      (isEscape : escapedByte? letter = some byte) (rest : Scans behind input pieces) :
      Scans behind (0x5C :: letter :: input) (.byte byte :: pieces)
  | unit {first second third fourth : UInt8} {code : Nat} {input : Bytes} {pieces : List Piece}
      (isCode : hexUnit? first second third fourth = some code)
      (rest : Scans behind input pieces) :
      Scans behind (0x5C :: 0x75 :: first :: second :: third :: fourth :: input)
        (.unit code :: pieces)

theorem scans_of_scanString
    {input behind : Bytes}
    {pieces : List Piece}
    (scanned : scanString input = some (pieces, behind)) :
    Scans behind input pieces := by
  fun_induction scanString input generalizing pieces behind with
  | case1 => cases scanned
  | case2 rest =>
      cases scanned
      exact .done
  | case3 => cases scanned
  | case4 first second third fourth after _ inductionHypothesis =>
      obtain ⟨code, isCode, scanned⟩ := Option.bind_eq_some_iff.1 scanned
      obtain ⟨⟨pieces, _⟩, scannedRest, scanned⟩ := Option.bind_eq_some_iff.1 scanned
      cases scanned
      exact .unit isCode (inductionHypothesis scannedRest)
  | case5 => cases scanned
  | case6 letter tail _ _ inductionHypothesis =>
      obtain ⟨byte, isEscape, scanned⟩ := Option.bind_eq_some_iff.1 scanned
      obtain ⟨⟨pieces, _⟩, scannedRest, scanned⟩ := Option.bind_eq_some_iff.1 scanned
      cases scanned
      exact .escape isEscape (inductionHypothesis scannedRest)
  | case7 => cases scanned
  | case8 byte rest noQuote noBackslash printable inductionHypothesis =>
      obtain ⟨⟨pieces, _⟩, scannedRest, scanned⟩ := Option.bind_eq_some_iff.1 scanned
      cases scanned
      exact .plain ⟨noQuote, noBackslash, printable⟩ (inductionHypothesis scannedRest)

theorem Scans.scanString_eq
    {input behind : Bytes}
    {pieces : List Piece}
    (scans : Scans behind input pieces) :
    scanString input = some (pieces, behind) := by
  induction scans with
  | done => rw [scanString.eq_def]; rfl
  | plain isPlain _ inductionHypothesis =>
      obtain ⟨noQuote, noBackslash, printable⟩ := isPlain
      rw [scanString.eq_def]
      simp [noQuote, noBackslash, printable, inductionHypothesis]
  | @escape letter byte _ _ isEscape _ inductionHypothesis =>
      have noUnit : letter ≠ 0x75 := by
        rintro rfl
        cases isEscape
      rw [scanString.eq_def]
      simp [noUnit, isEscape, inductionHypothesis]
  | unit isCode _ inductionHypothesis =>
      rw [scanString.eq_def]
      simp [isCode, inductionHypothesis]

/-! ## Escapes -/

theorem digit?_ofNat :
    ∀ code < 128, Text.digit? 16 (Char.ofNat code) = hexDigit? (UInt8.ofNat code) := by
  decide +kernel

theorem digit?_of_le
    {character : Char}
    (large : 128 ≤ character.val.toNat) :
    Text.digit? 16 character = none := by
  have notDigit : ¬character.isDigit = true := by
    rw [Char.isDigit_iff_toNat]
    exact fun range => absurd (Nat.le_trans large range.2) (by decide)
  have notSmall : ¬('a' ≤ character ∧ character ≤ 'f') :=
    fun range => absurd (Nat.le_trans large range.2) (by decide)
  have notLarge : ¬('A' ≤ character ∧ character ≤ 'F') :=
    fun range => absurd (Nat.le_trans large range.2) (by decide)
  rw [Text.digit?, if_neg notDigit, if_neg notSmall, if_neg notLarge]
  rfl

theorem digit?_eq_some_iff
    {character : Char}
    {value : Nat} :
    Text.digit? 16 character = some value ↔
      character.val.toNat < 128 ∧ hexDigit? (UInt8.ofNat character.val.toNat) = some value := by
  by_cases small : character.val.toNat < 128
  · have same := digit?_ofNat character.val.toNat small
    rw [show Char.ofNat character.val.toNat = character from Char.ofNat_toNat character] at same
    rw [same]
    exact ⟨fun found => ⟨small, found⟩, fun found => found.2⟩
  · rw [digit?_of_le (Nat.le_of_not_lt small)]
    exact ⟨fun found => (by cases found), fun found => absurd found.1 small⟩

theorem exists_digit?_of_hexDigit?
    {byte : UInt8}
    {value : Nat}
    (isDigit : hexDigit? byte = some value) :
    ∃ character : Char, character.val.toNat < 128 ∧
      UInt8.ofNat character.val.toNat = byte ∧ Text.digit? 16 character = some value := by
  have small : byte.toNat < 128 := by
    simp only [hexDigit?, UInt8.le_iff_toNat_le] at isDigit
    split at isDigit
    · next range => exact Nat.lt_of_le_of_lt range.2 (by decide)
    split at isDigit
    · next range => exact Nat.lt_of_le_of_lt range.2 (by decide)
    split at isDigit
    · next range => exact Nat.lt_of_le_of_lt range.2 (by decide)
    · cases isDigit
  obtain ⟨character, code_eq, byte_eq⟩ := Text.exists_code_of_lt small
  have small' : character.val.toNat < 128 := code_eq ▸ small
  refine ⟨character, small', byte_eq, digit?_eq_some_iff.2 ⟨small', ?_⟩⟩
  rw [byte_eq, isDigit]

theorem hexadecimal?_four (first second third fourth : Char) :
    Text.hexadecimal? [first, second, third, fourth] =
      (Text.digit? 16 first).bind fun high =>
        (Text.digit? 16 second).bind fun upper =>
          (Text.digit? 16 third).bind fun lower =>
            (Text.digit? 16 fourth).bind fun low =>
              some (((high * 16 + upper) * 16 + lower) * 16 + low) := by
  simp [Text.hexadecimal?, Text.ofDigits?, List.mapM_cons, Option.bind_assoc]

/-- Four hexadecimal digits as they are written and as they are scanned. -/
theorem exists_hexUnit?
    {digits : List Char}
    {code : Nat}
    (length : digits.length = 4)
    (isCode : Text.hexadecimal? digits = some code) :
    ∃ first second third fourth, Text.encode digits = [first, second, third, fourth] ∧
      hexUnit? first second third fourth = some code := by
  match digits, length with
  | [first, second, third, fourth], _ =>
      rw [hexadecimal?_four] at isCode
      obtain ⟨_, isFirst, isCode⟩ := Option.bind_eq_some_iff.1 isCode
      obtain ⟨_, isSecond, isCode⟩ := Option.bind_eq_some_iff.1 isCode
      obtain ⟨_, isThird, isCode⟩ := Option.bind_eq_some_iff.1 isCode
      obtain ⟨_, isFourth, isCode⟩ := Option.bind_eq_some_iff.1 isCode
      obtain ⟨smallFirst, isFirst⟩ := digit?_eq_some_iff.1 isFirst
      obtain ⟨smallSecond, isSecond⟩ := digit?_eq_some_iff.1 isSecond
      obtain ⟨smallThird, isThird⟩ := digit?_eq_some_iff.1 isThird
      obtain ⟨smallFourth, isFourth⟩ := digit?_eq_some_iff.1 isFourth
      refine ⟨UInt8.ofNat first.val.toNat, UInt8.ofNat second.val.toNat,
        UInt8.ofNat third.val.toNat, UInt8.ofNat fourth.val.toNat, ?_, ?_⟩
      · rw [Text.encode_cons_of_lt smallFirst, Text.encode_cons_of_lt smallSecond,
          Text.encode_cons_of_lt smallThird, Text.encode_cons_of_lt smallFourth, Text.encode_nil]
      · rw [hexUnit?, isFirst, isSecond, isThird, isFourth]
        exact isCode

theorem exists_hexadecimal?
    {first second third fourth : UInt8}
    {code : Nat}
    (isCode : hexUnit? first second third fourth = some code) :
    ∃ digits : List Char, digits.length = 4 ∧ Text.hexadecimal? digits = some code ∧
      Text.encode digits = [first, second, third, fourth] := by
  rw [hexUnit?] at isCode
  obtain ⟨_, isFirst, found⟩ := Option.bind_eq_some_iff.1 isCode
  obtain ⟨_, isSecond, found⟩ := Option.bind_eq_some_iff.1 found
  obtain ⟨_, isThird, found⟩ := Option.bind_eq_some_iff.1 found
  obtain ⟨_, isFourth, value_eq⟩ := Option.bind_eq_some_iff.1 found
  obtain ⟨firstDigit, smallFirst, rfl, digitFirst⟩ := exists_digit?_of_hexDigit? isFirst
  obtain ⟨secondDigit, smallSecond, rfl, digitSecond⟩ := exists_digit?_of_hexDigit? isSecond
  obtain ⟨thirdDigit, smallThird, rfl, digitThird⟩ := exists_digit?_of_hexDigit? isThird
  obtain ⟨fourthDigit, smallFourth, rfl, digitFourth⟩ := exists_digit?_of_hexDigit? isFourth
  refine ⟨[firstDigit, secondDigit, thirdDigit, fourthDigit], rfl, ?_, ?_⟩
  · rw [hexadecimal?_four, digitFirst, digitSecond, digitThird, digitFourth]
    exact value_eq
  · rw [Text.encode_cons_of_lt smallFirst, Text.encode_cons_of_lt smallSecond,
      Text.encode_cons_of_lt smallThird, Text.encode_cons_of_lt smallFourth, Text.encode_nil]

/-- The letters behind a backslash as they are scanned. -/
theorem exists_escape_of_escapedByte?
    {letter byte : UInt8}
    (isEscape : escapedByte? letter = some byte) :
    ∃ pair ∈ escapes, pair.1.val.toNat < 128 ∧ pair.2.val.toNat < 128 ∧
      UInt8.ofNat pair.1.val.toNat = letter ∧ UInt8.ofNat pair.2.val.toNat = byte := by
  unfold escapedByte? at isEscape
  repeat' split at isEscape
  all_goals cases isEscape <;> subst letter <;> decide

theorem escapedByte?_of_mem :
    ∀ pair ∈ escapes, pair.1.val.toNat < 128 ∧ pair.2.val.toNat < 128 ∧
      escapedByte? (UInt8.ofNat pair.1.val.toNat) = some (UInt8.ofNat pair.2.val.toNat) := by
  decide

theorem encode_unit
    {digits : List Char}
    {bytes : Bytes}
    (digits_eq : Text.encode digits = bytes) :
    Text.encode ('\\' :: 'u' :: digits) = 0x5C :: 0x75 :: bytes := by
  rw [Text.encode_cons_of_lt (by decide), Text.encode_cons_of_lt (by decide), digits_eq]
  rfl

/-! ## What is scanned is written -/

/-- A unit stands for a character alone or together with the next one. -/
theorem assemble_unit_eq_some
    {code : Nat}
    {pieces : List Piece}
    {bytes : Bytes}
    (assembled : assemble (.unit code :: pieces) = some bytes) :
    ((code < 0xD800 ∨ 0xDFFF < code) ∧ ∃ more, assemble pieces = some more ∧
      bytes = String.utf8EncodeChar (Char.ofNat code) ++ more) ∨
    ((0xD800 ≤ code ∧ code < 0xDC00) ∧ ∃ low tail more, pieces = .unit low :: tail ∧
      (0xDC00 ≤ low ∧ low ≤ 0xDFFF) ∧ assemble tail = some more ∧
      bytes = String.utf8EncodeChar (pairChar code low) ++ more) := by
  rw [assemble.eq_def] at assembled
  dsimp only at assembled
  split at assembled
  · next whole =>
    obtain ⟨more, isMore, rfl⟩ := Option.map_eq_some_iff.1 assembled
    exact Or.inl ⟨whole, more, isMore, rfl⟩
  · next isSurrogate =>
    split at assembled
    · next low tail =>
      split at assembled
      · next bounds =>
        obtain ⟨more, isMore, rfl⟩ := Option.map_eq_some_iff.1 assembled
        refine Or.inr ⟨⟨by omega, bounds.1⟩, low, tail, more, rfl, bounds.2, isMore, ?_⟩
        rw [unitBytes, pairChar]
      · cases assembled
    · cases assembled

/-- The bytes of a unit begin with a character. -/
theorem exists_character_of_assemble_unit
    {code : Nat}
    {pieces : List Piece}
    {bytes : Bytes}
    (assembled : assemble (.unit code :: pieces) = some bytes) :
    ∃ character more, bytes = String.utf8EncodeChar character ++ more := by
  rcases assemble_unit_eq_some assembled with ⟨_, more, _, bytes_eq⟩ |
    ⟨_, low, _, more, _, _, _, bytes_eq⟩
  · exact ⟨_, more, bytes_eq⟩
  · exact ⟨_, more, bytes_eq⟩

/-- Items that assemble to nothing are none. -/
theorem eq_nil_of_assemble
    {pieces : List Piece}
    (assembled : assemble pieces = some []) :
    pieces = [] := by
  cases pieces with
  | nil => rfl
  | cons piece pieces =>
      cases piece with
      | byte value =>
          obtain ⟨_, _, impossible⟩ := Option.map_eq_some_iff.1 assembled
          cases impossible
      | unit code =>
          obtain ⟨character, more, bytes_eq⟩ := exists_character_of_assemble_unit assembled
          obtain ⟨lead, later, isLead⟩ := Text.exists_isLead character
          rw [isLead.shape] at bytes_eq
          cases bytes_eq

/-- An escape stands for a character of one byte. -/
theorem eq_of_escape
    {letter byte : UInt8}
    {character : Char}
    {later : Bytes}
    (isEscape : escapedByte? letter = some byte)
    (isLead : Text.IsLead character byte later) :
    ∃ written, (written, character) ∈ escapes ∧ written.val.toNat < 128 ∧
      UInt8.ofNat written.val.toNat = letter ∧ later = [] := by
  obtain ⟨⟨written, other⟩, listed, smallWritten, smallOther, letter_eq, byte_eq⟩ :=
    exists_escape_of_escapedByte? isEscape
  have byte_toNat : byte.toNat = other.val.toNat := by
    rw [← byte_eq]
    exact Text.toNat_ofNat (Nat.lt_trans smallOther (by decide))
  have small : character.val.toNat < 128 := by
    refine Nat.lt_of_not_le fun large => ?_
    have := isLead.long large
    simp only at smallOther
    omega
  obtain ⟨lead_eq, later_eq⟩ := isLead.short small
  have same : character = other := by
    apply Char.ext
    apply UInt32.toNat_inj.1
    rw [← byte_toNat, lead_eq]
    exact (Text.toNat_ofNat (Nat.lt_trans small (by decide))).symm
  exact ⟨written, same ▸ listed, smallWritten, letter_eq, later_eq⟩

/-- The later bytes of a character stand for themselves. -/
theorem exists_scans_behind
    {behind more later : Bytes}
    (isLater : ∀ byte ∈ later, Text.IsLater byte) :
    ∀ {input : Bytes} {pieces : List Piece}, Scans behind input pieces →
      assemble pieces = some (later ++ more) →
      ∃ after others, input = later ++ after ∧ Scans behind after others ∧
        assemble others = some more := by
  induction later with
  | nil => exact fun scans assembled => ⟨_, _, rfl, scans, assembled⟩
  | cons byte later inductionHypothesis =>
      intro input pieces scans assembled
      have byteLater := isLater byte List.mem_cons_self
      cases scans with
      | done => cases assembled
      | plain isPlain scans =>
          obtain ⟨bytes, assembled, same⟩ := Option.map_eq_some_iff.1 assembled
          cases same
          obtain ⟨after, others, rfl, scans, assembled⟩ := inductionHypothesis
            (fun byte member => isLater byte (List.mem_cons_of_mem _ member)) scans assembled
          exact ⟨after, others, rfl, scans, assembled⟩
      | escape isEscape scans =>
          obtain ⟨bytes, assembled, same⟩ := Option.map_eq_some_iff.1 assembled
          cases same
          obtain ⟨⟨_, other⟩, _, _, small, _, byte_eq⟩ := exists_escape_of_escapedByte? isEscape
          rw [← byte_eq, Text.IsLater, Text.toNat_ofNat (Nat.lt_trans small (by decide))]
            at byteLater
          exact absurd byteLater.1 (Nat.not_le_of_lt small)
      | unit isCode scans =>
          obtain ⟨character, rest, bytes_eq⟩ := exists_character_of_assemble_unit assembled
          obtain ⟨lead, others, isLead⟩ := Text.exists_isLead character
          rw [isLead.shape] at bytes_eq
          obtain ⟨rfl, _⟩ := List.cons.inj bytes_eq
          exact absurd byteLater isLead.not_isLater

/-- The bytes between quotation marks, if they are the bytes of a text, write that text. -/
theorem exists_spells_of_scans
    {behind : Bytes}
    (meant : List Char) :
    ∀ {input : Bytes} {pieces : List Piece}, Scans behind input pieces →
      assemble pieces = some (Text.encode meant) →
      ∃ written, Spells written meant ∧ input = Text.encode written ++ 0x22 :: behind := by
  induction meant with
  | nil =>
      intro input pieces scans assembled
      cases eq_nil_of_assemble assembled
      cases scans
      exact ⟨[], .done, rfl⟩
  | cons character meant inductionHypothesis =>
      intro input pieces scans assembled
      obtain ⟨lead, later, isLead⟩ := Text.exists_isLead character
      cases scans with
      | done =>
          rw [Text.encode_cons, isLead.shape] at assembled
          cases assembled
      | plain isPlain scans =>
          rw [Text.encode_cons, isLead.shape] at assembled
          obtain ⟨bytes, assembled, same⟩ := Option.map_eq_some_iff.1 assembled
          cases same
          obtain ⟨after, others, rfl, scans, assembled⟩ :=
            exists_scans_behind isLead.isLater scans assembled
          obtain ⟨written, spells, rfl⟩ := inductionHypothesis scans assembled
          obtain ⟨printable, noQuote, noBackslash⟩ := (isPlain_lead_iff isLead).1 isPlain
          refine ⟨character :: written, .plain printable noQuote noBackslash spells, ?_⟩
          rw [Text.encode_cons, isLead.shape]
          simp only [List.cons_append, List.append_assoc]
      | escape isEscape scans =>
          rw [Text.encode_cons, isLead.shape] at assembled
          obtain ⟨bytes, assembled, same⟩ := Option.map_eq_some_iff.1 assembled
          cases same
          obtain ⟨letter, listed, small, rfl, rfl⟩ := eq_of_escape isEscape isLead
          obtain ⟨written, spells, rfl⟩ := inductionHypothesis scans assembled
          refine ⟨'\\' :: letter :: written, .escape listed spells, ?_⟩
          rw [Text.encode_cons_of_lt (by decide), Text.encode_cons_of_lt small]
          rfl
      | unit isCode scans =>
          obtain ⟨digits, length, isCode, digits_eq⟩ := exists_hexadecimal? isCode
          rw [Text.encode_cons] at assembled
          rcases assemble_unit_eq_some assembled with ⟨whole, more, assembled, bytes_eq⟩ |
            ⟨isHigh, low, tail, more, rfl, isLow, assembled, bytes_eq⟩
          · obtain ⟨rfl, rfl⟩ := Text.encodeChar_append_inj bytes_eq
            obtain ⟨written, spells, rfl⟩ := inductionHypothesis scans assembled
            refine ⟨'\\' :: 'u' :: digits ++ written, .unit length isCode whole spells, ?_⟩
            rw [Text.encode_append, encode_unit digits_eq]
            rfl
          · cases scans with
            | unit isOther scans =>
                obtain ⟨others, otherLength, isOther, others_eq⟩ := exists_hexadecimal? isOther
                obtain ⟨character_eq, rfl⟩ := Text.encodeChar_append_inj bytes_eq
                obtain ⟨written, spells, rfl⟩ := inductionHypothesis scans assembled
                rw [character_eq]
                refine ⟨_, .pair length isCode isHigh otherLength isOther isLow spells, ?_⟩
                rw [Text.encode_append, Text.encode_append, encode_unit digits_eq,
                  encode_unit others_eq]
                rfl

/-! ## What is written is scanned -/

theorem Scans.append_plain
    {behind input bytes : Bytes}
    {pieces : List Piece}
    (isPlain : ∀ byte ∈ bytes, IsPlain byte)
    (scans : Scans behind input pieces) :
    Scans behind (bytes ++ input) (bytes.map .byte ++ pieces) := by
  induction bytes with
  | nil => exact scans
  | cons byte bytes inductionHypothesis =>
      exact .plain (isPlain byte List.mem_cons_self)
        (inductionHypothesis fun byte member => isPlain byte (List.mem_cons_of_mem _ member))

theorem assemble_append_plain
    {pieces : List Piece}
    {more : Bytes}
    (bytes : Bytes)
    (assembled : assemble pieces = some more) :
    assemble (bytes.map .byte ++ pieces) = some (bytes ++ more) := by
  induction bytes with
  | nil => exact assembled
  | cons byte bytes inductionHypothesis =>
      rw [List.map_cons, List.cons_append, assemble, inductionHypothesis]
      rfl

/-- What is written between quotation marks has the bytes of its meaning. -/
theorem Spells.exists_scans
    (behind : Bytes)
    {written meant : List Char}
    (spells : Spells written meant) :
    ∃ pieces, Scans behind (Text.encode written ++ 0x22 :: behind) pieces ∧
      assemble pieces = some (Text.encode meant) := by
  induction spells with
  | done => exact ⟨[], .done, rfl⟩
  | @plain character written meant printable noQuote noBackslash _ inductionHypothesis =>
      obtain ⟨pieces, scans, assembled⟩ := inductionHypothesis
      obtain ⟨lead, later, isLead⟩ := Text.exists_isLead character
      have isPlain : ∀ byte ∈ lead :: later, IsPlain byte :=
        List.forall_mem_cons.2 ⟨(isPlain_lead_iff isLead).2 ⟨printable, noQuote, noBackslash⟩,
          fun byte member => isPlain_of_isLater (isLead.isLater byte member)⟩
      refine ⟨(lead :: later).map .byte ++ pieces, ?_, ?_⟩
      · rw [Text.encode_cons, isLead.shape, List.append_assoc]
        exact scans.append_plain isPlain
      · rw [Text.encode_cons, isLead.shape]
        exact assemble_append_plain (lead :: later) assembled
  | @escape letter character written meant listed _ inductionHypothesis =>
      obtain ⟨pieces, scans, assembled⟩ := inductionHypothesis
      obtain ⟨smallLetter, small, isEscape⟩ := escapedByte?_of_mem _ listed
      refine ⟨.byte (UInt8.ofNat character.val.toNat) :: pieces, ?_, ?_⟩
      · rw [Text.encode_cons_of_lt (by decide), Text.encode_cons_of_lt smallLetter]
        exact .escape isEscape scans
      · rw [Text.encode_cons_of_lt small, assemble, assembled]
        rfl
  | @unit digits written meant code length isCode whole _ inductionHypothesis =>
      obtain ⟨pieces, scans, assembled⟩ := inductionHypothesis
      obtain ⟨first, second, third, fourth, digits_eq, isUnit⟩ := exists_hexUnit? length isCode
      refine ⟨.unit code :: pieces, ?_, ?_⟩
      · rw [Text.encode_append, encode_unit digits_eq]
        exact .unit isUnit scans
      · rw [assemble.eq_def]
        simp [whole, assembled, unitBytes]
  | @pair digits others written meant high low length isHigh highRange otherLength isLow lowRange
      _ inductionHypothesis =>
      obtain ⟨pieces, scans, assembled⟩ := inductionHypothesis
      obtain ⟨first, second, third, fourth, digits_eq, isUnit⟩ := exists_hexUnit? length isHigh
      obtain ⟨fifth, sixth, seventh, eighth, others_eq, isOther⟩ :=
        exists_hexUnit? otherLength isLow
      refine ⟨.unit high :: .unit low :: pieces, ?_, ?_⟩
      · rw [Text.encode_append, Text.encode_append, encode_unit digits_eq, encode_unit others_eq]
        exact .unit isUnit (.unit isOther scans)
      · have surrogate : ¬(high < 0xD800 ∨ 0xDFFF < high) := by omega
        rw [assemble.eq_def]
        simp only [if_neg surrogate, if_pos (And.intro highRange.2 lowRange), assembled,
          Option.map_some, unitBytes, pairChar, Text.encode_cons]

/-- What is written between quotation marks is read as its meaning. -/
theorem Spells.exists_text?
    {written : List Char}
    {text : String}
    (spells : Spells written text.toList)
    (behind : Bytes) :
    ∃ pieces, scanString (Text.encode written ++ 0x22 :: behind) = some (pieces, behind) ∧
      text? pieces = some text := by
  obtain ⟨pieces, scans, assembled⟩ := spells.exists_scans behind
  refine ⟨pieces, scans.scanString_eq, ?_⟩
  rw [text?, assembled]
  exact (Text.ofUtf8?_encode text.toList).trans (by rw [String.ofList_toList])

/-- A string that is read as a text writes it. -/
theorem exists_spells_of_text?
    {input behind : Bytes}
    {pieces : List Piece}
    {text : String}
    (scanned : scanString input = some (pieces, behind))
    (isText : text? pieces = some text) :
    ∃ written, Spells written text.toList ∧ input = Text.encode written ++ 0x22 :: behind := by
  obtain ⟨bytes, assembled, valid⟩ := Option.bind_eq_some_iff.1 isText
  rw [Text.ofUtf8?_eq_some valid] at assembled
  exact exists_spells_of_scans text.toList (scans_of_scanString scanned) assembled

end Json
end TrafficGraph
