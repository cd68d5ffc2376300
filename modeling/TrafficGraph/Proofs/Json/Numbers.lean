import TrafficGraph.Proofs.Json.Grammar

/-!
# Blanks and numbers in JSON texts

Blanks and the parts of a number are scanned as far as they go.  So what is scanned can be
told from its text only if the bytes behind it do not continue it.
-/

namespace TrafficGraph
namespace Json

/-! ## Characters of one byte -/

theorem isSpace_ofNat :
    ∀ character ∈ blanks, character.val.toNat < 128 ∧
      isSpace (UInt8.ofNat character.val.toNat) = true := by
  intro character listed
  simp only [blanks, List.mem_cons, List.not_mem_nil, or_false] at listed
  rcases listed with rfl | rfl | rfl | rfl <;> decide

theorem exists_blank_of_isSpace
    {byte : UInt8}
    (space : isSpace byte = true) :
    ∃ character ∈ blanks, character.val.toNat < 128 ∧
      UInt8.ofNat character.val.toNat = byte := by
  simp only [isSpace, Bool.or_eq_true, beq_iff_eq] at space
  rcases space with ((rfl | rfl) | rfl) | rfl
  · exact ⟨' ', by decide, by decide, rfl⟩
  · exact ⟨'\t', by decide, by decide, rfl⟩
  · exact ⟨'\n', by decide, by decide, rfl⟩
  · exact ⟨'\r', by decide, by decide, rfl⟩

theorem isDigit_iff
    {byte : UInt8} :
    isDigit byte = true ↔ 0x30 ≤ byte.toNat ∧ byte.toNat ≤ 0x39 := by
  rw [isDigit, Bool.and_eq_true, decide_eq_true_eq, decide_eq_true_eq]
  exact Iff.rfl

theorem isSpace_of_isDigit
    {byte : UInt8}
    (digit : isDigit byte = true) :
    isSpace byte = false := by
  refine Bool.eq_false_iff.2 fun space => ?_
  obtain ⟨character, listed, _, rfl⟩ := exists_blank_of_isSpace space
  simp only [blanks, List.mem_cons, List.not_mem_nil, or_false] at listed
  rcases listed with rfl | rfl | rfl | rfl <;> exact absurd digit (by decide)

theorem lt_of_isDigit
    {character : Char}
    (digit : character.isDigit = true) :
    character.val.toNat < 128 :=
  Nat.lt_of_le_of_lt (Char.isDigit_iff_toNat.1 digit).2 (by decide)

/-- A digit has one byte, which is a digit. -/
theorem isDigit_ofNat
    {character : Char}
    (digit : character.isDigit = true) :
    isDigit (UInt8.ofNat character.val.toNat) = true := by
  rw [isDigit_iff, Text.toNat_ofNat (Nat.lt_trans (lt_of_isDigit digit) (by decide))]
  exact Char.isDigit_iff_toNat.1 digit

theorem exists_digit_of_isDigit
    {byte : UInt8}
    (digit : isDigit byte = true) :
    ∃ character : Char, character.isDigit = true ∧ UInt8.ofNat character.val.toNat = byte := by
  have range := isDigit_iff.1 digit
  obtain ⟨character, code_eq, byte_eq⟩ :=
    Text.exists_code_of_lt (Nat.lt_of_le_of_lt range.2 (by decide) : byte.toNat < 128)
  refine ⟨character, Char.isDigit_iff_toNat.2 ?_, byte_eq⟩
  have code_eq : character.toNat = byte.toNat := code_eq
  rw [code_eq]
  exact range

/-! ## Blanks -/

theorem skipSpace_of_head
    {input : Bytes}
    (noSpace : ∀ head ∈ input.head?, isSpace head = false) :
    skipSpace input = input := by
  cases input with
  | nil => rfl
  | cons head input =>
      exact List.dropWhile_cons_of_neg (Bool.eq_false_iff.1 (noSpace head rfl))

theorem skipSpace_append
    {front : List Char}
    (isFront : IsBlank front)
    (input : Bytes) :
    skipSpace (Text.encode front ++ input) = skipSpace input := by
  induction front with
  | nil => rfl
  | cons character front inductionHypothesis =>
      obtain ⟨listed, isFront⟩ := List.forall_mem_cons.1 isFront
      obtain ⟨small, space⟩ := isSpace_ofNat character listed
      rw [Text.encode_cons_of_lt small, List.cons_append, skipSpace,
        List.dropWhile_cons_of_pos space]
      exact inductionHypothesis isFront

theorem exists_skipSpace_eq (input : Bytes) :
    ∃ front, IsBlank front ∧ input = Text.encode front ++ skipSpace input ∧
      ∀ head ∈ (skipSpace input).head?, isSpace head = false := by
  induction input with
  | nil => exact ⟨[], isBlank_nil, rfl, nofun⟩
  | cons byte input inductionHypothesis =>
      rw [skipSpace, List.dropWhile_cons]
      split
      · next space =>
        obtain ⟨front, isFront, input_eq, noSpace⟩ := inductionHypothesis
        obtain ⟨character, listed, small, rfl⟩ := exists_blank_of_isSpace space
        refine ⟨character :: front, List.forall_mem_cons.2 ⟨listed, isFront⟩, ?_, noSpace⟩
        rw [Text.encode_cons_of_lt small, List.cons_append]
        exact congrArg _ input_eq
      · next noSpace =>
        refine ⟨[], isBlank_nil, rfl, ?_⟩
        rintro head ⟨⟩
        exact Bool.eq_false_iff.2 noSpace

/-! ## Digits -/

/-- Bytes that do not continue digits. -/
def EndsDigits (rest : Bytes) : Prop :=
  ∀ head ∈ rest.head?, isDigit head = false

theorem encode_digits
    {digits : List Char}
    (areDigits : ∀ character ∈ digits, character.isDigit = true) :
    Text.encode digits = digits.map fun digit => UInt8.ofNat digit.val.toNat :=
  Text.encode_eq_map fun character member => lt_of_isDigit (areDigits character member)

theorem forall_isDigit_encode
    {digits : List Char}
    (areDigits : ∀ character ∈ digits, character.isDigit = true) :
    ∀ byte ∈ Text.encode digits, isDigit byte = true := by
  rw [encode_digits areDigits]
  exact List.forall_mem_map.2 fun character member => isDigit_ofNat (areDigits character member)

theorem exists_encode_of_forall_isDigit
    {bytes : Bytes}
    (areDigits : ∀ byte ∈ bytes, isDigit byte = true) :
    ∃ digits : List Char, (∀ character ∈ digits, character.isDigit = true) ∧
      Text.encode digits = bytes := by
  induction bytes with
  | nil => exact ⟨[], by simp, rfl⟩
  | cons byte bytes inductionHypothesis =>
      obtain ⟨digit, areOthers⟩ := List.forall_mem_cons.1 areDigits
      obtain ⟨digits, areCharacters, rfl⟩ := inductionHypothesis areOthers
      obtain ⟨character, isDigit, rfl⟩ := exists_digit_of_isDigit digit
      exact ⟨character :: digits, List.forall_mem_cons.2 ⟨isDigit, areCharacters⟩,
        Text.encode_cons_of_lt (lt_of_isDigit isDigit) digits⟩

theorem encode_ne_nil
    {text : List Char}
    (nonempty : text ≠ []) :
    Text.encode text ≠ [] := by
  match text, nonempty with
  | character :: text, _ =>
      obtain ⟨lead, later, isLead⟩ := Text.exists_isLead character
      rw [Text.encode_cons, isLead.shape]
      exact List.cons_ne_nil _ _

theorem scanDigits_append
    {digits : List Char}
    {rest : Bytes}
    (isDigits : IsDigits digits)
    (ends : EndsDigits rest) :
    scanDigits (Text.encode digits ++ rest) = some (Text.encode digits, rest) := by
  have areDigits := forall_isDigit_encode isDigits.2
  have front : (Text.encode digits ++ rest).takeWhile isDigit = Text.encode digits := by
    rw [List.takeWhile_append_of_pos areDigits]
    cases rest with
    | nil => exact List.append_nil _
    | cons head rest =>
        rw [List.takeWhile_cons_of_neg (Bool.eq_false_iff.1 (ends head rfl)), List.append_nil]
  have back : (Text.encode digits ++ rest).dropWhile isDigit = rest := by
    rw [List.dropWhile_append_of_pos areDigits]
    cases rest with
    | nil => rfl
    | cons head rest => exact List.dropWhile_cons_of_neg (Bool.eq_false_iff.1 (ends head rfl))
  rw [scanDigits, front, back]
  split
  · next empty => exact absurd empty (encode_ne_nil isDigits.1)
  · rfl

theorem exists_digits_of_scanDigits
    {input digits rest : Bytes}
    (scanned : scanDigits input = some (digits, rest)) :
    ∃ text, IsDigits text ∧ digits = Text.encode text ∧ input = Text.encode text ++ rest := by
  rw [scanDigits] at scanned
  split at scanned
  · cases scanned
  · next nonempty =>
    cases scanned
    obtain ⟨text, areDigits, text_eq⟩ := exists_encode_of_forall_isDigit
      (List.all_eq_true.1 (List.all_takeWhile : (input.takeWhile isDigit).all isDigit = true))
    refine ⟨text, ⟨?_, areDigits⟩, text_eq.symm, ?_⟩
    · rintro rfl
      exact nonempty text_eq.symm
    · rw [text_eq, List.takeWhile_append_dropWhile]

/-! ## The parts of a number -/

theorem head?_encode_digits
    {digits : List Char}
    (areDigits : ∀ character ∈ digits, character.isDigit = true) :
    (Text.encode digits).head? = some 0x30 ↔ digits.head? = some '0' := by
  rw [encode_digits areDigits]
  cases digits with
  | nil => simp
  | cons digit digits =>
      have small := lt_of_isDigit (areDigits digit List.mem_cons_self)
      rw [List.map_cons, List.head?_cons, List.head?_cons, Option.some_inj, Option.some_inj,
        ← UInt8.toNat_inj, Text.toNat_ofNat (Nat.lt_trans small (by decide)), Char.ext_iff,
        ← UInt32.toNat_inj]
      exact Iff.rfl

theorem scanWhole_append
    {whole : List Char}
    {rest : Bytes}
    (isWhole : IsWhole whole)
    (ends : EndsDigits rest) :
    scanWhole (Text.encode whole ++ rest) = some (Text.encode whole, rest) := by
  obtain ⟨isDigits, noZero⟩ := isWhole
  have noLeadingZero : ¬((Text.encode whole).head? = some 0x30 ∧
      (Text.encode whole).length ≠ 1) := by
    rintro ⟨zero, notAlone⟩
    refine notAlone ?_
    rw [noZero ((head?_encode_digits isDigits.2).1 zero)]
    rfl
  rw [scanWhole, scanDigits_append isDigits ends]
  exact if_neg noLeadingZero

theorem exists_whole_of_scanWhole
    {input digits rest : Bytes}
    (scanned : scanWhole input = some (digits, rest)) :
    ∃ whole, IsWhole whole ∧ digits = Text.encode whole ∧ input = Text.encode whole ++ rest := by
  obtain ⟨⟨found, _⟩, isFound, whole_eq⟩ := Option.bind_eq_some_iff.1 scanned
  obtain ⟨text, isDigits, rfl, rfl⟩ := exists_digits_of_scanDigits isFound
  dsimp only at whole_eq
  split at whole_eq
  · cases whole_eq
  · next noLeadingZero =>
    cases whole_eq
    refine ⟨text, ⟨isDigits, fun zero => ?_⟩, rfl, rfl⟩
    have alone : (Text.encode text).length = 1 := Decidable.byContradiction fun notAlone =>
      noLeadingZero ⟨(head?_encode_digits isDigits.2).2 zero, notAlone⟩
    rw [encode_digits isDigits.2, List.length_map] at alone
    obtain ⟨digit, rfl⟩ := List.length_eq_one_iff.1 alone
    rw [Option.some.inj zero]

theorem scanFraction_append
    {point : List Char}
    {fraction : Option Bytes}
    {rest : Bytes}
    (writes : WritesFraction point fraction)
    (ends : EndsDigits rest)
    (noPoint : ∀ head ∈ rest.head?, head ≠ 0x2E) :
    scanFraction (Text.encode point ++ rest) = some (fraction, rest) := by
  cases writes with
  | absent =>
      rw [Text.encode_nil, List.nil_append, scanFraction.eq_def]
      split
      · exact absurd rfl (noPoint 0x2E rfl)
      · rfl
  | digits isDigits =>
      rw [Text.encode_cons_of_lt (by decide), List.cons_append]
      exact Option.bind_eq_some_iff.2 ⟨_, scanDigits_append isDigits ends, rfl⟩

theorem exists_point_of_scanFraction
    {input rest : Bytes}
    {fraction : Option Bytes}
    (scanned : scanFraction input = some (fraction, rest)) :
    ∃ point, WritesFraction point fraction ∧ input = Text.encode point ++ rest := by
  rw [scanFraction.eq_def] at scanned
  split at scanned
  · obtain ⟨⟨digits, _⟩, isFound, point_eq⟩ := Option.bind_eq_some_iff.1 scanned
    obtain ⟨text, isDigits, rfl, rfl⟩ := exists_digits_of_scanDigits isFound
    cases point_eq
    refine ⟨'.' :: text, .digits isDigits, ?_⟩
    rw [Text.encode_cons_of_lt (by decide)]
    rfl
  · cases scanned
    exact ⟨[], .absent, rfl⟩

theorem isDigit_of_head_append
    {digits : List Char}
    {head : UInt8}
    {rest others : Bytes}
    (isDigits : IsDigits digits)
    (head_eq : Text.encode digits ++ others = head :: rest) :
    isDigit head = true := by
  obtain ⟨nonempty, areDigits⟩ := isDigits
  obtain ⟨byte, bytes, bytes_eq⟩ := List.exists_cons_of_ne_nil (encode_ne_nil nonempty)
  rw [bytes_eq] at head_eq
  cases head_eq
  exact forall_isDigit_encode areDigits head (bytes_eq ▸ List.mem_cons_self)

theorem scanSignedDigits_append
    {sign digits : List Char}
    {negative : Bool}
    {rest : Bytes}
    (isSign : (sign, negative) ∈ exponentSigns)
    (isDigits : IsDigits digits)
    (ends : EndsDigits rest) :
    scanSignedDigits (Text.encode (sign ++ digits) ++ rest) =
      some ((negative, Text.encode digits), rest) := by
  have scanned := scanDigits_append isDigits ends
  simp only [exponentSigns, List.mem_cons, Prod.mk.injEq, List.not_mem_nil, or_false] at isSign
  rcases isSign with ⟨rfl, rfl⟩ | ⟨rfl, rfl⟩ | ⟨rfl, rfl⟩
  · rw [List.nil_append, scanSignedDigits.eq_def]
    split
    · next head_eq => exact absurd (isDigit_of_head_append isDigits head_eq) (by decide)
    · next head_eq => exact absurd (isDigit_of_head_append isDigits head_eq) (by decide)
    · exact Option.bind_eq_some_iff.2 ⟨_, scanned, rfl⟩
  · exact Option.bind_eq_some_iff.2 ⟨_, scanned, rfl⟩
  · exact Option.bind_eq_some_iff.2 ⟨_, scanned, rfl⟩

theorem exists_sign_of_scanSignedDigits
    {input rest : Bytes}
    {power : Bool × Bytes}
    (scanned : scanSignedDigits input = some (power, rest)) :
    ∃ sign digits, (sign, power.1) ∈ exponentSigns ∧ IsDigits digits ∧
      power.2 = Text.encode digits ∧ input = Text.encode (sign ++ digits) ++ rest := by
  rw [scanSignedDigits.eq_def] at scanned
  split at scanned
  all_goals
    obtain ⟨⟨digits, _⟩, isFound, power_eq⟩ := Option.bind_eq_some_iff.1 scanned
    obtain ⟨text, isDigits, rfl, rfl⟩ := exists_digits_of_scanDigits isFound
    cases power_eq
  · exact ⟨['+'], text, by simp [exponentSigns], isDigits, rfl, rfl⟩
  · exact ⟨['-'], text, by simp [exponentSigns], isDigits, rfl, rfl⟩
  · exact ⟨[], text, by simp [exponentSigns], isDigits, rfl, rfl⟩

/-- Bytes that do not continue an integer part with its fraction. -/
def EndsFraction (rest : Bytes) : Prop :=
  EndsDigits rest ∧ ∀ head ∈ rest.head?, head ≠ 0x65 ∧ head ≠ 0x45

theorem scanExponent_append
    {exponent : List Char}
    {power : Option (Bool × Bytes)}
    {rest : Bytes}
    (writes : WritesExponent exponent power)
    (ends : EndsFraction rest) :
    scanExponent (Text.encode exponent ++ rest) = some (power, rest) := by
  cases writes with
  | absent =>
      cases rest with
      | nil => rfl
      | cons head rest =>
          obtain ⟨noLetter, noCapital⟩ := ends.2 head rfl
          exact if_neg (not_or.2 ⟨noLetter, noCapital⟩)
  | @digits letter sign digits negative isLetter isSign isDigits =>
      have scanned := scanSignedDigits_append isSign isDigits ends.1
      have small : letter.val.toNat < 128 := by rcases isLetter with rfl | rfl <;> decide
      have isLetter : UInt8.ofNat letter.val.toNat = 0x65 ∨
          UInt8.ofNat letter.val.toNat = 0x45 := by
        rcases isLetter with rfl | rfl <;> decide
      rw [Text.encode_cons_of_lt small, List.cons_append, scanExponent, if_pos isLetter]
      exact Option.bind_eq_some_iff.2 ⟨_, scanned, rfl⟩

theorem exists_exponent_of_scanExponent
    {input rest : Bytes}
    {power : Option (Bool × Bytes)}
    (scanned : scanExponent input = some (power, rest)) :
    ∃ exponent, WritesExponent exponent power ∧ input = Text.encode exponent ++ rest := by
  rw [scanExponent.eq_def] at scanned
  split at scanned
  · next head after =>
    split at scanned
    · next isLetter =>
      obtain ⟨⟨found, _⟩, isFound, power_eq⟩ := Option.bind_eq_some_iff.1 scanned
      obtain ⟨sign, digits, isSign, isDigits, digits_eq, after_eq⟩ :=
        exists_sign_of_scanSignedDigits isFound
      cases power_eq
      obtain ⟨letter, known, small, rfl⟩ : ∃ letter : Char, (letter = 'e' ∨ letter = 'E') ∧
          letter.val.toNat < 128 ∧ UInt8.ofNat letter.val.toNat = head := by
        rcases isLetter with rfl | rfl
        · exact ⟨'e', by decide⟩
        · exact ⟨'E', by decide⟩
      refine ⟨letter :: (sign ++ digits), ?_, ?_⟩
      · rw [show found = (found.1, Text.encode digits) from Prod.ext rfl digits_eq]
        exact .digits known isSign isDigits
      · rw [Text.encode_cons_of_lt small, after_eq]
        rfl
    · cases scanned
      exact ⟨[], .absent, rfl⟩
  · cases scanned
    exact ⟨[], .absent, rfl⟩

/-! ## Numbers -/

/-- Bytes that do not continue a number. -/
def EndsNumber (rest : Bytes) : Prop :=
  EndsFraction rest ∧ ∀ head ∈ rest.head?, head ≠ 0x2E

theorem endsNumber_cons
    {head : UInt8}
    (noDigit : isDigit head = false)
    (noLetter : head ≠ 0x65 ∧ head ≠ 0x45)
    (noPoint : head ≠ 0x2E)
    (rest : Bytes) :
    EndsNumber (head :: rest) := by
  refine ⟨⟨?_, ?_⟩, ?_⟩ <;>
  · rintro byte ⟨⟩
    assumption

theorem endsNumber_append
    {back : List Char}
    {rest : Bytes}
    (isBack : IsBlank back)
    (ends : EndsNumber rest) :
    EndsNumber (Text.encode back ++ rest) := by
  cases back with
  | nil => exact ends
  | cons character back =>
      have listed := isBack character List.mem_cons_self
      rw [Text.encode_cons_of_lt (isSpace_ofNat character listed).1, List.cons_append]
      simp only [blanks, List.mem_cons, List.not_mem_nil, or_false] at listed
      rcases listed with rfl | rfl | rfl | rfl <;>
        exact endsNumber_cons (by decide) (by decide) (by decide) _

theorem WritesExponent.ends_append
    {exponent : List Char}
    {power : Option (Bool × Bytes)}
    {rest : Bytes}
    (writes : WritesExponent exponent power)
    (ends : EndsNumber rest) :
    EndsDigits (Text.encode exponent ++ rest) ∧
      ∀ head ∈ (Text.encode exponent ++ rest).head?, head ≠ 0x2E := by
  cases writes with
  | absent => exact ⟨ends.1.1, ends.2⟩
  | @digits letter sign digits negative isLetter isSign isDigits =>
      rw [EndsDigits]
      rcases isLetter with rfl | rfl <;>
      · rw [Text.encode_cons_of_lt (by decide), List.cons_append, List.head?_cons]
        constructor <;>
        · rintro head ⟨⟩
          decide

theorem WritesFraction.ends_append
    {point : List Char}
    {fraction : Option Bytes}
    {rest : Bytes}
    (writes : WritesFraction point fraction)
    (ends : EndsDigits rest) :
    EndsDigits (Text.encode point ++ rest) := by
  cases writes with
  | absent => exact ends
  | digits isDigits =>
      rw [Text.encode_cons_of_lt (by decide), List.cons_append]
      rintro head ⟨⟩
      decide

/-- The number in front of a text without its sign. -/
def scanUnsigned (negative : Bool) (input : Bytes) : Option (Numeral × Bytes) := do
  let (whole, rest) ← scanWhole input
  let (fraction, rest) ← scanFraction rest
  let (exponent, rest) ← scanExponent rest
  some (⟨negative, whole, fraction, exponent⟩, rest)

theorem scanNumeral_of_ne
    {input : Bytes}
    (noMinus : ∀ head ∈ input.head?, head ≠ 0x2D) :
    scanNumeral input = scanUnsigned false input := by
  match input with
  | [] => rfl
  | head :: input =>
      rw [scanNumeral.eq_def]
      split
      next sign rest same =>
      split at same
      · next shape =>
        cases shape
        exact absurd rfl (noMinus 0x2D rfl)
      · cases same
        rfl

/-- A number is scanned as it is written. -/
theorem scanNumeral_append
    {text : List Char}
    {numeral : Numeral}
    {rest : Bytes}
    (writes : WritesNumeral text numeral)
    (ends : EndsNumber rest) :
    scanNumeral (Text.encode text ++ rest) = some (numeral, rest) := by
  obtain @⟨sign, whole, point, exponent, negative, fraction, power, isSign, isWhole,
    writesFraction, writesExponent⟩ := writes
  obtain ⟨noDigit, noPoint⟩ := writesExponent.ends_append ends
  have scanned : ∀ negative, scanUnsigned negative (Text.encode whole ++
      (Text.encode point ++ (Text.encode exponent ++ rest))) =
        some (⟨negative, Text.encode whole, fraction, power⟩, rest) := fun negative =>
    Option.bind_eq_some_iff.2 ⟨_, scanWhole_append isWhole (writesFraction.ends_append noDigit),
      Option.bind_eq_some_iff.2 ⟨_, scanFraction_append writesFraction noDigit noPoint,
        Option.bind_eq_some_iff.2 ⟨_, scanExponent_append writesExponent ends.1, rfl⟩⟩⟩
  simp only [Text.encode_append, List.append_assoc]
  simp only [numberSigns, List.mem_cons, Prod.mk.injEq, List.not_mem_nil, or_false] at isSign
  rcases isSign with ⟨rfl, rfl⟩ | ⟨rfl, rfl⟩
  · rw [Text.encode_nil, List.nil_append, scanNumeral_of_ne, scanned]
    intro head isHead
    obtain ⟨tail, input_eq⟩ := List.head?_eq_some_iff.1 isHead
    rintro rfl
    exact absurd (isDigit_of_head_append isWhole.1 input_eq) (by decide)
  · exact scanned true

theorem exists_text_of_scanUnsigned
    {negative : Bool}
    {sign : List Char}
    {input rest : Bytes}
    {numeral : Numeral}
    (isSign : (sign, negative) ∈ numberSigns)
    (scanned : scanUnsigned negative input = some (numeral, rest)) :
    ∃ text, WritesNumeral text numeral ∧ Text.encode sign ++ input = Text.encode text ++ rest := by
  obtain ⟨⟨digits, behindWhole⟩, isFound, scannedRest⟩ := Option.bind_eq_some_iff.1 scanned
  obtain ⟨⟨fraction, behindFraction⟩, isFraction, scannedPower⟩ :=
    Option.bind_eq_some_iff.1 scannedRest
  obtain ⟨⟨power, behind⟩, isPower, numeral_eq⟩ := Option.bind_eq_some_iff.1 scannedPower
  cases numeral_eq
  obtain ⟨whole, isWhole, rfl, rfl⟩ := exists_whole_of_scanWhole isFound
  obtain ⟨point, writesFraction, rfl⟩ := exists_point_of_scanFraction isFraction
  obtain ⟨exponent, writesExponent, rfl⟩ := exists_exponent_of_scanExponent isPower
  refine ⟨_, .parts isSign isWhole writesFraction writesExponent, ?_⟩
  simp only [Text.encode_append, List.append_assoc]

/-- A number begins with its sign or with a digit. -/
theorem WritesNumeral.exists_head
    {text : List Char}
    {numeral : Numeral}
    (writes : WritesNumeral text numeral) :
    ∃ head tail, Text.encode text = head :: tail ∧ (head = 0x2D ∨ isDigit head = true) := by
  obtain @⟨sign, whole, point, exponent, negative, fraction, power, isSign, isWhole, _, _⟩ :=
    writes
  obtain ⟨head, tail, whole_eq⟩ := List.exists_cons_of_ne_nil (encode_ne_nil isWhole.1.1)
  have whole_append : Text.encode whole ++ [] = head :: tail := by rw [whole_eq, List.append_nil]
  have digit := isDigit_of_head_append isWhole.1 whole_append
  rw [Text.encode_append, Text.encode_append, whole_eq]
  simp only [numberSigns, List.mem_cons, Prod.mk.injEq, List.not_mem_nil, or_false] at isSign
  rcases isSign with ⟨rfl, _⟩ | ⟨rfl, _⟩
  · exact ⟨head, _, rfl, Or.inr digit⟩
  · exact ⟨0x2D, _, rfl, Or.inl rfl⟩

/-- What is scanned as a number is written as one. -/
theorem exists_text_of_scanNumeral
    {input rest : Bytes}
    {numeral : Numeral}
    (scanned : scanNumeral input = some (numeral, rest)) :
    ∃ text, WritesNumeral text numeral ∧ input = Text.encode text ++ rest := by
  have minusSign : (['-'], true) ∈ numberSigns := by decide
  have noSign : ([], false) ∈ numberSigns := by decide
  by_cases minus : input.head? = some 0x2D
  · obtain ⟨input, rfl⟩ := List.head?_eq_some_iff.1 minus
    exact exists_text_of_scanUnsigned minusSign scanned
  · rw [scanNumeral_of_ne fun head isHead same => minus (same ▸ isHead)] at scanned
    exact exists_text_of_scanUnsigned noSign scanned

end Json
end TrafficGraph
