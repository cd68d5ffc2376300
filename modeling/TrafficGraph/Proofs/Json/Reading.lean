import TrafficGraph.Proofs.Json.Strings
import TrafficGraph.Proofs.Json.Numbers
import TrafficGraph.Proofs.Json.Nesting

/-!
# Reading JSON texts

The reader finds a value exactly if the text denotes it.  The reader is followed along its fuel:
what it reads with some fuel is denoted by the bytes that it consumes, and a text that denotes
a value is read with fuel of twice its length.
-/

namespace TrafficGraph
namespace Json

/-! ## The bytes of containers -/

theorem encode_enclosed
    {opening closing : Char}
    (smallOpening : opening.val.toNat < 128)
    (smallClosing : closing.val.toNat < 128)
    (inside : List Char)
    (rest : Bytes) :
    Text.encode (opening :: (inside ++ [closing])) ++ rest =
      UInt8.ofNat opening.val.toNat ::
        (Text.encode inside ++ UInt8.ofNat closing.val.toNat :: rest) := by
  rw [Text.encode_cons_of_lt smallOpening, Text.encode_append, Text.encode_cons_of_lt smallClosing,
    Text.encode_nil, List.cons_append, List.append_assoc]
  rfl

theorem encode_followed
    {separator : Char}
    (small : separator.val.toNat < 128)
    (text others : List Char)
    (rest : Bytes) :
    Text.encode (text ++ separator :: others) ++ rest =
      Text.encode text ++ UInt8.ofNat separator.val.toNat :: (Text.encode others ++ rest) := by
  rw [Text.encode_append, Text.encode_cons_of_lt small, List.append_assoc, List.cons_append]

theorem encode_member
    (front written back text : List Char)
    (rest : Bytes) :
    Text.encode (front ++ '"' :: (written ++ '"' :: (back ++ ':' :: text))) ++ rest =
      Text.encode front ++ 0x22 :: (Text.encode written ++ 0x22 ::
        (Text.encode back ++ 0x3A :: (Text.encode text ++ rest))) := by
  rw [encode_followed (by decide), encode_followed (by decide), encode_followed (by decide)]
  rfl

/-! ## Blanks in front -/

theorem skipSpace_skipSpace (input : Bytes) : skipSpace (skipSpace input) = skipSpace input := by
  obtain ⟨front, isFront, _, noSpace⟩ := exists_skipSpace_eq input
  exact skipSpace_of_head noSpace

theorem readValue_skipSpace (fuel : Nat) (input : Bytes) :
    readValue fuel (skipSpace input) = readValue fuel input := by
  cases fuel with
  | zero => rfl
  | succ fuel => rw [readValue, readValue, skipSpace_skipSpace]

theorem readItems_skipSpace (fuel : Nat) (input : Bytes) :
    readItems fuel (skipSpace input) = readItems fuel input := by
  cases fuel with
  | zero => rfl
  | succ fuel => rw [readItems, readItems, readValue_skipSpace]

theorem readMembers_skipSpace (fuel : Nat) (input : Bytes) :
    readMembers fuel (skipSpace input) = readMembers fuel input := by
  cases fuel with
  | zero => rfl
  | succ fuel => rw [readMembers, readMembers, skipSpace_skipSpace]

/-- What follows the blanks in front. -/
theorem exists_blank_of_skipSpace
    {input behind : Bytes}
    (skipped : skipSpace input = behind) :
    ∃ front, IsBlank front ∧ input = Text.encode front ++ behind := by
  obtain ⟨front, isFront, input_eq, _⟩ := exists_skipSpace_eq input
  exact ⟨front, isFront, skipped ▸ input_eq⟩

/-! ## What is read is denoted -/

theorem eq_append_of_afterWord?
    {word input rest : Bytes}
    (after : afterWord? word input = some rest) :
    input = word ++ rest := by
  induction word generalizing input with
  | nil =>
      cases after
      rfl
  | cons letter word inductionHypothesis =>
      cases input with
      | nil => cases after
      | cons byte input =>
          rw [afterWord?] at after
          split at after
          · next same => rw [same, inductionHypothesis after, List.cons_append]
          · cases after

theorem eq_of_readWord
    {word input rest : Bytes}
    {value found : Tree}
    (read : readWord word value input = (found, some rest)) :
    found = value ∧ input = word ++ rest := by
  rw [readWord] at read
  split at read
  · next after =>
    cases read
    exact ⟨rfl, eq_append_of_afterWord? after⟩
  · cases read

/-- What is read with some fuel is denoted by the bytes that it consumes. -/
structure Sound (fuel : Nat) : Prop where
  value : ∀ {input rest : Bytes} {json : Json},
    readValue fuel input = (.ofJson json, some rest) →
      ∃ front text, IsBlank front ∧ Denotes text json ∧
        input = Text.encode front ++ (Text.encode text ++ rest)
  items : ∀ {input rest : Bytes} {items : List Json},
    readItems fuel input = (Tree.ofItems items, some rest) →
      ∃ text, DenotesItems text items ∧ input = Text.encode text ++ 0x5D :: rest
  members : ∀ {input rest : Bytes} {members : List (String × Json)},
    readMembers fuel input = (Tree.ofMembers members, some rest) →
      ∃ text, DenotesMembers text members ∧ input = Text.encode text ++ 0x7D :: rest

theorem ofJson_eq_array
    {json : Json}
    {trees : List Tree}
    {complete : Bool}
    (shape : .array trees complete = Tree.ofJson json) :
    ∃ items, json = .array items ∧ trees = Tree.ofItems items ∧ complete = true := by
  cases json <;> cases shape
  exact ⟨_, rfl, rfl, rfl⟩

theorem ofJson_eq_object
    {json : Json}
    {trees : List (Option String × Tree)}
    {complete : Bool}
    (shape : .object trees complete = Tree.ofJson json) :
    ∃ members, json = .object members ∧ trees = Tree.ofMembers members ∧ complete = true := by
  cases json <;> cases shape
  exact ⟨_, rfl, rfl, rfl⟩

theorem ofMembers_eq_nil
    {members : List (String × Json)}
    (empty : [] = Tree.ofMembers members) :
    members = [] := by
  cases members with
  | nil => rfl
  | cons member members => cases empty

theorem ofItems_eq_nil
    {items : List Json}
    (empty : [] = Tree.ofItems items) :
    items = [] := by
  cases items with
  | nil => rfl
  | cons item items => cases empty

theorem ofItems_eq_cons
    {items : List Json}
    {tree : Tree}
    {trees : List Tree}
    (shape : tree :: trees = Tree.ofItems items) :
    ∃ item others, items = item :: others ∧ tree = .ofJson item ∧
      trees = Tree.ofItems others := by
  cases items with
  | nil => cases shape
  | cons item items =>
      cases shape
      exact ⟨item, items, rfl, rfl, rfl⟩

theorem ofMembers_eq_cons
    {members : List (String × Json)}
    {key : Option String}
    {tree : Tree}
    {trees : List (Option String × Tree)}
    (shape : (key, tree) :: trees = Tree.ofMembers members) :
    ∃ name json others, members = (name, json) :: others ∧ key = some name ∧
      tree = .ofJson json ∧ trees = Tree.ofMembers others := by
  cases members with
  | nil => cases shape
  | cons member members =>
      cases shape
      exact ⟨member.1, member.2, members, rfl, rfl, rfl, rfl⟩

theorem Sound.value_of_pred
    {fuel : Nat}
    (sound : Sound (fuel - 1))
    {input rest : Bytes}
    {json : Json} :
    readValue fuel input = (.ofJson json, some rest) →
      ∃ front text, IsBlank front ∧ Denotes text json ∧
        input = Text.encode front ++ (Text.encode text ++ rest) := by
  fun_cases readValue fuel input
  all_goals
    intro read
    obtain ⟨tree_eq, rest_eq⟩ := Prod.mk.inj read
  -- An empty object, and an object with members.
  case case3 fuel inside behind closed opened =>
      obtain ⟨members, rfl, members_eq, _⟩ := ofJson_eq_object tree_eq
      cases ofMembers_eq_nil members_eq
      cases rest_eq
      obtain ⟨front, isFront, rfl⟩ := exists_blank_of_skipSpace opened
      obtain ⟨blank, isBlank, rfl⟩ := exists_blank_of_skipSpace closed
      refine ⟨front, _, isFront, .emptyObject isBlank, ?_⟩
      rw [encode_enclosed (by decide) (by decide)]
      rfl
  case case4 fuel inside members behind notClosed found opened =>
      obtain ⟨members, rfl, rfl, _⟩ := ofJson_eq_object tree_eq
      cases rest_eq
      rw [readMembers_skipSpace] at found
      obtain ⟨front, isFront, rfl⟩ := exists_blank_of_skipSpace opened
      obtain ⟨text, denotes, rfl⟩ := sound.members found
      refine ⟨front, _, isFront, .object denotes, ?_⟩
      rw [encode_enclosed (by decide) (by decide)]
      rfl
  -- An empty array, and an array with items.
  case case5 fuel inside behind closed _ opened =>
      obtain ⟨items, rfl, items_eq, _⟩ := ofJson_eq_array tree_eq
      cases ofItems_eq_nil items_eq
      cases rest_eq
      obtain ⟨front, isFront, rfl⟩ := exists_blank_of_skipSpace opened
      obtain ⟨blank, isBlank, rfl⟩ := exists_blank_of_skipSpace closed
      refine ⟨front, _, isFront, .emptyArray isBlank, ?_⟩
      rw [encode_enclosed (by decide) (by decide)]
      rfl
  case case6 fuel inside items behind _ notClosed found opened =>
      obtain ⟨items, rfl, rfl, _⟩ := ofJson_eq_array tree_eq
      cases rest_eq
      rw [readItems_skipSpace] at found
      obtain ⟨front, isFront, rfl⟩ := exists_blank_of_skipSpace opened
      obtain ⟨text, denotes, rfl⟩ := sound.items found
      refine ⟨front, _, isFront, .array denotes, ?_⟩
      rw [encode_enclosed (by decide) (by decide)]
      rfl
  -- A string.
  case case8 fuel quoted pieces behind scanned text isText _ _ opened =>
      cases json <;> cases tree_eq
      cases rest_eq
      obtain ⟨front, isFront, rfl⟩ := exists_blank_of_skipSpace opened
      obtain ⟨written, spells, rfl⟩ := exists_spells_of_text? scanned isText
      refine ⟨front, _, isFront, .string spells, ?_⟩
      rw [encode_enclosed (by decide) (by decide)]
      rfl
  -- The three words.
  case case10 fuel after _ _ _ opened =>
      obtain ⟨found, rfl⟩ := eq_of_readWord read
      cases json <;> cases found
      obtain ⟨front, isFront, rfl⟩ := exists_blank_of_skipSpace opened
      exact ⟨front, _, isFront, .nullWord, rfl⟩
  case case11 fuel after _ _ _ _ opened =>
      obtain ⟨found, rfl⟩ := eq_of_readWord read
      cases json <;> cases found
      obtain ⟨front, isFront, rfl⟩ := exists_blank_of_skipSpace opened
      exact ⟨front, _, isFront, .trueWord, rfl⟩
  case case12 fuel after _ _ _ _ _ opened =>
      obtain ⟨found, rfl⟩ := eq_of_readWord read
      cases json <;> cases found
      obtain ⟨front, isFront, rfl⟩ := exists_blank_of_skipSpace opened
      exact ⟨front, _, isFront, .falseWord, rfl⟩
  -- A number.
  case case14 fuel head after _ _ _ _ _ _ numeral behind scanned amount inRange opened =>
      cases json <;> cases tree_eq
      cases rest_eq
      obtain ⟨front, isFront, rfl⟩ := exists_blank_of_skipSpace opened
      obtain ⟨text, writes, text_eq⟩ := exists_text_of_scanNumeral scanned
      exact ⟨front, text, isFront, .number writes inRange, by rw [text_eq]⟩
  -- Everything else is no value or has nothing behind it.
  all_goals
    first
    | cases rest_eq; done
    | cases json <;> cases tree_eq

theorem Sound.items_of_pred
    {fuel : Nat}
    (sound : Sound (fuel - 1))
    {input rest : Bytes}
    {items : List Json} :
    readItems fuel input = (Tree.ofItems items, some rest) →
      ∃ text, DenotesItems text items ∧ input = Text.encode text ++ 0x5D :: rest := by
  fun_cases readItems fuel input
  all_goals
    intro read
    obtain ⟨items_eq, rest_eq⟩ := Prod.mk.inj read
  case case3 fuel tree after behind closed found =>
      cases rest_eq
      obtain ⟨item, others, rfl, rfl, others_eq⟩ := ofItems_eq_cons items_eq
      cases ofItems_eq_nil others_eq
      obtain ⟨front, text, isFront, denotes, rfl⟩ := sound.value found
      obtain ⟨back, isBack, rfl⟩ := exists_blank_of_skipSpace closed
      refine ⟨_, .last (.within isFront denotes isBack), ?_⟩
      simp only [Text.encode_append, List.append_assoc]
  case case4 fuel tree after behind separated trees others found isItem =>
      cases rest_eq
      obtain ⟨item, items, rfl, rfl, rfl⟩ := ofItems_eq_cons items_eq
      obtain ⟨front, text, isFront, denotes, rfl⟩ := sound.value isItem
      obtain ⟨back, isBack, rfl⟩ := exists_blank_of_skipSpace separated
      obtain ⟨others, denotesOthers, rfl⟩ := sound.items found
      refine ⟨_, .next (.within isFront denotes isBack) denotesOthers, ?_⟩
      rw [encode_followed (by decide)]
      simp only [Text.encode_append, List.append_assoc]
      rfl
  all_goals cases rest_eq

theorem Sound.members_of_pred
    {fuel : Nat}
    (sound : Sound (fuel - 1))
    {input rest : Bytes}
    {members : List (String × Json)} :
    readMembers fuel input = (Tree.ofMembers members, some rest) →
      ∃ text, DenotesMembers text members ∧ input = Text.encode text ++ 0x7D :: rest := by
  fun_cases readMembers fuel input
  all_goals
    intro read
    obtain ⟨members_eq, rest_eq⟩ := Prod.mk.inj read
  case case4 fuel quoted pieces afterKey scanned key afterColon colon tree after found behind
      closed opened =>
      cases rest_eq
      obtain ⟨name, json, others, rfl, isKey, rfl, others_eq⟩ := ofMembers_eq_cons members_eq
      cases ofMembers_eq_nil others_eq
      obtain ⟨front, isFront, rfl⟩ := exists_blank_of_skipSpace opened
      obtain ⟨written, spells, rfl⟩ := exists_spells_of_text? scanned isKey
      obtain ⟨blank, isBlank, rfl⟩ := exists_blank_of_skipSpace colon
      obtain ⟨before, text, isBefore, denotes, rfl⟩ := sound.value found
      obtain ⟨back, isBack, rfl⟩ := exists_blank_of_skipSpace closed
      refine ⟨_, .last (.member isFront spells isBlank (.within isBefore denotes isBack)), ?_⟩
      rw [encode_member]
      simp only [Text.encode_append, List.append_assoc]
  case case5 fuel quoted pieces afterKey scanned key afterColon colon tree after found behind
      separated trees others foundOthers opened =>
      cases rest_eq
      obtain ⟨name, json, members, rfl, isKey, rfl, rfl⟩ := ofMembers_eq_cons members_eq
      obtain ⟨front, isFront, rfl⟩ := exists_blank_of_skipSpace opened
      obtain ⟨written, spells, rfl⟩ := exists_spells_of_text? scanned isKey
      obtain ⟨blank, isBlank, rfl⟩ := exists_blank_of_skipSpace colon
      obtain ⟨before, text, isBefore, denotes, rfl⟩ := sound.value found
      obtain ⟨back, isBack, rfl⟩ := exists_blank_of_skipSpace separated
      obtain ⟨others, denotesOthers, rfl⟩ := sound.members foundOthers
      refine ⟨_, .next (.member isFront spells isBlank (.within isBefore denotes isBack))
        denotesOthers, ?_⟩
      rw [encode_followed (by decide), encode_member]
      simp only [Text.encode_append, List.append_assoc]
      rfl
  all_goals cases rest_eq

/-- The reader is sound with any fuel. -/
theorem sound (fuel : Nat) : Sound fuel := by
  induction fuel with
  | zero =>
      exact ⟨fun read => (nomatch (Prod.mk.inj read).2), fun read => (nomatch (Prod.mk.inj read).2),
        fun read => (nomatch (Prod.mk.inj read).2)⟩
  | succ fuel inductionHypothesis =>
      have smaller : Sound (fuel + 1 - 1) := inductionHypothesis
      exact ⟨smaller.value_of_pred, smaller.items_of_pred, smaller.members_of_pred⟩

/-! ## What is denoted is read -/

theorem readValue_append
    {front : List Char}
    (isFront : IsBlank front)
    (fuel : Nat)
    (input : Bytes) :
    readValue fuel (Text.encode front ++ input) = readValue fuel input := by
  rw [← readValue_skipSpace, skipSpace_append isFront, readValue_skipSpace]

/-- A value begins with a byte that is no blank and closes no container. -/
theorem Denotes.exists_head
    {text : List Char}
    {json : Json}
    (denotes : Denotes text json) :
    ∃ head tail, Text.encode text = head :: tail ∧ isSpace head = false ∧ head ≠ 0x5D := by
  cases denotes with
  | nullWord => exact ⟨_, _, rfl, by decide⟩
  | trueWord => exact ⟨_, _, rfl, by decide⟩
  | falseWord => exact ⟨_, _, rfl, by decide⟩
  | number writes _ =>
      obtain ⟨head, tail, text_eq, isHead⟩ := writes.exists_head
      refine ⟨head, tail, text_eq, ?_⟩
      rcases isHead with rfl | digit
      · decide
      · refine ⟨isSpace_of_isDigit digit, ?_⟩
        rintro rfl
        exact absurd digit (by decide)
  | string _ => exact ⟨0x22, _, Text.encode_cons_of_lt (by decide) _, by decide⟩
  | emptyArray _ => exact ⟨0x5B, _, Text.encode_cons_of_lt (by decide) _, by decide⟩
  | array _ => exact ⟨0x5B, _, Text.encode_cons_of_lt (by decide) _, by decide⟩
  | emptyObject _ => exact ⟨0x7B, _, Text.encode_cons_of_lt (by decide) _, by decide⟩
  | object _ => exact ⟨0x7B, _, Text.encode_cons_of_lt (by decide) _, by decide⟩

theorem DenotesWithin.skipSpace_ne
    {text : List Char}
    {json : Json}
    (denotes : DenotesWithin text json)
    (rest behind : Bytes) :
    skipSpace (Text.encode text ++ rest) ≠ 0x5D :: behind := by
  obtain ⟨isFront, denotes, _⟩ := denotes
  obtain ⟨head, tail, text_eq, noSpace, notClosing⟩ := denotes.exists_head
  rw [Text.encode_append, Text.encode_append, text_eq, List.append_assoc, skipSpace_append isFront,
    List.cons_append, List.cons_append, skipSpace_of_head]
  · rintro same
    cases same
    exact notClosing rfl
  · rintro byte ⟨⟩
    exact noSpace

theorem DenotesItems.skipSpace_ne
    {text : List Char}
    {items : List Json}
    (denotes : DenotesItems text items)
    (rest behind : Bytes) :
    skipSpace (Text.encode text ++ rest) ≠ 0x5D :: behind := by
  cases denotes with
  | last denotes => exact denotes.skipSpace_ne rest behind
  | next denotes _ =>
      rw [encode_followed (by decide)]
      exact denotes.skipSpace_ne _ behind

theorem DenotesMember.skipSpace_ne
    {text : List Char}
    {key : String}
    {json : Json}
    (denotes : DenotesMember text key json)
    (rest behind : Bytes) :
    skipSpace (Text.encode text ++ rest) ≠ 0x7D :: behind := by
  obtain ⟨isFront, _, _, _⟩ := denotes
  rw [encode_member, skipSpace_append isFront, skipSpace_of_head]
  · nofun
  · rintro byte ⟨⟩
    decide

theorem DenotesMembers.skipSpace_ne
    {text : List Char}
    {members : List (String × Json)}
    (denotes : DenotesMembers text members)
    (rest behind : Bytes) :
    skipSpace (Text.encode text ++ rest) ≠ 0x7D :: behind := by
  cases denotes with
  | last denotes => exact denotes.skipSpace_ne rest behind
  | next denotes _ =>
      rw [encode_followed (by decide)]
      exact denotes.skipSpace_ne _ behind

/-- What a text denotes is read from it with fuel of twice its length. -/
structure Complete (fuel : Nat) : Prop where
  value : ∀ {text : List Char} {json : Json} {rest : Bytes}, Denotes text json →
    EndsNumber rest → 2 * text.length ≤ fuel →
      readValue fuel (Text.encode text ++ rest) = (.ofJson json, some rest)
  items : ∀ {text : List Char} {items : List Json} (rest : Bytes), DenotesItems text items →
    2 * text.length + 1 ≤ fuel →
      readItems fuel (Text.encode text ++ 0x5D :: rest) = (Tree.ofItems items, some rest)
  members : ∀ {text : List Char} {members : List (String × Json)} (rest : Bytes),
    DenotesMembers text members → 2 * text.length + 1 ≤ fuel →
      readMembers fuel (Text.encode text ++ 0x7D :: rest) = (Tree.ofMembers members, some rest)

theorem skipSpace_encode
    {text : List Char}
    {json : Json}
    (denotes : Denotes text json)
    (rest : Bytes) :
    skipSpace (Text.encode text ++ rest) = Text.encode text ++ rest := by
  obtain ⟨head, tail, text_eq, noSpace, _⟩ := denotes.exists_head
  rw [text_eq, List.cons_append, skipSpace_of_head]
  rintro byte ⟨⟩
  exact noSpace

/-- The first bytes of values that are no numbers. -/
def marks : Bytes :=
  [0x7B, 0x5B, 0x22, 0x6E, 0x74, 0x66]

/-- A numeral does not begin like another value. -/
theorem ne_of_mem_marks
    {head : UInt8}
    (isHead : head = 0x2D ∨ isDigit head = true) :
    ∀ mark ∈ marks, head ≠ mark := by
  rintro mark isMark rfl
  rcases isHead with rfl | digit
  · exact absurd isMark (by decide)
  · simp only [marks, List.mem_cons, List.not_mem_nil, or_false] at isMark
    rcases isMark with rfl | rfl | rfl | rfl | rfl | rfl <;> exact absurd digit (by decide)

theorem Complete.value_succ
    {fuel : Nat}
    (complete : Complete fuel)
    {text : List Char}
    {json : Json}
    {rest : Bytes}
    (denotes : Denotes text json)
    (ends : EndsNumber rest)
    (fits : 2 * text.length ≤ fuel + 1) :
    readValue (fuel + 1) (Text.encode text ++ rest) = (.ofJson json, some rest) := by
  rw [readValue, skipSpace_encode denotes]
  cases denotes with
  | nullWord => rfl
  | trueWord => rfl
  | falseWord => rfl
  | number writes inRange =>
      obtain ⟨head, tail, text_eq, isHead⟩ := writes.exists_head
      have noMark := ne_of_mem_marks isHead
      have scanned := scanNumeral_append writes ends
      simp only [marks, List.forall_mem_cons] at noMark
      obtain ⟨noBrace, noBracket, noQuote, noNull, noTrue, noFalse, _⟩ := noMark
      rw [text_eq, List.cons_append] at scanned ⊢
      simp only [if_neg noBrace, if_neg noBracket, if_neg noQuote, if_neg noNull, if_neg noTrue,
        if_neg noFalse, scanned, inRange]
      rfl
  | @string written text spells =>
      obtain ⟨pieces, scanned, isText⟩ := spells.exists_text? rest
      have text_eq : Text.encode ('"' :: (written ++ ['"'])) ++ rest =
          0x22 :: (Text.encode written ++ 0x22 :: rest) :=
        encode_enclosed (by decide) (by decide) written rest
      have noBrace : (0x22 : UInt8) ≠ 0x7B := by decide
      have noBracket : (0x22 : UInt8) ≠ 0x5B := by decide
      rw [text_eq]
      simp only [if_neg noBrace, if_neg noBracket, scanned, isText]
      rfl
  | @emptyArray blank isBlank =>
      have text_eq : Text.encode ('[' :: (blank ++ [']'])) ++ rest =
          0x5B :: (Text.encode blank ++ 0x5D :: rest) :=
        encode_enclosed (by decide) (by decide) blank rest
      have noBrace : (0x5B : UInt8) ≠ 0x7B := by decide
      have skipped : skipSpace (Text.encode blank ++ 0x5D :: rest) = 0x5D :: rest :=
        skipSpace_append isBlank (0x5D :: rest)
      rw [text_eq]
      simp only [if_neg noBrace, skipped]
      rfl
  | @array inside items denotes =>
      have text_eq : Text.encode ('[' :: (inside ++ [']'])) ++ rest =
          0x5B :: (Text.encode inside ++ 0x5D :: rest) :=
        encode_enclosed (by decide) (by decide) inside rest
      have noBrace : (0x5B : UInt8) ≠ 0x7B := by decide
      have found := complete.items rest denotes (by
        simp only [List.length_cons, List.length_append, List.length_nil] at fits
        omega)
      rw [← readItems_skipSpace] at found
      rw [text_eq]
      dsimp only
      rw [if_neg noBrace, if_pos rfl]
      split
      · next closed => exact absurd closed (denotes.skipSpace_ne _ _)
      · rw [found]
        rfl
  | @emptyObject blank isBlank =>
      have text_eq : Text.encode ('\x7b' :: (blank ++ ['\x7d'])) ++ rest =
          0x7B :: (Text.encode blank ++ 0x7D :: rest) :=
        encode_enclosed (by decide) (by decide) blank rest
      have skipped : skipSpace (Text.encode blank ++ 0x7D :: rest) = 0x7D :: rest :=
        skipSpace_append isBlank (0x7D :: rest)
      rw [text_eq]
      simp only [skipped]
      rfl
  | @object inside members denotes =>
      have text_eq : Text.encode ('\x7b' :: (inside ++ ['\x7d'])) ++ rest =
          0x7B :: (Text.encode inside ++ 0x7D :: rest) :=
        encode_enclosed (by decide) (by decide) inside rest
      have found := complete.members rest denotes (by
        simp only [List.length_cons, List.length_append, List.length_nil] at fits
        omega)
      rw [← readMembers_skipSpace] at found
      rw [text_eq]
      dsimp only
      rw [if_pos rfl]
      split
      · next closed => exact absurd closed (denotes.skipSpace_ne _ _)
      · rw [found]
        rfl

/-- A value with blanks around it is read up to what stands behind the blanks. -/
theorem Complete.within
    {fuel : Nat}
    (complete : Complete fuel)
    {text : List Char}
    {json : Json}
    {rest : Bytes}
    (denotes : DenotesWithin text json)
    (ends : EndsNumber rest)
    (noSpace : skipSpace rest = rest)
    (fits : 2 * text.length ≤ fuel) :
    ∃ behind, readValue fuel (Text.encode text ++ rest) = (.ofJson json, some behind) ∧
      skipSpace behind = rest := by
  obtain @⟨front, inside, back, _, isFront, denotes, isBack⟩ := denotes
  have found := complete.value denotes (endsNumber_append isBack ends) (by
    simp only [List.length_append] at fits
    omega)
  refine ⟨Text.encode back ++ rest, ?_, ?_⟩
  · rw [Text.encode_append, Text.encode_append, List.append_assoc, List.append_assoc,
      readValue_append isFront, found]
  · rw [skipSpace_append isBack, noSpace]

theorem Complete.items_succ
    {fuel : Nat}
    (complete : Complete fuel)
    {text : List Char}
    {items : List Json}
    (rest : Bytes)
    (denotes : DenotesItems text items)
    (fits : 2 * text.length + 1 ≤ fuel + 1) :
    readItems (fuel + 1) (Text.encode text ++ 0x5D :: rest) = (Tree.ofItems items, some rest) := by
  cases denotes with
  | last denotes =>
      obtain ⟨behind, found, skipped⟩ := complete.within denotes
        (endsNumber_cons (by decide) (by decide) (by decide) rest : EndsNumber (0x5D :: rest)) rfl
        (by omega)
      simp only [readItems, found, skipped]
      rfl
  | @next text others item items denotes denotesOthers =>
      simp only [List.length_append, List.length_cons] at fits
      have text_eq : Text.encode (text ++ ',' :: others) ++ 0x5D :: rest =
          Text.encode text ++ 0x2C :: (Text.encode others ++ 0x5D :: rest) :=
        encode_followed (by decide) text others _
      obtain ⟨behind, found, skipped⟩ := complete.within denotes
        (endsNumber_cons (by decide) (by decide) (by decide) _ :
          EndsNumber (0x2C :: (Text.encode others ++ 0x5D :: rest))) rfl (by omega)
      have foundOthers := complete.items rest denotesOthers (by omega)
      rw [text_eq]
      simp only [readItems, found, skipped, foundOthers]
      rfl

/-- What is read behind a member and its blanks. -/
def behindMember (fuel : Nat) (member : Option String × Tree) :
    Bytes → List (Option String × Tree) × Option Bytes
  | 0x7D :: behind => ([member], some behind)
  | 0x2C :: behind =>
    let (members, behind) := readMembers fuel behind
    (member :: members, behind)
  | _ => ([member], none)

/-- A member is read up to what stands behind the blanks after its value. -/
theorem Complete.member
    {fuel : Nat}
    (complete : Complete fuel)
    {text : List Char}
    {key : String}
    {json : Json}
    {rest : Bytes}
    (denotes : DenotesMember text key json)
    (ends : EndsNumber rest)
    (noSpace : skipSpace rest = rest)
    (fits : 2 * text.length ≤ fuel) :
    readMembers (fuel + 1) (Text.encode text ++ rest) =
      behindMember fuel (some key, .ofJson json) rest := by
  obtain @⟨front, written, back, text, _, _, isFront, spells, isBack, denotes⟩ := denotes
  simp only [List.length_append, List.length_cons] at fits
  obtain ⟨behind, found, skipped⟩ := complete.within denotes ends noSpace (by omega)
  obtain ⟨pieces, scanned, isText⟩ := spells.exists_text?
    (Text.encode back ++ 0x3A :: (Text.encode text ++ rest))
  have opened : ∀ inside : Bytes, skipSpace (0x22 :: inside) = 0x22 :: inside := fun _ => rfl
  have colon : ∀ inside : Bytes, skipSpace (0x3A :: inside) = 0x3A :: inside := fun _ => rfl
  rw [encode_member, readMembers, skipSpace_append isFront, opened]
  simp only [scanned, isText, skipSpace_append isBack, colon, found, skipped]
  rfl

theorem Complete.members_succ
    {fuel : Nat}
    (complete : Complete fuel)
    {text : List Char}
    {members : List (String × Json)}
    (rest : Bytes)
    (denotes : DenotesMembers text members)
    (fits : 2 * text.length + 1 ≤ fuel + 1) :
    readMembers (fuel + 1) (Text.encode text ++ 0x7D :: rest) =
      (Tree.ofMembers members, some rest) := by
  cases denotes with
  | last denotes =>
      rw [complete.member denotes (endsNumber_cons (by decide) (by decide) (by decide) rest) rfl
        (by omega)]
      rfl
  | @next text others key json members denotes denotesOthers =>
      simp only [List.length_append, List.length_cons] at fits
      have text_eq : Text.encode (text ++ ',' :: others) ++ 0x7D :: rest =
          Text.encode text ++ 0x2C :: (Text.encode others ++ 0x7D :: rest) :=
        encode_followed (by decide) text others _
      have foundOthers := complete.members rest denotesOthers (by omega)
      rw [text_eq, complete.member denotes (endsNumber_cons (by decide) (by decide) (by decide) _)
        rfl (by omega)]
      simp only [behindMember, foundOthers]
      rfl

/-- The reader is complete with any fuel. -/
theorem complete (fuel : Nat) : Complete fuel := by
  induction fuel with
  | zero =>
      refine ⟨fun {text json rest} denotes _ fits => ?_, fun _ _ fits => absurd fits (by omega),
        fun _ _ fits => absurd fits (by omega)⟩
      obtain ⟨head, tail, text_eq, _⟩ := denotes.exists_head
      have empty : text = [] := List.length_eq_zero_iff.1 (by omega)
      rw [empty] at text_eq
      cases text_eq
  | succ fuel inductionHypothesis =>
      exact ⟨inductionHypothesis.value_succ, inductionHypothesis.items_succ,
        inductionHypothesis.members_succ⟩

/-! ## Texts -/

/-- Bytes write a value, with any blanks around it. -/
def Writes (input : Bytes) (json : Json) : Prop :=
  ∃ text, DenotesWithin text json ∧ input = Text.encode text

theorem Writes.ne_nil
    {input : Bytes}
    {json : Json}
    (writes : Writes input json) :
    input ≠ [] := by
  obtain ⟨_, ⟨_, denotes, _⟩, rfl⟩ := writes
  obtain ⟨head, tail, text_eq, _⟩ := denotes.exists_head
  rw [Text.encode_append, Text.encode_append, text_eq]
  simp

theorem endsNumber_nil : EndsNumber [] :=
  ⟨⟨nofun, nofun⟩, nofun⟩

/-- The bytes that the reader takes as a value are those that write it. -/
theorem readWhole_eq_some_iff
    {input : Bytes}
    {json : Json} :
    readWhole input = some (.ofJson json) ↔ Writes input json := by
  constructor
  · intro taken
    rw [readWhole] at taken
    split at taken
    · next tree rest found =>
      split at taken
      · next ended =>
        cases taken
        obtain ⟨front, text, isFront, denotes, rfl⟩ := (sound _).value found
        obtain ⟨back, isBack, rfl⟩ := exists_blank_of_skipSpace ended
        refine ⟨_, .within isFront denotes isBack, ?_⟩
        simp only [Text.encode_append, List.append_nil]
      · cases taken
    · cases taken
  · rintro ⟨text, denotes, rfl⟩
    have bound := Text.length_le_length_encode text
    obtain ⟨behind, found, ended⟩ := (complete (2 * (Text.encode text).length + 2)).within denotes
      endsNumber_nil rfl (by omega)
    rw [List.append_nil] at found
    rw [readWhole, read, found]
    exact if_pos ended

end Json
end TrafficGraph
