/-!
# JSON values and records

A JSON number is an integer that fits 64 bits, with or without a sign, or a
binary64 number; the two kinds are told apart, so `80` and `80.0` differ.  The
members of a normal object are ordered by key and no key is repeated.  A record
is the content of a normal object, and every list of members has exactly one
record, in which the last of several equal keys wins.
-/

namespace TrafficGraph

/-- A number of a JSON text. -/
inductive Number
  /-- An integer of at most 64 bits. -/
  | integer (value : Int)
      (bounds : -9223372036854775808 ≤ value ∧ value < 18446744073709551616)
  /-- Any other number. -/
  | float (value : Float)

namespace Number

/-- An unsigned word of 64 bits. -/
def ofWord64 (word : UInt64) : Number :=
  .integer word.toNat (by have := word.toNat_lt; omega)

/-- A signed word of 64 bits. -/
def ofInt64 (word : Int64) : Number :=
  .integer word.toInt (by
    have lower := word.le_toInt
    have upper := word.toInt_lt
    omega)

/-- The integer of a number, if it is one that lies in a range. -/
def integerIn? (lower upper : Int) : Number → Option Int
  | .integer value _ => if lower ≤ value ∧ value < upper then some value else none
  | .float _ => none

/-- The number as an unsigned word of 64 bits. -/
def word64? (number : Number) : Option UInt64 :=
  (number.integerIn? 0 18446744073709551616).map fun value => UInt64.ofNat value.toNat

/-- The number as an unsigned word of 16 bits. -/
def word16? (number : Number) : Option UInt16 :=
  (number.integerIn? 0 65536).map fun value => UInt16.ofNat value.toNat

/-- The number as a signed word of 64 bits. -/
def int64? (number : Number) : Option Int64 :=
  (number.integerIn? (-9223372036854775808) 9223372036854775808).map Int64.ofInt

/-- The number rounded to binary64. -/
def toFloat : Number → Float
  | .integer value _ => Float.ofInt value
  | .float value => value

@[simp] theorem word64?_ofWord64 (word : UInt64) : (ofWord64 word).word64? = some word := by
  have bound := word.toNat_lt
  simp [word64?, ofWord64, integerIn?]
  omega

@[simp] theorem int64?_ofInt64 (word : Int64) : (ofInt64 word).int64? = some word := by
  have lower := word.le_toInt
  have upper := word.toInt_lt
  simp [int64?, ofInt64, integerIn?]
  omega

end Number

/-- A JSON value; the members of an object are listed in some order. -/
inductive Json
  | null
  | bool (value : Bool)
  | number (value : Number)
  | string (value : String)
  | array (items : List Json)
  | object (members : List (String × Json))

namespace Json

/-- The keys of a member list increase strictly. -/
def KeysIncrease (members : List (String × Json)) : Prop :=
  members.Pairwise fun first second => first.1 < second.1

mutual

/-- Every object inside the value lists its members by increasing key. -/
def Normal : Json → Prop
  | .array items => NormalItems items
  | .object members => KeysIncrease members ∧ NormalMembers members
  | .null => True
  | .bool _ => True
  | .number _ => True
  | .string _ => True

/-- Every value of a list is normal. -/
def NormalItems : List Json → Prop
  | [] => True
  | item :: rest => Normal item ∧ NormalItems rest

/-- Every value of a member list is normal. -/
def NormalMembers : List (String × Json) → Prop
  | [] => True
  | (_, value) :: rest => Normal value ∧ NormalMembers rest

end

/-- Puts a member at the place of its key, unless the key is there already. -/
def insertMember (key : String) (value : Json) :
    List (String × Json) → List (String × Json)
  | [] => [(key, value)]
  | (other, present) :: rest =>
    if key < other then (key, value) :: (other, present) :: rest
    else if key = other then (other, present) :: rest
    else (other, present) :: insertMember key value rest

mutual

/-- The value with the members of its objects ordered by key, the last of
several equal keys being kept. -/
def normalize : Json → Json
  | .array items => .array (normalizeItems items)
  | .object members => .object (normalizeMembers members)
  | .null => .null
  | .bool value => .bool value
  | .number value => .number value
  | .string value => .string value

/-- The items of an array, each normalized. -/
def normalizeItems : List Json → List Json
  | [] => []
  | item :: rest => normalize item :: normalizeItems rest

/-- The members of an object, normalized and ordered by key. -/
def normalizeMembers : List (String × Json) → List (String × Json)
  | [] => []
  | (key, value) :: rest => insertMember key (normalize value) (normalizeMembers rest)

end

theorem mem_insertMember {key : String} {value : Json} {members : List (String × Json)}
    {member : String × Json} (inserted : member ∈ insertMember key value members) :
    member = (key, value) ∨ member ∈ members := by
  induction members with
  | nil => simpa [insertMember] using inserted
  | cons head rest inductionHypothesis =>
    obtain ⟨other, present⟩ := head
    rw [insertMember] at inserted
    split at inserted
    · simpa using inserted
    · split at inserted
      · exact .inr inserted
      · rcases List.mem_cons.1 inserted with here | there
        · exact .inr (by simp [here])
        · rcases inductionHypothesis there with new | old
          · exact .inl new
          · exact .inr (by simp [old])

theorem keysIncrease_insertMember (key : String) (value : Json)
    {members : List (String × Json)} (increase : KeysIncrease members) :
    KeysIncrease (insertMember key value members) := by
  induction members with
  | nil => simp [insertMember, KeysIncrease]
  | cons head rest inductionHypothesis =>
    obtain ⟨other, present⟩ := head
    have later : ∀ member ∈ rest, other < member.1 := (List.pairwise_cons.1 increase).1
    have inner : KeysIncrease rest := (List.pairwise_cons.1 increase).2
    rw [insertMember]
    split
    · next before =>
      refine List.pairwise_cons.2 ⟨?_, increase⟩
      intro member membership
      rcases List.mem_cons.1 membership with rfl | deeper
      · exact before
      · exact String.lt_trans before (later member deeper)
    · next notBefore =>
      split
      · exact increase
      · next different =>
        refine List.pairwise_cons.2 ⟨?_, inductionHypothesis inner⟩
        intro member membership
        rcases mem_insertMember membership with rfl | deeper
        · have notAfter : other ≤ key := String.not_lt.1 notBefore
          exact Decidable.byContradiction fun notLess =>
            different (String.le_antisymm (String.not_lt.1 notLess) notAfter)
        · exact later member deeper

theorem normalMembers_insertMember {key : String} {value : Json} (normal : Normal value)
    {members : List (String × Json)} (others : NormalMembers members) :
    NormalMembers (insertMember key value members) := by
  induction members with
  | nil => exact ⟨normal, trivial⟩
  | cons head rest inductionHypothesis =>
    obtain ⟨other, present⟩ := head
    rw [insertMember]
    split
    · exact ⟨normal, others⟩
    · split
      · exact others
      · exact ⟨others.1, inductionHypothesis others.2⟩

mutual

theorem normal_normalize : ∀ value : Json, Normal (normalize value)
  | .array items => normalItems_normalizeItems items
  | .object members => normalMembers_normalizeMembers members
  | .null => trivial
  | .bool _ => trivial
  | .number _ => trivial
  | .string _ => trivial

theorem normalItems_normalizeItems : ∀ items : List Json, NormalItems (normalizeItems items)
  | [] => trivial
  | item :: rest => ⟨normal_normalize item, normalItems_normalizeItems rest⟩

theorem normalMembers_normalizeMembers : ∀ members : List (String × Json),
    KeysIncrease (normalizeMembers members) ∧ NormalMembers (normalizeMembers members)
  | [] => ⟨List.Pairwise.nil, trivial⟩
  | (key, value) :: rest =>
    have later := normalMembers_normalizeMembers rest
    ⟨keysIncrease_insertMember key _ later.1,
      normalMembers_insertMember (normal_normalize value) later.2⟩

end

theorem insertMember_of_forall_lt {key : String} {value : Json}
    {members : List (String × Json)} (first : ∀ member ∈ members, key < member.1) :
    insertMember key value members = (key, value) :: members := by
  cases members with
  | nil => rfl
  | cons head rest =>
    have before : key < head.1 := first head (by simp)
    obtain ⟨other, present⟩ := head
    rw [insertMember, if_pos before]

mutual

theorem normalize_of_normal : ∀ {value : Json}, Normal value → normalize value = value
  | .array _, normal => congrArg Json.array (normalizeItems_of_normal normal)
  | .object _, normal =>
    congrArg Json.object (normalizeMembers_of_normal normal.1 normal.2)
  | .null, _ => rfl
  | .bool _, _ => rfl
  | .number _, _ => rfl
  | .string _, _ => rfl

theorem normalizeItems_of_normal : ∀ {items : List Json}, NormalItems items →
    normalizeItems items = items
  | [], _ => rfl
  | _ :: _, normal => by
    rw [normalizeItems, normalize_of_normal normal.1, normalizeItems_of_normal normal.2]

theorem normalizeMembers_of_normal : ∀ {members : List (String × Json)},
    KeysIncrease members → NormalMembers members → normalizeMembers members = members
  | [], _, _ => rfl
  | (_, _) :: _, increase, normal => by
    have ordered := List.pairwise_cons.1 increase
    rw [normalizeMembers, normalize_of_normal normal.1,
      normalizeMembers_of_normal ordered.2 normal.2]
    exact insertMember_of_forall_lt ordered.1

end

end Json

/-- The content of a normal JSON object: one observation as it was delivered. -/
structure Record where
  /-- The members, by increasing key. -/
  members : List (String × Json)
  /-- The members form a normal object. -/
  normal : Json.Normal (.object members)

namespace Record

/-- The record of a member list, in which the last of several equal keys wins. -/
def ofMembers (members : List (String × Json)) : Record where
  members := Json.normalizeMembers members
  normal := Json.normalMembers_normalizeMembers members

/-- The record as a JSON object. -/
def toJson (record : Record) : Json :=
  .object record.members

/-- The keys of a record, in increasing order. -/
def keys (record : Record) : List String :=
  record.members.map Prod.fst

/-- The value of a key. -/
def get? (record : Record) (key : String) : Option Json :=
  record.members.lookup key

@[ext] theorem ext {first second : Record} (equality : first.members = second.members) :
    first = second := by
  cases first; cases second; cases equality; rfl

/-- A record is the record of its own members. -/
@[simp] theorem ofMembers_members (record : Record) : ofMembers record.members = record :=
  Record.ext (Json.normalizeMembers_of_normal record.normal.1 record.normal.2)

end Record

end TrafficGraph
