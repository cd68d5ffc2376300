import TrafficGraph.Proofs.Json.Fields
import TrafficGraph.Proofs.Json.Printing

/-!
# Values that survive the wire

The encoding of a value is laid out in a known shape, and any way to write it may arrive: with
its fields in another order, with unknown fields, with or without what is absent.  A type is
lossless if the value comes back from all of them, and from every text of them.  Most types are
read field by field, and what stands under an unknown name is passed over, however deeply it is
nested; a type that is buffered is read as a whole first, and unknown fields count in its
nesting.
-/

namespace TrafficGraph

open Json (nesting nestingAllowance)

namespace Wire

/-- How the values of a type are laid out as JSON. -/
class Layout (α : Type) where
  /-- The shape of the encoding of a value. -/
  shape : α → Json.Shape
  /-- The counts that a value holds. -/
  counts : α → List Nat := fun _ => []
  /-- A value is read as a whole before its parts are. -/
  isBuffered : Bool := false

variable {α : Type} [Wire α] [Layout α]

/-- The counts of a value are words of 64 bits, as they are written. -/
def IsCounted {α : Type} [Layout α] (value : α) : Prop :=
  ∀ number ∈ Layout.counts value, number < UInt64.size

/-- A value can be sent: its counts can be written, and its encoding is not nested more deeply
than decoders allow. -/
structure IsSendable (value : α) : Prop where
  counted : IsCounted value
  fits : nesting (encode value) < nestingAllowance

/-- One way to write a value that can be sent. -/
structure IsWriting (value : α) (json : Json) : Prop where
  sendable : IsSendable value
  rewrites : Json.Rewrites (Layout.shape value) (encode value) json

/-- A type can hold what is written: if it is buffered, that is not nested too deeply. -/
def CanHold (α : Type) [Layout α] (json : Json) : Prop :=
  Layout.isBuffered α = true → nesting json < nestingAllowance

/-- Values come back from the wire, however they are written. -/
structure Lossless (α : Type) [Wire α] [Layout α] : Prop where
  /-- A value is decoded from each of its writings that the type can hold. -/
  decodes : ∀ {value : α} {json}, IsWriting value json → CanHold α json →
    decode? json = some value
  /-- Nothing is decoded from any other. -/
  refuses : ∀ {value : α} {json}, IsWriting value json → ¬CanHold α json →
    (decode? json : Option α) = none
  /-- A value is parsed from each text of its writings. -/
  parses : ∀ {value : α} {json input}, IsWriting value json → CanHold α json →
    Json.Writes input json → parse? input = some value ∧ parseFirst α input = .ok value
  /-- A value without floating point numbers is parsed from what is printed for it. -/
  prints : ∀ {value : α}, IsSendable value → Json.IsExact (encode value) →
    parse? (Json.print (encode value)) = some value ∧
      parseFirst α (Json.print (encode value)) = .ok value

/-! ## Decoding and parsing -/

theorem read_of_writes
    {input : Bytes}
    {json : Json}
    (writes : Json.Writes input json) :
    Json.readWhole input = some (.ofJson json) ∧ (Json.read input).1 = .ofJson json := by
  have whole := Json.readWhole_eq_some_iff.2 writes
  refine ⟨whole, ?_⟩
  rw [Json.readWhole] at whole
  split at whole
  · next tree rest found =>
    split at whole
    · cases whole
      rw [found]
    · cases whole
  · cases whole

omit [Layout α] in
theorem parse_of_writes
    {value : α}
    {input : Bytes}
    {json : Json}
    (writes : Json.Writes input json)
    (decoded : decode? json = some value) :
    parse? input = some value ∧ parseFirst α input = .ok value := by
  obtain ⟨whole, first⟩ := read_of_writes writes
  constructor
  · rw [parse?, whole]
    exact decoded
  · rw [parseFirst, first]
    exact Json.toOption_eq_some_iff.1 decoded

theorem writes_print
    {json : Json}
    (isExact : Json.IsExact json) :
    Json.Writes (Json.print json) json := by
  obtain ⟨text, denotes, print_eq⟩ := Json.exists_denotes_print isExact
  exact ⟨text, denotes.toWithin, print_eq⟩

theorem IsSendable.isWriting
    {value : α}
    (sendable : IsSendable value) :
    IsWriting value (encode value) :=
  ⟨sendable, .refl⟩

/-- It is enough to tell what is decoded from the writings of a value. -/
theorem lossless_of_decode?
    (decodes : ∀ {value : α} {json}, IsWriting value json → CanHold α json →
      decode? json = some value)
    (refuses : ∀ {value : α} {json}, IsWriting value json → ¬CanHold α json →
      (decode? json : Option α) = none) :
    Lossless α where
  decodes := decodes
  refuses := refuses
  parses isWriting canHold writes := parse_of_writes writes (decodes isWriting canHold)
  prints sendable isExact :=
    parse_of_writes (writes_print isExact) (decodes sendable.isWriting fun _ => sendable.fits)

/-- A type is lossless if its decoder respects the shape of its values and reads back their
encodings. -/
theorem lossless_of_respects
    (plain : Layout.isBuffered α = false)
    (respects : ∀ value : α,
      (decoder : Json.Decoder α).Respects nestingAllowance (Layout.shape value))
    (reads : ∀ {value : α}, IsSendable value →
      decoder.read? nestingAllowance (encode value) = some value) :
    Lossless α := by
  have canHold : ∀ json, CanHold α json := by
    intro json isBuffered
    rw [plain] at isBuffered
    cases isBuffered
  refine lossless_of_decode? ?_ fun {_ json} _ tooDeep => absurd (canHold json) tooDeep
  intro value json isWriting _
  exact ((respects value).read?_eq isWriting.rewrites).trans (reads isWriting.sendable)

/-- A type that is read field by field is lossless if its fields fit the shape and are read
back one by one. -/
theorem lossless_of_fields
    {fields : Json.Fields α}
    {slots : List (Json.Slot Json.Shape)}
    {members : α → List (String × Json)}
    (plain : Layout.isBuffered α = false)
    (shape_eq : ∀ value : α, Layout.shape value = .object slots)
    (decoder_eq : decoder = fields.decoder)
    (encode_eq : ∀ value : α, encode value = .object (members value))
    (distinct : fields.names.Nodup)
    (fit : ∀ inner, fields.Fit slots inner)
    (collects : ∀ inner value, IsCounted value →
      fields.collect inner (members value) = some value) :
    Lossless α := by
  refine lossless_of_respects plain (fun value => ?_) fun {value} sendable => ?_
  · rw [shape_eq, decoder_eq]
    exact Json.Fields.respects_decoder distinct fun inner _ => fit inner
  · have fits := sendable.fits
    rw [encode_eq] at fits
    rw [encode_eq, decoder_eq]
    exact Json.Fields.read?_decoder_eq_some distinct fits fun inner _ =>
      collects inner value sendable.counted

/-! ## Texts and numbers -/

@[simp] theorem read?_optionalText (allowance : Nat) (text? : Option String) :
    Json.Decoder.string.nullable.read? allowance (nullable .string text?) = some text? :=
  Json.Decoder.read?_nullable_encode nofun fun _ _ => rfl

@[simp] theorem read?_word64 (allowance : Nat) (word : UInt64) :
    Json.Decoder.word64.read? allowance (word64 word) = some word :=
  (Json.Decoder.read?_scalar _ allowance _).trans (Number.word64?_ofWord64 word)

theorem word16?_ofWord64 (word : UInt16) : (Number.ofWord64 word.toUInt64).word16? = some word := by
  have bound := word.toNat_lt
  simp [Number.word16?, Number.ofWord64, Number.integerIn?]
  omega

@[simp] theorem read?_word16 (allowance : Nat) (word : UInt16) :
    Json.Decoder.word16.read? allowance (word16 word) = some word :=
  (Json.Decoder.read?_scalar _ allowance _).trans (word16?_ofWord64 word)

@[simp] theorem read?_int64 (allowance : Nat) (word : Int64) :
    Json.Decoder.int64.read? allowance (int64 word) = some word :=
  (Json.Decoder.read?_scalar _ allowance _).trans (Number.int64?_ofInt64 word)

theorem word64?_integer
    (number : Nat)
    (bounds : -9223372036854775808 ≤ (number : Int) ∧ (number : Int) < 18446744073709551616) :
    (Number.integer number bounds).word64?.map UInt64.toNat = some number := by
  have small : number < 18446744073709551616 := Int.ofNat_lt.1 bounds.2
  simp [Number.word64?, Number.integerIn?, bounds.2, small]

/-- A count that is a word of 64 bits is written as it is. -/
theorem read?_count
    {number : Nat}
    (small : number < UInt64.size)
    (allowance : Nat) :
    Json.Decoder.count.read? allowance (count number) = some number := by
  have same : min number 18446744073709551615 = number := by
    have bound : number < 18446744073709551616 := small
    omega
  have written : Json.Decoder.count.read? allowance (count number) =
      some (min number 18446744073709551615) :=
    (Json.Decoder.read?_scalar _ allowance _).trans (word64?_integer _ _)
  rwa [same] at written

theorem IsCounted.reads
    {α : Type}
    [Layout α]
    {value : α}
    (counted : IsCounted value)
    (allowance : Nat) :
    ∀ number ∈ Layout.counts value,
      Json.Decoder.count.read? allowance (count number) = some number :=
  fun number listed => read?_count (counted number listed) allowance

end Wire
end TrafficGraph
