import TrafficGraph.Proofs.Json.Rewriting
import TrafficGraph.Wire.Basic

/-!
# Reading what is written otherwise

What a decoder reads from a value is looked at without the fault it may report instead.  A
decoder respects a shape if it reads the same however a value of the shape is written; the
decoders of lists, of values that may be null and of records do.
-/

namespace TrafficGraph
namespace Json

theorem toOption_eq_some_iff
    {α : Type}
    {result : Except Fault α}
    {value : α} :
    result.toOption = some value ↔ result = .ok value := by
  cases result <;> simp [Except.toOption]

theorem toOption_map
    {α β : Type}
    (function : α → β)
    (result : Except Fault α) :
    (result.map function).toOption = result.toOption.map function := by
  cases result <;> rfl

theorem toOption_bind
    {α β : Type}
    (result : Except Fault α)
    (next : α → Except Fault β) :
    (result >>= next).toOption = result.toOption.bind fun value => (next value).toOption := by
  cases result <;> rfl

/-- Different values have different trees. -/
theorem ofJson_injective : Function.Injective Tree.ofJson := by
  intro first second same
  have isFirst := value_ofJson first (Nat.lt_succ_of_le (Nat.le_max_left _ (nesting second)))
  have isSecond := value_ofJson second (Nat.lt_succ_of_le (Nat.le_max_right (nesting first) _))
  rw [same, isSecond] at isFirst
  exact (Except.ok.inj isFirst).symm

theorem toOption_value
    {allowance : Nat}
    (positive : 0 < allowance)
    (json : Json) :
    (Tree.value allowance (.ofJson json)).toOption =
      if nesting json < allowance then some json else none := by
  split
  · next fits => rw [value_ofJson json fits, Except.toOption]
  · next tooDeep =>
    refine Option.eq_none_iff_forall_ne_some.2 fun found isFound => tooDeep ?_
    obtain ⟨same, fits⟩ := (value_eq_ok_iff positive).1 (toOption_eq_some_iff.1 isFound)
    rwa [ofJson_injective same]

theorem toOption_memberValues
    {allowance : Nat}
    (positive : 0 < allowance)
    (members : List (String × Json)) :
    (Tree.memberValues allowance (Tree.ofMembers members) true).toOption =
      if nestingOfMembers members < allowance then some members else none := by
  split
  · next fits => rw [memberValues_ofMembers members fits, Except.toOption]
  · next tooDeep =>
    refine Option.eq_none_iff_forall_ne_some.2 fun found isFound => tooDeep ?_
    obtain ⟨same, -, fits⟩ :=
      eq_ofMembers_of_memberValues _ positive (toOption_eq_some_iff.1 isFound)
    rwa [Json.object.inj (ofJson_injective (congrArg (Tree.object · true) same))]

namespace Decoder

variable {α : Type} {decoder : Decoder α} {allowance : Nat} {json other : Json}

/-- What a decoder reads from a value, if it reports no fault. -/
def read? (decoder : Decoder α) (allowance : Nat) (json : Json) : Option α :=
  (decoder allowance (.ofJson json)).toOption

/-- A decoder reads the same from a value of a shape however it is written. -/
def Respects (decoder : Decoder α) (allowance : Nat) (shape : Shape) : Prop :=
  ∀ ⦃json other⦄, Varies shape json other →
    decoder.read? allowance other = decoder.read? allowance json

@[simp] theorem respects_fixed (decoder : Decoder α) (allowance : Nat) :
    decoder.Respects allowance .fixed :=
  nofun

theorem Respects.read?_eq
    {shape : Shape}
    (respects : decoder.Respects allowance shape)
    (rewrites : Rewrites shape json other) :
    decoder.read? allowance other = decoder.read? allowance json := by
  induction rewrites with
  | refl => rfl
  | tail _ varies inductionHypothesis => exact (respects varies).trans inductionHypothesis

theorem read?_scalar (accept : Tree → Option α) (allowance : Nat) (json : Json) :
    (scalar accept).read? allowance json = accept (.ofJson json) := by
  rw [read?, scalar]
  cases accept (.ofJson json) <;> rfl

@[simp] theorem read?_string (allowance : Nat) (text : String) :
    string.read? allowance (.string text) = some text := rfl

theorem read?_string_eq_some_iff
    {text : String} :
    string.read? allowance json = some text ↔ json = .string text := by
  rw [string, read?_scalar]
  cases json <;> simp [Tree.ofJson]

@[simp] theorem read?_bool (allowance : Nat) (flag : Bool) :
    bool.read? allowance (.bool flag) = some flag := rfl

/-! ## Lists -/

theorem toOption_items
    (decoder : Decoder α)
    (allowance : Nat)
    (values : List Json) :
    (items decoder allowance (Tree.ofItems values) true).toOption =
      values.mapM (decoder.read? allowance) := by
  induction values with
  | nil => rfl
  | cons value values inductionHypothesis =>
      rw [Tree.ofItems, items, List.mapM_cons, read?]
      cases decoder allowance (.ofJson value) with
      | error fault => rfl
      | ok first =>
          dsimp only
          rw [toOption_map, inductionHypothesis]
          cases values.mapM (decoder.read? allowance) <;> rfl

theorem read?_list
    (decoder : Decoder α)
    (allowance : Nat)
    (values : List Json) :
    (list decoder).read? allowance (.array values) =
      (nest allowance).toOption.bind fun inner => values.mapM (decoder.read? inner) := by
  rw [read?, Tree.ofJson, list]
  cases nest allowance with
  | error fault => rfl
  | ok inner => exact toOption_items decoder inner values

theorem Respects.list
    {shape : Shape}
    (respects : ∀ inner, nest allowance = .ok inner → decoder.Respects inner shape) :
    (Decoder.list decoder).Respects allowance (.list shape) := by
  rintro _ _ (_ | _ | _ | _ | _ | ⟨inside⟩)
  rw [read?_list, read?_list]
  cases nested : nest allowance with
  | error fault => rfl
  | ok inner =>
      change List.mapM _ _ = List.mapM _ _
      rw [List.mapM_append, List.mapM_append, List.mapM_cons, List.mapM_cons,
        respects inner nested inside]

/-- A list is read back if its items are. -/
theorem read?_list_map
    {encode : α → Json}
    {values : List α}
    (fits : nesting (.array (values.map encode)) < allowance)
    (reads : ∀ value ∈ values, ∀ inner, nesting (encode value) < inner →
      decoder.read? inner (encode value) = some value) :
    (list decoder).read? allowance (.array (values.map encode)) = some values := by
  obtain ⟨inner, nested, itemsFit⟩ := exists_nest_eq_ok fits
  rw [read?_list, nested]
  have each := (nestingOfItems_lt_iff (Nat.zero_lt_of_lt itemsFit)).1 itemsFit
  change (values.map encode).mapM (decoder.read? inner) = some values
  clear fits itemsFit
  induction values with
  | nil => rfl
  | cons value values inductionHypothesis =>
      obtain ⟨isFirst, others⟩ := List.forall_mem_cons.1 reads
      obtain ⟨fitsFirst, othersFit⟩ := List.forall_mem_cons.1 each
      rw [List.map_cons, List.mapM_cons, isFirst inner fitsFirst,
        inductionHypothesis others othersFit]
      rfl

/-! ## Values that may be null -/

@[simp] theorem read?_nullable_null (decoder : Decoder α) (allowance : Nat) :
    decoder.nullable.read? allowance .null = some none :=
  rfl

theorem read?_nullable
    (decoder : Decoder α)
    (allowance : Nat)
    (present : json ≠ .null) :
    decoder.nullable.read? allowance json = (decoder.read? allowance json).map some := by
  cases json with
  | null => exact absurd rfl present
  | _ => exact toOption_map some _

theorem Respects.nullable
    {shape : Shape}
    (respects : decoder.Respects allowance shape) :
    decoder.nullable.Respects allowance shape := by
  intro json other varies
  obtain ⟨present, otherPresent⟩ := varies.ne_null
  rw [read?_nullable decoder allowance present, read?_nullable decoder allowance otherPresent,
    respects varies]

theorem read?_nullable_eq_some
    {value : α}
    (present : json ≠ .null)
    (reads : decoder.read? allowance json = some value) :
    decoder.nullable.read? allowance json = some (some value) := by
  rw [read?_nullable decoder allowance present, reads, Option.map_some]

/-- What may be null is read back if values are, which are never null themselves. -/
theorem read?_nullable_encode
    {encode : α → Json}
    {value? : Option α}
    (present : ∀ value, encode value ≠ .null)
    (reads : ∀ value, value? = some value → decoder.read? allowance (encode value) = some value) :
    decoder.nullable.read? allowance (Wire.nullable encode value?) = some value? := by
  cases value? with
  | none => rfl
  | some value => exact read?_nullable_eq_some (present value) (reads value rfl)

/-! ## Records -/

theorem record_eq_ok_iff
    {tree : Tree}
    {record : Record} :
    Decoder.record allowance tree = .ok record ↔
      ∃ members, tree.value allowance = .ok (.object members) ∧
        record = Record.ofMembers members := by
  cases tree with
  | object members complete =>
      rw [Decoder.record, Tree.value]
      cases nest allowance with
      | error fault => simp
      | ok inner =>
          dsimp only
          cases Tree.memberValues inner members complete <;> simp [Except.map, eq_comm]
  | array items complete =>
      rw [Tree.value]
      cases nest allowance with
      | error fault => simp [Decoder.record]
      | ok inner =>
          dsimp only
          cases Tree.itemValues inner items complete <;> simp [Decoder.record, Except.map]
  | _ => simp [Decoder.record, Tree.value]

/-- A record is read from an object that is not nested too deeply. -/
theorem read?_record_eq_some_iff
    {record : Record}
    (positive : 0 < allowance) :
    Decoder.record.read? allowance json = some record ↔
      ∃ members, json = .object members ∧ nesting json < allowance ∧
        record = Record.ofMembers members := by
  rw [read?, toOption_eq_some_iff, record_eq_ok_iff]
  constructor
  · rintro ⟨members, isValue, record_eq⟩
    obtain ⟨tree_eq, fits⟩ := (value_eq_ok_iff positive).1 isValue
    obtain rfl := ofJson_injective tree_eq
    exact ⟨members, rfl, fits, record_eq⟩
  · rintro ⟨members, rfl, fits, record_eq⟩
    exact ⟨members, value_ofJson _ fits, record_eq⟩

theorem read?_record_of_holdsSame
    {record : Record}
    (positive : 0 < allowance)
    (same : HoldsSame json other)
    (reads : Decoder.record.read? allowance json = some record) :
    Decoder.record.read? allowance other = some record := by
  obtain ⟨members, rfl, fits, record_eq⟩ := (read?_record_eq_some_iff positive).1 reads
  obtain ⟨normalize_eq, nesting_eq⟩ := same
  cases other with
  | object others =>
      refine (read?_record_eq_some_iff positive).2 ⟨others, rfl, nesting_eq ▸ fits, ?_⟩
      rw [record_eq]
      exact Record.ext (Json.object.inj normalize_eq)
  | _ => cases normalize_eq

/-- The members of a record may come in any order. -/
theorem respects_record (positive : 0 < allowance) :
    Decoder.record.Respects allowance .free := by
  rintro json other (_ | _ | _ | _ | _ | _ | reorders)
  obtain ⟨normalize_eq, nesting_eq⟩ := reorders.holdsSame
  refine Option.ext fun record => ⟨?_, ?_⟩
  · exact read?_record_of_holdsSame positive ⟨normalize_eq.symm, nesting_eq.symm⟩
  · exact read?_record_of_holdsSame positive ⟨normalize_eq, nesting_eq⟩

/-- A record is read from its own object. -/
theorem read?_record_toJson
    {record : Record}
    (fits : nesting record.toJson < allowance) :
    Decoder.record.read? allowance record.toJson = some record :=
  (read?_record_eq_some_iff (Nat.zero_lt_of_lt fits)).2
    ⟨record.members, rfl, fits, (Record.ofMembers_members record).symm⟩

end Decoder
end Json
end TrafficGraph
