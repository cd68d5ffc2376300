import Mathlib.Logic.Relation
import TrafficGraph.Proofs.Json.Nesting

/-!
# Writing a value otherwise

The same data can be written in many ways.  The fields of an object may stand in any order,
others with unknown names may stand among them, and a field may be missing if its absence says
as much as its value.  Data that nobody knows the fields of can only be reordered, which changes
neither its nesting nor what it is normalized to.
-/

namespace TrafficGraph
namespace Json

/-! ## Shapes -/

/-- A field of the objects of a shape. -/
structure Slot (σ : Type) where
  /-- The name of the field. -/
  name : String
  /-- The value that a missing field stands for, if the field may be missing. -/
  absent : Option Json
  /-- The shape of the values of the field. -/
  shape : σ

/-- What is known of the fields in a JSON value. -/
inductive Shape
  /-- There are no fields that could be written otherwise. -/
  | fixed
  /-- There may be objects anywhere, and all their members are data. -/
  | free
  /-- An array whose items have a shape. -/
  | list (item : Shape)
  /-- An object with some fields. -/
  | object (slots : List (Slot Shape))

/-- A field that has to be given. -/
def Slot.required (name : String) (shape : Shape) : Slot Shape :=
  ⟨name, none, shape⟩

/-- A field that may be null or missing. -/
def Slot.optional (name : String) (shape : Shape) : Slot Shape :=
  ⟨name, some .null, shape⟩

/-- A field that stands for a value of its own when it is missing. -/
def Slot.defaulted (name : String) (absent : Json) (shape : Shape) : Slot Shape :=
  ⟨name, some absent, shape⟩

@[simp] theorem Slot.name_required (name : String) (shape : Shape) :
    (required name shape).name = name := rfl

@[simp] theorem Slot.name_optional (name : String) (shape : Shape) :
    (optional name shape).name = name := rfl

@[simp] theorem Slot.name_defaulted (name : String) (absent : Json) (shape : Shape) :
    (defaulted name absent shape).name = name := rfl

/-! ## Changes -/

/-- The members of one object, at any depth, come in another order; none of its keys is
repeated. -/
inductive Reorders : Json → Json → Prop
  | order {members others : List (String × Json)} (distinct : (members.map Prod.fst).Nodup)
      (perm : members.Perm others) : Reorders (.object members) (.object others)
  | member {front back : List (String × Json)} {key : String} {json other : Json}
      (inside : Reorders json other) :
      Reorders (.object (front ++ (key, json) :: back)) (.object (front ++ (key, other) :: back))
  | item {front back : List Json} {json other : Json} (inside : Reorders json other) :
      Reorders (.array (front ++ json :: back)) (.array (front ++ other :: back))

/-- A value of a shape is written otherwise in one place. -/
inductive Varies : Shape → Json → Json → Prop
  /-- The fields come in another order. -/
  | order {slots : List (Slot Shape)} {members others : List (String × Json)}
      (perm : members.Perm others) : Varies (.object slots) (.object members) (.object others)
  /-- A field with an unknown name is added. -/
  | add {slots : List (Slot Shape)} {members : List (String × Json)} {name : String}
      (value : Json) (unknown : ∀ slot ∈ slots, slot.name ≠ name) :
      Varies (.object slots) (.object members) (.object ((name, value) :: members))
  /-- A field is left out whose value says what its absence says. -/
  | leaveOut {slots : List (Slot Shape)} {members : List (String × Json)} {slot : Slot Shape}
      {json : Json} (listed : slot ∈ slots) (absent : slot.absent = some json)
      (single : slot.name ∉ members.map Prod.fst) :
      Varies (.object slots) (.object ((slot.name, json) :: members)) (.object members)
  /-- A missing field is given the value that its absence stands for. -/
  | giveBack {slots : List (Slot Shape)} {members : List (String × Json)} {slot : Slot Shape}
      {json : Json} (listed : slot ∈ slots) (absent : slot.absent = some json)
      (missing : slot.name ∉ members.map Prod.fst) :
      Varies (.object slots) (.object members) (.object ((slot.name, json) :: members))
  /-- The value of a field is written otherwise. -/
  | member {slots : List (Slot Shape)} {members : List (String × Json)} {slot : Slot Shape}
      {json other : Json} (listed : slot ∈ slots) (inside : Varies slot.shape json other) :
      Varies (.object slots) (.object ((slot.name, json) :: members))
        (.object ((slot.name, other) :: members))
  /-- An item of an array is written otherwise. -/
  | item {shape : Shape} {front back : List Json} {json other : Json}
      (inside : Varies shape json other) :
      Varies (.list shape) (.array (front ++ json :: back)) (.array (front ++ other :: back))
  /-- Data is reordered. -/
  | reorder {json other : Json} (reorders : Reorders json other) : Varies .free json other

/-- A value of a shape is written otherwise, in any number of places. -/
def Rewrites (shape : Shape) : Json → Json → Prop :=
  Relation.ReflTransGen (Varies shape)

theorem Reorders.ne_null
    {json other : Json}
    (reorders : Reorders json other) :
    json ≠ .null ∧ other ≠ .null := by
  cases reorders <;> exact ⟨nofun, nofun⟩

theorem Varies.ne_null
    {shape : Shape}
    {json other : Json}
    (varies : Varies shape json other) :
    json ≠ .null ∧ other ≠ .null := by
  cases varies with
  | reorder reorders => exact reorders.ne_null
  | _ => exact ⟨nofun, nofun⟩

theorem Varies.exists_members
    {slots : List (Slot Shape)}
    {json other : Json}
    (varies : Varies (.object slots) json other) :
    ∃ members others, json = .object members ∧ other = .object others := by
  cases varies <;> exact ⟨_, _, rfl, rfl⟩

/-! ## Reordered data -/

theorem perm_insertMember
    {key : String}
    {members : List (String × Json)}
    (new : key ∉ members.map Prod.fst)
    (value : Json) :
    (insertMember key value members).Perm ((key, value) :: members) := by
  induction members with
  | nil => exact .refl _
  | cons head rest inductionHypothesis =>
      obtain ⟨other, present⟩ := head
      rw [List.map_cons, List.mem_cons, not_or] at new
      rw [insertMember]
      split
      · exact .refl _
      · rw [if_neg new.1]
        exact ((inductionHypothesis new.2).cons _).trans (.swap _ _ _)

/-- Normalizing an object without repeated keys loses no member. -/
theorem perm_normalizeMembers
    {members : List (String × Json)}
    (distinct : (members.map Prod.fst).Nodup) :
    (normalizeMembers members).Perm (members.map fun member => (member.1, normalize member.2)) := by
  induction members with
  | nil => exact .refl _
  | cons head rest inductionHypothesis =>
      obtain ⟨key, value⟩ := head
      obtain ⟨new, others⟩ := List.nodup_cons.1 distinct
      have same := inductionHypothesis others
      have keys_eq : ((rest.map fun member => (member.1, normalize member.2)).map Prod.fst) =
          rest.map Prod.fst := by
        rw [List.map_map]
        rfl
      have still : key ∉ (normalizeMembers rest).map Prod.fst := by
        rwa [(same.map Prod.fst).mem_iff, keys_eq]
      rw [normalizeMembers, List.map_cons]
      exact (perm_insertMember still _).trans (same.cons _)

theorem normalizeMembers_eq_of_perm
    {members others : List (String × Json)}
    (distinct : (members.map Prod.fst).Nodup)
    (perm : members.Perm others) :
    normalizeMembers members = normalizeMembers others := by
  have othersDistinct : (others.map Prod.fst).Nodup := (perm.map Prod.fst).nodup_iff.1 distinct
  have same : (normalizeMembers members).Perm (normalizeMembers others) :=
    (perm_normalizeMembers distinct).trans
      ((perm.map _).trans (perm_normalizeMembers othersDistinct).symm)
  refine same.eq_of_pairwise ?_ (normalMembers_normalizeMembers members).1
    (normalMembers_normalizeMembers others).1
  intro first second _ _ before after
  exact absurd (String.lt_trans before after) (String.lt_irrefl _)

theorem nestingOfMembers_eq_of_perm
    {members others : List (String × Json)}
    (perm : members.Perm others) :
    nestingOfMembers members = nestingOfMembers others := by
  induction perm with
  | nil => rfl
  | cons member _ inductionHypothesis =>
      rw [nestingOfMembers, nestingOfMembers, inductionHypothesis]
  | swap first second rest =>
      rw [nestingOfMembers, nestingOfMembers, nestingOfMembers, nestingOfMembers, Nat.max_left_comm]
  | trans _ _ firstHypothesis secondHypothesis => exact firstHypothesis.trans secondHypothesis

/-- Two values hold the same data in containers that are nested as deeply. -/
structure HoldsSame (json other : Json) : Prop where
  normalize_eq : normalize json = normalize other
  nesting_eq : nesting json = nesting other

variable {json other : Json}

theorem HoldsSame.member
    (same : HoldsSame json other)
    (key : String)
    (front back : List (String × Json)) :
    HoldsSame (.object (front ++ (key, json) :: back))
      (.object (front ++ (key, other) :: back)) := by
  obtain ⟨normalize_eq, nesting_eq⟩ := same
  have both : normalizeMembers (front ++ (key, json) :: back) =
        normalizeMembers (front ++ (key, other) :: back) ∧
      nestingOfMembers (front ++ (key, json) :: back) =
        nestingOfMembers (front ++ (key, other) :: back) := by
    induction front with
    | nil => simp only [List.nil_append, normalizeMembers, nestingOfMembers, normalize_eq,
        nesting_eq, and_self]
    | cons head front inductionHypothesis =>
        simp only [List.cons_append, normalizeMembers, nestingOfMembers, inductionHypothesis,
          and_self]
  exact ⟨congrArg Json.object both.1, congrArg Nat.succ both.2⟩

theorem HoldsSame.item
    (same : HoldsSame json other)
    (front back : List Json) :
    HoldsSame (.array (front ++ json :: back)) (.array (front ++ other :: back)) := by
  obtain ⟨normalize_eq, nesting_eq⟩ := same
  have both : normalizeItems (front ++ json :: back) = normalizeItems (front ++ other :: back) ∧
      nestingOfItems (front ++ json :: back) = nestingOfItems (front ++ other :: back) := by
    induction front with
    | nil => simp only [List.nil_append, normalizeItems, nestingOfItems, normalize_eq,
        nesting_eq, and_self]
    | cons head front inductionHypothesis =>
        simp only [List.cons_append, normalizeItems, nestingOfItems, inductionHypothesis,
          and_self]
  exact ⟨congrArg Json.array both.1, congrArg Nat.succ both.2⟩

/-- The order of members means nothing to free data. -/
theorem Reorders.holdsSame
    (reorders : Reorders json other) :
    HoldsSame json other := by
  induction reorders with
  | order distinct perm =>
      exact ⟨congrArg Json.object (normalizeMembers_eq_of_perm distinct perm),
        congrArg Nat.succ (nestingOfMembers_eq_of_perm perm)⟩
  | member _ inductionHypothesis => exact inductionHypothesis.member _ _ _
  | item _ inductionHypothesis => exact inductionHypothesis.item _ _

end Json
end TrafficGraph
