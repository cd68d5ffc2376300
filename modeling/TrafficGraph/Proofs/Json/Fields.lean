import TrafficGraph.Proofs.Json.Decoding

/-!
# Fields in any order

The members of an object are decoded in the order of the text.  What comes out can be told
field by field: each is decoded from the only member with its name, or takes what its absence
stands for, and two members with the name spoil the object.  Hence neither the order of the
members matters nor what stands under other names.
-/

namespace TrafficGraph
namespace Json

variable {β : Type} {allowance : Nat} {name key : String} {json : Json}
  {members others : List (String × Json)}

/-! ## Members with a name -/

/-- The values that members give to a name. -/
def valuesOf (name : String) (members : List (String × Json)) : List Json :=
  members.filterMap fun member => if member.1 = name then some member.2 else none

@[simp] theorem valuesOf_nil (name : String) : valuesOf name [] = [] := rfl

@[simp] theorem valuesOf_cons
    (name key : String)
    (json : Json)
    (members : List (String × Json)) :
    valuesOf name ((key, json) :: members) =
      if key = name then json :: valuesOf name members else valuesOf name members := by
  rw [valuesOf, List.filterMap_cons]
  by_cases same : key = name
  · rw [if_pos same, if_pos same]
    rfl
  · rw [if_neg same, if_neg same]
    rfl

theorem valuesOf_perm
    (name : String)
    (perm : members.Perm others) :
    (valuesOf name members).Perm (valuesOf name others) :=
  perm.filterMap _

theorem valuesOf_eq_nil (missing : name ∉ members.map Prod.fst) : valuesOf name members = [] := by
  refine List.filterMap_eq_nil_iff.2 fun member listed => if_neg ?_
  rintro rfl
  exact missing (List.mem_map_of_mem listed)

theorem mem_valuesOf (listed : (name, json) ∈ members) : json ∈ valuesOf name members :=
  List.mem_filterMap.2 ⟨_, listed, if_pos rfl⟩

/-- Leaving out members with other names leaves the values of a name. -/
theorem valuesOf_filter
    {keeps : String → Bool}
    (kept : keeps name = true)
    (members : List (String × Json)) :
    valuesOf name (members.filter fun member => keeps member.1) = valuesOf name members := by
  rw [valuesOf, valuesOf, List.filterMap_filter]
  congr 1
  funext member
  by_cases same : member.1 = name
  · rw [same, kept, if_pos rfl]
  · rw [if_neg same, ite_self]

theorem filter_eq_map_valuesOf (name : String) (members : List (String × Json)) :
    (members.filter fun member => member.1 == name) = (valuesOf name members).map (name, ·) := by
  induction members with
  | nil => rfl
  | cons member members inductionHypothesis =>
      obtain ⟨key, value⟩ := member
      rw [List.filter_cons, valuesOf_cons, inductionHypothesis]
      by_cases same : key = name
      · subst same
        simp
      · simp [same]

theorem ofMembers_eq_map (members : List (String × Json)) :
    Tree.ofMembers members = members.map fun member => (some member.1, .ofJson member.2) := by
  induction members with
  | nil => rfl
  | cons member members inductionHypothesis =>
      rw [Tree.ofMembers, List.map_cons, inductionHypothesis]

/-- Members are told apart by their names. -/
theorem partition_ofMembers
    {chosen : Option String × Tree → Bool}
    (isChosen : String → Bool)
    (same : ∀ key tree, chosen (some key, tree) = isChosen key)
    (members : List (String × Json)) :
    (Tree.ofMembers members).partition chosen =
      (Tree.ofMembers (members.filter fun member => isChosen member.1),
        Tree.ofMembers (members.filter fun member => !isChosen member.1)) := by
  rw [List.partition_eq_filter_filter, ofMembers_eq_map, ofMembers_eq_map, ofMembers_eq_map,
    List.filter_map, List.filter_map]
  have chosen_eq : (chosen ∘ fun member : String × Json => (some member.1, Tree.ofJson member.2)) =
      fun member => isChosen member.1 := funext fun member => same member.1 _
  have others_eq : ((not ∘ chosen) ∘ fun member : String × Json =>
      (some member.1, Tree.ofJson member.2)) = fun member => !isChosen member.1 :=
    funext fun member => congrArg not (same member.1 _)
  rw [chosen_eq, others_eq]

namespace Presence

/-- What the absence of a field stands for. -/
def absent? : Presence β → Option β
  | .required => none
  | .optional absent => some absent
  | .defaulted absent => some absent

@[simp] theorem absent?_required : (required : Presence β).absent? = none := rfl

@[simp] theorem absent?_optional (absent : β) : (optional absent).absent? = some absent := rfl

@[simp] theorem absent?_defaulted (absent : β) : (defaulted absent).absent? = some absent := rfl

/-- The value of a field, of which something may have been found already, after more values
were given under its name. -/
def settle (presence : Presence β) (decoder : Decoder β) (allowance : Nat) :
    Option β → List Json → Option β
  | none, [] => presence.absent?
  | none, [json] => decoder.read? allowance json
  | some value, [] => some value
  | _, _ => none

@[simp] theorem settle_nil
    (presence : Presence β)
    (decoder : Decoder β)
    (allowance : Nat) :
    presence.settle decoder allowance none [] = presence.absent? := rfl

@[simp] theorem settle_singleton
    (presence : Presence β)
    (decoder : Decoder β)
    (allowance : Nat)
    (json : Json) :
    presence.settle decoder allowance none [json] = decoder.read? allowance json := rfl

theorem settle_cons_of_read?
    {decoder : Decoder β}
    {value : β}
    (read : decoder.read? allowance json = some value)
    (presence : Presence β)
    (values : List Json) :
    presence.settle decoder allowance none (json :: values) =
      presence.settle decoder allowance (some value) values := by
  cases values with
  | nil => exact read
  | cons other values => rfl

theorem settle_cons_of_unread
    {decoder : Decoder β}
    (unread : decoder.read? allowance json = none)
    (presence : Presence β)
    (values : List Json) :
    presence.settle decoder allowance none (json :: values) = none := by
  cases values with
  | nil => exact unread
  | cons other values => rfl

/-- A field is found among its values if it was not found before; then one value is read, or
the absence of any. -/
theorem settle_eq_some_iff
    {presence : Presence β}
    {decoder : Decoder β}
    {found : Option β}
    {values : List Json}
    {value : β} :
    presence.settle decoder allowance found values = some value ↔
      values = [] ∧ found.or presence.absent? = some value ∨
        found = none ∧ ∃ json, values = [json] ∧ decoder.read? allowance json = some value := by
  match found, values with
  | none, [] => simp [settle]
  | none, [_] => simp [settle]
  | none, _ :: _ :: _ => simp [settle]
  | some _, [] => simp [settle]
  | some _, _ :: _ => simp [settle]

/-- The order of the values does not matter, for one is enough. -/
theorem settle_eq_of_perm
    {values permuted : List Json}
    (perm : values.Perm permuted)
    (presence : Presence β)
    (decoder : Decoder β)
    (allowance : Nat) :
    presence.settle decoder allowance none values =
      presence.settle decoder allowance none permuted := by
  match values, permuted, perm with
  | [], permuted, perm => rw [perm.nil_eq]
  | [value], permuted, perm => rw [← List.singleton_perm.1 perm]
  | _ :: _ :: _, [], perm => exact absurd perm.symm.nil_eq nofun
  | _ :: _ :: _, [_], perm => exact absurd (List.singleton_perm.1 perm.symm) nofun
  | _ :: _ :: _, _ :: _ :: _, _ => rfl

end Presence

namespace Fields

/-! ## Reading field by field -/

/-- The names of the fields. -/
def names {α : Type} : Fields α → List String
  | .build _ => []
  | .field before name _ _ _ => name :: before.names

/-- The structure that is read field by field. -/
def collect {α : Type} (allowance : Nat) (members : List (String × Json)) : Fields α → Option α
  | .build value => some value
  | .field before name decoder presence found =>
    (before.collect allowance members).bind fun construct =>
      (presence.settle decoder allowance found (valuesOf name members)).map construct

variable {α : Type}

@[simp] theorem collect_build (value : α) :
    (build value).collect allowance members = some value := rfl

@[simp] theorem collect_field
    (before : Fields (β → α))
    (name : String)
    (decoder : Decoder β)
    (presence : Presence β) :
    (field before name decoder presence none).collect allowance members =
      (before.collect allowance members).bind fun construct =>
        (presence.settle decoder allowance none (valuesOf name members)).map construct := rfl

theorem collect_congr
    {fields : Fields α}
    (same : ∀ name ∈ fields.names, valuesOf name members = valuesOf name others) :
    fields.collect allowance members = fields.collect allowance others := by
  induction fields with
  | build value => rfl
  | field before name decoder presence found inductionHypothesis =>
      obtain ⟨here, earlier⟩ := List.forall_mem_cons.1 same
      rw [collect, collect, here, inductionHypothesis earlier]

/-- A member under another name does not count. -/
theorem collect_cons_of_not_mem
    {fields : Fields α}
    (unknown : key ∉ fields.names)
    (json : Json)
    (members : List (String × Json)) :
    fields.collect allowance ((key, json) :: members) = fields.collect allowance members := by
  refine collect_congr fun name listed => ?_
  rw [valuesOf_cons, if_neg]
  rintro rfl
  exact unknown listed

/-- The members with the names of the fields are enough. -/
theorem collect_filter
    {fields : Fields α}
    {keeps : String → Bool}
    (kept : ∀ name ∈ fields.names, keeps name = true)
    (allowance : Nat)
    (members : List (String × Json)) :
    fields.collect allowance (members.filter fun member => keeps member.1) =
      fields.collect allowance members :=
  collect_congr fun name listed => valuesOf_filter (kept name listed) members

/-- Each field is read from values without any containers only. -/
def AreFlat {α : Type} : Fields α → Prop
  | .build _ => True
  | .field before _ decoder _ _ => before.AreFlat ∧
      ∀ allowance json value, decoder.read? allowance json = some value → nesting json = 0

/-- Where flat fields are read, there are no containers under their names. -/
theorem AreFlat.nesting_eq_zero
    {fields : Fields α}
    {value : α}
    (flat : fields.AreFlat)
    (collected : fields.collect allowance members = some value)
    (named : name ∈ fields.names)
    (listed : (name, json) ∈ members) :
    nesting json = 0 := by
  induction fields with
  | build value => exact absurd named List.not_mem_nil
  | field before other decoder presence found inductionHypothesis =>
      obtain ⟨earlier, here⟩ := flat
      obtain ⟨construct, isBefore, settled⟩ := Option.bind_eq_some_iff.1 collected
      rcases List.mem_cons.1 named with rfl | deeper
      · obtain ⟨part, settled, -⟩ := Option.map_eq_some_iff.1 settled
        have inside := mem_valuesOf listed
        rcases Presence.settle_eq_some_iff.1 settled with ⟨noValues, -⟩ | ⟨-, only, values_eq, read⟩
        · rw [noValues] at inside
          exact absurd inside List.not_mem_nil
        · rw [values_eq, List.mem_singleton] at inside
          exact here allowance json part (inside ▸ read)
      · exact inductionHypothesis earlier isBefore deeper

/-- What decoding one member does to the fields. -/
inductive Assigned (allowance : Nat) (key : String) (json : Json) (fields : Fields α) :
    Except Fault (Option (Fields α)) → Prop
  /-- No field has the name. -/
  | unknown (unknown : key ∉ fields.names) : Assigned allowance key json fields (.ok none)
  /-- The value was found, and the rest is read as the whole would have been. -/
  | found {later : Fields α} (names_eq : later.names = fields.names)
      (collect_eq : ∀ members, fields.collect allowance ((key, json) :: members) =
        later.collect allowance members) :
      Assigned allowance key json fields (.ok (some later))
  /-- Nothing can be read any more. -/
  | spoilt {fault : Fault}
      (spoilt : ∀ members, fields.collect allowance ((key, json) :: members) = none) :
      Assigned allowance key json fields (.error fault)

/-- The field with the name takes the value, unless it has one or cannot read it. -/
theorem assigned_here
    {before : Fields (β → α)}
    {presence : Presence β}
    (new : name ∉ before.names)
    (decoder : Decoder β)
    (found : Option β)
    (allowance : Nat)
    (json : Json) :
    Assigned allowance name json (field before name decoder presence found)
      ((field before name decoder presence found).assign allowance name (.ofJson json)) := by
  have values_eq : ∀ members, valuesOf name ((name, json) :: members) =
      json :: valuesOf name members := fun members => by
    rw [valuesOf_cons, if_pos rfl]
  have spoils : (∀ values, presence.settle decoder allowance found (json :: values) = none) →
      ∀ members, (field before name decoder presence found).collect allowance
        ((name, json) :: members) = none := by
    intro unsettled members
    rw [collect, values_eq, unsettled]
    cases before.collect allowance ((name, json) :: members) <;> rfl
  rw [assign.eq_def]
  dsimp only
  rw [if_pos rfl]
  cases found with
  | some value => exact .spoilt (spoils fun _ => rfl)
  | none =>
      dsimp only
      cases decoded : decoder allowance (.ofJson json) with
      | error fault =>
          have unread : decoder.read? allowance json = none := by
            rw [Decoder.read?, decoded, Except.toOption]
          exact .spoilt (spoils (Presence.settle_cons_of_unread unread presence))
      | ok value =>
          have read : decoder.read? allowance json = some value := by
            rw [Decoder.read?, decoded, Except.toOption]
          refine .found rfl fun members => ?_
          rw [collect, collect, collect_cons_of_not_mem new, values_eq,
            Presence.settle_cons_of_read? read]

theorem assigned_assign
    {fields : Fields α}
    (distinct : fields.names.Nodup)
    (allowance : Nat)
    (key : String)
    (json : Json) :
    Assigned allowance key json fields (fields.assign allowance key (.ofJson json)) := by
  induction fields with
  | build value => exact .unknown List.not_mem_nil
  | field before name decoder presence found inductionHypothesis =>
      obtain ⟨new, earlier⟩ := List.nodup_cons.1 distinct
      by_cases same : name = key
      · subst same
        exact assigned_here new decoder found allowance json
      · have values_eq : ∀ members, valuesOf name ((key, json) :: members) =
            valuesOf name members := fun members => by
          rw [valuesOf_cons, if_neg (Ne.symm same)]
        have assigned := inductionHypothesis earlier
        rw [assign.eq_def]
        dsimp only
        rw [if_neg same]
        generalize before.assign allowance key (.ofJson json) = result at assigned ⊢
        cases assigned with
        | unknown unknown =>
            exact .unknown (List.not_mem_cons_of_ne_of_not_mem (Ne.symm same) unknown)
        | found names_eq collect_eq =>
            refine .found (congrArg (name :: ·) names_eq) fun members => ?_
            rw [collect, collect, collect_eq, values_eq]
        | spoilt spoilt =>
            refine .spoilt fun members => ?_
            rw [collect, spoilt, Option.bind_none]

mutual

/-- Nothing in the tree of a value keeps it from being passed over. -/
theorem skip_ofJson : ∀ json : Json, (Tree.ofJson json).skip = .ok ()
  | .array items => skipItems_ofItems items
  | .object members => skipMembers_ofMembers members
  | .null => rfl
  | .bool _ => rfl
  | .number _ => rfl
  | .string _ => rfl

theorem skipItems_ofItems : ∀ items : List Json,
    Tree.skipItems (Tree.ofItems items) true = .ok ()
  | [] => rfl
  | item :: items => by
      rw [Tree.ofItems, Tree.skipItems, skip_ofJson item]
      exact skipItems_ofItems items

theorem skipMembers_ofMembers : ∀ members : List (String × Json),
    Tree.skipMembers (Tree.ofMembers members) true = .ok ()
  | [] => rfl
  | (_, value) :: members => by
      rw [Tree.ofMembers, Tree.skipMembers, skip_ofJson value]
      exact skipMembers_ofMembers members

end

theorem toOption_finish
    (fields : Fields α)
    (allowance : Nat) :
    fields.finish.toOption = fields.collect allowance [] := by
  induction fields with
  | build value => rfl
  | field before name decoder presence found inductionHypothesis =>
      rw [finish.eq_def, collect, ← inductionHypothesis]
      dsimp only
      cases before.finish with
      | error fault => rfl
      | ok construct => cases found <;> cases presence <;> rfl

/-- Decoding the members of an object in the order of the text reads the structure field by
field. -/
theorem toOption_fromMembers
    {fields : Fields α}
    (distinct : fields.names.Nodup)
    (allowance : Nat)
    (members : List (String × Json)) :
    (fields.fromMembers allowance (Tree.ofMembers members) true).toOption =
      fields.collect allowance members := by
  induction members generalizing fields with
  | nil => exact toOption_finish fields allowance
  | cons member members inductionHypothesis =>
      obtain ⟨key, json⟩ := member
      have assigned := assigned_assign distinct allowance key json
      rw [fromMembers, Tree.ofMembers, assignAll]
      generalize fields.assign allowance key (.ofJson json) = result at assigned ⊢
      cases assigned with
      | unknown unknown =>
          rw [collect_cons_of_not_mem unknown, ← inductionHypothesis distinct, skip_ofJson]
          rfl
      | found names_eq collect_eq =>
          rw [collect_eq, ← inductionHypothesis (names_eq ▸ distinct)]
          rfl
      | spoilt spoilt =>
          rw [spoilt]
          rfl

theorem read?_decoder
    {fields : Fields α}
    (distinct : fields.names.Nodup)
    (allowance : Nat)
    (members : List (String × Json)) :
    fields.decoder.read? allowance (.object members) =
      (nest allowance).toOption.bind fun inner => fields.collect inner members := by
  rw [Decoder.read?, Tree.ofJson, decoder]
  cases nest allowance with
  | error fault => rfl
  | ok inner => exact toOption_fromMembers distinct inner members

/-- A structure is read back if its fields are. -/
theorem read?_decoder_eq_some
    {fields : Fields α}
    {value : α}
    (distinct : fields.names.Nodup)
    (fits : nesting (.object members) < allowance)
    (collects : ∀ inner, nestingOfMembers members < inner →
      fields.collect inner members = some value) :
    fields.decoder.read? allowance (.object members) = some value := by
  obtain ⟨inner, nested, membersFit⟩ := exists_nest_eq_ok fits
  rw [read?_decoder distinct, nested]
  exact collects inner membersFit

/-! ## Fields of a shape -/

/-- A field of a structure does what a slot says. -/
structure Suits (slot : Slot Shape) (decoder : Decoder β) (presence : Presence β)
    (allowance : Nat) : Prop where
  /-- The value of the field may be written otherwise. -/
  respects : decoder.Respects allowance slot.shape
  /-- The absence of the field says the same as the value that stands for it. -/
  absent : ∀ json, slot.absent = some json → decoder.read? allowance json = presence.absent?

/-- Fields that do what the slots with their names say, of which there is one at least. -/
def Fit {α : Type} (slots : List (Slot Shape)) (allowance : Nat) : Fields α → Prop
  | .build _ => True
  | .field before name decoder presence found =>
    before.Fit slots allowance ∧ found = none ∧ name ∈ slots.map Slot.name ∧
      ∀ slot ∈ slots, slot.name = name → Suits slot decoder presence allowance

variable {slots : List (Slot Shape)} {decoder : Decoder β} {presence : Presence β}

/-- Writing an object otherwise does not change what its field is. -/
theorem settle_eq_of_varies
    (varies : Varies (.object slots) (.object members) (.object others))
    (known : name ∈ slots.map Slot.name)
    (suits : ∀ slot ∈ slots, slot.name = name → Suits slot decoder presence allowance) :
    presence.settle decoder allowance none (valuesOf name others) =
      presence.settle decoder allowance none (valuesOf name members) := by
  cases varies with
  | order perm =>
      exact (Presence.settle_eq_of_perm (valuesOf_perm name perm) presence decoder allowance).symm
  | add value unknown =>
      obtain ⟨slot, listed, rfl⟩ := List.mem_map.1 known
      rw [valuesOf_cons, if_neg (unknown slot listed).symm]
  | leaveOut listed absent single =>
      rw [valuesOf_cons]
      split
      · next same =>
        rw [same] at single
        rw [valuesOf_eq_nil single, Presence.settle, Presence.settle,
          (suits _ listed same).absent _ absent]
      · rfl
  | giveBack listed absent missing =>
      rw [valuesOf_cons]
      split
      · next same =>
        rw [same] at missing
        rw [valuesOf_eq_nil missing, Presence.settle, Presence.settle,
          (suits _ listed same).absent _ absent]
      · rfl
  | member listed inside =>
      rw [valuesOf_cons, valuesOf_cons]
      split
      · next same =>
        cases valuesOf name _ with
        | nil => exact (suits _ listed same).respects inside
        | cons _ _ => rfl
      · rfl

/-- Writing an object otherwise does not change what is read from it. -/
theorem Fit.collect_eq
    {fields : Fields α}
    (fit : fields.Fit slots allowance)
    (varies : Varies (.object slots) (.object members) (.object others)) :
    fields.collect allowance others = fields.collect allowance members := by
  induction fields with
  | build value => rfl
  | field before name decoder presence found inductionHypothesis =>
      obtain ⟨earlier, rfl, known, suits⟩ := fit
      rw [collect, collect, inductionHypothesis earlier, settle_eq_of_varies varies known suits]

/-- Slots with other names do not concern the fields. -/
theorem Fit.append
    {fields : Fields α}
    {front : List (Slot Shape)}
    (fit : fields.Fit slots allowance)
    (others : ∀ slot ∈ front, slot.name ∉ fields.names) :
    fields.Fit (front ++ slots) allowance := by
  induction fields with
  | build value => trivial
  | field before name decoder presence found inductionHypothesis =>
      obtain ⟨earlier, isNew, known, suits⟩ := fit
      refine ⟨inductionHypothesis earlier fun slot listed inside =>
        others slot listed (List.mem_cons_of_mem _ inside), isNew, ?_, ?_⟩
      · rw [List.map_append]
        exact List.mem_append_right _ known
      · intro slot listed same
        rcases List.mem_append.1 listed with inFront | inSlots
        · exact absurd (same ▸ List.mem_cons_self) (others slot inFront)
        · exact suits slot inSlots same

theorem respects_decoder
    {fields : Fields α}
    (distinct : fields.names.Nodup)
    (fit : ∀ inner, nest allowance = .ok inner → fields.Fit slots inner) :
    fields.decoder.Respects allowance (.object slots) := by
  intro json other varies
  obtain ⟨members, others, rfl, rfl⟩ := varies.exists_members
  rw [read?_decoder distinct, read?_decoder distinct]
  cases nested : nest allowance with
  | error fault => rfl
  | ok inner => exact (fit inner nested).collect_eq varies

/-! ## Declarations -/

@[simp] theorem suits_required (name : String) (shape : Shape) :
    Suits (.required name shape) decoder presence allowance ↔ decoder.Respects allowance shape :=
  ⟨Suits.respects, fun respects => ⟨respects, nofun⟩⟩

@[simp] theorem suits_defaulted (name : String) (json : Json) (shape : Shape) :
    Suits (.defaulted name json shape) decoder presence allowance ↔
      decoder.Respects allowance shape ∧ decoder.read? allowance json = presence.absent? := by
  constructor
  · intro suits
    exact ⟨suits.respects, suits.absent json rfl⟩
  · rintro ⟨respects, absent⟩
    refine ⟨respects, ?_⟩
    rintro _ ⟨⟩
    exact absent

@[simp] theorem suits_optional (name : String) (shape : Shape) :
    Suits (.optional name shape) decoder presence allowance ↔
      decoder.Respects allowance shape ∧ decoder.read? allowance .null = presence.absent? :=
  suits_defaulted name .null shape

@[simp] theorem fit_build (value : α) : (build value).Fit slots allowance := trivial

@[simp] theorem fit_field (before : Fields (β → α)) (name : String) :
    (field before name decoder presence none).Fit slots allowance ↔
      before.Fit slots allowance ∧ name ∈ slots.map Slot.name ∧
        ∀ slot ∈ slots, slot.name = name → Suits slot decoder presence allowance := by
  simp [Fit]

end Fields
end Json
end TrafficGraph
