import Mathlib.Data.List.NodupEquivFin
import TrafficGraph.Proofs.Source.Rendering

/-!
# How roles share the fields of a source

The roles choose in turn, so what a role is left with depends on those before it.  Yet no
field plays two roles, a role looks at names only when all fields with its tag are gone,
and further fields never take away what a role had.  The last holds because a source with
further fields keeps pace with the source without them: in each step, what is taken of the
old fields in the one is taken in the other as well.
-/

namespace TrafficGraph
namespace Source

variable {fields fewer more : List FieldDescriptor} {fits : Role → FieldDescriptor → Bool}
  {role : Role} {position : Nat}

namespace Assignment

variable {before : Assignment}

/-! ## One choice -/

theorem position?_cons
    (chosen : Role)
    (position : Nat)
    (before : Assignment)
    (role : Role) :
    position? ((chosen, position) :: before) role =
      if role = chosen then some position else before.position? role := by
  rw [position?, List.lookup_cons]
  by_cases same : role = chosen
  · simp [same]
  · rw [beq_eq_false_iff_ne.2 same, if_neg same]
    rfl

theorem isTaken_cons_iff
    (chosen : Role)
    (position : Nat)
    (before : Assignment)
    (other : Nat) :
    isTaken ((chosen, position) :: before) other = true ↔
      other = position ∨ before.isTaken other = true := by
  rw [isTaken, List.any_cons, Bool.or_eq_true, beq_iff_eq, eq_comm]
  rfl

/-- The field at a position is free and fits. -/
def IsOpen
    (before : Assignment)
    (fits : FieldDescriptor → Bool)
    (fields : List FieldDescriptor)
    (position : Nat) : Prop :=
  before.isTaken position = false ∧ ∃ field, fields[position]? = some field ∧ fits field = true

theorem firstFree?_eq_none_iff {fits : FieldDescriptor → Bool} :
    before.firstFree? fits fields = none ↔
      ∀ position, ¬before.IsOpen fits fields position := by
  rw [firstFree?, Option.map_eq_none_iff, List.find?_eq_none]
  constructor
  · rintro noneFound position ⟨free, field, present, suits⟩
    apply noneFound (field, position) (List.mem_zipIdx_iff_getElem?.2 present)
    rw [Bool.and_eq_true, free, suits]
    exact ⟨rfl, rfl⟩
  · rintro closed ⟨field, position⟩ listed found
    rw [Bool.and_eq_true, Bool.not_eq_true'] at found
    exact closed position ⟨found.1, field, List.mem_zipIdx_iff_getElem?.1 listed, found.2⟩

theorem firstFree?_eq_some
    {fits : FieldDescriptor → Bool}
    (found : before.firstFree? fits fields = some position) :
    before.IsOpen fits fields position ∧
      ∀ earlier < position, ¬before.IsOpen fits fields earlier := by
  obtain ⟨⟨field, _⟩, foundPair, rfl⟩ := Option.map_eq_some_iff.1 found
  obtain ⟨suits, index, inside, here, first⟩ := List.find?_eq_some_iff_getElem.1 foundPair
  rw [List.getElem_zipIdx, Nat.zero_add] at here
  cases here
  have inside := List.length_zipIdx ▸ inside
  rw [Bool.and_eq_true, Bool.not_eq_true'] at suits
  refine ⟨⟨suits.1, _, List.getElem?_eq_getElem inside, suits.2⟩, ?_⟩
  rintro earlier less ⟨free, field, present, suitsEarlier⟩
  obtain ⟨_, rfl⟩ := List.getElem?_eq_some_iff.1 present
  have passed := first earlier less
  rw [List.getElem_zipIdx, Nat.zero_add] at passed
  simp [free, suitsEarlier] at passed

/-- What choosing can do: a role without a field takes the first one that is open to it; all
others are left as they are. -/
theorem choose_cases
    (fields : List FieldDescriptor)
    (fits : Role → FieldDescriptor → Bool)
    (before : Assignment)
    (role : Role) :
    (before.choose fields fits role = before ∧
      (before.position? role = none →
        ∀ position, ¬before.IsOpen (fits role) fields position)) ∨
    ∃ position, before.choose fields fits role = (role, position) :: before ∧
      before.position? role = none ∧ before.IsOpen (fits role) fields position ∧
      ∀ earlier < position, ¬before.IsOpen (fits role) fields earlier := by
  cases placed : before.position? role with
  | some position =>
      have unchanged : before.choose fields fits role = before := by
        rw [choose, placed]
      exact Or.inl ⟨unchanged, fun absent => by cases absent⟩
  | none =>
      cases found : before.firstFree? (fits role) fields with
      | none =>
          have unchanged : before.choose fields fits role = before := by
            rw [choose, placed]
            simp only [found]
          exact Or.inl ⟨unchanged, fun _ => firstFree?_eq_none_iff.1 found⟩
      | some position =>
          have taken : before.choose fields fits role = (role, position) :: before := by
            rw [choose, placed]
            simp only [found]
          obtain ⟨isOpen, first⟩ := firstFree?_eq_some found
          exact Or.inr ⟨position, taken, rfl, isOpen, first⟩

/-! ## One round of choices -/

/-- One assignment keeps the choices of another. -/
structure Keeps (before after : Assignment) : Prop where
  position : ∀ role position, before.position? role = some position →
    after.position? role = some position
  taken : ∀ position, before.isTaken position = true → after.isTaken position = true

theorem Keeps.not_isOpen
    {after : Assignment}
    {fits : FieldDescriptor → Bool}
    (keeps : before.Keeps after)
    (closed : ¬before.IsOpen fits fields position) :
    ¬after.IsOpen fits fields position := by
  rintro ⟨free, suits⟩
  refine closed ⟨?_, suits⟩
  by_contra taken
  rw [keeps.taken position (eq_true_of_ne_false taken)] at free
  cases free

theorem keeps_choose
    (fields : List FieldDescriptor)
    (fits : Role → FieldDescriptor → Bool)
    (before : Assignment)
    (role : Role) :
    before.Keeps (before.choose fields fits role) := by
  rcases choose_cases fields fits before role with
    ⟨unchanged, _⟩ | ⟨position, taken, unplaced, _, _⟩
  · rw [unchanged]
    exact ⟨fun _ _ => id, fun _ => id⟩
  · rw [taken]
    constructor
    · intro other otherPosition placed
      rw [position?_cons, if_neg, placed]
      rintro rfl
      rw [unplaced] at placed
      cases placed
    · intro other isTaken
      exact (isTaken_cons_iff role position before other).2 (Or.inr isTaken)

theorem keeps_round
    (fields : List FieldDescriptor)
    (fits : Role → FieldDescriptor → Bool)
    (roles : List Role)
    (before : Assignment) :
    before.Keeps (roles.foldl (choose fields fits) before) := by
  induction roles generalizing before with
  | nil => exact ⟨fun _ _ => id, fun _ => id⟩
  | cons role roles inductionHypothesis =>
      have here := keeps_choose fields fits before role
      have later := inductionHypothesis (before.choose fields fits role)
      constructor
      · intro other position placed
        exact later.position other position (here.position other position placed)
      · intro position taken
        exact later.taken position (here.taken position taken)

/-- A role that goes without a field in its round leaves none open to it. -/
theorem not_isOpen_round
    {roles : List Role}
    (listed : role ∈ roles)
    (unplaced : (roles.foldl (choose fields fits) before).position? role = none)
    (position : Nat) :
    ¬(roles.foldl (choose fields fits) before).IsOpen (fits role) fields position := by
  induction roles generalizing before with
  | nil => cases listed
  | cons first roles inductionHypothesis =>
      rw [List.foldl_cons] at unplaced ⊢
      rcases List.mem_cons.1 listed with rfl | later
      · have keeps := keeps_round fields fits roles (before.choose fields fits role)
        apply keeps.not_isOpen
        rcases choose_cases fields fits before role with
          ⟨unchanged, closed⟩ | ⟨chosen, taken, _, _, _⟩
        · rw [unchanged] at keeps unplaced ⊢
          apply closed
          cases placed : before.position? role with
          | none => rfl
          | some found =>
              rw [keeps.position role found placed] at unplaced
              cases unplaced
        · rw [taken] at keeps
          have placed := keeps.position role chosen (by rw [position?_cons, if_pos rfl])
          rw [taken, placed] at unplaced
          cases unplaced
      · exact inductionHypothesis later unplaced

/-- What a role takes in a round fits it. -/
theorem fits_of_round
    {roles : List Role}
    (unplaced : before.position? role = none)
    (placed : (roles.foldl (choose fields fits) before).position? role = some position) :
    ∃ field, fields[position]? = some field ∧ fits role field = true := by
  induction roles generalizing before with
  | nil =>
      rw [List.foldl_nil, unplaced] at placed
      cases placed
  | cons first roles inductionHypothesis =>
      rw [List.foldl_cons] at placed
      cases placedFirst : (before.choose fields fits first).position? role with
      | none => exact inductionHypothesis placedFirst placed
      | some chosen =>
          have keeps := keeps_round fields fits roles (before.choose fields fits first)
          have same := (keeps.position role chosen placedFirst).symm.trans placed
          cases same
          rcases choose_cases fields fits before first with
            ⟨unchanged, _⟩ | ⟨taken, chosen_eq, _, isOpen, _⟩
          · rw [unchanged, unplaced] at placedFirst
            cases placedFirst
          · rw [chosen_eq, position?_cons] at placedFirst
            split at placedFirst
            · next sameRole =>
              cases placedFirst
              exact sameRole ▸ isOpen.2
            · rw [unplaced] at placedFirst
              cases placedFirst

/-! ## Fields and roles -/

/-- A field is taken if and only if it plays a role, and then it plays one only. -/
structure IsProper (assignment : Assignment) : Prop where
  taken_iff : ∀ position,
    assignment.isTaken position = true ↔ ∃ role, assignment.position? role = some position
  apart : ∀ first second position, assignment.position? first = some position →
    assignment.position? second = some position → first = second

theorem isProper_nil : IsProper [] where
  taken_iff := by
    intro position
    constructor
    · intro taken
      cases taken
    · rintro ⟨role, placed⟩
      cases placed
  apart := by
    intro first second position placed
    cases placed

theorem IsProper.choose
    (proper : before.IsProper)
    (fields : List FieldDescriptor)
    (fits : Role → FieldDescriptor → Bool)
    (role : Role) :
    (before.choose fields fits role).IsProper := by
  rcases choose_cases fields fits before role with
    ⟨unchanged, _⟩ | ⟨position, taken, unplaced, ⟨free, _⟩, _⟩
  · rw [unchanged]
    exact proper
  -- The chosen field was free, so no role had it.
  have notPlaced : ∀ other, before.position? other ≠ some position := by
    intro other placed
    rw [(proper.taken_iff position).2 ⟨other, placed⟩] at free
    cases free
  rw [taken]
  constructor
  · intro other
    rw [isTaken_cons_iff, proper.taken_iff]
    constructor
    · rintro (rfl | ⟨owner, placed⟩)
      · exact ⟨role, by rw [position?_cons, if_pos rfl]⟩
      · refine ⟨owner, ?_⟩
        rw [position?_cons, if_neg, placed]
        rintro rfl
        rw [unplaced] at placed
        cases placed
    · rintro ⟨owner, placed⟩
      rw [position?_cons] at placed
      split at placed
      · exact Or.inl (Option.some.inj placed).symm
      · exact Or.inr ⟨owner, placed⟩
  · intro first second other placedFirst placedSecond
    rw [position?_cons] at placedFirst placedSecond
    split at placedFirst
    · next isFirst =>
      cases placedFirst
      split at placedSecond
      · next isSecond => rw [isFirst, isSecond]
      · exact absurd placedSecond (notPlaced second)
    · split at placedSecond
      · cases placedSecond
        exact absurd placedFirst (notPlaced first)
      · exact proper.apart first second other placedFirst placedSecond

theorem IsProper.round
    (proper : before.IsProper)
    (fields : List FieldDescriptor)
    (fits : Role → FieldDescriptor → Bool)
    (roles : List Role) :
    (roles.foldl (Assignment.choose fields fits) before).IsProper :=
  List.foldlRecOn roles _ proper fun _ proper role _ => proper.choose fields fits role

/-! ## Further fields -/

/-- Choices among more fields keep pace with choices among fewer: a role has a field if it
has one among the fewer, and of those fields none is taken that is free among the fewer. -/
structure KeepsPace (place : Nat → Nat) (few many : Assignment) : Prop where
  placed : ∀ role, few.position? role ≠ none → many.position? role ≠ none
  taken : ∀ position, many.isTaken (place position) = true → few.isTaken position = true

/-- What is open among the fewer fields is open among all. -/
theorem KeepsPace.isOpen
    {place : Nat ↪o Nat}
    {few many : Assignment}
    (pace : KeepsPace place few many)
    (sameField : ∀ position : Nat, fewer[position]? = more[place position]?)
    {fits : FieldDescriptor → Bool}
    {position : Nat}
    (isOpen : few.IsOpen fits fewer position) :
    many.IsOpen fits more (place position) := by
  obtain ⟨free, field, present, suits⟩ := isOpen
  refine ⟨?_, field, (sameField position).symm.trans present, suits⟩
  by_contra taken
  rw [pace.taken position (eq_true_of_ne_false taken)] at free
  cases free

theorem KeepsPace.placed_choose
    {place : Nat ↪o Nat}
    {few many : Assignment}
    (pace : KeepsPace place few many)
    (sameField : ∀ position : Nat, fewer[position]? = more[place position]?)
    (fits : Role → FieldDescriptor → Bool)
    (role other : Role)
    (fewPlaced : (few.choose fewer fits role).position? other ≠ none) :
    (many.choose more fits role).position? other ≠ none := by
  intro manyPlaced
  -- Another role than the one that chooses has the field that it had.
  have before (isOther : other ≠ role) : few.position? other ≠ none := by
    rcases choose_cases fewer fits few role with ⟨fewSame, _⟩ | ⟨here, fewTaken, _, _, _⟩
    · exact fewSame ▸ fewPlaced
    · rwa [fewTaken, position?_cons, if_neg isOther] at fewPlaced
  rcases choose_cases more fits many role with ⟨manySame, manyClosed⟩ | ⟨there, manyTaken, _⟩
  · rw [manySame] at manyPlaced
    rcases choose_cases fewer fits few role with ⟨fewSame, _⟩ | ⟨here, _, _, fewOpen, _⟩
    · exact pace.placed other (fewSame ▸ fewPlaced) manyPlaced
    · by_cases isRole : other = role
      · exact manyClosed (isRole ▸ manyPlaced) (place here) (pace.isOpen sameField fewOpen)
      · exact pace.placed other (before isRole) manyPlaced
  · rw [manyTaken, position?_cons] at manyPlaced
    split at manyPlaced
    · cases manyPlaced
    · next isOther => exact pace.placed other (before isOther) manyPlaced

theorem KeepsPace.taken_choose
    {place : Nat ↪o Nat}
    {few many : Assignment}
    (pace : KeepsPace place few many)
    (sameField : ∀ position : Nat, fewer[position]? = more[place position]?)
    (fits : Role → FieldDescriptor → Bool)
    (role : Role)
    (position : Nat)
    (manyIsTaken : (many.choose more fits role).isTaken (place position) = true) :
    (few.choose fewer fits role).isTaken position = true := by
  have keeps := keeps_choose fewer fits few role
  rcases choose_cases more fits many role with
    ⟨manySame, _⟩ | ⟨there, manyTaken, manyUnplaced, manyOpen, manyFirst⟩
  · rw [manySame] at manyIsTaken
    exact keeps.taken position (pace.taken position manyIsTaken)
  · rw [manyTaken] at manyIsTaken
    rcases (isTaken_cons_iff role there many (place position)).1 manyIsTaken with rfl | already
    -- The role takes one of the fewer fields, which is taken there too: by the role itself
    -- or by another one, because a field in front of it would have been open here as well.
    · by_contra stillFree
      have fewUnplaced : few.position? role = none := by
        by_contra fewPlaced
        exact pace.placed role fewPlaced manyUnplaced
      have free : few.isTaken position = false :=
        eq_false_of_ne_true fun taken => stillFree (keeps.taken position taken)
      obtain ⟨_, field, present, suits⟩ := manyOpen
      have fewOpen : few.IsOpen (fits role) fewer position :=
        ⟨free, field, (sameField position).trans present, suits⟩
      rcases choose_cases fewer fits few role with
        ⟨_, fewClosed⟩ | ⟨here, fewTaken, _, hereOpen, hereFirst⟩
      · exact fewClosed fewUnplaced position fewOpen
      · have notLater : ¬position < here := fun less => hereFirst position less fewOpen
        have notEarlier : ¬here < position := fun less =>
          manyFirst (place here) (place.strictMono less) (pace.isOpen sameField hereOpen)
        have same : position = here := by omega
        apply stillFree
        rw [fewTaken, isTaken_cons_iff]
        exact Or.inl same
    · exact keeps.taken position (pace.taken position already)

theorem KeepsPace.choose
    {place : Nat ↪o Nat}
    {few many : Assignment}
    (pace : KeepsPace place few many)
    (sameField : ∀ position : Nat, fewer[position]? = more[place position]?)
    (fits : Role → FieldDescriptor → Bool)
    (role : Role) :
    KeepsPace place (few.choose fewer fits role) (many.choose more fits role) :=
  ⟨pace.placed_choose sameField fits role, pace.taken_choose sameField fits role⟩

theorem KeepsPace.round
    {place : Nat ↪o Nat}
    {few many : Assignment}
    (pace : KeepsPace place few many)
    (sameField : ∀ position : Nat, fewer[position]? = more[place position]?)
    (fits : Role → FieldDescriptor → Bool)
    (roles : List Role) :
    KeepsPace place (roles.foldl (Assignment.choose fewer fits) few)
      (roles.foldl (Assignment.choose more fits) many) := by
  induction roles generalizing few many with
  | nil => exact pace
  | cons role roles inductionHypothesis =>
      exact inductionHypothesis (pace.choose sameField fits role)

end Assignment

/-! ## Both rounds -/

/-- The fields that the roles choose by tag. -/
def assignmentByTag (fields : List FieldDescriptor) : Assignment :=
  Role.all.foldl (Assignment.choose fields fitsByTag) []

theorem keeps_assignmentByTag (fields : List FieldDescriptor) :
    (assignmentByTag fields).Keeps (assignment fields) :=
  Assignment.keeps_round fields fitsByName Role.all (assignmentByTag fields)

theorem isProper_assignmentByTag (fields : List FieldDescriptor) :
    (assignmentByTag fields).IsProper :=
  Assignment.isProper_nil.round fields fitsByTag Role.all

theorem isProper_assignment (fields : List FieldDescriptor) : (assignment fields).IsProper :=
  (isProper_assignmentByTag fields).round fields fitsByName Role.all

/-- A role that finds none by tag has lost all fields with its tag to other roles. -/
theorem exists_rival
    (unplaced : (assignmentByTag fields).position? role = none)
    {field : FieldDescriptor}
    (present : fields[position]? = some field)
    (tagged : fitsByTag role field = true) :
    ∃ rival, rival ≠ role ∧ (assignment fields).position? rival = some position := by
  have closed := Assignment.not_isOpen_round (Role.mem_all role) unplaced position
  have taken : (assignmentByTag fields).isTaken position = true := by
    by_contra free
    exact closed ⟨eq_false_of_ne_true free, field, present, tagged⟩
  obtain ⟨rival, placed⟩ := ((isProper_assignmentByTag fields).taken_iff position).1 taken
  refine ⟨rival, ?_, (keeps_assignmentByTag fields).position rival position placed⟩
  rintro rfl
  rw [unplaced] at placed
  cases placed

/-- A role keeps a field if fields are added anywhere. -/
theorem position?_ne_none_of_sublist
    (added : fewer.Sublist more)
    (placed : (assignment fewer).position? role ≠ none) :
    (assignment more).position? role ≠ none := by
  obtain ⟨place, sameField⟩ := List.sublist_iff_exists_orderEmbedding_getElem?_eq.1 added
  have start : Assignment.KeepsPace place [] [] := ⟨fun _ => id, fun _ => id⟩
  have byTag := start.round sameField fitsByTag Role.all
  exact (byTag.round sameField fitsByName Role.all).placed role placed

theorem exists_of_position?
    (placed : (assignment fields).position? role = some position) :
    ∃ field, fields[position]? = some field := by
  cases placedByTag : (assignmentByTag fields).position? role with
  | none =>
      obtain ⟨field, present, _⟩ := Assignment.fits_of_round placedByTag placed
      exact ⟨field, present⟩
  | some chosen =>
      have same := ((keeps_assignmentByTag fields).position role chosen placedByTag).symm.trans
        placed
      cases same
      obtain ⟨field, present, _⟩ := Assignment.fits_of_round rfl placedByTag
      exact ⟨field, present⟩

/-- Every chosen position has a field, whose name is mapped. -/
theorem fieldOf?_eq_none_iff :
    fieldOf? fields role = none ↔ (assignment fields).position? role = none := by
  cases placed : (assignment fields).position? role with
  | none => simp [fieldOf?, placed]
  | some position =>
      obtain ⟨field, present⟩ := exists_of_position? placed
      simp [fieldOf?, placed, present]

theorem mapping?_ne_none_iff (source : Description) :
    mapping? source ≠ none ↔
      (assignment source.fields).position? .sourceAddress ≠ none ∧
        (assignment source.fields).position? .destinationAddress ≠ none := by
  rw [← not_iff_not, not_and_or, not_not, not_not, not_not, ← fieldOf?_eq_none_iff,
    ← fieldOf?_eq_none_iff]
  cases sourceField : fieldOf? source.fields .sourceAddress with
  | none => simp [mapping?, sourceField]
  | some _ =>
      cases destinationField : fieldOf? source.fields .destinationAddress with
      | none => simp [mapping?, sourceField, destinationField]
      | some _ => simp [mapping?, sourceField, destinationField]

/-- A mapping names the field of every role. -/
theorem name?_of_mapping?
    {source : Description}
    {mapping : Mapping}
    (mapped : mapping? source = some mapping)
    (role : Role) :
    mapping.name? role = fieldOf? source.fields role := by
  rw [mapping?] at mapped
  obtain ⟨sourceAddress, isSource, mapped⟩ := Option.bind_eq_some_iff.1 mapped
  obtain ⟨destinationAddress, isDestination, mapped⟩ := Option.bind_eq_some_iff.1 mapped
  cases mapped
  cases role with
  | sourceAddress => exact isSource.symm
  | destinationAddress => exact isDestination.symm
  | _ => rfl

theorem name?_eq_of_mapping?
    {source : Description}
    {mapping : Mapping}
    (mapped : mapping? source = some mapping)
    (role : Role) :
    mapping.name? role =
      ((assignment source.fields).position? role).bind fun position =>
        source.fields[position]?.map FieldDescriptor.name := by
  rw [name?_of_mapping? mapped, fieldOf?]
  apply congrArg
  funext position
  cases source.fields[position]? <;> rfl

/-- The fields of a source are well shared among the roles. -/
structure Description.IsShared (source : Description) : Prop where
  /-- No field plays two roles. -/
  apart : ∀ first second position,
    (assignment source.fields).position? first = some position →
      (assignment source.fields).position? second = some position → first = second
  /-- A role that chose by tag plays a field with its tag. -/
  byTag : ∀ role position, (assignmentByTag source.fields).position? role = some position →
    (assignment source.fields).position? role = some position ∧
      ∃ field, source.fields[position]? = some field ∧ fitsByTag role field = true
  /-- A role that chose by name plays a field with one of its names, and every field with its
  tag plays another role. -/
  byName : ∀ role position, (assignmentByTag source.fields).position? role = none →
    (assignment source.fields).position? role = some position →
      (∃ field, source.fields[position]? = some field ∧ fitsByName role field = true) ∧
        ∀ other field, source.fields[other]? = some field → fitsByTag role field = true →
          ∃ rival, rival ≠ role ∧ (assignment source.fields).position? rival = some other
  /-- The source is valid exactly if both addresses have a field. -/
  isValid_iff : (inspect source).isValid = true ↔
    (assignment source.fields).position? .sourceAddress ≠ none ∧
      (assignment source.fields).position? .destinationAddress ≠ none
  /-- A source that is not valid has no mapping; otherwise the mapping names for each role the
  field that plays it. -/
  mapped : (inspect source).fields = none ∧ (inspect source).isValid = false ∨
    ∃ mapping, (inspect source).fields = some mapping ∧ (inspect source).isValid = true ∧
      ∀ role, mapping.name? role =
        ((assignment source.fields).position? role).bind fun position =>
          source.fields[position]?.map FieldDescriptor.name
  /-- Wherever fields are added, no role is left without a field that had one, and a valid
  source stays valid. -/
  grows : ∀ larger : Description, source.fields.Sublist larger.fields →
    (∀ role, (assignment source.fields).position? role ≠ none →
      (assignment larger.fields).position? role ≠ none) ∧
        ((inspect source).isValid = true → (inspect larger).isValid = true)

theorem isValid_inspect_iff (source : Description) :
    (inspect source).isValid = true ↔
      (assignment source.fields).position? .sourceAddress ≠ none ∧
        (assignment source.fields).position? .destinationAddress ≠ none := by
  rw [← mapping?_ne_none_iff, inspect, Option.isSome_iff_ne_none]

/-- **The roles of every source share its fields.**  Roles have different fields, names count
only when all fields with the tag of a role are gone, a source is valid if and only if both
addresses have fields, and what is added to a source takes no role away. -/
theorem isShared (source : Description) : source.IsShared where
  apart := (isProper_assignment source.fields).apart
  byTag := by
    intro role position placed
    exact ⟨(keeps_assignmentByTag source.fields).position role position placed,
      Assignment.fits_of_round rfl placed⟩
  byName := by
    intro role position unplaced placed
    exact ⟨Assignment.fits_of_round unplaced placed,
      fun other field present tagged => exists_rival unplaced present tagged⟩
  isValid_iff := isValid_inspect_iff source
  mapped := by
    rw [inspect]
    cases mapped : mapping? source with
    | none => exact Or.inl ⟨rfl, rfl⟩
    | some mapping => exact Or.inr ⟨mapping, rfl, rfl, name?_eq_of_mapping? mapped⟩
  grows := by
    intro larger added
    refine ⟨fun role => position?_ne_none_of_sublist added, ?_⟩
    rw [isValid_inspect_iff, isValid_inspect_iff]
    rintro ⟨isSource, isDestination⟩
    exact ⟨position?_ne_none_of_sublist added isSource,
      position?_ne_none_of_sublist added isDestination⟩

end Source
end TrafficGraph
