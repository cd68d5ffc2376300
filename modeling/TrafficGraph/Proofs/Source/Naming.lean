import TrafficGraph.Proofs.Source.Assignment
import TrafficGraph.Proofs.Text.Encoding

/-!
# Sources that are mapped by names

No name belongs to two roles.  So if no field has a tag, the choices of a role are never
narrowed by those of another: every role has the first field with one of its names.  The
keys of a record are in order, hence a source that is described by a record maps each role
to its least key.
-/

namespace TrafficGraph
namespace Source

variable {fields : List FieldDescriptor} {role : Role}

/-! ## Names and roles -/

/-- No plain name belongs to two roles. -/
theorem Role.eq_of_mem_aliases :
    ∀ first ∈ all, ∀ second ∈ all, ∀ known ∈ first.aliases, known ∈ second.aliases →
      first = second := by
  decide +kernel

theorem Role.matchesName_iff {name : String} :
    role.matchesName name = true ↔ String.ofList (plainName name) ∈ role.aliases := by
  rw [matchesName, List.any_eq_true]
  constructor
  · rintro ⟨known, listed, same⟩
    rwa [beq_iff_eq.1 same, String.ofList_toList]
  · intro listed
    refine ⟨_, listed, ?_⟩
    rw [String.toList_ofList]
    exact beq_self_eq_true _

/-- A name belongs to one role only. -/
theorem Role.eq_of_matchesName
    {first second : Role}
    {name : String}
    (isFirst : first.matchesName name = true)
    (isSecond : second.matchesName name = true) :
    first = second :=
  eq_of_mem_aliases first (mem_all first) second (mem_all second) _ (matchesName_iff.1 isFirst)
    (matchesName_iff.1 isSecond)

/-! ## Independent choices -/

/-- No field has the tag of a role. -/
def Description.IsUntagged (source : Description) : Prop :=
  ∀ field ∈ source.fields, ∀ role, fitsByTag role field = false

/-- A role has no field or the first one with one of its names. -/
structure Assignment.ByNames (fields : List FieldDescriptor) (assignment : Assignment) : Prop where
  proper : assignment.IsProper
  first : ∀ role, assignment.position? role = none ∨
    assignment.position? role = fields.findIdx? (fitsByName role)

theorem findIdx?_eq_some_iff
    {fits : FieldDescriptor → Bool}
    {position : Nat} :
    fields.findIdx? fits = some position ↔
      (∃ field, fields[position]? = some field ∧ fits field = true) ∧
        ∀ earlier < position, ∀ field, fields[earlier]? = some field → fits field = false := by
  rw [List.findIdx?_eq_some_iff_getElem]
  constructor
  · rintro ⟨inside, suits, first⟩
    refine ⟨⟨_, List.getElem?_eq_getElem inside, suits⟩, ?_⟩
    intro earlier less field present
    obtain ⟨_, rfl⟩ := List.getElem?_eq_some_iff.1 present
    exact eq_false_of_ne_true (first earlier less)
  · rintro ⟨⟨field, present, suits⟩, first⟩
    obtain ⟨inside, rfl⟩ := List.getElem?_eq_some_iff.1 present
    refine ⟨inside, suits, ?_⟩
    intro earlier less
    rw [first earlier less _ (List.getElem?_eq_getElem _)]
    exact Bool.false_ne_true

/-- A field with a name of a role that has none is free. -/
theorem Assignment.ByNames.isOpen
    {before : Assignment}
    (byNames : before.ByNames fields)
    (unplaced : before.position? role = none)
    {position : Nat}
    {field : FieldDescriptor}
    (present : fields[position]? = some field)
    (named : fitsByName role field = true) :
    before.IsOpen (fitsByName role) fields position := by
  refine ⟨?_, field, present, named⟩
  by_contra taken
  obtain ⟨owner, placed⟩ := (byNames.proper.taken_iff position).1 (eq_true_of_ne_false taken)
  rcases byNames.first owner with ownerUnplaced | ownerPlaced
  · rw [ownerUnplaced] at placed
    cases placed
  · obtain ⟨⟨other, otherPresent, otherNamed⟩, _⟩ :=
      findIdx?_eq_some_iff.1 (ownerPlaced.symm.trans placed)
    cases present.symm.trans otherPresent
    rw [Role.eq_of_matchesName otherNamed named, unplaced] at placed
    cases placed

theorem Assignment.ByNames.choose
    {before : Assignment}
    (byNames : before.ByNames fields)
    (role : Role) :
    (before.choose fields fitsByName role).ByNames fields := by
  refine ⟨byNames.proper.choose fields fitsByName role, ?_⟩
  intro other
  rcases choose_cases fields fitsByName before role with
    ⟨unchanged, _⟩ | ⟨position, taken, unplaced, isOpen, first⟩
  · rw [unchanged]
    exact byNames.first other
  · rw [taken, position?_cons]
    split
    · next same =>
      rw [same]
      refine Or.inr (findIdx?_eq_some_iff.2 ⟨isOpen.2, ?_⟩).symm
      intro earlier less field present
      by_contra named
      exact first earlier less (byNames.isOpen unplaced present (eq_true_of_ne_false named))
    · exact byNames.first other

theorem assignmentByTag_of_isUntagged
    {source : Description}
    (untagged : source.IsUntagged) :
    assignmentByTag source.fields = [] := by
  apply List.foldlRecOn (motive := fun assignment => assignment = []) Role.all
  · rfl
  · rintro before rfl role _
    rcases Assignment.choose_cases source.fields fitsByTag [] role with
      ⟨unchanged, _⟩ | ⟨position, _, _, ⟨_, field, present, tagged⟩, _⟩
    · exact unchanged
    · rw [untagged field (List.mem_of_getElem? present) role] at tagged
      cases tagged

/-- Every role has the first field with one of its names. -/
theorem position?_eq_findIdx?
    {source : Description}
    (untagged : source.IsUntagged)
    (role : Role) :
    (assignment source.fields).position? role = source.fields.findIdx? (fitsByName role) := by
  have start : Assignment.ByNames source.fields [] :=
    ⟨Assignment.isProper_nil, fun _ => Or.inl rfl⟩
  have byNames : (assignment source.fields).ByNames source.fields := by
    rw [assignment, ← assignmentByTag, assignmentByTag_of_isUntagged untagged]
    exact List.foldlRecOn Role.all _ start fun _ byNames role _ => byNames.choose role
  rcases byNames.first role with unplaced | placed
  · rw [unplaced, eq_comm, List.findIdx?_eq_none_iff]
    intro field listed
    obtain ⟨position, present⟩ := List.mem_iff_getElem?.1 listed
    by_contra named
    exact Assignment.not_isOpen_round (Role.mem_all role) unplaced position
      (byNames.isOpen unplaced present (eq_true_of_ne_false named))
  · exact placed

theorem fieldOf?_eq_find?
    {source : Description}
    (untagged : source.IsUntagged)
    (role : Role) :
    fieldOf? source.fields role =
      (source.fields.find? (fitsByName role)).map FieldDescriptor.name := by
  rw [fieldOf?, position?_eq_findIdx? untagged, List.find?_eq_bind_findIdx?_getElem?]
  cases source.fields.findIdx? (fitsByName role) with
  | none => rfl
  | some position => cases present : source.fields[position]? <;> simp [present]

/-! ## Configurations -/

/-- The outcome for a source in which the roles have fields of these names. -/
def Config.ofNames (name? : Role → Option String) : Config :=
  let fields : Option Mapping := do
    let sourceAddress ← name? .sourceAddress
    let destinationAddress ← name? .destinationAddress
    some {
      sourceAddress
      destinationAddress
      sourcePort := name? .sourcePort
      destinationPort := name? .destinationPort
      protocol := name? .protocol
      timestamp := name? .timestamp
      byteCount := name? .byteCount }
  { isValid := fields.isSome, fields }

theorem inspect_eq_ofNames (source : Description) :
    inspect source = .ofNames (fieldOf? source.fields) := rfl

/-- The name of the first field with one of the names of a role. -/
def Description.firstNamed? (source : Description) (role : Role) : Option String :=
  (source.fields.find? (fitsByName role)).map FieldDescriptor.name

theorem inspect_of_isUntagged
    {source : Description}
    (untagged : source.IsUntagged) :
    inspect source = .ofNames source.firstNamed? := by
  rw [inspect_eq_ofNames]
  exact congrArg Config.ofNames (funext (fieldOf?_eq_find? untagged))

/-- A field has one of the names of some role. -/
def isRecognized (field : FieldDescriptor) : Bool :=
  Role.all.any fun role => fitsByName role field

theorem isRecognized_of_fitsByName
    {field : FieldDescriptor}
    (named : fitsByName role field = true) :
    isRecognized field = true :=
  List.any_eq_true.2 ⟨role, Role.mem_all role, named⟩

/-- Only the recognized fields count. -/
theorem find?_filter_isRecognized (fields : List FieldDescriptor) (role : Role) :
    (fields.filter isRecognized).find? (fitsByName role) = fields.find? (fitsByName role) := by
  rw [List.find?_filter]
  apply congrArg (fun fits => fields.find? fits)
  funext field
  cases named : fitsByName role field with
  | false => simp
  | true => simp [isRecognized_of_fitsByName named]

/-- Of a source without tags each role, for itself, takes the first field with one of its
names. -/
structure Description.MapsByNames (source : Description) : Prop where
  /-- The outcome is the one in which each role has that field. -/
  outcome : inspect source = .ofNames source.firstNamed?
  /-- That field is the first one whose plain name is among those of the role; a role has none
  if and only if there is no such field. -/
  first : ∀ role, (assignment source.fields).position? role =
    source.fields.findIdx? fun field => String.ofList (Role.plainName field.name) ∈ role.aliases
  unmapped_iff : ∀ role, fieldOf? source.fields role = none ↔
    ∀ field ∈ source.fields, String.ofList (Role.plainName field.name) ∉ role.aliases
  /-- The fields may be put in another order, if those of each role stay in theirs. -/
  reordered : ∀ other : Description, other.fields.Perm source.fields →
    (∀ role, other.fields.filter (fitsByName role) = source.fields.filter (fitsByName role)) →
      inspect other = inspect source
  /-- Fields without a tag or a name of a role may be added and removed anywhere. -/
  diluted : ∀ other : Description, other.IsUntagged →
    other.fields.filter isRecognized = source.fields.filter isRecognized →
      inspect other = inspect source

theorem fitsByName_eq_decide (role : Role) (field : FieldDescriptor) :
    fitsByName role field =
      decide (String.ofList (Role.plainName field.name) ∈ role.aliases) := by
  rw [Bool.eq_iff_iff, decide_eq_true_iff]
  exact Role.matchesName_iff

theorem mapsByNames_of_isUntagged
    {source : Description}
    (untagged : source.IsUntagged) :
    source.MapsByNames where
  outcome := inspect_of_isUntagged untagged
  first := by
    intro role
    rw [position?_eq_findIdx? untagged]
    exact congrArg (source.fields.findIdx? ·) (funext (fitsByName_eq_decide role))
  unmapped_iff := by
    intro role
    rw [fieldOf?_eq_find? untagged, Option.map_eq_none_iff, List.find?_eq_none]
    simp only [fitsByName_eq_decide, decide_eq_true_eq]
  reordered := by
    intro other permuted sameOrder
    have otherUntagged : other.IsUntagged := by
      intro field listed
      exact untagged field (permuted.mem_iff.1 listed)
    rw [inspect_of_isUntagged otherUntagged, inspect_of_isUntagged untagged]
    apply congrArg Config.ofNames
    funext role
    rw [Description.firstNamed?, ← List.head?_filter, sameOrder, List.head?_filter]
    rfl
  diluted := by
    intro other otherUntagged sameRecognized
    rw [inspect_of_isUntagged otherUntagged, inspect_of_isUntagged untagged]
    apply congrArg Config.ofNames
    funext role
    rw [Description.firstNamed?, ← find?_filter_isRecognized, sameRecognized,
      find?_filter_isRecognized]
    rfl

/-! ## Sources described by a record -/

variable {record : Record}

theorem isUntagged_ofRecord (record : Record) : (Description.ofRecord record).IsUntagged := by
  intro field listed role
  obtain ⟨key, _, rfl⟩ := List.mem_map.1 listed
  rfl

theorem keys_increase (record : Record) : record.keys.Pairwise (· < ·) :=
  List.pairwise_map.2 record.normal.1

/-- A key is the least one of a record, by its bytes, that has a name of the role. -/
structure Role.IsLeastKey (role : Role) (record : Record) (key : String) : Prop where
  listed : key ∈ record.keys
  named : String.ofList (plainName key) ∈ role.aliases
  least : ∀ other ∈ record.keys, String.ofList (plainName other) ∈ role.aliases →
    other = key ∨ utf8 key < utf8 other

theorem firstNamed?_ofRecord (record : Record) (role : Role) :
    (Description.ofRecord record).firstNamed? role = record.keys.find? role.matchesName := by
  rw [Description.firstNamed?, Description.ofRecord, List.find?_map, Option.map_map]
  exact congrFun Option.map_id _

/-- The first key of a role is its least one. -/
theorem isLeastKey_of_find?
    {key : String}
    (found : record.keys.find? role.matchesName = some key) :
    role.IsLeastKey record key := by
  obtain ⟨named, front, back, keys_eq, passed⟩ := List.find?_eq_some_iff_append.1 found
  have increase := keys_increase record
  rw [keys_eq] at increase
  have later := (List.pairwise_cons.1 (List.pairwise_append.1 increase).2.1).1
  refine ⟨List.mem_of_find?_eq_some found, Role.matchesName_iff.1 named, ?_⟩
  intro other listed otherNamed
  rw [keys_eq, List.mem_append, List.mem_cons] at listed
  rcases listed with before | same | behind
  · have notNamed := passed other before
    rw [Role.matchesName_iff.2 otherNamed] at notNamed
    cases notNamed
  · exact Or.inl same
  · exact Or.inr (Text.utf8_lt (later other behind))

theorem find?_of_isLeastKey
    {key : String}
    (isLeast : role.IsLeastKey record key) :
    record.keys.find? role.matchesName = some key := by
  cases found : record.keys.find? role.matchesName with
  | none =>
      have notNamed := List.find?_eq_none.1 found key isLeast.listed
      exact absurd (Role.matchesName_iff.2 isLeast.named) notNamed
  | some other =>
      have otherLeast := isLeastKey_of_find? found
      rcases isLeast.least other otherLeast.listed otherLeast.named with same | less
      · rw [same]
      · rcases otherLeast.least key isLeast.listed isLeast.named with same | greater
        · rw [same]
        · exact absurd less (List.lt_asymm greater)

theorem find?_eq_some_iff_isLeastKey {key : String} :
    record.keys.find? role.matchesName = some key ↔ role.IsLeastKey record key :=
  ⟨isLeastKey_of_find?, find?_of_isLeastKey⟩

/-- Of the source that a record describes each role has its least key. -/
structure MapsByKeys (record : Record) : Prop where
  /-- The outcome is the one in which each role has its least key, if it has one. -/
  outcome : ∃ key? : Role → Option String,
    inspect (.ofRecord record) = .ofNames key? ∧
      (∀ role key, key? role = some key ↔ role.IsLeastKey record key) ∧
      ∀ first second key, key? first = some key → key? second = some key → first = second
  /-- The values of the record do not count. -/
  keysOnly : ∀ other : Record, (∀ key, key ∈ other.keys ↔ key ∈ record.keys) →
    inspect (.ofRecord other) = inspect (.ofRecord record)

theorem keys_eq_of_mem_iff
    {first second : Record}
    (sameKeys : ∀ key, key ∈ first.keys ↔ key ∈ second.keys) :
    first.keys = second.keys := by
  have firstIncrease := keys_increase first
  have secondIncrease := keys_increase second
  have distinct {record : Record} (increase : record.keys.Pairwise (· < ·)) :
      record.keys.Nodup :=
    increase.imp String.ne_of_lt
  have antisymm (key other : String) (_ : key ∈ first.keys) (_ : other ∈ second.keys)
      (less : key < other) (greater : other < key) : key = other :=
    absurd less (String.lt_asymm greater)
  have permuted : first.keys.Perm second.keys :=
    (List.perm_ext_iff_of_nodup (distinct firstIncrease) (distinct secondIncrease)).2 sameKeys
  exact List.Perm.eq_of_pairwise antisymm firstIncrease secondIncrease permuted

theorem mapsByKeys (record : Record) : MapsByKeys record where
  outcome := by
    refine ⟨fun role => record.keys.find? role.matchesName, ?_, ?_, ?_⟩
    · rw [inspect_of_isUntagged (isUntagged_ofRecord record)]
      exact congrArg Config.ofNames (funext (firstNamed?_ofRecord record))
    · intro role key
      exact find?_eq_some_iff_isLeastKey
    · intro first second key isFirst isSecond
      exact Role.eq_of_matchesName (List.find?_some isFirst) (List.find?_some isSecond)
  keysOnly := by
    intro other sameKeys
    rw [Description.ofRecord, Description.ofRecord, keys_eq_of_mem_iff sameKeys]

/-- **Without tags, names decide for each role alone.**  A source whose fields have no tags
maps every role to the first field with one of its names, whatever other roles find, so that
only the order of the fields of one role counts; a source that is described by a record maps
it to the least of those keys. -/
theorem names_decide :
    (∀ source : Description, source.IsUntagged → source.MapsByNames) ∧
      ∀ record : Record, MapsByKeys record :=
  ⟨fun _ => mapsByNames_of_isUntagged, mapsByKeys⟩

/-- A source in which two fields have names of one role, and a tag is that of no role. -/
def mixedSource : Description where
  name := "sensor"
  fields := [⟨"note", ["hint"]⟩, ⟨"Src-IP", []⟩, ⟨"dst.addr", ["net.peer"]⟩, ⟨"src", []⟩]

theorem names_decide_mixed : mixedSource.IsUntagged ∧ mixedSource.MapsByNames := by
  have untagged : mixedSource.IsUntagged := by
    intro field listed role
    revert field listed
    cases role <;> decide +kernel
  exact ⟨untagged, names_decide.1 mixedSource untagged⟩

end Source
end TrafficGraph
