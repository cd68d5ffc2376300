import TrafficGraph.Proofs.Toml.Keys
import TrafficGraph.Settings.Overlay

/-!
# Settings in documents

A document can be decoded if each of its members is a setting of the right kind or a section
of such settings.  What is then decoded of a setting is the value that the document has in its
place and nothing else, since no key stands twice.
-/

namespace TrafficGraph

/-- The settings of a process, one by one. -/
inductive Setting
  /-- The host to serve at. -/
  | host
  /-- The port to serve at. -/
  | port
  /-- The port threshold of new views. -/
  | portThreshold
  /-- The time after which active entries fade. -/
  | fadeAfter
  /-- The time after which fading entries are idle. -/
  | idleAfter
  /-- Times are taken from records. -/
  | useEventTime
  /-- The period of decay loops. -/
  | decayPeriod
  /-- The capacity of the capture ring. -/
  | ringCapacity
  deriving DecidableEq

namespace Setting

/-- What a setting can be. -/
inductive Kind
  /-- A text. -/
  | text
  /-- A word of 16 bits. -/
  | word16
  /-- A word of 64 bits. -/
  | word64
  /-- A truth value. -/
  | flag

/-- The values of a kind. -/
def Kind.Carrier : Kind → Type
  | .text => String
  | .word16 => UInt16
  | .word64 => UInt64
  | .flag => Bool

/-- The value of a kind that a value of a document is. -/
def Kind.ofToml? : (kind : Kind) → Toml.Value → Option kind.Carrier
  | .text => Toml.Value.text?
  | .word16 => Toml.Value.word16?
  | .word64 => Toml.Value.word64?
  | .flag => Toml.Value.flag?

/-- The kind of a setting. -/
def kind : Setting → Kind
  | host => .text
  | port => .word16
  | portThreshold => .word16
  | fadeAfter => .word64
  | idleAfter => .word64
  | useEventTime => .flag
  | decayPeriod => .word64
  | ringCapacity => .word64

/-- The values of a setting. -/
abbrev Value (setting : Setting) : Type :=
  setting.kind.Carrier

/-- The key of a setting in a document. -/
def key : Setting → String
  | host => "host"
  | port => "port"
  | portThreshold => "ephemeral_port_threshold"
  | fadeAfter => "fade_after_ms"
  | idleAfter => "idle_after_ms"
  | useEventTime => "use_event_time"
  | decayPeriod => "decay_period_ms"
  | ringCapacity => "ring_capacity"

/-- The sections of a document. -/
inductive Section
  /-- The address to serve at. -/
  | server
  /-- The options of new views. -/
  | graph

/-- The key of a section in a document. -/
def Section.key : Section → String
  | server => "dashboard"
  | graph => "graph"

/-- The section of a setting, if it has one. -/
def section? : Setting → Option Section
  | host => some .server
  | port => some .server
  | portThreshold => some .graph
  | fadeAfter => some .graph
  | idleAfter => some .graph
  | useEventTime => some .graph
  | decayPeriod => none
  | ringCapacity => none

/-- The place of a setting in its section, if that is an array. -/
def position : Setting → Nat
  | host => 0
  | port => 1
  | portThreshold => 0
  | fadeAfter => 1
  | idleAfter => 2
  | useEventTime => 3
  | _ => 0

/-- The value that a section has in the place of a setting. -/
def sectionValue? (setting : Setting) : Toml.Value → Option Toml.Value
  | .table _ members => Toml.Members.get? members setting.key
  | .array items => items[setting.position]?
  | _ => none

/-- The value that a document has in the place of a setting. -/
def value? (members : Toml.Members) (setting : Setting) : Option Toml.Value :=
  match setting.section? with
  | some part => (members.get? part.key).bind setting.sectionValue?
  | none => members.get? setting.key

/-- The member gives one of the settings of a section, or of those without one, a value of
its kind. -/
def Assigns (part : Option Section) (member : String × Toml.Value) : Prop :=
  ∃ setting : Setting, setting.section? = part ∧ member.1 = setting.key ∧
    (setting.kind.ofToml? member.2).isSome

/-- A value can be decoded as a section. -/
def Section.Decodes (part : Section) : Toml.Value → Prop
  | .table _ members => ∀ member ∈ members, Assigns (some part) member
  | .array items =>
    ∀ setting : Setting, setting.section? = some part →
      (items[setting.position]?.bind setting.kind.ofToml?).isSome
  | _ => False

/-- The members of a document can be decoded. -/
def Decodes (members : Toml.Members) : Prop :=
  ∀ member ∈ members,
    Assigns none member ∨ ∃ part : Section, member.1 = part.key ∧ part.Decodes member.2

end Setting

/-! ## Members one by one -/

/-- A way to take the members of a table into a state, one by one.  The state has a place for
each known key. -/
structure Intake (State : Type) where
  /-- The places of the state. -/
  Place : Type
  /-- The key of a place. -/
  key : Place → String
  /-- The contents of a place. -/
  Content : Place → Type
  /-- The content that a value stands for. -/
  read : (place : Place) → Toml.Value → Option (Content place)
  /-- Takes one member. -/
  set : State → String × Toml.Value → Option State
  /-- The content of a place. -/
  get : State → (place : Place) → Option (Content place)
  /-- Another content in a place. -/
  put : State → (place : Place) → Content place → State
  /-- Places have different keys. -/
  key_injective : Function.Injective key
  /-- A member is taken into the place of its key. -/
  set_key : ∀ state place value,
    set state (key place, value) = (read place value).map (put state place)
  /-- A member without a place is not taken. -/
  set_other : ∀ state member, (∀ place, member.1 ≠ key place) → set state member = none
  /-- What was put in a place is there. -/
  get_put_self : ∀ state place content, get (put state place content) place = some content
  /-- The other places are as they were. -/
  get_put_of_ne : ∀ state place content other, other ≠ place →
    get (put state place content) other = get state other

namespace Intake

variable {State : Type} (intake : Intake State)

/-- The member has a key and a value that can be taken. -/
def Takes (member : String × Toml.Value) : Prop :=
  ∃ place, member.1 = intake.key place ∧ (intake.read place member.2).isSome

theorem isSome_set (state : State) (member : String × Toml.Value) :
    (intake.set state member).isSome ↔ intake.Takes member := by
  obtain ⟨key, value⟩ := member
  by_cases known : ∃ place, key = intake.key place
  · obtain ⟨place, rfl⟩ := known
    rw [set_key, Option.isSome_map]
    constructor
    · exact fun isRead => ⟨place, rfl, isRead⟩
    · rintro ⟨other, same, isRead⟩
      rwa [intake.key_injective same]
  · have unknown : ∀ place, key ≠ intake.key place := not_exists.1 known
    rw [intake.set_other state _ unknown]
    constructor
    · nofun
    · rintro ⟨place, same, _⟩
      exact absurd same (unknown place)

/-- A member that is taken changes the place of its key and no other. -/
theorem get_of_set
    {before after : State}
    {member : String × Toml.Value}
    (isSet : intake.set before member = some after)
    (place : intake.Place) :
    intake.get after place =
      if member.1 = intake.key place then intake.read place member.2
      else intake.get before place := by
  obtain ⟨key, value⟩ := member
  obtain ⟨taken, rfl, _⟩ := (intake.isSome_set before _).1 (Option.isSome_of_eq_some isSet)
  rw [set_key] at isSet
  obtain ⟨content, isRead, rfl⟩ := Option.map_eq_some_iff.1 isSet
  by_cases same : taken = place
  · subst same
    rw [if_pos rfl, get_put_self, isRead]
  · rw [if_neg (intake.key_injective.ne same), intake.get_put_of_ne _ _ _ _ (Ne.symm same)]

/-- All members are taken if each of them can be. -/
theorem isSome_foldlM
    (members : Toml.Members)
    (start : State) :
    (members.foldlM intake.set start).isSome ↔ ∀ member ∈ members, intake.Takes member := by
  induction members generalizing start with
  | nil => simp
  | cons member members inductionHypothesis =>
      rw [List.foldlM_cons, List.forall_mem_cons, ← intake.isSome_set start]
      cases intake.set start member with
      | none => simp
      | some state => simp [inductionHypothesis state]

/-- After all members were taken, a place has what the only member with its key gives, if there
is one. -/
theorem get_of_foldlM
    {members : Toml.Members}
    (distinct : members.Pairwise fun first second => first.1 ≠ second.1)
    {start final : State}
    (taken : members.foldlM intake.set start = some final)
    (place : intake.Place) :
    intake.get final place =
      ((members.get? (intake.key place)).map (intake.read place)).getD
        (intake.get start place) := by
  induction members generalizing start with
  | nil =>
      cases taken
      rfl
  | cons member members inductionHypothesis =>
      obtain ⟨later, apart⟩ := List.pairwise_cons.1 distinct
      rw [List.foldlM_cons] at taken
      obtain ⟨state, isSet, restTaken⟩ := Option.bind_eq_some_iff.1 taken
      obtain ⟨name, value⟩ := member
      rw [inductionHypothesis apart restTaken, intake.get_of_set isSet, Toml.Members.get?,
        Toml.Members.get?, List.lookup_cons]
      by_cases same : name = intake.key place
      · have absent : members.lookup (intake.key place) = none := by
          rw [List.lookup_eq_none_iff]
          intro other listed
          exact bne_iff_ne.2 fun again => later other listed (same.trans again)
        simp [same, absent]
      · rw [if_neg same, beq_eq_false_iff_ne.2 (Ne.symm same)]

/-- A place that was empty has what the only member with its key gives. -/
theorem get_of_foldlM_of_eq_none
    {members : Toml.Members}
    (distinct : members.Pairwise fun first second => first.1 ≠ second.1)
    {start final : State}
    (taken : members.foldlM intake.set start = some final)
    {place : intake.Place}
    (empty : intake.get start place = none) :
    intake.get final place =
      (Toml.Members.get? members (intake.key place)).bind (intake.read place) := by
  rw [intake.get_of_foldlM distinct taken, empty]
  cases Toml.Members.get? members (intake.key place) <;> rfl

end Intake

/-! ## Sections -/

/-- An array gives the host and the port, in this order. -/
theorem ServerOverlay.ofValue?_array (items : List Toml.Value) :
    ofValue? (.array items) = (do
      let host ← items[0]?.bind Toml.Value.text?
      let port ← items[1]?.bind Toml.Value.word16?
      some { host := some host, port := some port }) := by
  rcases items with _ | ⟨host, _ | ⟨port, items⟩⟩
  · rfl
  · simp [ofValue?]
  · rfl

/-- An array gives the four options, in this order. -/
theorem GraphOverlay.ofValue?_array (items : List Toml.Value) :
    ofValue? (.array items) = (do
      let threshold ← items[0]?.bind Toml.Value.word16?
      let fade ← items[1]?.bind Toml.Value.word64?
      let idle ← items[2]?.bind Toml.Value.word64?
      let eventTime ← items[3]?.bind Toml.Value.flag?
      some {
        portThreshold := some threshold
        fadeAfter := some fade
        idleAfter := some idle
        useEventTime := some eventTime }) := by
  rcases items with _ | ⟨threshold, _ | ⟨fade, _ | ⟨idle, _ | ⟨eventTime, items⟩⟩⟩⟩
  · rfl
  · simp [ofValue?]
  · simp [ofValue?]
  · simp [ofValue?]
  · rfl

namespace Setting

theorem key_injective : Function.Injective key := by
  intro first second same
  cases first <;> cases second <;> first | rfl | exact absurd same (by decide)

namespace Section

/-- What a section gives. -/
abbrev Overlay : Section → Type
  | server => ServerOverlay
  | graph => GraphOverlay

/-- What a value gives as a section. -/
def ofValue? : (part : Section) → Toml.Value → Option part.Overlay
  | server => ServerOverlay.ofValue?
  | graph => GraphOverlay.ofValue?

/-- Takes one member of a section. -/
def set : (part : Section) → part.Overlay → String × Toml.Value → Option part.Overlay
  | server => ServerOverlay.set
  | graph => GraphOverlay.set

/-- A section that gives nothing. -/
def blank : (part : Section) → part.Overlay
  | server => {}
  | graph => {}

/-- What a section gives a setting. -/
def get? : (part : Section) → part.Overlay → (setting : Setting) → Option setting.Value
  | server, overlay, host => overlay.host
  | server, overlay, port => overlay.port
  | graph, overlay, portThreshold => overlay.portThreshold
  | graph, overlay, fadeAfter => overlay.fadeAfter
  | graph, overlay, idleAfter => overlay.idleAfter
  | graph, overlay, useEventTime => overlay.useEventTime
  | _, _, _ => none

/-- A section that gives a setting another value. -/
def put : (part : Section) → part.Overlay → (setting : Setting) → setting.Value → part.Overlay
  | server, overlay, host, value => { overlay with host := some value }
  | server, overlay, port, value => { overlay with port := some value }
  | graph, overlay, portThreshold, value => { overlay with portThreshold := some value }
  | graph, overlay, fadeAfter, value => { overlay with fadeAfter := some value }
  | graph, overlay, idleAfter, value => { overlay with idleAfter := some value }
  | graph, overlay, useEventTime, value => { overlay with useEventTime := some value }
  | _, overlay, _, _ => overlay

theorem set_key
    {part : Section}
    {setting : Setting}
    (inside : setting.section? = some part)
    (overlay : part.Overlay)
    (value : Toml.Value) :
    part.set overlay (setting.key, value) =
      (setting.kind.ofToml? value).map (part.put overlay setting) := by
  cases setting <;> cases inside <;> rfl

theorem set_other
    {part : Section}
    {member : String × Toml.Value}
    (unknown : ∀ setting : Setting, setting.section? = some part → member.1 ≠ setting.key)
    (overlay : part.Overlay) :
    part.set overlay member = none := by
  cases part with
  | server =>
      rw [set, ServerOverlay.set]
      split
      · next isHost => exact absurd isHost (unknown host rfl)
      · next isPort => exact absurd isPort (unknown port rfl)
      · rfl
  | graph =>
      rw [set, GraphOverlay.set]
      split
      · next isThreshold => exact absurd isThreshold (unknown portThreshold rfl)
      · next isFade => exact absurd isFade (unknown fadeAfter rfl)
      · next isIdle => exact absurd isIdle (unknown idleAfter rfl)
      · next isFlag => exact absurd isFlag (unknown useEventTime rfl)
      · rfl

theorem get?_put_self
    {part : Section}
    {setting : Setting}
    (inside : setting.section? = some part)
    (overlay : part.Overlay)
    (value : setting.Value) :
    part.get? (part.put overlay setting value) setting = some value := by
  cases setting <;> cases inside <;> rfl

theorem get?_put_of_ne
    {part : Section}
    {setting other : Setting}
    (inside : setting.section? = some part)
    (overlay : part.Overlay)
    (value : setting.Value)
    (different : other ≠ setting) :
    part.get? (part.put overlay setting value) other = part.get? overlay other := by
  cases setting <;> cases inside <;> cases other <;> first | rfl | exact absurd rfl different

/-- How a section takes its members. -/
def intake (part : Section) : Intake part.Overlay where
  Place := { setting : Setting // setting.section? = some part }
  key place := place.1.key
  Content place := place.1.Value
  read place := place.1.kind.ofToml?
  set := part.set
  get overlay place := part.get? overlay place.1
  put overlay place := part.put overlay place.1
  key_injective _ _ same := Subtype.ext (key_injective same)
  set_key overlay place := set_key place.2 overlay
  set_other overlay _ unknown := set_other (fun setting inside => unknown ⟨setting, inside⟩) overlay
  get_put_self overlay place := get?_put_self place.2 overlay
  get_put_of_ne overlay place content _ different :=
    get?_put_of_ne place.2 overlay content fun same => different (Subtype.ext same)

theorem takes_intake_iff
    {part : Section}
    {member : String × Toml.Value} :
    part.intake.Takes member ↔ Assigns (some part) member := by
  constructor
  · rintro ⟨⟨setting, inside⟩, assigned⟩
    exact ⟨setting, inside, assigned⟩
  · rintro ⟨setting, inside, assigned⟩
    exact ⟨⟨setting, inside⟩, assigned⟩

theorem ofValue?_table
    (part : Section)
    (origin : Toml.Origin)
    (members : Toml.Members) :
    part.ofValue? (.table origin members) = members.foldlM part.intake.set part.blank := by
  cases part <;> rfl

/-- An array gives a section if it has a value for each of its settings. -/
theorem ofValue?_array_eq_some_iff
    {part : Section}
    {items : List Toml.Value}
    {overlay : part.Overlay} :
    part.ofValue? (.array items) = some overlay ↔
      ∀ setting : Setting, setting.section? = some part → ∃ content,
        items[setting.position]?.bind setting.kind.ofToml? = some content ∧
          part.get? overlay setting = some content := by
  cases part with
  | server =>
      rw [ofValue?, ServerOverlay.ofValue?_array]
      obtain ⟨host?, port?⟩ := overlay
      constructor
      · intro found setting inside
        obtain ⟨_, isHost, ofPort⟩ := Option.bind_eq_some_iff.1 found
        obtain ⟨_, isPort, overlay_eq⟩ := Option.bind_eq_some_iff.1 ofPort
        cases overlay_eq
        cases setting <;> cases inside
        · exact ⟨_, isHost, rfl⟩
        · exact ⟨_, isPort, rfl⟩
      · intro given
        obtain ⟨host, isHost, host_eq⟩ := given .host rfl
        obtain ⟨port, isPort, port_eq⟩ := given .port rfl
        cases host_eq
        cases port_eq
        exact Option.bind_eq_some_iff.2 ⟨_, isHost, Option.bind_eq_some_iff.2 ⟨_, isPort, rfl⟩⟩
  | graph =>
      rw [ofValue?, GraphOverlay.ofValue?_array]
      obtain ⟨threshold?, fade?, idle?, flag?⟩ := overlay
      constructor
      · intro found setting inside
        obtain ⟨_, isThreshold, ofFade⟩ := Option.bind_eq_some_iff.1 found
        obtain ⟨_, isFade, ofIdle⟩ := Option.bind_eq_some_iff.1 ofFade
        obtain ⟨_, isIdle, ofFlag⟩ := Option.bind_eq_some_iff.1 ofIdle
        obtain ⟨_, isFlag, overlay_eq⟩ := Option.bind_eq_some_iff.1 ofFlag
        cases overlay_eq
        cases setting <;> cases inside
        · exact ⟨_, isThreshold, rfl⟩
        · exact ⟨_, isFade, rfl⟩
        · exact ⟨_, isIdle, rfl⟩
        · exact ⟨_, isFlag, rfl⟩
      · intro given
        obtain ⟨threshold, isThreshold, threshold_eq⟩ := given .portThreshold rfl
        obtain ⟨fade, isFade, fade_eq⟩ := given .fadeAfter rfl
        obtain ⟨idle, isIdle, idle_eq⟩ := given .idleAfter rfl
        obtain ⟨flag, isFlag, flag_eq⟩ := given .useEventTime rfl
        cases threshold_eq
        cases fade_eq
        cases idle_eq
        cases flag_eq
        exact Option.bind_eq_some_iff.2 ⟨_, isThreshold, Option.bind_eq_some_iff.2 ⟨_, isFade,
          Option.bind_eq_some_iff.2 ⟨_, isIdle, Option.bind_eq_some_iff.2 ⟨_, isFlag, rfl⟩⟩⟩⟩

/-- The section with given contents. -/
def ofContents :
    (part : Section) → ((setting : Setting) → Option setting.Value) → part.Overlay
  | server, content => { host := content .host, port := content .port }
  | graph, content => {
      portThreshold := content .portThreshold
      fadeAfter := content .fadeAfter
      idleAfter := content .idleAfter
      useEventTime := content .useEventTime }

theorem get?_ofContents
    {part : Section}
    {setting : Setting}
    (inside : setting.section? = some part)
    (content : (setting : Setting) → Option setting.Value) :
    part.get? (part.ofContents content) setting = content setting := by
  cases setting <;> cases inside <;> rfl

theorem get?_blank (part : Section) (setting : Setting) :
    part.get? part.blank setting = none := by
  cases part <;> cases setting <;> rfl

theorem isSome_ofValue?_iff
    {part : Section}
    {value : Toml.Value} :
    (part.ofValue? value).isSome ↔ part.Decodes value := by
  cases value with
  | table origin members =>
      rw [ofValue?_table, Intake.isSome_foldlM]
      exact forall₂_congr fun member _ => takes_intake_iff
  | array items =>
      rw [Option.isSome_iff_exists]
      constructor
      · rintro ⟨overlay, found⟩ setting inside
        obtain ⟨_, isContent, _⟩ := ofValue?_array_eq_some_iff.1 found setting inside
        exact Option.isSome_of_eq_some isContent
      · intro decodes
        refine ⟨part.ofContents fun setting =>
          items[setting.position]?.bind setting.kind.ofToml?, ofValue?_array_eq_some_iff.2 ?_⟩
        intro setting inside
        obtain ⟨content, isContent⟩ := Option.isSome_iff_exists.1 (decodes setting inside)
        exact ⟨content, isContent, (get?_ofContents inside _).trans isContent⟩
  | string text => cases part <;> exact ⟨nofun, nofun⟩
  | integer number => cases part <;> exact ⟨nofun, nofun⟩
  | boolean flag => cases part <;> exact ⟨nofun, nofun⟩
  | float text => cases part <;> exact ⟨nofun, nofun⟩
  | moment text => cases part <;> exact ⟨nofun, nofun⟩

/-- A section gives a setting what it has in the place of that. -/
theorem get?_of_ofValue?
    {part : Section}
    {value : Toml.Value}
    (isTidy : value.IsTidy)
    {overlay : part.Overlay}
    (found : part.ofValue? value = some overlay)
    {setting : Setting}
    (inside : setting.section? = some part) :
    part.get? overlay setting = (setting.sectionValue? value).bind setting.kind.ofToml? := by
  cases value with
  | table origin members =>
      rw [ofValue?_table] at found
      have distinct := (Toml.Members.areTidy_iff.1 isTidy).1
      have empty : part.intake.get part.blank ⟨setting, inside⟩ = none := get?_blank part setting
      exact part.intake.get_of_foldlM_of_eq_none distinct found empty
  | array items =>
      obtain ⟨content, isContent, get_eq⟩ := ofValue?_array_eq_some_iff.1 found setting inside
      exact get_eq.trans isContent.symm
  | string text => cases part <;> cases found
  | integer number => cases part <;> cases found
  | boolean flag => cases part <;> cases found
  | float text => cases part <;> cases found
  | moment text => cases part <;> cases found

end Section

theorem Section.key_injective : Function.Injective Section.key := by
  intro first second same
  cases first <;> cases second <;> first | rfl | exact absurd same (by decide)

theorem Section.key_ne_key
    (part : Section)
    (setting : Setting) :
    part.key ≠ setting.key := by
  cases part <;> cases setting <;> decide

theorem Assigns.exists_content
    {part : Option Section}
    {setting : Setting}
    {value : Toml.Value}
    (assigns : Assigns part (setting.key, value)) :
    ∃ content, setting.kind.ofToml? value = some content := by
  obtain ⟨other, _, same, isRead⟩ := assigns
  rw [← Setting.key_injective same] at isRead
  exact Option.isSome_iff_exists.1 isRead

/-- A section that can be decoded has values of the right kind. -/
theorem Section.Decodes.exists_content
    {part : Section}
    {whole : Toml.Value}
    (decodes : part.Decodes whole)
    {setting : Setting}
    (inside : setting.section? = some part)
    {value : Toml.Value}
    (present : setting.sectionValue? whole = some value) :
    ∃ content, setting.kind.ofToml? value = some content := by
  cases whole with
  | table origin members =>
      exact (decodes _ (Toml.Members.mem_of_get? present)).exists_content
  | array items =>
      obtain ⟨content, isContent⟩ := Option.isSome_iff_exists.1 (decodes setting inside)
      have listed : items[setting.position]? = some value := present
      rw [listed] at isContent
      exact ⟨content, isContent⟩
  | string text => cases present
  | integer number => cases present
  | boolean flag => cases present
  | float text => cases present
  | moment text => cases present

/-- A document that can be decoded has values of the right kind. -/
theorem Decodes.exists_content
    {members : Toml.Members}
    (decodes : Decodes members)
    {setting : Setting}
    {value : Toml.Value}
    (present : setting.value? members = some value) :
    ∃ content, setting.kind.ofToml? value = some content := by
  unfold value? at present
  split at present
  · next part inside =>
    obtain ⟨whole, found, present⟩ := Option.bind_eq_some_iff.1 present
    have ofMember := decodes _ (Toml.Members.mem_of_get? found)
    rcases ofMember with ⟨other, _, same, _⟩ | ⟨other, same, decodes⟩
    · exact absurd same (part.key_ne_key other)
    · rw [← Section.key_injective same] at decodes
      exact decodes.exists_content inside present
  · rcases decodes _ (Toml.Members.mem_of_get? present) with assigns | ⟨part, same, _⟩
    · exact assigns.exists_content
    · exact absurd same.symm (part.key_ne_key setting)

end Setting

/-! ## Documents -/

namespace Overlay

open Setting (Section Assigns)

/-- What a document has keys of its own for. -/
inductive Place
  | decayPeriod
  | ringCapacity
  | server
  | graph

namespace Place

/-- The key of a place. -/
def key : Place → String
  | decayPeriod => Setting.decayPeriod.key
  | ringCapacity => Setting.ringCapacity.key
  | server => Section.server.key
  | graph => Section.graph.key

/-- The contents of a place. -/
abbrev Content : Place → Type
  | decayPeriod => UInt64
  | ringCapacity => UInt64
  | server => ServerOverlay
  | graph => GraphOverlay

/-- The content that a value stands for. -/
def read : (place : Place) → Toml.Value → Option place.Content
  | decayPeriod => Toml.Value.word64?
  | ringCapacity => Toml.Value.word64?
  | server => ServerOverlay.ofValue?
  | graph => GraphOverlay.ofValue?

/-- The content of a place. -/
def get (given : Overlay) : (place : Place) → Option place.Content
  | decayPeriod => given.decayPeriod
  | ringCapacity => given.ringCapacity
  | server => some given.server
  | graph => some given.graph

/-- Another content in a place. -/
def put (given : Overlay) : (place : Place) → place.Content → Overlay
  | decayPeriod, period => { given with decayPeriod := some period }
  | ringCapacity, capacity => { given with ringCapacity := some capacity }
  | server, address => { given with server := address }
  | graph, options => { given with graph := options }

theorem key_injective : Function.Injective key := by
  intro first second same
  cases first <;> cases second <;> first | rfl | exact absurd same (by decide)

theorem set_other
    {member : String × Toml.Value}
    (unknown : ∀ place, member.1 ≠ key place)
    (given : Overlay) :
    given.set member = none := by
  rw [set]
  split
  · next isPeriod => exact absurd isPeriod (unknown decayPeriod)
  · next isCapacity => exact absurd isCapacity (unknown ringCapacity)
  · next isServer => exact absurd isServer (unknown server)
  · next isGraph => exact absurd isGraph (unknown graph)
  · rfl

end Place

/-- How a document takes its members. -/
def intake : Intake Overlay where
  Place := Place
  key := Place.key
  Content := Place.Content
  read := Place.read
  set := set
  get := Place.get
  put := Place.put
  key_injective := Place.key_injective
  set_key _ place _ := by cases place <;> rfl
  set_other given _ unknown := Place.set_other unknown given
  get_put_self _ place _ := by cases place <;> rfl
  get_put_of_ne _ place _ other different := by
    cases place <;> cases other <;> first | rfl | exact absurd rfl different

theorem takes_intake_iff {member : String × Toml.Value} :
    intake.Takes member ↔
      Assigns none member ∨ ∃ part : Section, member.1 = part.key ∧ part.Decodes member.2 := by
  constructor
  · rintro ⟨place, same, isRead⟩
    cases place with
    | decayPeriod => exact Or.inl ⟨.decayPeriod, rfl, same, isRead⟩
    | ringCapacity => exact Or.inl ⟨.ringCapacity, rfl, same, isRead⟩
    | server => exact Or.inr ⟨.server, same, Section.isSome_ofValue?_iff.1 isRead⟩
    | graph => exact Or.inr ⟨.graph, same, Section.isSome_ofValue?_iff.1 isRead⟩
  · rintro (⟨setting, outside, same, isRead⟩ | ⟨part, same, decodes⟩)
    · cases setting <;> cases outside
      · exact ⟨.decayPeriod, same, isRead⟩
      · exact ⟨.ringCapacity, same, isRead⟩
    · have isRead := Section.isSome_ofValue?_iff.2 decodes
      cases part with
      | server => exact ⟨.server, same, isRead⟩
      | graph => exact ⟨.graph, same, isRead⟩

/-- What a document gives a setting. -/
def get? (given : Overlay) : (setting : Setting) → Option setting.Value
  | .host => given.server.host
  | .port => given.server.port
  | .portThreshold => given.graph.portThreshold
  | .fadeAfter => given.graph.fadeAfter
  | .idleAfter => given.graph.idleAfter
  | .useEventTime => given.graph.useEventTime
  | .decayPeriod => given.decayPeriod
  | .ringCapacity => given.ringCapacity

/-- What a document gives in a section. -/
def part (given : Overlay) : (part : Section) → part.Overlay
  | .server => given.server
  | .graph => given.graph

/-- A document is read exactly if it can be decoded. -/
theorem isSome_ofMembers?_iff {members : Toml.Members} :
    (ofMembers? members).isSome ↔ Setting.Decodes members :=
  (intake.isSome_foldlM members {}).trans (forall₂_congr fun _ _ => takes_intake_iff)

/-- A document gives a setting the value that it has in the place of that and nothing else. -/
theorem get?_of_ofMembers?
    {members : Toml.Members}
    (areTidy : Toml.Members.AreTidy members)
    {given : Overlay}
    (found : ofMembers? members = some given)
    (setting : Setting) :
    given.get? setting = (setting.value? members).bind setting.kind.ofToml? := by
  have distinct := (Toml.Members.areTidy_iff.1 areTidy).1
  have ofSection (part : Section) (inside : setting.section? = some part) :
      part.get? (given.part part) setting =
        (setting.value? members).bind setting.kind.ofToml? := by
    have part_eq : some (given.part part) =
        ((members.get? part.key).map part.ofValue?).getD (some part.blank) := by
      cases part with
      | server => exact intake.get_of_foldlM distinct found .server
      | graph => exact intake.get_of_foldlM distinct found .graph
    rw [Setting.value?, inside]
    dsimp only
    cases present : members.get? part.key with
    | none =>
        rw [present] at part_eq
        rw [Option.some.inj part_eq]
        exact Section.get?_blank part setting
    | some value =>
        rw [present] at part_eq
        exact Section.get?_of_ofValue? (Toml.Members.isTidy_of_get? areTidy present)
          part_eq.symm inside
  cases setting with
  | host => exact ofSection .server rfl
  | port => exact ofSection .server rfl
  | portThreshold => exact ofSection .graph rfl
  | fadeAfter => exact ofSection .graph rfl
  | idleAfter => exact ofSection .graph rfl
  | useEventTime => exact ofSection .graph rfl
  | decayPeriod =>
      have empty : intake.get {} .decayPeriod = none := rfl
      exact intake.get_of_foldlM_of_eq_none distinct found empty
  | ringCapacity =>
      have empty : intake.get {} .ringCapacity = none := rfl
      exact intake.get_of_foldlM_of_eq_none distinct found empty

end Overlay

end TrafficGraph
