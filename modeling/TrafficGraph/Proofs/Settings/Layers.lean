import TrafficGraph.Feed.Ring
import TrafficGraph.Proofs.Registry.Isolation
import TrafficGraph.Proofs.Settings.Decoding
import TrafficGraph.Settings.Load

/-!
# Layers of settings

Every setting is taken on its own from the first layer that gives it: the document, the
environment, the standard settings.  Whether settings are usable depends on several of them at
once, so it is decided for the layered values and for no layer by itself; settings that pass
can be given to a registry of views and to a capture ring, which do not refuse them.
-/

namespace TrafficGraph

open Setting (Kind)

namespace Setting

/-! ## The environment -/

/-- The variable of a setting. -/
def variableName : Setting → String
  | host => "NETSCOPE_DASHBOARD_HOST"
  | port => "NETSCOPE_DASHBOARD_PORT"
  | portThreshold => "NETSCOPE_EPHEMERAL_PORT_THRESHOLD"
  | fadeAfter => "NETSCOPE_FADE_AFTER_MS"
  | idleAfter => "NETSCOPE_IDLE_AFTER_MS"
  | useEventTime => "NETSCOPE_USE_EVENT_TIME"
  | decayPeriod => "NETSCOPE_DECAY_PERIOD_MS"
  | ringCapacity => "NETSCOPE_RING_CAPACITY"

/-- The value of a kind that a text stands for. -/
def Kind.ofText? : (kind : Kind) → String → Option kind.Carrier
  | .text => some
  | .word16 => fun text => Text.word16? text.toList
  | .word64 => fun text => Text.word64? text.toList
  | .flag => fun text => Settings.flag? text.toList

/-- The value that the environment gives to a setting: the variable is set to a text that
stands for a value of the kind and that is not empty, unless the setting is the host. -/
def ofEnvironment? (environment : Environment) (setting : Setting) : Option setting.Value :=
  match environment setting.variableName with
  | some text => if text = "" ∧ setting ≠ host then none else setting.kind.ofText? text
  | none => none

/-- The host is taken as it is. -/
theorem ofEnvironment?_host (environment : Environment) :
    host.ofEnvironment? environment = environment host.variableName := by
  rw [ofEnvironment?]
  cases environment host.variableName with
  | none => rfl
  | some text =>
      have noTest : ¬(text = "" ∧ host ≠ host) := fun both => both.2 rfl
      exact if_neg noTest

theorem ofText?_empty
    {setting : Setting}
    (notHost : setting ≠ host) :
    setting.kind.ofText? "" = none := by
  cases setting <;> first | rfl | exact absurd rfl notHost

/-- No setting but the host can be read from the empty text. -/
theorem ofEnvironment?_of_ne_host
    {setting : Setting}
    (notHost : setting ≠ host)
    (environment : Environment) :
    setting.ofEnvironment? environment =
      (environment setting.variableName).bind setting.kind.ofText? := by
  rw [ofEnvironment?]
  cases environment setting.variableName with
  | none => rfl
  | some text =>
      dsimp only
      split
      · next empty =>
        rw [empty.1, Option.bind_some, ofText?_empty notHost]
      · rfl

end Setting

/-- The members of the document in a file.  A missing file counts as a document without
members. -/
def FileContent.document? : FileContent → Option Toml.Members
  | .missing => some []
  | .unreadable => none
  | .bytes content => (ofUtf8? content).bind Toml.document?

namespace Settings

/-- The value of a setting. -/
def get (settings : Settings) : (setting : Setting) → setting.Value
  | .host => settings.host
  | .port => settings.port
  | .portThreshold => settings.graph.portThreshold
  | .fadeAfter => settings.graph.fadeAfter
  | .idleAfter => settings.graph.idleAfter
  | .useEventTime => settings.graph.useEventTime
  | .decayPeriod => settings.decayPeriod
  | .ringCapacity => settings.ringCapacity

theorem ext_get
    {first second : Settings}
    (same : ∀ setting, first.get setting = second.get setting) :
    first = second := by
  obtain ⟨_, _, ⟨_, _, _, _⟩, _, _⟩ := first
  obtain ⟨_, _, ⟨_, _, _, _⟩, _, _⟩ := second
  cases same .host
  cases same .port
  cases same .portThreshold
  cases same .fadeAfter
  cases same .idleAfter
  cases same .useEventTime
  cases same .decayPeriod
  cases same .ringCapacity
  rfl

theorem get_overlay
    (given : Overlay)
    (settings : Settings)
    (setting : Setting) :
    (settings.overlay given).get setting = (given.get? setting).getD (settings.get setting) := by
  cases setting <;> rfl

/-- A setting that the environment does not give has its standard value. -/
theorem get_ofEnvironment
    (environment : Environment)
    (setting : Setting) :
    (ofEnvironment environment).get setting =
      (setting.ofEnvironment? environment).getD (standard.get setting) := by
  by_cases isHost : setting = .host
  · rw [isHost, Setting.ofEnvironment?_host]
    rfl
  · rw [Setting.ofEnvironment?_of_ne_host isHost]
    cases setting <;> first | rfl | exact absurd rfl isHost

/-! ## Usable settings -/

/-- Settings that can be used. -/
structure IsUsable (settings : Settings) : Prop where
  /-- Entries fade after a positive time. -/
  fadeAfter_pos : 0 < settings.graph.fadeAfter
  /-- Entries are idle later than they fade. -/
  fadeAfter_lt_idleAfter : settings.graph.fadeAfter < settings.graph.idleAfter
  /-- Decay loops have a positive period. -/
  decayPeriod_pos : 0 < settings.decayPeriod
  /-- The capture ring can hold a record. -/
  ringCapacity_pos : 0 < settings.ringCapacity

theorem validate_eq_ok_iff {settings : Settings} :
    settings.validate = .ok () ↔ settings.IsUsable := by
  have usable : settings.graph.validate = .ok () ↔
      0 < settings.graph.fadeAfter ∧ settings.graph.fadeAfter < settings.graph.idleAfter :=
    Thresholds.validate_eq_ok_iff
  rw [validate]
  constructor
  · intro valid
    split at valid
    · cases valid
    · next optionsValid =>
      obtain ⟨fades, later⟩ := usable.1 optionsValid
      split at valid
      · cases valid
      · next periodNonzero =>
        split at valid
        · cases valid
        · next capacityNonzero =>
          exact ⟨fades, later, UInt64.pos_iff_ne_zero.2 periodNonzero,
            UInt64.pos_iff_ne_zero.2 capacityNonzero⟩
  · intro isUsable
    rw [usable.2 ⟨isUsable.fadeAfter_pos, isUsable.fadeAfter_lt_idleAfter⟩]
    dsimp only
    rw [if_neg (UInt64.pos_iff_ne_zero.1 isUsable.decayPeriod_pos),
      if_neg (UInt64.pos_iff_ne_zero.1 isUsable.ringCapacity_pos)]

theorem check_eq_ok_iff
    {layered settings : Settings} :
    (match layered.validate with
      | .error fault => Except.error fault
      | .ok () => Except.ok layered) = Except.ok settings ↔
      settings = layered ∧ layered.IsUsable := by
  rw [← validate_eq_ok_iff]
  cases layered.validate with
  | error fault => simp
  | ok _ => simp [eq_comm]

/-- What usable settings are good for. -/
structure Serves (settings : Settings) : Prop where
  /-- A registry can be created, and after every run of it every view can be opened. -/
  opens : ∃ created,
    Registry.create? settings.graph settings.decayPeriod.toNat = .ok created ∧
      ∀ operations viewId, Registry.Opens viewId (created.after operations)
  /-- A capture ring can be created, and it holds nothing yet. -/
  captures : ∃ ring, Ring.create? settings.ringCapacity.toNat = .ok ring ∧
    ring.capacity = settings.ringCapacity.toNat ∧ ring.size = 0

theorem IsUsable.serves
    {settings : Settings}
    (isUsable : settings.IsUsable) :
    settings.Serves := by
  have optionsValid : settings.graph.validate = .ok () :=
    Thresholds.validate_eq_ok_iff.2 ⟨isUsable.fadeAfter_pos, isUsable.fadeAfter_lt_idleAfter⟩
  obtain ⟨created, isCreated⟩ :=
    Registry.exists_create?_eq_ok optionsValid settings.decayPeriod.toNat
  have capacityPositive : 0 < settings.ringCapacity.toNat :=
    UInt64.lt_iff_toNat_lt.1 isUsable.ringCapacity_pos
  refine ⟨⟨created, isCreated, ?_⟩, ?_⟩
  · intro operations viewId
    exact ((Registry.create?_eq_ok isCreated).2.after operations).opens viewId
  · exact ⟨_, dif_pos capacityPositive, rfl, rfl⟩

/-! ## Layers -/

/-- Each setting has the value that a document has in its place, if there is one, and else
another value. -/
def IsLayered
    (members : Toml.Members)
    (other : (setting : Setting) → setting.Value)
    (settings : Settings) : Prop :=
  ∀ setting : Setting,
    match setting.value? members with
    | some value => setting.kind.ofToml? value = some (settings.get setting)
    | none => settings.get setting = other setting

theorem IsLayered.eq
    {members : Toml.Members}
    {other : (setting : Setting) → setting.Value}
    {first second : Settings}
    (isFirst : first.IsLayered members other)
    (isSecond : second.IsLayered members other) :
    first = second := by
  apply ext_get
  intro setting
  have first_eq := isFirst setting
  have second_eq := isSecond setting
  cases present : setting.value? members with
  | none =>
      rw [present] at first_eq second_eq
      exact first_eq.trans second_eq.symm
  | some value =>
      rw [present] at first_eq second_eq
      exact Option.some.inj (first_eq.symm.trans second_eq)

/-- Overlaying settings puts the layer of a document on them. -/
theorem isLayered_overlay
    {members : Toml.Members}
    (areTidy : Toml.Members.AreTidy members)
    {given : Overlay}
    (found : Overlay.ofMembers? members = some given)
    (base : Settings) :
    (base.overlay given).IsLayered members base.get := by
  intro setting
  rw [get_overlay, Overlay.get?_of_ofMembers? areTidy found]
  cases present : setting.value? members with
  | none => rfl
  | some value =>
      have decodes := Overlay.isSome_ofMembers?_iff.1 (Option.isSome_of_eq_some found)
      obtain ⟨content, isContent⟩ := decodes.exists_content present
      simp [isContent]

/-- What is made of a document, if there is one, and of other values: the layered settings if
they are usable, and a failure otherwise. -/
structure Delivers
    (document? : Option Toml.Members)
    (other : (setting : Setting) → setting.Value)
    (result : Except SettingsError Settings) : Prop where
  /-- Settings come out exactly if the document can be decoded and they are usable and have its
  values in place of the others. -/
  ok_iff : ∀ settings, result = .ok settings ↔
    ∃ members, document? = some members ∧ Setting.Decodes members ∧
      settings.IsLayered members other ∧ settings.IsUsable
  /-- If the document can be decoded, it takes layered values that are not usable to fail. -/
  error_iff : ∀ members, document? = some members → Setting.Decodes members →
    ∃ layered : Settings, layered.IsLayered members other ∧
      ((∃ fault, result = .error fault) ↔ ¬layered.IsUsable)

theorem delivers_of_decodes
    {members : Toml.Members}
    {other : (setting : Setting) → setting.Value}
    {layered : Settings}
    {result : Except SettingsError Settings}
    (decodes : Setting.Decodes members)
    (isLayered : layered.IsLayered members other)
    (result_eq : ∀ settings, result = .ok settings ↔ settings = layered ∧ layered.IsUsable) :
    Delivers (some members) other result := by
  constructor
  · intro settings
    rw [result_eq]
    constructor
    · rintro ⟨rfl, isUsable⟩
      exact ⟨members, rfl, decodes, isLayered, isUsable⟩
    · rintro ⟨_, same, _, settingsLayered, isUsable⟩
      cases same
      cases settingsLayered.eq isLayered
      exact ⟨rfl, isUsable⟩
  · rintro _ same -
    cases same
    refine ⟨layered, isLayered, ?_⟩
    constructor
    · rintro ⟨fault, result_error⟩ isUsable
      cases result_error.symm.trans ((result_eq layered).2 ⟨rfl, isUsable⟩)
    · intro notUsable
      cases made : result with
      | error fault => exact ⟨fault, rfl⟩
      | ok settings => exact absurd ((result_eq settings).1 made).2 notUsable

theorem delivers_of_not_decodes
    {document? : Option Toml.Members}
    {other : (setting : Setting) → setting.Value}
    (undecoded : ∀ members, document? = some members → ¬Setting.Decodes members)
    (fault : SettingsError) :
    Delivers document? other (.error fault) := by
  constructor
  · intro settings
    constructor
    · nofun
    · rintro ⟨members, isDocument, decodes, _⟩
      exact absurd decodes (undecoded members isDocument)
  · intro members isDocument decodes
    exact absurd decodes (undecoded members isDocument)

theorem delivers_overlayDocument
    (base : Settings)
    (text : String) :
    Delivers (Toml.document? text) base.get (base.overlayDocument text) := by
  rw [overlayDocument]
  cases parsed : Overlay.parse? text with
  | none =>
      apply delivers_of_not_decodes
      intro members isDocument decodes
      rw [Overlay.parse?, isDocument, Option.bind_some] at parsed
      have decoded := Overlay.isSome_ofMembers?_iff.2 decodes
      rw [parsed] at decoded
      cases decoded
  | some given =>
      obtain ⟨members, isDocument, found⟩ := Option.bind_eq_some_iff.1 parsed
      rw [isDocument]
      exact delivers_of_decodes
        (Overlay.isSome_ofMembers?_iff.1 (Option.isSome_of_eq_some found))
        (isLayered_overlay (Toml.areTidy_document isDocument) found base)
        fun settings => check_eq_ok_iff

theorem isLayered_nil (settings : Settings) : settings.IsLayered [] settings.get := by
  intro setting
  cases setting <;> rfl

/-- A document is loaded over the settings of the environment. -/
theorem delivers_load
    (environment : Environment)
    (file : String → FileContent) :
    Delivers (file (documentName environment)).document?
      (fun setting => (setting.ofEnvironment? environment).getD (standard.get setting))
      (load environment file) := by
  have environment_eq :
      (fun setting => (setting.ofEnvironment? environment).getD (standard.get setting)) =
        (ofEnvironment environment).get :=
    funext fun setting => (get_ofEnvironment environment setting).symm
  rw [environment_eq, load]
  cases file (documentName environment) with
  | missing =>
      exact delivers_of_decodes (fun _ none => absurd none List.not_mem_nil)
        (isLayered_nil (ofEnvironment environment)) fun settings => check_eq_ok_iff
  | unreadable => exact delivers_of_not_decodes (by rintro _ ⟨⟩) .file
  | bytes content =>
      dsimp only [FileContent.document?]
      cases ofUtf8? content with
      | none => exact delivers_of_not_decodes (by rintro _ ⟨⟩) .file
      | some text => exact delivers_overlayDocument (ofEnvironment environment) text

theorem load_utf8
    (environment : Environment)
    (text : String) :
    load environment (fun _ => .bytes (utf8 text)) =
      (ofEnvironment environment).overlayDocument text := by
  rw [load]
  dsimp only
  rw [ofUtf8?_utf8]

/-- Some layers are usable one by one but not together. -/
theorem exists_clash :
    ∃ environment text,
      (load environment fun _ => .missing).isOk ∧ (standard.overlayDocument text).isOk ∧
        (load environment fun _ => .bytes (utf8 text)).isOk = false := by
  refine ⟨fun name => [("NETSCOPE_FADE_AFTER_MS", "10000")].lookup name,
    "graph.idle_after_ms = 8000", by decide +kernel, by decide +kernel, ?_⟩
  rw [load_utf8]
  decide +kernel

/-- Some layers are usable together but not one by one. -/
theorem exists_mend :
    ∃ environment text,
      (load environment fun _ => .missing).isOk = false ∧
        (standard.overlayDocument text).isOk = false ∧
          (load environment fun _ => .bytes (utf8 text)).isOk := by
  refine ⟨fun name =>
      [("NETSCOPE_FADE_AFTER_MS", "3"), ("NETSCOPE_IDLE_AFTER_MS", "2")].lookup name,
    "graph.idle_after_ms = 4", by decide +kernel, by decide +kernel, ?_⟩
  rw [load_utf8]
  decide +kernel

/-- How settings are made of layers. -/
structure TakesLayers : Prop where
  /-- Loading takes each setting from the document, else from the environment, else from the
  standard settings. -/
  loads : ∀ environment file,
    Delivers (file (documentName environment)).document?
      (fun setting => (setting.ofEnvironment? environment).getD (standard.get setting))
      (load environment file)
  /-- A document is laid over any settings, usable or not. -/
  overlays : ∀ (base : Settings) text,
    Delivers (Toml.document? text) base.get (base.overlayDocument text)
  /-- What is loaded serves its components. -/
  load_serves : ∀ environment file settings,
    load environment file = .ok settings → settings.IsUsable ∧ settings.Serves
  /-- Settings that a document was laid over serve their components. -/
  overlay_serves : ∀ (base : Settings) text settings,
    base.overlayDocument text = .ok settings → settings.IsUsable ∧ settings.Serves
  /-- Layers that are usable one by one need not be usable together. -/
  clash : ∃ environment text,
    (load environment fun _ => .missing).isOk ∧ (standard.overlayDocument text).isOk ∧
      (load environment fun _ => .bytes (utf8 text)).isOk = false
  /-- Layers that are usable together need not be usable one by one. -/
  mend : ∃ environment text,
    (load environment fun _ => .missing).isOk = false ∧
      (standard.overlayDocument text).isOk = false ∧
        (load environment fun _ => .bytes (utf8 text)).isOk

/-- **Layers of settings.** Each setting is taken from the first layer that gives it, whatever
the other settings are, and only the layered settings have to be usable. -/
theorem takesLayers : TakesLayers where
  loads := delivers_load
  overlays := delivers_overlayDocument
  load_serves environment file settings loaded := by
    obtain ⟨_, _, _, _, isUsable⟩ := ((delivers_load environment file).ok_iff settings).1 loaded
    exact ⟨isUsable, isUsable.serves⟩
  overlay_serves base text settings overlaid := by
    obtain ⟨_, _, _, _, isUsable⟩ :=
      ((delivers_overlayDocument base text).ok_iff settings).1 overlaid
    exact ⟨isUsable, isUsable.serves⟩
  clash := exists_clash
  mend := exists_mend

end Settings
end TrafficGraph
