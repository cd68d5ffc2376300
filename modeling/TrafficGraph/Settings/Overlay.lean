import TrafficGraph.Settings.Basic
import TrafficGraph.Toml.Document

/-!
# Settings given by a document

A document gives some of the settings and leaves the others as they are.  It has
no members but the known ones.  A section may also be given as an array of all
its values in the order of their names here.
-/

namespace TrafficGraph

/-- The address that a document gives. -/
structure ServerOverlay where
  /-- The host to serve at. -/
  host : Option String := none
  /-- The port to serve at. -/
  port : Option UInt16 := none
  deriving DecidableEq

/-- The options of new views that a document gives. -/
structure GraphOverlay where
  /-- The port threshold. -/
  portThreshold : Option UInt16 := none
  /-- The time after which active entries fade. -/
  fadeAfter : Option UInt64 := none
  /-- The time after which fading entries are idle. -/
  idleAfter : Option UInt64 := none
  /-- Take times from records. -/
  useEventTime : Option Bool := none
  deriving DecidableEq

/-- The settings that a document gives. -/
structure Overlay where
  /-- The period of decay loops. -/
  decayPeriod : Option UInt64 := none
  /-- The capacity of the capture ring. -/
  ringCapacity : Option UInt64 := none
  /-- The address to serve at. -/
  server : ServerOverlay := {}
  /-- The options of new views. -/
  graph : GraphOverlay := {}
  deriving DecidableEq

namespace Toml.Value

/-- A text. -/
def text? : Value → Option String
  | .string text => some text
  | _ => none

/-- A truth value. -/
def flag? : Value → Option Bool
  | .boolean flag => some flag
  | _ => none

/-- An integer below `2 ^ 64`. -/
def word64? : Value → Option UInt64
  | .integer number => if 0 ≤ number then some number.toUInt64 else none
  | _ => none

/-- An integer below `2 ^ 16`. -/
def word16? (value : Value) : Option UInt16 := do
  let word ← value.word64?
  if word < 65536 then some word.toUInt16 else none

end Toml.Value

namespace ServerOverlay

/-- Takes one member of a section. -/
def set (overlay : ServerOverlay) (member : String × Toml.Value) : Option ServerOverlay :=
  match member.1 with
  | "host" => member.2.text?.map fun host => { overlay with host := some host }
  | "port" => member.2.word16?.map fun port => { overlay with port := some port }
  | _ => none

/-- The address that a section gives. -/
def ofValue? : Toml.Value → Option ServerOverlay
  | .table _ members => members.foldlM set {}
  | .array (host :: port :: _) => do
    some { host := some (← host.text?), port := some (← port.word16?) }
  | _ => none

end ServerOverlay

namespace GraphOverlay

/-- Takes one member of a section. -/
def set (overlay : GraphOverlay) (member : String × Toml.Value) : Option GraphOverlay :=
  match member.1 with
  | "ephemeral_port_threshold" =>
    member.2.word16?.map fun threshold => { overlay with portThreshold := some threshold }
  | "fade_after_ms" => member.2.word64?.map fun time => { overlay with fadeAfter := some time }
  | "idle_after_ms" => member.2.word64?.map fun time => { overlay with idleAfter := some time }
  | "use_event_time" => member.2.flag?.map fun flag => { overlay with useEventTime := some flag }
  | _ => none

/-- The options that a section gives. -/
def ofValue? : Toml.Value → Option GraphOverlay
  | .table _ members => members.foldlM set {}
  | .array (threshold :: fade :: idle :: eventTime :: _) => do
    some {
      portThreshold := some (← threshold.word16?)
      fadeAfter := some (← fade.word64?)
      idleAfter := some (← idle.word64?)
      useEventTime := some (← eventTime.flag?) }
  | _ => none

end GraphOverlay

namespace Overlay

/-- Takes one member of a document. -/
def set (overlay : Overlay) (member : String × Toml.Value) : Option Overlay :=
  match member.1 with
  | "decay_period_ms" =>
    member.2.word64?.map fun period => { overlay with decayPeriod := some period }
  | "ring_capacity" =>
    member.2.word64?.map fun capacity => { overlay with ringCapacity := some capacity }
  | "dashboard" => (ServerOverlay.ofValue? member.2).map fun server => { overlay with server }
  | "graph" => (GraphOverlay.ofValue? member.2).map fun graph => { overlay with graph }
  | _ => none

/-- The settings that the members of a document give. -/
def ofMembers? (members : Toml.Members) : Option Overlay :=
  members.foldlM set {}

/-- The settings that a document gives. -/
def parse? (text : String) : Option Overlay :=
  (Toml.document? text).bind ofMembers?

end Overlay

namespace Settings

/-- The settings with those of a document in place of their own. -/
def overlay (given : Overlay) (settings : Settings) : Settings where
  host := given.server.host.getD settings.host
  port := given.server.port.getD settings.port
  graph := {
    portThreshold := given.graph.portThreshold.getD settings.graph.portThreshold
    fadeAfter := given.graph.fadeAfter.getD settings.graph.fadeAfter
    idleAfter := given.graph.idleAfter.getD settings.graph.idleAfter
    useEventTime := given.graph.useEventTime.getD settings.graph.useEventTime }
  decayPeriod := given.decayPeriod.getD settings.decayPeriod
  ringCapacity := given.ringCapacity.getD settings.ringCapacity

/-- Usable settings with those of a document in place of their own. -/
def overlayDocument (text : String) (settings : Settings) : Except SettingsError Settings :=
  match Overlay.parse? text with
  | none => .error .document
  | some given =>
    match (settings.overlay given).validate with
    | .error fault => .error fault
    | .ok () => .ok (settings.overlay given)

end Settings
end TrafficGraph
