import TrafficGraph.Session.Options

/-!
# Settings of a process

The settings name the address to serve at, the options of new views, the period
of decay loops and the capacity of the capture ring.  They are usable if the
options are and neither the period nor the capacity is zero.
-/

namespace TrafficGraph

/-- The settings of a process. -/
structure Settings where
  /-- The host to serve at. -/
  host : String
  /-- The port to serve at. -/
  port : UInt16
  /-- The options of new views. -/
  graph : GraphOptions
  /-- The period of decay loops, in milliseconds. -/
  decayPeriod : UInt64
  /-- The number of records that the capture ring can hold. -/
  ringCapacity : UInt64
  deriving DecidableEq

/-- Why settings cannot be loaded or used. -/
inductive SettingsError
  /-- The options of new views are not usable. -/
  | options (fault : OptionsError)
  /-- Decay loops would tick all the time. -/
  | periodNotPositive
  /-- The capture ring would hold nothing. -/
  | capacityNotPositive
  /-- The document is not in TOML or has other members than settings. -/
  | document
  /-- The file cannot be read as a text. -/
  | file
  deriving DecidableEq

/-- The wording of an error that tells which setting is to be changed. -/
def SettingsError.message? : SettingsError → Option String
  | .options fault => some fault.message
  | .periodNotPositive => some "Configuration error: decay_period_ms must be greater than 0"
  | .capacityNotPositive => some "Configuration error: ring_capacity must be greater than 0"
  | .document => none
  | .file => none

namespace Settings

/-- The settings unless others are given. -/
def standard : Settings where
  host := "127.0.0.1"
  port := 3030
  graph := .standard
  decayPeriod := 1000
  ringCapacity := 10000

/-- The address to serve at. -/
def address (settings : Settings) : String :=
  settings.host ++ ":" ++ String.ofList (Text.decimal settings.port.toNat)

/-- Settings are usable if the options are and neither the period nor the capacity
is zero. -/
def validate (settings : Settings) : Except SettingsError Unit :=
  match settings.graph.validate with
  | .error fault => .error (.options fault)
  | .ok () =>
    if settings.decayPeriod = 0 then .error .periodNotPositive
    else if settings.ringCapacity = 0 then .error .capacityNotPositive
    else .ok ()

end Settings
end TrafficGraph
