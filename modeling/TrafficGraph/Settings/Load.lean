import TrafficGraph.Json.Reader
import TrafficGraph.Settings.Overlay

/-!
# Loading settings

The environment gives settings that a document, if there is one, can still
replace.  A variable that is empty or has no value of its setting counts as not
set; only the host is taken as it is.
-/

namespace TrafficGraph

/-- The value of each variable of the environment that is set. -/
abbrev Environment := String → Option String

/-- What is found under the name of a file. -/
inductive FileContent
  /-- There is nothing of this name. -/
  | missing
  /-- There is something that is no file. -/
  | unreadable
  /-- There is a file with these bytes. -/
  | bytes (content : Bytes)

namespace Settings

/-- A truth value as it stands in a variable. -/
def flag? (text : List Char) : Option Bool :=
  if text = ['t', 'r', 'u', 'e'] then some true
  else if text = ['f', 'a', 'l', 's', 'e'] then some false
  else none

/-- The value of a variable, if it is set to one of its kind. -/
def ofVariable? {α : Type} (environment : Environment) (read : List Char → Option α)
    (name : String) : Option α :=
  (environment name).bind fun text => read text.toList

/-- The standard settings with those of the environment in their place. -/
def ofEnvironment (environment : Environment) : Settings where
  host := (environment "NETSCOPE_DASHBOARD_HOST").getD standard.host
  port := (ofVariable? environment Text.word16? "NETSCOPE_DASHBOARD_PORT").getD standard.port
  graph := {
    portThreshold :=
      (ofVariable? environment Text.word16? "NETSCOPE_EPHEMERAL_PORT_THRESHOLD").getD
        standard.graph.portThreshold
    fadeAfter :=
      (ofVariable? environment Text.word64? "NETSCOPE_FADE_AFTER_MS").getD standard.graph.fadeAfter
    idleAfter :=
      (ofVariable? environment Text.word64? "NETSCOPE_IDLE_AFTER_MS").getD standard.graph.idleAfter
    useEventTime :=
      (ofVariable? environment flag? "NETSCOPE_USE_EVENT_TIME").getD standard.graph.useEventTime }
  decayPeriod :=
    (ofVariable? environment Text.word64? "NETSCOPE_DECAY_PERIOD_MS").getD standard.decayPeriod
  ringCapacity :=
    (ofVariable? environment Text.word64? "NETSCOPE_RING_CAPACITY").getD standard.ringCapacity

/-- The names of the variables that are looked at. -/
def variableNames : List String :=
  ["NETSCOPE_CONFIG", "NETSCOPE_DASHBOARD_HOST", "NETSCOPE_DASHBOARD_PORT",
    "NETSCOPE_EPHEMERAL_PORT_THRESHOLD", "NETSCOPE_FADE_AFTER_MS", "NETSCOPE_IDLE_AFTER_MS",
    "NETSCOPE_USE_EVENT_TIME", "NETSCOPE_DECAY_PERIOD_MS", "NETSCOPE_RING_CAPACITY"]

/-- The name of the file with the document. -/
def documentName (environment : Environment) : String :=
  (environment "NETSCOPE_CONFIG").getD "netscope.toml"

/-- The settings of the environment and of the document, if there is one. -/
def load (environment : Environment) (file : String → FileContent) :
    Except SettingsError Settings :=
  let settings := ofEnvironment environment
  match file (documentName environment) with
  | .missing =>
    match settings.validate with
    | .error fault => .error fault
    | .ok () => .ok settings
  | .unreadable => .error .file
  | .bytes content =>
    match ofUtf8? content with
    | none => .error .file
    | some text => settings.overlayDocument text

end Settings
end TrafficGraph
