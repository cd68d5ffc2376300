import Std.Time.DateTime.Timestamp
import TrafficGraph.Json.Printer
import TrafficGraph.Report
import TrafficGraph.Settings.Load

/-!
# The command line

Reads records from the standard input, one JSON object a line, and prints the
graph of their connections.  The settings come from the environment and from a
file of settings, if there is one.
-/

namespace TrafficGraph

/-- The variables of the environment that settings may come from. -/
def readEnvironment : IO Environment := do
  let values ← Settings.variableNames.mapM fun name => do return (name, ← IO.getEnv name)
  return fun name => (values.lookup name).join

/-- What is found under the name of a file. -/
def readContent (name : String) : IO FileContent := do
  try
    let content ← IO.FS.readBinFile name
    return .bytes content.toList
  catch
    | .noFileOrDirectory .. => return .missing
    | _ => return .unreadable

/-- The settings of the process. -/
def readSettings : IO (Except SettingsError Settings) := do
  let environment ← readEnvironment
  let name := Settings.documentName environment
  let content ← readContent name
  return Settings.load environment fun other => if other = name then content else .missing

/-- Prints the graph of the records of the standard input. -/
def printReport (settings : Settings) : IO UInt32 := do
  let input ← (← IO.getStdin).readBinToEnd
  let millis := (← Std.Time.Timestamp.now).toMillisecondsSinceUnixEpoch.val.toNat
  let clock := Time.rfc3339OfMillis millis
  match report? settings clock (UInt64.ofNat millis) input.toList with
  | some response =>
    (← IO.getStdout).write ⟨(Json.print (Wire.encode response) ++ [0x0A]).toArray⟩
    return 0
  | none => return 1

end TrafficGraph

/-- Reads the settings and prints the graph, or tells what is wrong. -/
def main : IO UInt32 := do
  match ← TrafficGraph.readSettings with
  | .ok settings => TrafficGraph.printReport settings
  | .error fault =>
    IO.eprintln (fault.message?.getD "The settings cannot be read.")
    return 1
