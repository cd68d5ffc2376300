import TrafficGraph.Feed.Ingest
import TrafficGraph.Http.Service
import TrafficGraph.Registry.Time
import TrafficGraph.Settings.Basic

/-!
# The graph of an input

A view of its own is opened for the records of an input; a pump that is attached
to it delivers what the capture ring holds of them.
-/

namespace TrafficGraph

/-- The view that is fed from an input. -/
def defaultView : String := "default"

/-- The time between two deliveries of its pump, in milliseconds. -/
def pumpPeriod : Nat := 250

/-- Opens the view that is fed from an input, with a pump attached to it. -/
def openDefault (registry : Registry) : Registry × SessionId :=
  let (opened, id) := registry.openView defaultView
  ((opened.attach defaultView (.pump id pumpPeriod)).1, id)

/-- The graph of the records of an input, if the settings are usable. -/
def report? (settings : Settings) (clock : String) (now : UInt64) (input : Bytes) :
    Option GraphResponse := do
  let registry ← (Registry.create? settings.graph settings.decayPeriod.toNat).toOption
  let ring ← (Ring.create? settings.ringCapacity.toNat).toOption
  let (opened, id) := openDefault registry
  let (filled, _) := ring.ingest input
  let session ← (opened.settle clock now filled).session? id
  some (Http.Service.graphResponse clock defaultView session)

end TrafficGraph
