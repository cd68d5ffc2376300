import TrafficGraph.Graph.Decay
import TrafficGraph.Graph.Fold

/-!
# Options of a graph

The options of one graph join the policy for ports and times with the thresholds
of decay.  They are usable if their thresholds are.
-/

namespace TrafficGraph

/-- The options of one graph. -/
structure GraphOptions where
  /-- Ports at or above this number are collapsed; zero collapses none. -/
  portThreshold : UInt16
  /-- Active entries fade after more than this, in milliseconds. -/
  fadeAfter : UInt64
  /-- Fading entries are idle after more than this, in milliseconds. -/
  idleAfter : UInt64
  /-- Take the time of an observation from its record if it has one. -/
  useEventTime : Bool
  deriving DecidableEq

namespace GraphOptions

/-- The options unless others are given. -/
def standard : GraphOptions where
  portThreshold := defaultPortThreshold
  fadeAfter := Thresholds.standard.fadeAfter
  idleAfter := Thresholds.standard.idleAfter
  useEventTime := false

/-- The thresholds of decay. -/
def thresholds (options : GraphOptions) : Thresholds where
  fadeAfter := options.fadeAfter
  idleAfter := options.idleAfter

/-- How observations are folded. -/
def fold (options : GraphOptions) : FoldOptions where
  portThreshold := options.portThreshold
  useEventTime := options.useEventTime

/-- Options are usable if their thresholds are. -/
def validate (options : GraphOptions) : Except OptionsError Unit :=
  options.thresholds.validate

end GraphOptions
end TrafficGraph
