import TrafficGraph.Schedule
import TrafficGraph.Session.Basic

/-!
# Decay loops

A decay loop ticks its session when it is started and then once in every period,
until it is stopped.
-/

namespace TrafficGraph

/-- The schedule of a session of its own: at most one loop that ticks it. -/
abbrev DecayLoop := Schedule Unit

namespace DecayLoop

/-- Stops the loop. -/
def stop (loop : DecayLoop) : DecayLoop :=
  loop.cancel fun _ => true

/-- Starts a loop in place of the one before. -/
def restart (period : Nat) (loop : DecayLoop) : DecayLoop :=
  (stop loop).arm (.periodic loop.instant period ())

/-- The loop goes on. -/
def isRunning (loop : DecayLoop) : Bool :=
  !loop.tasks.isEmpty

/-- Lets time go by; each run of the loop demotes what is stale at the given wall
clock. -/
def advance (clock : String) (now : UInt64) (time : Nat) (loop : DecayLoop) (session : Session) :
    DecayLoop × Session :=
  Schedule.advance (fun _ session => ((session.tick clock now).1, some ())) time loop session

end DecayLoop
end TrafficGraph
