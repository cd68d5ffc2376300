import TrafficGraph.Registry.Basic

/-!
# Views in the course of time

As time goes by, the tasks of the open views run whenever they are due: decay
loops tick the sessions of their views and pumps deliver what a ring holds.
-/

namespace TrafficGraph

/-- Runs a task once; an attached task that ends leaves nothing to be done. -/
def Job.run (clock : String) (now : UInt64) (ring : Ring) (job : Job) (sessions : List Session) :
    List Session × Option Job :=
  match job with
  | .decay owner =>
    (sessions.modify owner.index fun session => (session.tick clock now).1, some (.decay owner))
  | .pump owner target cursor =>
    match sessions[target.index]? with
    | some session =>
      let (moved, after, _) := pumpOnce clock now ring cursor session
      (sessions.set target.index after, some (.pump owner target moved))
    | none => (sessions, none)
  | .wait _ => (sessions, none)

namespace Registry

/-- Lets time go by, in milliseconds, and runs what is due.  The wall clock that
the tasks use stands still. -/
def advance (clock : String) (now : UInt64) (ring : Ring) (time : Nat) (registry : Registry) :
    Registry :=
  let (schedule, sessions) :=
    registry.schedule.advance (Job.run clock now ring) time registry.sessions
  { registry with sessions, schedule }

/-- Runs what is due at the present instant. -/
def settle (clock : String) (now : UInt64) (ring : Ring) (registry : Registry) : Registry :=
  registry.advance clock now ring 0

end Registry
end TrafficGraph
