import TrafficGraph.Feed.Pump
import TrafficGraph.Schedule

/-!
# The registry of views

A view that is open has a session of its own, a decay loop that ticks it, and
any number of tasks that were attached to it.  Closing the view cancels the loop
and the tasks.  A session outlives its view for those who still hold it; opening
the view again creates another session.
-/

namespace TrafficGraph

/-- The identity of a session among all that a registry ever created. -/
structure SessionId where
  /-- The number of sessions created before. -/
  index : Nat
  deriving DecidableEq

/-- What a task of a view does when it runs. -/
inductive Job
  /-- Ticks the session of the view. -/
  | decay (owner : SessionId)
  /-- Delivers the next batch of a ring to a session. -/
  | pump (owner session : SessionId) (cursor : Cursor)
  /-- Ends. -/
  | wait (owner : SessionId)

namespace Job

/-- The session of the view to which a task belongs. -/
def owner : Job → SessionId
  | .decay owner => owner
  | .pump owner _ _ => owner
  | .wait owner => owner

/-- The task is the decay loop of its view. -/
def isDecay : Job → Bool
  | .decay _ => true
  | _ => false

/-- The task belongs to the view with this session. -/
def belongsTo (session : SessionId) (job : Job) : Bool :=
  job.owner == session

end Job

/-- A task that can be attached to a view. -/
inductive Attachment
  /-- A task that never ends. -/
  | pending
  /-- A task that ends after some time. -/
  | timer (time : Nat)
  /-- A task that delivers batches to a session once in every period. -/
  | pump (session : SessionId) (period : Nat)

/-- The task of an attachment that starts at some instant. -/
def Attachment.task (instant : Nat) (owner : SessionId) : Attachment → Task Job
  | .pending => .never (.wait owner)
  | .timer time => .periodic (instant + time) 1 (.wait owner)
  | .pump session period => .periodic instant period (.pump owner session .start)

/-- An open view. -/
structure View where
  /-- The identity by which the view is known. -/
  id : String
  /-- Its session. -/
  session : SessionId
  deriving DecidableEq

/-- The views that are open, with all sessions that were ever created. -/
structure Registry where
  /-- The options of a new session. -/
  options : GraphOptions
  /-- The options are usable. -/
  usable : options.validate = .ok ()
  /-- The time between two ticks of a decay loop, in milliseconds. -/
  period : Nat
  /-- All sessions, oldest first. -/
  sessions : List Session
  /-- The open views, in the order in which they were opened. -/
  views : List View
  /-- The tasks of the open views. -/
  schedule : Schedule Job

namespace Registry

/-- A registry without views, if the options are usable. -/
def create? (options : GraphOptions) (period : Nat) : Except OptionsError Registry :=
  match usable : options.validate with
  | .error fault => .error fault
  | .ok () => .ok {
      options
      usable
      period
      sessions := []
      views := []
      schedule := .empty }

/-- The session of an open view. -/
def get? (viewId : String) (registry : Registry) : Option SessionId :=
  (registry.views.find? fun view => view.id == viewId).map View.session

/-- The view is open. -/
def isOpen (viewId : String) (registry : Registry) : Bool :=
  (registry.get? viewId).isSome

/-- The session with an identity. -/
def session? (id : SessionId) (registry : Registry) : Option Session :=
  registry.sessions[id.index]?

/-- The identity and the session of an open view. -/
def find? (viewId : String) (registry : Registry) : Option (SessionId × Session) := do
  let id ← registry.get? viewId
  let session ← registry.session? id
  some (id, session)

/-- Changes one session. -/
def modifySession (id : SessionId) (change : Session → Session) (registry : Registry) : Registry :=
  { registry with sessions := registry.sessions.modify id.index change }

/-- Creates the session of a view that is not open, and starts its decay loop. -/
def openNew (viewId : String) (registry : Registry) : Registry × SessionId :=
  let id : SessionId := ⟨registry.sessions.length⟩
  ({ registry with
      sessions := registry.sessions ++ [Session.create viewId registry.options]
      views := registry.views ++ [⟨viewId, id⟩]
      schedule := registry.schedule.arm
        (.periodic registry.schedule.instant registry.period (.decay id)) }, id)

/-- The session of a view, which is opened if it is not open. -/
def openView (viewId : String) (registry : Registry) : Registry × SessionId :=
  match registry.get? viewId with
  | some id => (registry, id)
  | none => registry.openNew viewId

/-- Closes a view and cancels its tasks, and tells whether the view was open. -/
def close (viewId : String) (registry : Registry) : Registry × Bool :=
  match registry.get? viewId with
  | some id =>
    ({ registry with
        views := registry.views.filter fun view => view.id != viewId
        schedule := registry.schedule.cancel (Job.belongsTo id) }, true)
  | none => (registry, false)

/-- Closes all views. -/
def closeAll (registry : Registry) : Registry :=
  registry.views.foldl (fun registry view => (registry.close view.id).1) registry

/-- Attaches a task to a view, and tells whether the view is open; if it is not,
the task never runs. -/
def attach (viewId : String) (attachment : Attachment) (registry : Registry) : Registry × Bool :=
  match registry.get? viewId with
  | some id =>
    ({ registry with
        schedule := registry.schedule.arm (attachment.task registry.schedule.instant id) }, true)
  | none => (registry, false)

/-- The number of attached tasks of a view that have not ended. -/
def attachedTasks (viewId : String) (registry : Registry) : Nat :=
  match registry.get? viewId with
  | some id => registry.schedule.count fun job => job.belongsTo id && !job.isDecay
  | none => 0

/-- The view has a decay loop. -/
def isDecaying (viewId : String) (registry : Registry) : Bool :=
  match registry.get? viewId with
  | some id => 0 < registry.schedule.count fun job => job.belongsTo id && job.isDecay
  | none => false

/-- The identities of the open views, in increasing order. -/
def viewIds (registry : Registry) : List String :=
  (registry.views.map View.id).mergeSort fun first second => decide (first ≤ second)

/-- The number of open views. -/
def size (registry : Registry) : Nat :=
  registry.views.length

/-- Changing one session leaves every other one as it is. -/
theorem session?_modifySession_of_ne {id other : SessionId} (different : other ≠ id)
    (change : Session → Session) (registry : Registry) :
    (registry.modifySession id change).session? other = registry.session? other := by
  have places : id.index ≠ other.index := fun same =>
    different (by cases id; cases other; cases same; rfl)
  simp [session?, modifySession, places]

/-- Changing a session changes what is found of it. -/
@[simp] theorem session?_modifySession (id : SessionId) (change : Session → Session)
    (registry : Registry) :
    (registry.modifySession id change).session? id = (registry.session? id).map change := by
  simp [session?, modifySession]

/-- Opening a view that is open changes nothing. -/
theorem openView_of_get? {viewId : String} {id : SessionId} {registry : Registry}
    (present : registry.get? viewId = some id) :
    registry.openView viewId = (registry, id) := by
  rw [openView, present]

/-- A view that is not open cannot be closed. -/
theorem close_of_get?_eq_none {viewId : String} {registry : Registry}
    (absent : registry.get? viewId = none) : registry.close viewId = (registry, false) := by
  rw [close, absent]

/-- Closing tells whether the view was open. -/
theorem close_snd (viewId : String) (registry : Registry) :
    (registry.close viewId).2 = registry.isOpen viewId := by
  rw [close, isOpen]
  split <;> simp_all

end Registry
end TrafficGraph
