import TrafficGraph.Proofs.Schedule
import TrafficGraph.Proofs.Session.Reckoning
import TrafficGraph.Registry.Time

/-!
# Runs of a registry

A run opens and closes views, attaches tasks to them, lets time go by and does operations
with sessions, also with those whose view is closed.  Sessions are touched by acts only: an
operation that is done with one, or a run of a task.  Each act has at most one session as
its target, so what becomes of a session is told by the acts on it alone.
-/

namespace TrafficGraph

namespace Session

@[simp] theorem viewId_notify (clock : String) (kind : ChangeKind) (session : Session) :
    (session.notify clock kind).viewId = session.viewId := rfl

theorem viewId_perform
    (session : Session)
    (operation : Operation) :
    (session.perform operation).viewId = session.viewId := by
  cases operation with
  | setSource clock source =>
      rw [perform, setSource]
      by_cases same : session.mapping = (Source.inspect source).fields
      · rw [if_pos same]
      · rw [if_neg same]
        by_cases mapped : session.hasSource = true
        · rw [if_pos mapped]
          rfl
        · rw [if_neg mapped]
          simp only [viewId_notify]
  | setOptions clock options =>
      cases usable : options.validate with
      | error fault => rw [perform_setOptions_of_error usable]
      | ok _ =>
          by_cases same : session.options.portThreshold = options.portThreshold
          · rw [perform_setOptions_of_eq usable same]
          · rw [perform_setOptions_of_ne usable same]
            rfl
  | applyBatch clock batch now =>
      unfold perform applyBatch
      dsimp only
      split
      · rfl
      · split <;> rfl
  | tick clock now =>
      unfold perform tick
      dsimp only
      split <;> rfl
  | mergePositions clock updates =>
      exact (moves_mergePositions clock updates session).viewId_eq

/-- The number of ticks rises with every tick and with nothing else. -/
theorem decayTicks_perform
    (session : Session)
    (operation : Operation) :
    (session.perform operation).stats.decayTicks =
      session.stats.decayTicks + if (Step.mk session operation).isTick then 1 else 0 := by
  have ticks_eq := (raised_perform session operation).ticks_eq
  rw [List.countP_singleton] at ticks_eq
  exact ticks_eq

end Session

/-- What sources and batches keep of a session is kept by a delivery. -/
theorem pumpOnce_induction
    {property : Session → Prop}
    (setSource : ∀ clock source session, property session →
      property (session.perform (.setSource clock source)))
    (applyBatch : ∀ clock batch now session, property session →
      property (session.perform (.applyBatch clock batch now)))
    (clock : String)
    (now : UInt64)
    (ring : Ring)
    (cursor : Cursor)
    {session : Session}
    (holds : property session) :
    property (pumpOnce clock now ring cursor session).2.1 := by
  have step (state : PumpState) (holds : property state.session) :
      property (state.step clock now ring).session := by
    obtain ⟨stage, cursor, session⟩ := state
    cases stage with
    | inferring sample => exact setSource clock _ session holds
    | applying batch => exact applyBatch clock batch now session holds
    | sampling =>
        unfold PumpState.step
        dsimp only
        split <;> exact holds
    | polling =>
        unfold PumpState.step
        dsimp only
        split <;> exact holds
    | _ => exact holds
  have steps (count : Nat) (state : PumpState) (holds : property state.session) :
      property (PumpState.steps clock now ring count state).session := by
    induction count generalizing state with
    | zero => exact holds
    | succ count inductionHypothesis => exact inductionHypothesis _ (step state holds)
  exact steps deliverySteps ⟨.starting, cursor, session⟩ holds

theorem viewId_pumpOnce
    (clock : String)
    (now : UInt64)
    (ring : Ring)
    (cursor : Cursor)
    (session : Session) :
    (pumpOnce clock now ring cursor session).2.1.viewId = session.viewId := by
  have kept (operation : Session.Operation) (later : Session)
      (same : later.viewId = session.viewId) :
      (later.perform operation).viewId = session.viewId :=
    (later.viewId_perform operation).trans same
  exact pumpOnce_induction (fun clock source => kept (.setSource clock source))
    (fun clock batch now => kept (.applyBatch clock batch now)) clock now ring cursor rfl

/-- A delivery does not tick. -/
theorem decayTicks_pumpOnce
    (clock : String)
    (now : UInt64)
    (ring : Ring)
    (cursor : Cursor)
    (session : Session) :
    (pumpOnce clock now ring cursor session).2.1.stats.decayTicks =
      session.stats.decayTicks := by
  have kept (operation : Session.Operation)
      (silent : ∀ later, (Session.Step.mk later operation).isTick = false) (later : Session)
      (same : later.stats.decayTicks = session.stats.decayTicks) :
      (later.perform operation).stats.decayTicks = session.stats.decayTicks := by
    rw [Session.decayTicks_perform, silent]
    exact same
  exact pumpOnce_induction (fun clock source => kept (.setSource clock source) fun _ => rfl)
    (fun clock batch now => kept (.applyBatch clock batch now) fun _ => rfl)
    clock now ring cursor rfl

namespace Job

/-- The session that a task touches when it runs. -/
def target? : Job → Option SessionId
  | .decay owner => some owner
  | .pump _ session _ => some session
  | .wait _ => none

/-- What becomes of the session that a task touches. -/
def effect (clock : String) (now : UInt64) (ring : Ring) (session : Session) : Job → Session
  | .decay _ => (session.tick clock now).1
  | .pump _ _ cursor => (pumpOnce clock now ring cursor session).2.1
  | .wait _ => session

/-- A run of a task touches its target and no other session. -/
theorem getElem?_run
    (clock : String)
    (now : UInt64)
    (ring : Ring)
    (job : Job)
    (sessions : List Session)
    (place : Nat) :
    (job.run clock now ring sessions).1[place]? =
      (sessions[place]?).map fun session =>
        if job.target? = some ⟨place⟩ then job.effect clock now ring session else session := by
  cases job with
  | decay owner =>
      rw [run, List.getElem?_modify, target?]
      obtain ⟨index⟩ := owner
      simp only [Option.some.injEq, SessionId.mk.injEq]
      rfl
  | pump owner target cursor =>
      obtain ⟨index⟩ := target
      rw [run, target?]
      simp only [Option.some.injEq, SessionId.mk.injEq]
      cases found : sessions[index]? with
      | none =>
          by_cases here : index = place
          · rw [← here, found]
            rfl
          · simp [here]
      | some session =>
          rw [List.getElem?_set]
          by_cases here : index = place
          · rw [← here, found]
            have inside := (List.getElem?_eq_some_iff.1 found).1
            simp [inside, effect]
          · simp [here]
  | wait owner => simp [run, target?]

end Job

namespace Registry

/-- What can be done with a registry and with the sessions that it created. -/
inductive Operation
  /-- A view is opened, unless it is open. -/
  | openView (viewId : String)
  /-- The session of a view is asked for. -/
  | get (viewId : String)
  /-- A view is closed. -/
  | close (viewId : String)
  /-- All views are closed. -/
  | closeAll
  /-- A task is attached to a view. -/
  | attach (viewId : String) (attachment : Attachment)
  /-- Time goes by, while the wall clock and the ring stand still. -/
  | advance (clock : String) (now : UInt64) (ring : Ring) (time : Nat)
  /-- Something is done with a session, whether or not its view is open. -/
  | session (id : SessionId) (operation : Session.Operation)

/-- The registry after an operation. -/
def perform (registry : Registry) : Operation → Registry
  | .openView viewId => (registry.openView viewId).1
  | .get _ => registry
  | .close viewId => (registry.close viewId).1
  | .closeAll => registry.closeAll
  | .attach viewId attachment => (registry.attach viewId attachment).1
  | .advance clock now ring time => registry.advance clock now ring time
  | .session id operation => registry.modifySession id (·.perform operation)

/-- The registry after a run. -/
def after (operations : List Operation) (registry : Registry) : Registry :=
  operations.foldl perform registry

/-- What touches a session. -/
inductive Act
  /-- An operation is done with it. -/
  | call (session : SessionId) (operation : Session.Operation)
  /-- A task runs. -/
  | run (clock : String) (now : UInt64) (ring : Ring) (job : Job)

namespace Act

/-- The session that is touched. -/
def target? : Act → Option SessionId
  | .call session _ => some session
  | .run _ _ _ job => job.target?

/-- The session of the view whose task runs. -/
def owner? : Act → Option SessionId
  | .call _ _ => none
  | .run _ _ _ job => some job.owner

/-- What becomes of the session that is touched. -/
def effect (session : Session) : Act → Session
  | .call _ operation => session.perform operation
  | .run clock now ring job => job.effect clock now ring session

/-- The act is a tick. -/
def isTick : Act → Bool
  | .call _ (.tick _ _) => true
  | .run _ _ _ (.decay _) => true
  | _ => false

end Act

/-- The acts of an operation, in order. -/
def acts (registry : Registry) : Operation → List Act
  | .advance clock now ring time =>
    (registry.schedule.ranIn (Job.run clock now ring) time registry.sessions).map
      (.run clock now ring)
  | .session id operation => [.call id operation]
  | _ => []

/-- The acts of a run, in order. -/
def history : List Operation → Registry → List Act
  | [], _ => []
  | operation :: operations, registry =>
    registry.acts operation ++ history operations (registry.perform operation)

/-- The acts on one session. -/
def actsOn (id : SessionId) (history : List Act) : List Act :=
  history.filter fun act => act.target? == some id

end Registry

namespace Session

open Registry (Act actsOn)

/-- The session after acts on it. -/
def undergo (acts : List Act) (session : Session) : Session :=
  acts.foldl Act.effect session

theorem undergo_append
    (first second : List Act)
    (session : Session) :
    session.undergo (first ++ second) = (session.undergo first).undergo second :=
  List.foldl_append

/-- An act on another session is passed over. -/
theorem undergo_actsOn_cons
    (id : SessionId)
    (act : Act)
    (acts : List Act)
    (session : Session) :
    session.undergo (actsOn id (act :: acts)) =
      (if act.target? = some id then act.effect session else session).undergo (actsOn id acts) := by
  rw [actsOn, List.filter_cons]
  by_cases here : act.target? = some id
  · rw [if_pos (by simpa using here), if_pos here]
    rfl
  · rw [if_neg (by simpa using here), if_neg here]
    rfl

theorem viewId_effect (session : Session) (act : Act) :
    (act.effect session).viewId = session.viewId := by
  cases act with
  | call id operation => exact viewId_perform session operation
  | run clock now ring job =>
      cases job with
      | decay owner => exact viewId_perform session (.tick clock now)
      | pump owner target cursor => exact viewId_pumpOnce clock now ring cursor session
      | wait owner => rfl

theorem decayTicks_effect (session : Session) (act : Act) :
    (act.effect session).stats.decayTicks =
      session.stats.decayTicks + if act.isTick then 1 else 0 := by
  cases act with
  | call id operation =>
      cases operation with
      | _ => exact decayTicks_perform session _
  | run clock now ring job =>
      cases job with
      | decay owner => exact decayTicks_perform session (.tick clock now)
      | pump owner target cursor => exact decayTicks_pumpOnce clock now ring cursor session
      | wait owner => rfl

theorem viewId_undergo
    (acts : List Act)
    (session : Session) :
    (session.undergo acts).viewId = session.viewId := by
  induction acts generalizing session with
  | nil => rfl
  | cons act acts inductionHypothesis =>
      exact (inductionHypothesis (act.effect session)).trans (viewId_effect session act)

/-- A session counts the ticks among the acts on it. -/
theorem decayTicks_undergo
    (acts : List Act)
    (session : Session) :
    (session.undergo acts).stats.decayTicks =
      session.stats.decayTicks + acts.countP Act.isTick := by
  induction acts generalizing session with
  | nil => rfl
  | cons act acts inductionHypothesis =>
      rw [List.countP_cons, undergo, List.foldl_cons]
      refine (inductionHypothesis (act.effect session)).trans ?_
      rw [decayTicks_effect, Nat.add_assoc, Nat.add_comm (List.countP _ _)]

end Session

namespace Registry

/-! ## What becomes of one session -/

theorem sessions_close (viewId : String) (registry : Registry) :
    (registry.close viewId).1.sessions = registry.sessions := by
  unfold close
  split <;> rfl

/-- What closing a view keeps is kept by closing all views. -/
theorem closeAll_induction
    {property : Registry → Prop}
    (close : ∀ viewId registry, property registry → property (registry.close viewId).1)
    {registry : Registry}
    (holds : property registry) :
    property registry.closeAll := by
  have closed (views : List View) (registry : Registry) (holds : property registry) :
      property (views.foldl (fun registry view => (registry.close view.id).1) registry) := by
    induction views generalizing registry with
    | nil => exact holds
    | cons view views inductionHypothesis =>
        exact inductionHypothesis _ (close view.id registry holds)
  exact closed registry.views registry holds

theorem sessions_closeAll (registry : Registry) :
    registry.closeAll.sessions = registry.sessions := by
  have kept : ∀ viewId (later : Registry), later.sessions = registry.sessions →
      (later.close viewId).1.sessions = registry.sessions := by
    intro viewId later same
    rw [sessions_close, same]
  exact closeAll_induction kept rfl

theorem sessions_attach
    (viewId : String)
    (attachment : Attachment)
    (registry : Registry) :
    (registry.attach viewId attachment).1.sessions = registry.sessions := by
  unfold attach
  split <;> rfl

/-- As time goes by, a session undergoes the runs of the tasks that touch it. -/
theorem session?_advance
    (clock : String)
    (now : UInt64)
    (ring : Ring)
    (time : Nat)
    (registry : Registry)
    (id : SessionId) :
    (registry.advance clock now ring time).session? id =
      (registry.session? id).map
        (Session.undergo (actsOn id (registry.acts (.advance clock now ring time)))) := by
  have undergone (jobs : List Job) (sessions : List Session) :
      (jobs.foldl (fun sessions job => (job.run clock now ring sessions).1) sessions)[id.index]? =
        (sessions[id.index]?).map
          (Session.undergo (actsOn id (jobs.map (.run clock now ring)))) := by
    induction jobs generalizing sessions with
    | nil => exact Option.map_id'.symm
    | cons job jobs inductionHypothesis =>
        rw [List.foldl_cons, inductionHypothesis, Job.getElem?_run, Option.map_map]
        apply congrArg (fun change => Option.map change _)
        funext session
        rw [List.map_cons, Session.undergo_actsOn_cons]
        rfl
  rw [session?, advance]
  dsimp only
  rw [Schedule.advance_snd]
  exact undergone _ registry.sessions

/-- **Isolation.** An operation changes a session by the acts on it and not otherwise. -/
theorem session?_perform
    {registry : Registry}
    {id : SessionId}
    {session : Session}
    (found : registry.session? id = some session)
    (operation : Operation) :
    (registry.perform operation).session? id =
      some (session.undergo (actsOn id (registry.acts operation))) := by
  cases operation with
  | openView viewId =>
      rw [perform, openView]
      split
      · exact found
      · have inside := (List.getElem?_eq_some_iff.1 found).1
        rw [openNew, session?, List.getElem?_append_left inside]
        exact found
  | get viewId => exact found
  | close viewId =>
      rw [perform, session?, sessions_close]
      exact found
  | closeAll =>
      rw [perform, session?, sessions_closeAll]
      exact found
  | attach viewId attachment =>
      rw [perform, session?, sessions_attach]
      exact found
  | advance clock now ring time =>
      rw [perform, session?_advance, found, Option.map_some]
  | session target operation =>
      rw [perform, acts, Session.undergo_actsOn_cons, Act.target?]
      by_cases here : target = id
      · rw [here, session?_modifySession, found, if_pos rfl]
        rfl
      · rw [session?_modifySession_of_ne (Ne.symm here), if_neg (by simpa using here)]
        exact found

/-- A run changes a session by the acts on it and not otherwise. -/
theorem session?_after
    {registry : Registry}
    {id : SessionId}
    {session : Session}
    (found : registry.session? id = some session)
    (operations : List Operation) :
    (registry.after operations).session? id =
      some (session.undergo (actsOn id (registry.history operations))) := by
  induction operations generalizing registry session with
  | nil => exact found
  | cons operation operations inductionHypothesis =>
      rw [history, actsOn, List.filter_append, Session.undergo_append]
      exact inductionHypothesis (session?_perform found operation)

end Registry
end TrafficGraph
