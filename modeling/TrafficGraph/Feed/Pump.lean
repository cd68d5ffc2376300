import TrafficGraph.Feed.Ring
import TrafficGraph.Session.Basic

/-!
# Pumping a ring into a session

A delivery moves one batch from a ring into a session.  It gives a session that
has no source the one inferred from the newest record, and a session that has
discarded its graph everything that the ring still holds.  A delivery is a
sequence of steps, each of which touches the ring or the session once, so that
others may act between any two of them.
-/

namespace TrafficGraph

/-- How far a delivery has come. -/
inductive DeliveryStage
  /-- The session is to be asked for a source. -/
  | starting
  /-- The session had no source; the newest record is to be taken. -/
  | sampling
  /-- A source is to be inferred from a record. -/
  | inferring (sample : Record)
  /-- It is to be decided whether the graph has to be rebuilt. -/
  | deciding
  /-- There is a source and a batch was cut before; the version is to be read. -/
  | comparing
  /-- The next batch is to be cut. -/
  | polling
  /-- A batch of everything is to be cut. -/
  | rebuilding
  /-- A batch is to be applied. -/
  | applying (batch : Batch)
  /-- The delivery is over; there is no outcome if there was nothing to deliver. -/
  | finished (outcome : Option BatchOutcome)

/-- A pump in the course of a delivery to its session. -/
structure PumpState where
  /-- How far the delivery has come. -/
  stage : DeliveryStage
  /-- The cursor of the pump. -/
  cursor : Cursor
  /-- The session. -/
  session : Session

namespace PumpState

/-- One step of a delivery at a given time. -/
def step (clock : String) (now : UInt64) (ring : Ring) (state : PumpState) : PumpState :=
  match state.stage with
  | .starting =>
    { state with stage := if state.session.hasSource then .deciding else .sampling }
  | .sampling =>
    match ring.latest? with
    | some sample => { state with stage := .inferring sample }
    | none => { state with stage := .deciding }
  | .inferring sample =>
    { state with
      stage := .deciding
      session := (state.session.setSource clock (.ofRecord sample)).1 }
  | .deciding =>
    let rebuilds := decide (0 < state.cursor.delivered) && state.session.hasSource
    { state with stage := if rebuilds then .comparing else .polling }
  | .comparing =>
    { state with stage := if state.session.version < 0 then .rebuilding else .polling }
  | .polling =>
    match ring.poll? state.cursor with
    | some batch => { state with stage := .applying batch, cursor := ring.head }
    | none => { state with stage := .finished none }
  | .rebuilding => { state with stage := .applying ring.fullWindow, cursor := ring.head }
  | .applying batch =>
    let (session, outcome) := state.session.applyBatch clock batch now
    { state with stage := .finished (some outcome), session }
  | .finished _ => state

/-- Several steps of a delivery. -/
def steps (clock : String) (now : UInt64) (ring : Ring) : Nat → PumpState → PumpState
  | 0, state => state
  | count + 1, state => steps clock now ring count (state.step clock now ring)

/-- The outcome of a delivery that is over. -/
def outcome? (state : PumpState) : Option BatchOutcome :=
  match state.stage with
  | .finished outcome => outcome
  | _ => none

end PumpState

/-- The number of steps after which every delivery is over. -/
def deliverySteps : Nat := 7

/-- A whole delivery with nothing in between: the cursor and the session after
it, and its outcome. -/
def pumpOnce (clock : String) (now : UInt64) (ring : Ring) (cursor : Cursor)
    (session : Session) : Cursor × Session × Option BatchOutcome :=
  let state := PumpState.steps clock now ring deliverySteps ⟨.starting, cursor, session⟩
  (state.cursor, state.session, state.outcome?)

end TrafficGraph
