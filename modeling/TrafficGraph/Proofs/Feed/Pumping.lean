import TrafficGraph.Proofs.Feed.Delivery

/-!
# Feeding a session

A session is fed by one pump from one ring, while records are pushed and others
declare sources, give options, demote what is stale and move nodes.  A delivery
that nobody disturbs leaves a graph that begins no later than what the ring holds.
So at any time a graph that has processed a batch is one fold of a stretch of the
history that ends at the cursor, and after a delivery the stretch contains
everything the ring holds.
-/

namespace TrafficGraph

namespace DeliveryStage

/-- The number of steps after which a delivery is over at the latest. -/
@[simp] def remaining : DeliveryStage → Nat
  | .starting => 7
  | .sampling => 6
  | .inferring _ => 5
  | .deciding => 4
  | .comparing => 3
  | .polling => 2
  | .rebuilding => 2
  | .applying _ => 1
  | .finished _ => 0

theorem eq_finished_of_remaining
    {stage : DeliveryStage}
    (ended : stage.remaining = 0) :
    ∃ outcome, stage = .finished outcome := by
  cases stage with
  | finished outcome => exact ⟨outcome, rfl⟩
  | _ => cases ended

end DeliveryStage

namespace PumpState

/-- Each step brings a delivery closer to its end. -/
theorem remaining_step
    (clock : String)
    (now : UInt64)
    (ring : Ring)
    (state : PumpState) :
    (state.step clock now ring).stage.remaining ≤ state.stage.remaining - 1 := by
  obtain ⟨stage, cursor, session⟩ := state
  cases stage with
  | starting | sampling | deciding | comparing | polling =>
      simp only [step]
      split <;> simp
  | inferring _ | rebuilding | applying _ | finished _ =>
      simp [step]

theorem remaining_steps
    (clock : String)
    (now : UInt64)
    (ring : Ring)
    (count : Nat)
    (state : PumpState) :
    (steps clock now ring count state).stage.remaining ≤ state.stage.remaining - count := by
  induction count generalizing state with
  | zero => exact Nat.le_refl _
  | succ count inductionHypothesis =>
      have first := remaining_step clock now ring state
      have rest := inductionHypothesis (state.step clock now ring)
      unfold steps
      omega

end PumpState

/-- The watch after several steps of a delivery. -/
def Watch.steps (clock : String) (now : UInt64) (ring : Ring) :
    Nat → PumpState → Watch → Watch
  | 0, _, watch => watch
  | count + 1, state, watch =>
    steps clock now ring count (state.step clock now ring) (watch.step state)

theorem Feeds.steps
    {history : List Record}
    {ring : Ring}
    {watch : Watch}
    {state : PumpState}
    (feeds : Feeds history ring watch state)
    (bounded : history.length < versionLimit)
    (clock : String)
    (now : UInt64)
    (count : Nat) :
    Feeds history ring (watch.steps clock now ring count state)
      (state.steps clock now ring count) := by
  induction count generalizing watch state with
  | zero => exact feeds
  | succ count inductionHypothesis => exact inductionHypothesis (feeds.step bounded clock now)

/-- A graph that begins while the terms stay the same does not begin in a race. -/
theorem Watch.receive_of_undisturbed
    {watch : Watch}
    (unraced : watch.raced = false)
    (undisturbed : watch.disturbed = false)
    (session : Session)
    (batch : Batch) :
    (watch.receive session batch).raced = false ∧
      (watch.receive session batch).disturbed = false := by
  unfold receive
  split
  · exact ⟨undisturbed, undisturbed⟩
  · exact ⟨unraced, undisturbed⟩

/-- Nobody has acted in between since a delivery began: the terms are those at which
the pump looked, and a batch that was cut goes up to the end. -/
structure Alone (ring : Ring) (watch : Watch) (state : PumpState) : Prop where
  /-- The graph did not begin in a race. -/
  unraced : watch.raced = false
  /-- The terms have not changed since the pump looked at the session. -/
  undisturbed : state.stage.remaining < 4 → watch.disturbed = false
  /-- The cursor stands at the end once the pump has asked for a batch. -/
  caughtUp : state.stage.remaining < 2 → ring.total ≤ state.cursor.delivered

namespace Alone

variable {ring : Ring} {watch : Watch} {state : PumpState}

theorem starting
    (unraced : watch.raced = false)
    (cursor : Cursor)
    (session : Session) :
    Alone ring watch ⟨.starting, cursor, session⟩ :=
  ⟨unraced, by simp, by simp⟩

/-- A delivery stays alone with its next step. -/
theorem step
    (alone : Alone ring watch state)
    (clock : String)
    (now : UInt64) :
    Alone ring (watch.step state) (state.step clock now ring) := by
  obtain ⟨stage, cursor, session⟩ := state
  obtain ⟨unraced, undisturbed, caughtUp⟩ := alone
  cases stage with
  | starting =>
      refine ⟨unraced, ?_, ?_⟩
      · simp only [PumpState.step]
        split <;> simp
      · simp only [PumpState.step]
        split <;> simp
  | sampling =>
      refine ⟨unraced, ?_, ?_⟩
      · simp only [PumpState.step]
        split <;> simp
      · simp only [PumpState.step]
        split <;> simp
  | inferring sample =>
      exact ⟨unraced, by simp [PumpState.step],
        by simp [PumpState.step]⟩
  | deciding =>
      refine ⟨unraced, fun _ => rfl, ?_⟩
      simp only [PumpState.step]
      split <;> simp
  | comparing =>
      refine ⟨unraced, fun _ => rfl, ?_⟩
      simp only [PumpState.step]
      split <;> simp
  | polling =>
      have quiet := undisturbed (by simp)
      simp only [PumpState.step]
      split
      · exact ⟨unraced, fun _ => quiet, fun _ => Nat.le_refl _⟩
      · next absent => exact ⟨unraced, fun _ => quiet, fun _ => Ring.poll?_eq_none_iff.1 absent⟩
  | rebuilding =>
      have quiet := undisturbed (by simp)
      exact ⟨unraced, fun _ => quiet, fun _ => Nat.le_refl _⟩
  | applying batch =>
      have quiet := undisturbed (by simp)
      have atEnd := caughtUp (by simp)
      obtain ⟨raced_eq, disturbed_eq⟩ := watch.receive_of_undisturbed unraced quiet session batch
      exact ⟨raced_eq, fun _ => disturbed_eq, fun _ => atEnd⟩
  | finished outcome => exact ⟨unraced, undisturbed, caughtUp⟩

theorem steps
    (alone : Alone ring watch state)
    (clock : String)
    (now : UInt64)
    (count : Nat) :
    Alone ring (watch.steps clock now ring count state) (state.steps clock now ring count) := by
  induction count generalizing watch state with
  | zero => exact alone
  | succ count inductionHypothesis => exact inductionHypothesis (alone.step clock now)

end Alone

/-- A delivery with nothing in between is over with its steps: the graph did not
begin in a race, the terms are those at which the pump looked, and the cursor stands
at the end. -/
theorem Feeds.pumpOnce
    {history : List Record}
    {ring : Ring}
    {watch : Watch}
    {cursor : Cursor}
    {session : Session}
    (feeds : Feeds history ring watch ⟨.starting, cursor, session⟩)
    (unraced : watch.raced = false)
    (bounded : history.length < versionLimit)
    (clock : String)
    (now : UInt64) :
    ∃ later : Watch, later.raced = false ∧ later.disturbed = false ∧
      Feeds history ring later
        ⟨.finished (pumpOnce clock now ring cursor session).2.2,
          (pumpOnce clock now ring cursor session).1,
          (pumpOnce clock now ring cursor session).2.1⟩ ∧
      history.length ≤ (pumpOnce clock now ring cursor session).1.delivered := by
  have ended := PumpState.remaining_steps clock now ring deliverySteps
    ⟨.starting, cursor, session⟩
  have starting : Alone ring watch ⟨.starting, cursor, session⟩ :=
    .starting unraced cursor session
  have alone := starting.steps clock now deliverySteps
  have feeds := feeds.steps bounded clock now deliverySteps
  unfold TrafficGraph.pumpOnce
  dsimp only
  generalize PumpState.steps clock now ring deliverySteps ⟨.starting, cursor, session⟩ = state
    at ended alone feeds
  have remaining_eq : state.stage.remaining = 0 := by
    simpa [deliverySteps] using ended
  obtain ⟨outcome, finished⟩ := DeliveryStage.eq_finished_of_remaining remaining_eq
  refine ⟨_, alone.unraced, alone.undisturbed (by omega), ?_, ?_⟩
  · obtain ⟨stage, cursor, session⟩ := state
    subst finished
    exact feeds
  · rw [← feeds.keeps.total_eq]
    exact alone.caughtUp (by omega)

/-- A ring, a session and the pump that moves batches from one to the other. -/
structure Feed where
  /-- The ring. -/
  ring : Ring
  /-- The cursor of the pump. -/
  cursor : Cursor
  /-- The session, which gets batches from the pump alone. -/
  session : Session

namespace Feed

/-- What can be done with a feed. -/
inductive Operation
  /-- A record is pushed. -/
  | push (record : Record)
  /-- The pump makes a whole delivery. -/
  | pump (clock : String) (now : UInt64)
  /-- Something is done with the session that is not the delivery of a batch. -/
  | act (operation : Session.Operation) (silent : operation.batch? = none)

/-- The record that an operation pushes. -/
def Operation.record? : Operation → Option Record
  | .push record => some record
  | _ => none

/-- The records pushed by a sequence of operations, oldest first. -/
def pushed (operations : List Operation) : List Record :=
  operations.filterMap Operation.record?

/-- A ring without records and a new session. -/
def create (capacity : Nat) (positive : 0 < capacity) (viewId : String)
    (options : GraphOptions) : Feed where
  ring := ⟨capacity, positive, .empty⟩
  cursor := .start
  session := .create viewId options

/-- The answer of the pump to a request for a delivery. -/
def answer (clock : String) (now : UInt64) (feed : Feed) : Option BatchOutcome :=
  (pumpOnce clock now feed.ring feed.cursor feed.session).2.2

/-- The feed after an operation. -/
def perform (feed : Feed) : Operation → Feed
  | .push record => { feed with ring := feed.ring.push record }
  | .pump clock now =>
    let (cursor, session, _) := pumpOnce clock now feed.ring feed.cursor feed.session
    { feed with cursor, session }
  | .act operation _ => { feed with session := feed.session.perform operation }

/-- The feed after a sequence of operations. -/
def after (operations : List Operation) (feed : Feed) : Feed :=
  operations.foldl perform feed

/-- Between deliveries the pump is ready to feed the session further, and the graph
did not begin in a race. -/
def Ready (history : List Record) (feed : Feed) : Prop :=
  ∃ watch : Watch, watch.raced = false ∧
    Feeds history feed.ring watch ⟨.starting, feed.cursor, feed.session⟩

theorem ready_create
    (capacity : Nat)
    (positive : 0 < capacity)
    (viewId : String)
    (options : GraphOptions) :
    (create capacity positive viewId options).Ready [] := by
  have blank : (Session.create viewId options).Blank := Session.blank_of_graph_eq rfl
  exact ⟨.start, rfl, Ring.keeps_new capacity positive, fun _ => blank, Nat.le_refl _,
    fun _ => Nat.le_refl _, Or.inl blank⟩

variable {history : List Record} {feed : Feed}

/-- A feed is ready again after every operation. -/
theorem Ready.perform
    (ready : feed.Ready history)
    (operation : Operation)
    (bounded : history.length < versionLimit) :
    (feed.perform operation).Ready (history ++ operation.record?.toList) := by
  obtain ⟨watch, unraced, feeds⟩ := ready
  cases operation with
  | push record => exact ⟨watch, unraced, feeds.push record⟩
  | pump clock now =>
      simp only [Operation.record?, Option.toList_none, List.append_nil]
      obtain ⟨later, unraced, _, feeds, _⟩ := feeds.pumpOnce unraced bounded clock now
      exact ⟨later, unraced, feeds.keeps, feeds.sound, feeds.delivered_le, feeds.origin_le,
        feeds.attends.2.1⟩
  | act operation silent =>
      simp only [Operation.record?, Option.toList_none, List.append_nil]
      exact ⟨watch.act feed.session _, unraced, feeds.act silent⟩

theorem Ready.after
    (ready : feed.Ready history)
    (operations : List Operation)
    (bounded : (history ++ pushed operations).length < versionLimit) :
    (feed.after operations).Ready (history ++ pushed operations) := by
  refine preserved_of_step Ready ?_ ready operations bounded
  intro history feed operation ready short
  exact ready.perform operation short

/-- The graph is one fold of the records between a place and the cursor, under the
present mapping and port threshold, and the place is not behind the oldest record
that the ring holds. -/
def Shows (history : List Record) (first : Nat) (feed : Feed) : Prop :=
  feed.session.version.toInt = feed.cursor.delivered ∧ first ≤ feed.ring.window.dropped ∧
    ∃ mapping, feed.session.mapping = some mapping ∧
      feed.session.graph.Tallies mapping feed.session.options.portThreshold
        (history.extract first feed.cursor.delivered)

/-- What holds of a feed and of the next delivery. -/
structure ExactlyOnce (history : List Record) (feed : Feed) : Prop where
  /-- The ring holds the end of the history. -/
  items_eq : feed.ring.window.items = history.drop feed.ring.window.dropped
  /-- A graph that has processed a batch shows the history up to the cursor. -/
  shows : 0 ≤ feed.session.version → ∃ first, feed.Shows history first
  /-- No delivery is stale. -/
  not_stale : ∀ clock now version, feed.answer clock now ≠ some (.stale version)
  /-- After a delivery that was applied, or found nothing for a session with a source,
  the graph shows all records that the ring holds, if it holds any. -/
  covers : ∀ clock now,
    ((∃ folded skipped reset, feed.answer clock now = some (.applied folded skipped reset)) ∨
        (feed.answer clock now = none ∧
          (feed.perform (.pump clock now)).session.mapping ≠ none)) →
      history = [] ∨ ∃ first, (feed.perform (.pump clock now)).Shows history first ∧
        ∀ index, feed.ring.window.dropped ≤ index → index < history.length →
          first ≤ index ∧ index < (feed.perform (.pump clock now)).cursor.delivered

/-- A session that reflects the history up to the cursor shows it. -/
theorem shows_of_reflects
    {first : Nat}
    (reflects : feed.session.Reflects history first feed.cursor.delivered)
    (first_le : first ≤ feed.ring.window.dropped) :
    feed.Shows history first := by
  obtain ⟨mapping, mapped, traffic_eq⟩ := reflects.shows
  exact ⟨reflects.version_eq, first_le, mapping, mapped, Graph.tallies_iff.2 traffic_eq⟩

/-- A feed that is ready feeds its session exactly once. -/
theorem Ready.exactlyOnce
    (ready : feed.Ready history)
    (bounded : history.length < versionLimit) :
    feed.ExactlyOnce history := by
  obtain ⟨watch, unraced, feeds⟩ := ready
  refine {
    items_eq := Window.Shows.items_eq feeds.keeps
    shows := ?shows
    not_stale := ?fresh
    covers := ?covers }
  case shows =>
    intro processed
    have mirrors : feed.session.Mirrors history watch.origin feed.cursor.delivered :=
      feeds.attends
    have reflects := mirrors.reflects_of_not_neg (Int64.not_lt.2 processed)
    exact ⟨_, shows_of_reflects reflects (feeds.origin_le unraced)⟩
  case fresh =>
    intro clock now version
    obtain ⟨later, _, _, feeds, _⟩ := feeds.pumpOnce unraced bounded clock now
    exact feeds.attends.2.2.1 version
  case covers =>
    intro clock now answered
    obtain ⟨later, unraced, undisturbed, feeds, atEnd⟩ :=
      feeds.pumpOnce unraced bounded clock now
    obtain ⟨settled, mirrors, _, processed_of_applied⟩ := feeds.attends
    by_cases blank : history = []
    · exact Or.inl blank
    · have pushed : 0 < history.length := List.length_pos_iff.2 blank
      have processed :
          ¬(feed.perform (.pump clock now)).session.version < 0 := by
        rcases answered with ⟨folded, skipped, reset, applied⟩ | ⟨_, mapped⟩
        · exact processed_of_applied folded skipped reset applied undisturbed
        · rcases settled undisturbed with start | unmapped | processed
          · exact absurd (Nat.lt_of_lt_of_le pushed atEnd) (Nat.not_lt.2 (Nat.le_of_eq start))
          · exact absurd unmapped mapped
          · exact processed
      have reflects := mirrors.reflects_of_not_neg processed
      have origin_le := feeds.origin_le unraced
      refine Or.inr ⟨later.origin, shows_of_reflects reflects origin_le, ?_⟩
      intro index held inside
      exact ⟨Nat.le_trans origin_le held, Nat.lt_of_lt_of_le inside atEnd⟩

/-- **Exactly once.** Whatever is pushed and done with the session between the
deliveries of its pump, a graph that has processed a batch is one fold of a stretch
of the history up to the cursor that leaves out nothing the ring still holds, and no
delivery is stale. -/
theorem exactlyOnce_after
    (capacity : Nat)
    (positive : 0 < capacity)
    (viewId : String)
    (options : GraphOptions)
    (operations : List Operation)
    (bounded : (pushed operations).length < versionLimit) :
    ((create capacity positive viewId options).after operations).ExactlyOnce
      (pushed operations) := by
  have ready := (ready_create capacity positive viewId options).after operations bounded
  rw [List.nil_append] at ready
  exact ready.exactlyOnce bounded

/-- A ring for one record overruns its pump, and the port threshold changes before
the last delivery. -/
theorem exactlyOnce_after_overrun :
    let record : Record := .ofMembers [("src", .string "a"), ("dst", .string "b")]
    let options : GraphOptions := { GraphOptions.standard with portThreshold := 0 }
    let operations : List Operation :=
      [.push record, .pump "" 0, .push record, .push record, .pump "" 1,
        .act (.setOptions "" options) rfl, .pump "" 2]
    0 < 1 ∧ (pushed operations).length < versionLimit ∧
      ((create 1 (by decide) "view" .standard).after operations).ExactlyOnce
        (pushed operations) := by
  intro record options operations
  have bounded : (pushed operations).length < versionLimit := by decide
  exact ⟨by decide, bounded,
    exactlyOnce_after 1 (by decide) "view" .standard operations bounded⟩

end Feed
end TrafficGraph
