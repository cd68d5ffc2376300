import TrafficGraph.Proofs.Feed.Delivery
import TrafficGraph.Proofs.Graph.Counting

/-!
# Deliveries that others interrupt

Between any two steps of a delivery others may push records, declare sources and
give options.  A graph is discarded when the terms of its session change.  If that
happens between the look of the pump at the session and the application of an
increment, then a new graph begins with the increment, and the records before it
that the ring still holds are never folded into it.  Records are lost in no other
way.
-/

namespace TrafficGraph

/-- A ring and a pump in the course of a delivery, under watch. -/
structure Scene where
  /-- The ring. -/
  ring : Ring
  /-- The pump and its session. -/
  pump : PumpState
  /-- The watch. -/
  watch : Watch

namespace Scene

/-- What can happen next. -/
inductive Move
  /-- A new delivery is requested; one that is not over goes on. -/
  | call
  /-- The delivery makes its next step. -/
  | step (clock : String) (now : UInt64)
  /-- A record is pushed. -/
  | push (record : Record)
  /-- Others do something with the session that is not the delivery of a batch. -/
  | act (operation : Session.Operation) (silent : operation.batch? = none)

/-- The record that a move pushes. -/
def Move.record? : Move → Option Record
  | .push record => some record
  | _ => none

/-- The records pushed by a sequence of moves, oldest first. -/
def pushed (moves : List Move) : List Record :=
  moves.filterMap Move.record?

/-- A ring without records, and a pump between deliveries with a new session. -/
def create (capacity : Nat) (positive : 0 < capacity) (viewId : String)
    (options : GraphOptions) : Scene where
  ring := ⟨capacity, positive, .empty⟩
  pump := ⟨.finished none, .start, .create viewId options⟩
  watch := .start

/-- The scene after a move. -/
def perform (scene : Scene) : Move → Scene
  | .call =>
    match scene.pump.stage with
    | .finished _ => { scene with pump := { scene.pump with stage := .starting } }
    | _ => scene
  | .step clock now =>
    { scene with
      pump := scene.pump.step clock now scene.ring
      watch := scene.watch.step scene.pump }
  | .push record => { scene with ring := scene.ring.push record }
  | .act operation _ =>
    let session := scene.pump.session.perform operation
    { scene with
      pump := { scene.pump with session }
      watch := scene.watch.act scene.pump.session session }

/-- The scene after a sequence of moves. -/
def after (moves : List Move) (scene : Scene) : Scene :=
  moves.foldl perform scene

/-- The pump feeds its session. -/
def Feeds (history : List Record) (scene : Scene) : Prop :=
  TrafficGraph.Feeds history scene.ring scene.watch scene.pump

theorem feeds_create
    (capacity : Nat)
    (positive : 0 < capacity)
    (viewId : String)
    (options : GraphOptions) :
    (create capacity positive viewId options).Feeds [] := by
  have blank : (Session.create viewId options).Blank := Session.blank_of_graph_eq rfl
  exact ⟨Ring.keeps_new capacity positive, fun _ => blank, Nat.le_refl _, fun _ => Nat.le_refl _,
    fun _ => Or.inl rfl, Or.inl blank, by simp, by simp⟩

variable {history : List Record} {scene : Scene}

/-- With every move the pump goes on feeding its session. -/
theorem Feeds.perform
    (feeds : scene.Feeds history)
    (move : Move)
    (bounded : history.length < versionLimit) :
    (scene.perform move).Feeds (history ++ move.record?.toList) := by
  cases move with
  | call =>
      simp only [Move.record?, Option.toList_none, List.append_nil, Scene.perform]
      split
      · next outcome finished =>
        obtain ⟨keeps, sound, delivered_le, origin_le, attends⟩ := feeds
        rw [finished] at attends
        exact ⟨keeps, sound, delivered_le, origin_le, attends.2.1⟩
      · exact feeds
  | step clock now =>
      simp only [Move.record?, Option.toList_none, List.append_nil]
      exact TrafficGraph.Feeds.step feeds bounded clock now
  | push record => exact TrafficGraph.Feeds.push feeds record
  | act operation silent =>
      simp only [Move.record?, Option.toList_none, List.append_nil]
      exact TrafficGraph.Feeds.act feeds silent

theorem Feeds.after
    (feeds : scene.Feeds history)
    (moves : List Move)
    (bounded : (history ++ pushed moves).length < versionLimit) :
    (scene.after moves).Feeds (history ++ pushed moves) := by
  refine preserved_of_step Feeds ?_ feeds moves bounded
  intro history scene move feeds short
  exact feeds.perform move short

/-- Every record that the ring still holds, the cursor has passed and the mapping finds
a connection in has been folded into the graph exactly once, under the present mapping
and port threshold. -/
def FoldsOnce (mapping : Source.Mapping) (history : List Record) (scene : Scene) : Prop :=
  scene.pump.session.graph.FoldsOnce mapping scene.pump.session.options.portThreshold history
    scene.ring.window.dropped scene.pump.cursor.delivered

/-- No record that the ring still holds and the mapping finds a connection in comes
before the origin of the graph. -/
def OriginCovers (mapping : Source.Mapping) (history : List Record) (scene : Scene) : Prop :=
  ∀ place, scene.ring.window.dropped ≤ place → place < scene.watch.origin →
    describes mapping history place = false

/-- When a pump has returned, a graph that has processed a batch contains every held
record exactly once if and only if its origin covers what the ring holds. -/
theorem Feeds.foldsOnce_iff
    (feeds : scene.Feeds history)
    (bounded : history.length < versionLimit)
    {outcome : Option BatchOutcome}
    (returned : scene.pump.stage = .finished outcome)
    {mapping : Source.Mapping}
    (mapped : scene.pump.session.mapping = some mapping)
    (processed : 0 ≤ scene.pump.session.version) :
    scene.FoldsOnce mapping history ↔ scene.OriginCovers mapping history := by
  have attends := feeds.attends
  rw [returned] at attends
  have reflects := attends.2.1.reflects_of_not_neg (Int64.not_lt.2 processed)
  obtain ⟨other, otherMapped, traffic_eq⟩ := reflects.shows
  rw [mapped] at otherMapped
  cases otherMapped
  have countable : history.length < largestWord := Nat.lt_trans bounded (by decide)
  exact Graph.foldsOnce_iff (Graph.tallies_iff.2 traffic_eq) reflects.first_le reflects.last_le
    countable scene.ring.window.dropped

/-- **Interrupted deliveries.** Whatever others do between the steps of the deliveries,
when the pump has returned and the graph has processed a batch, every held record has
been folded exactly once if and only if the origin of the graph covers what the ring
holds; and so it has if the terms did not change between the look of the pump and the
application of the batch with which the graph began. -/
theorem foldsOnce_iff_of_returned
    (capacity : Nat)
    (positive : 0 < capacity)
    (viewId : String)
    (options : GraphOptions)
    (moves : List Move)
    (bounded : (pushed moves).length < versionLimit)
    {outcome : Option BatchOutcome}
    (returned : ((create capacity positive viewId options).after moves).pump.stage =
      .finished outcome)
    {mapping : Source.Mapping}
    (mapped : ((create capacity positive viewId options).after moves).pump.session.mapping =
      some mapping)
    (processed :
      0 ≤ ((create capacity positive viewId options).after moves).pump.session.version) :
    (((create capacity positive viewId options).after moves).FoldsOnce mapping (pushed moves) ↔
        ((create capacity positive viewId options).after moves).OriginCovers mapping
          (pushed moves)) ∧
      (((create capacity positive viewId options).after moves).watch.raced = false →
        ((create capacity positive viewId options).after moves).FoldsOnce mapping
          (pushed moves)) := by
  have feeds := (feeds_create capacity positive viewId options).after moves bounded
  rw [List.nil_append] at feeds
  have foldsOnce_iff := feeds.foldsOnce_iff bounded returned mapped processed
  refine ⟨foldsOnce_iff, fun unraced => foldsOnce_iff.2 ?_⟩
  intro place held before
  have origin_le := feeds.origin_le unraced
  omega

/-- A record from one host to another. -/
def contact (source destination : String) : Record :=
  .ofMembers [("src", .string source), ("dst", .string destination)]

/-- The mapping of such records. -/
def contactMapping : Source.Mapping where
  sourceAddress := "src"
  destinationAddress := "dst"
  sourcePort := none
  destinationPort := none
  protocol := none
  timestamp := none
  byteCount := none

/-- One record is delivered, and between some steps of the delivery of the next one the
port threshold changes. -/
def interrupted (before after : Nat) : List Move :=
  [.push (contact "a" "b"), .call] ++ .replicate 6 (.step "" 0) ++
    [.push (contact "c" "d"), .call] ++ .replicate before (.step "" 0) ++
      [.act (.setOptions "" { GraphOptions.standard with portThreshold := 0 }) rfl] ++
        .replicate after (.step "" 0)

/-- The scene after such a delivery. -/
abbrev sceneAfter (moves : List Move) : Scene :=
  (create 16 (by decide) "view" .standard).after moves

/-- The port threshold changes before the pump looks at the session, and the window is
delivered again. -/
theorem foldsOnce_of_early_change :
    0 < 16 ∧ (pushed (interrupted 0 5)).length < versionLimit ∧
      (sceneAfter (interrupted 0 5)).pump.stage = .finished (some (.applied 2 0 true)) ∧
      (sceneAfter (interrupted 0 5)).pump.session.mapping = some contactMapping ∧
      0 ≤ (sceneAfter (interrupted 0 5)).pump.session.version ∧
      (sceneAfter (interrupted 0 5)).FoldsOnce contactMapping (pushed (interrupted 0 5)) := by
  have bounded : (pushed (interrupted 0 5)).length < versionLimit := by decide
  have returned : (sceneAfter (interrupted 0 5)).pump.stage =
      .finished (some (.applied 2 0 true)) := by rfl
  have mapped : (sceneAfter (interrupted 0 5)).pump.session.mapping = some contactMapping := by
    rfl
  have processed : 0 ≤ (sceneAfter (interrupted 0 5)).pump.session.version := by decide
  have unraced : (sceneAfter (interrupted 0 5)).watch.raced = false := by rfl
  have settled := foldsOnce_iff_of_returned 16 (by decide) "view" .standard (interrupted 0 5)
    bounded returned mapped processed
  exact ⟨by decide, bounded, returned, mapped, processed, settled.2 unraced⟩

/-- The port threshold changes when the increment is about to be applied, and a record
that the ring still holds is lost. -/
theorem not_foldsOnce_of_late_change :
    (sceneAfter (interrupted 4 1)).pump.stage = .finished (some (.applied 1 0 false)) ∧
      (sceneAfter (interrupted 4 1)).pump.session.mapping = some contactMapping ∧
      0 ≤ (sceneAfter (interrupted 4 1)).pump.session.version ∧
      ¬(sceneAfter (interrupted 4 1)).FoldsOnce contactMapping (pushed (interrupted 4 1)) := by
  have bounded : (pushed (interrupted 4 1)).length < versionLimit := by decide
  have returned : (sceneAfter (interrupted 4 1)).pump.stage =
      .finished (some (.applied 1 0 false)) := by rfl
  have mapped : (sceneAfter (interrupted 4 1)).pump.session.mapping = some contactMapping := by
    rfl
  have processed : 0 ≤ (sceneAfter (interrupted 4 1)).pump.session.version := by decide
  have feeds : (sceneAfter (interrupted 4 1)).Feeds (pushed (interrupted 4 1)) :=
    (feeds_create 16 (by decide) "view" .standard).after (interrupted 4 1) bounded
  refine ⟨returned, mapped, processed, fun once => ?_⟩
  have covers := (feeds.foldsOnce_iff bounded returned mapped processed).1 once
  have missing := covers 0 (by decide) (by decide)
  have described : describes contactMapping (pushed (interrupted 4 1)) 0 = true := by rfl
  rw [described] at missing
  cases missing

end Scene
end TrafficGraph
