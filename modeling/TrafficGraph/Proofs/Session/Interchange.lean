import TrafficGraph.Proofs.Graph.Interchange
import TrafficGraph.Proofs.Session.Run

/-!
# The decay loop and a batch

Of a tick and a batch at the same or a later time either may find the session free first.
The graph, the counters and the answer to the batch come out the same, as long as
observations count at the time of the fold; only the notifications that were sent on the way
tell the two orders apart.
-/

namespace TrafficGraph
namespace Session

variable {options : GraphOptions} {time now : UInt64}

/-- A batch becomes the same graph, demoted, if what it is folded into is demoted first. -/
theorem foldBatch_decayed
    (wallClock : options.useEventTime = false)
    (notLater : time ≤ now)
    (thresholds : Thresholds)
    (mapping : Source.Mapping)
    (batch : Batch)
    (graph : Graph) :
    foldBatch mapping options batch now (graph.decayed thresholds time) =
      ((foldBatch mapping options batch now graph).1.decayed thresholds time,
        (foldBatch mapping options batch now graph).2) := by
  have foldWallClock : options.fold.useEventTime = false := wallClock
  have fold_eq (before : Graph) :=
    Graph.fold_decayed notLater thresholds foldWallClock mapping before batch.events
  unfold foldBatch
  cases batch.mode with
  | incremental => simp only [fold_eq, Graph.decayed_markProcessed]
  | fullWindow =>
      -- The new graph comes from the empty one, which has nothing to demote.
      have fold_empty := fold_eq .empty
      rw [Graph.decayed_empty] at fold_empty
      have settled : (Graph.empty.fold mapping options.fold now batch.events).1.decayed
          thresholds time = (Graph.empty.fold mapping options.fold now batch.events).1 :=
        (congrArg Prod.fst fold_empty).symm
      simp only [Graph.decayed_markProcessed, Graph.decayed_mergePositions,
        Graph.positions_decayed, settled]

/-- The session without the notifications that it sent. -/
def muted (session : Session) : Session :=
  { session with changes := Window.empty }

/-- The session after a tick, before it notifies. -/
def demoted (time : UInt64) (session : Session) : Session :=
  { session with
    graph := session.graph.decayed session.options.thresholds time
    counters := { session.counters with decayTicks := session.counters.decayTicks + 1 } }

@[simp] theorem muted_notify (clock : String) (kind : ChangeKind) (session : Session) :
    (session.notify clock kind).muted = session.muted := rfl

/-- A tick demotes and may notify. -/
theorem tick_fst (clock : String) (time : UInt64) (session : Session) :
    (session.tick clock time).1 = session.demoted time ∨
      (session.tick clock time).1 = (session.demoted time).notify clock .decayed := by
  unfold tick
  dsimp only
  split
  · exact Or.inr rfl
  · exact Or.inl rfl

theorem muted_tick (clock : String) (time : UInt64) (session : Session) :
    (session.tick clock time).1.muted = (session.demoted time).muted := by
  rcases session.tick_fst clock time with silent | spoken
  · rw [silent]
  · rw [spoken, muted_notify]

/-- What a batch does does not depend on earlier notifications. -/
theorem applyBatch_notify
    (clock earlier : String)
    (kind : ChangeKind)
    (batch : Batch)
    (now : UInt64)
    (session : Session) :
    ((session.notify earlier kind).applyBatch clock batch now).1.muted =
        (session.applyBatch clock batch now).1.muted ∧
      ((session.notify earlier kind).applyBatch clock batch now).2 =
        (session.applyBatch clock batch now).2 := by
  unfold applyBatch notify
  dsimp only
  cases session.mapping with
  | none => exact ⟨rfl, rfl⟩
  | some mapping =>
      dsimp only
      split
      · exact ⟨rfl, rfl⟩
      · exact ⟨rfl, rfl⟩

/-- A session may be demoted before or after a batch is delivered to it. -/
theorem applyBatch_demoted
    {session : Session}
    (wallClock : session.options.useEventTime = false)
    (notLater : time ≤ now)
    (clock : String)
    (batch : Batch) :
    ((session.demoted time).applyBatch clock batch now).1.muted =
        ((session.applyBatch clock batch now).1.demoted time).muted ∧
      ((session.demoted time).applyBatch clock batch now).2 =
        (session.applyBatch clock batch now).2 := by
  have foldBatch_eq (mapping : Source.Mapping) :=
    foldBatch_decayed wallClock notLater session.options.thresholds mapping batch session.graph
  unfold applyBatch demoted
  dsimp only
  cases session.mapping with
  | none => exact ⟨rfl, rfl⟩
  | some mapping =>
      dsimp only
      rw [foldBatch_eq mapping]
      by_cases accepted : session.graph.accepts batch.version = true
      · have stillAccepted : (session.graph.decayed session.options.thresholds time).accepts
            batch.version = true := accepted
        simp only [if_pos accepted, if_pos stillAccepted]
        exact ⟨rfl, trivial⟩
      · have stillRefused : ¬(session.graph.decayed session.options.thresholds time).accepts
            batch.version = true := accepted
        simp only [if_neg accepted, if_neg stillRefused]
        exact ⟨trivial, rfl⟩

/-- **Either first.** If observations count at the time of the fold, then a fold and a decay
step that reads the same or an earlier time leave the same graph in either order, whatever the
graph and the thresholds.  So it does not matter which of a batch and a tick of the decay loop
finds a session free first: all but the notifications comes out the same, the answer to the
batch included. -/
theorem batch_tick_interchange
    {options : FoldOptions}
    (wallClock : options.useEventTime = false)
    {time now : UInt64}
    (notLater : time ≤ now) :
    (∀ (mapping : Source.Mapping) (records : List Record) (thresholds : Thresholds)
        (graph : Graph),
      ((graph.fold mapping options now records).1.decay thresholds time).1 =
        ((graph.decay thresholds time).1.fold mapping options now records).1) ∧
    ∀ (session : Session) (batch : Batch) (batchClock tickClock : String),
      session.options.fold = options →
        ((session.applyBatch batchClock batch now).1.tick tickClock time).1.muted =
            ((session.tick tickClock time).1.applyBatch batchClock batch now).1.muted ∧
          (session.applyBatch batchClock batch now).2 =
            ((session.tick tickClock time).1.applyBatch batchClock batch now).2 := by
  refine ⟨?graph, ?session⟩
  case graph =>
    intro mapping records thresholds graph
    exact (congrArg Prod.fst (Graph.fold_decayed notLater thresholds wallClock mapping graph
      records)).symm
  case session =>
    intro session batch batchClock tickClock options_eq
    have sessionClock : session.options.useEventTime = false :=
      (congrArg FoldOptions.useEventTime options_eq).trans wallClock
    have demoted_eq := applyBatch_demoted sessionClock notLater batchClock batch
    rw [muted_tick]
    rcases session.tick_fst tickClock time with silent | spoken
    · rw [silent]
      exact ⟨demoted_eq.1.symm, demoted_eq.2.symm⟩
    · have notified := (session.demoted time).applyBatch_notify batchClock tickClock .decayed
        batch now
      rw [spoken, notified.1, notified.2]
      exact ⟨demoted_eq.1.symm, demoted_eq.2.symm⟩

/-- A mapping of the addresses alone. -/
def addresses : Source.Mapping := ⟨"src", "dst", none, none, none, none, none⟩

/-- A record of a connection between two hosts. -/
def greeting : Record := .ofMembers [("src", .string "a"), ("dst", .string "b")]

/-- The connection has not been observed for a while, so its hosts have begun to fade. -/
def faded : Graph :=
  ((Graph.empty.observe ⟨0, false⟩ 1 ⟨"a", "b", none, none, none, none, none⟩).decay ⟨2, 5⟩ 9).1

/-- Hosts that the step makes idle if it comes first are revived, and the graph is the same as if
they had been revived before it. -/
theorem batch_tick_interchange_faded :
    (faded.nodes.find? "a").map Node.activity = some .fading ∧
      Source.connection? addresses greeting = some ⟨"a", "b", none, none, none, none, none⟩ ∧
      (⟨0, false⟩ : FoldOptions).useEventTime = false ∧ (9 : UInt64) ≤ 9 ∧
      ((faded.fold addresses ⟨0, false⟩ 9 [greeting]).1.decay ⟨2, 5⟩ 9).1 =
        ((faded.decay ⟨2, 5⟩ 9).1.fold addresses ⟨0, false⟩ 9 [greeting]).1 := by
  have wallClock : (⟨0, false⟩ : FoldOptions).useEventTime = false := rfl
  have notLater : (9 : UInt64) ≤ 9 := by decide
  refine ⟨?fading, by rfl, wallClock, notLater,
    (batch_tick_interchange wallClock notLater).1 addresses [greeting] ⟨2, 5⟩ faded⟩
  case fading =>
    change (Table.find? (Graph.decayed _ _ (Graph.observe _ _ .empty _)).nodes "a").map _ = _
    rw [Graph.find?_nodes_decayed, Graph.find?_nodes_observe .empty rfl rfl, Graph.empty,
      Table.find?_empty]
    decide

end Session
end TrafficGraph
