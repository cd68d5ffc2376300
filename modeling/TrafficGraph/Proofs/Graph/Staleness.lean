import TrafficGraph.Proofs.Graph.Recency
import TrafficGraph.Proofs.Graph.Run

/-!
# Labels and the clock

Entries are demoted by clocks that may be set back, and a late observation makes an entry
active again without moving its last time.  Still no label overstates how long an entry has
not been observed: what fades has been unobserved for longer than the first threshold, and
what is idle for longer than the second, by the latest clock that a step has read.  Right
after a step no label understates it either, except that an entry moves by one label at a
time.
-/

namespace TrafficGraph

/-- A time gone by does not become shorter as the clock advances. -/
theorem saturatingSub_le_saturatingSub
    {now clock : UInt64}
    (later : now ≤ clock)
    (lastSeen : UInt64) :
    saturatingSub now lastSeen ≤ saturatingSub clock lastSeen := by
  rw [UInt64.le_iff_toNat_le, toNat_saturatingSub, toNat_saturatingSub]
  exact Nat.sub_le_sub_right (UInt64.le_iff_toNat_le.1 later) _

namespace Activity

/-- Only an entry that was active before a step, and not for too long, is active after it. -/
theorem next_eq_active_iff
    {thresholds : Thresholds}
    {elapsed : UInt64}
    {activity : Activity} :
    activity.next thresholds elapsed = .active ↔
      activity = .active ∧ elapsed ≤ thresholds.fadeAfter := by
  cases activity with
  | active =>
      rw [next, ← UInt64.not_lt, eq_self, true_and]
      split
      · next stale => exact iff_of_false nofun (not_not_intro stale)
      · next recent => exact iff_of_true rfl recent
  | fading =>
      rw [next]
      split
      · exact iff_of_false nofun nofun
      · exact iff_of_false nofun nofun
  | idle => exact iff_of_false nofun nofun

/-- An entry fades after a step if the step demoted it or left it fading. -/
theorem next_eq_fading_iff
    {thresholds : Thresholds}
    {elapsed : UInt64}
    {activity : Activity} :
    activity.next thresholds elapsed = .fading ↔
      (activity = .active ∧ thresholds.fadeAfter < elapsed) ∨
        (activity = .fading ∧ elapsed ≤ thresholds.idleAfter) := by
  cases activity with
  | active =>
      rw [next]
      split
      · next stale => exact iff_of_true rfl (Or.inl ⟨rfl, stale⟩)
      · next recent => simp [recent]
  | fading =>
      rw [next, ← UInt64.not_lt]
      split
      · next stale => simp [stale]
      · next recent => exact iff_of_true rfl (Or.inr ⟨rfl, recent⟩)
  | idle => simp [next]

/-- An entry is idle after a step if the step demoted it or it was idle before. -/
theorem next_eq_idle_iff
    {thresholds : Thresholds}
    {elapsed : UInt64}
    {activity : Activity} :
    activity.next thresholds elapsed = .idle ↔
      (activity = .fading ∧ thresholds.idleAfter < elapsed) ∨ activity = .idle := by
  cases activity with
  | active =>
      rw [next]
      split
      · simp
      · simp
  | fading =>
      rw [next]
      split
      · next stale => exact iff_of_true rfl (Or.inl ⟨rfl, stale⟩)
      · next recent => simp [recent]
  | idle => simp [next]

end Activity

namespace Recency

/-- The label of an entry does not overstate how long the entry has not been observed by a
clock, and before any clock is read it says that the entry is active. -/
structure Sound (thresholds : Thresholds) (clock : Option UInt64) (recency : Recency) :
    Prop where
  /-- What fades has not been observed for longer than the first threshold. -/
  fading : recency.activity = .fading → ∃ latest, clock = some latest ∧
    thresholds.fadeAfter < saturatingSub latest recency.lastSeen
  /-- What is idle has not been observed for longer than the second threshold. -/
  idle : recency.activity = .idle → ∃ latest, clock = some latest ∧
    thresholds.idleAfter < saturatingSub latest recency.lastSeen

variable {thresholds : Thresholds} {clock : Option UInt64} {recency : Recency}

/-- The label of an active entry is sound whatever the clock shows, so a late observation,
which moves no time, keeps labels sound as well. -/
theorem sound_of_active (active : recency.activity = .active) :
    recency.Sound thresholds clock where
  fading fades := nomatch active.symm.trans fades
  idle rests := nomatch active.symm.trans rests

/-- A step keeps labels sound if it reads no later time than the clock shows. -/
theorem Sound.decay
    {now latest : UInt64}
    (sound : recency.Sound thresholds (some latest))
    (read : now ≤ latest) :
    (recency.decay thresholds now).Sound thresholds (some latest) := by
  have longer : saturatingSub now recency.lastSeen ≤ saturatingSub latest recency.lastSeen :=
    saturatingSub_le_saturatingSub read recency.lastSeen
  refine ⟨?fading, ?idle⟩
  case fading =>
    intro fades
    obtain ⟨-, stale⟩ | ⟨faded, -⟩ := Activity.next_eq_fading_iff.1 fades
    · exact ⟨latest, rfl, UInt64.lt_of_lt_of_le stale longer⟩
    · exact sound.fading faded
  case idle =>
    intro rests
    obtain ⟨-, stale⟩ | rested := Activity.next_eq_idle_iff.1 rests
    · exact ⟨latest, rfl, UInt64.lt_of_lt_of_le stale longer⟩
    · exact sound.idle rested

/-- A step leaves no label that understates how long the entry has not been observed, if
the entry had that label already. -/
structure Settled (thresholds : Thresholds) (now : UInt64) (before after : Recency) : Prop where
  /-- What is still active has been observed within the first threshold. -/
  active : after.activity = .active → saturatingSub now after.lastSeen ≤ thresholds.fadeAfter
  /-- What is still fading has been observed within the second threshold. -/
  fading : before.activity = .fading → after.activity = .fading →
    saturatingSub now after.lastSeen ≤ thresholds.idleAfter

theorem settled_decay (thresholds : Thresholds) (now : UInt64) (recency : Recency) :
    recency.Settled thresholds now (recency.decay thresholds now) where
  active stays := (Activity.next_eq_active_iff.1 stays).2
  fading faded fades := by
    obtain ⟨active, -⟩ | ⟨-, recent⟩ := Activity.next_eq_fading_iff.1 fades
    · exact nomatch active.symm.trans faded
    · exact recent

end Recency

namespace Graph

/-- The labels of all nodes and edges are sound. -/
structure Sound (thresholds : Thresholds) (clock : Option UInt64) (graph : Graph) : Prop where
  /-- Those of the nodes are. -/
  nodes : ∀ node ∈ graph.nodes.toList, node.recency.Sound thresholds clock
  /-- Those of the edges are. -/
  edges : ∀ edge ∈ graph.edges.toList, edge.recency.Sound thresholds clock

/-- A step has settled all nodes and edges, and added none. -/
structure Settled (thresholds : Thresholds) (now : UInt64) (before after : Graph) : Prop where
  /-- It has settled the nodes. -/
  nodes : ∀ node ∈ after.nodes.toList, ∃ old, before.nodes.find? node.id = some old ∧
    old.recency.Settled thresholds now node.recency
  /-- It has settled the edges. -/
  edges : ∀ edge ∈ after.edges.toList, ∃ old, before.edges.find? edge.key = some old ∧
    old.recency.Settled thresholds now edge.recency

theorem settled_decayed (thresholds : Thresholds) (now : UInt64) (graph : Graph) :
    graph.Settled thresholds now (graph.decayed thresholds now) where
  nodes node listed := by
    rw [Table.mem_toList_iff, find?_nodes_decayed] at listed
    obtain ⟨old, found, rfl⟩ := Option.map_eq_some_iff.1 listed
    exact ⟨old, found, old.recency.settled_decay thresholds now⟩
  edges edge listed := by
    rw [Table.mem_toList_iff, find?_edges_decayed] at listed
    obtain ⟨old, found, rfl⟩ := Option.map_eq_some_iff.1 listed
    exact ⟨old, found, old.recency.settled_decay thresholds now⟩

namespace Sound

variable {thresholds : Thresholds} {clock : Option UInt64} {graph : Graph}

/-- An observed entry is active, and others are as they were. -/
theorem observe
    (sound : graph.Sound thresholds clock)
    (options : FoldOptions)
    (now : UInt64)
    (connection : Source.Connection) :
    (graph.observe options now connection).Sound thresholds clock := by
  refine ⟨?nodes, ?edges⟩
  case nodes =>
    intro node listed
    obtain wasListed | ⟨-, observed⟩ := mem_nodes_observe listed
    · exact sound.nodes node wasListed
    · rw [← observed, Node.recency_observe]
      exact Recency.sound_of_active rfl
  case edges =>
    intro edge listed
    obtain wasListed | rfl := mem_edges_observe listed
    · exact sound.edges edge wasListed
    · rw [Edge.recency_observe]
      exact Recency.sound_of_active rfl

theorem decayed
    {now latest : UInt64}
    (sound : graph.Sound thresholds (some latest))
    (read : now ≤ latest) :
    (graph.decayed thresholds now).Sound thresholds (some latest) := by
  refine ⟨?nodes, ?edges⟩
  case nodes =>
    intro node listed
    obtain ⟨old, wasListed, rfl⟩ := mem_nodes_decayed_iff.1 listed
    rw [Node.recency_decay]
    exact (sound.nodes old wasListed).decay read
  case edges =>
    intro edge listed
    obtain ⟨old, wasListed, rfl⟩ := mem_edges_decayed_iff.1 listed
    rw [Edge.recency_decay]
    exact (sound.edges old wasListed).decay read

/-- A position tells nothing about when a node was observed. -/
theorem applyPosition
    (sound : graph.Sound thresholds clock)
    (update : PositionUpdate) :
    (graph.applyPosition update).Sound thresholds clock := by
  refine ⟨?nodes, ?edges⟩
  case nodes =>
    intro node listed
    obtain wasListed | ⟨old, wasListed, rfl⟩ := mem_nodes_applyPosition listed
    · exact sound.nodes node wasListed
    · rw [Node.recency_moveTo]
      exact sound.nodes old wasListed
  case edges =>
    rw [edges_applyPosition]
    exact sound.edges

end Sound

/-- The time at which an operation demotes what is stale, if it does. -/
def Operation.decayTime? : Operation → Option UInt64
  | .decay _ now => some now
  | _ => none

/-- An operation demotes under no other thresholds than these. -/
def Operation.DecaysUnder (thresholds : Thresholds) : Operation → Prop
  | .decay used _ => used = thresholds
  | _ => True

/-- The times at which a run demotes what is stale. -/
def decayTimes (operations : List Operation) : List UInt64 :=
  operations.filterMap Operation.decayTime?

/-- An operation keeps labels sound if it reads no later time than the clock shows. -/
theorem Sound.perform
    {thresholds : Thresholds}
    {clock : Option UInt64}
    {graph : Graph}
    (sound : graph.Sound thresholds clock)
    {operation : Operation}
    (decaysUnder : operation.DecaysUnder thresholds)
    (read : ∀ now, operation.decayTime? = some now → ∃ latest, clock = some latest ∧ now ≤ latest) :
    (graph.perform operation).Sound thresholds clock := by
  cases operation with
  | fold mapping options now records =>
      rw [Graph.perform, fold_fst]
      exact List.foldlRecOn _ _ sound
        fun _ sofar connection _ => sofar.observe options now connection
  | foldConnection options now connection => exact sound.observe options now connection
  | decay used now =>
      obtain ⟨latest, rfl, earlier⟩ := read now rfl
      cases decaysUnder
      exact sound.decayed earlier
  | mergePositions updates =>
      exact List.foldlRecOn _ _ sound fun _ sofar update _ => sofar.applyPosition update
  | markProcessed version =>
      rw [Graph.perform, markProcessed]
      split
      · exact ⟨sound.nodes, sound.edges⟩
      · exact sound

/-- A run keeps labels sound if it reads no later time than the clock shows. -/
theorem Sound.after
    {thresholds : Thresholds}
    {clock : Option UInt64}
    {graph : Graph}
    (sound : graph.Sound thresholds clock)
    {operations : List Operation}
    (decaysUnder : ∀ operation ∈ operations, operation.DecaysUnder thresholds)
    (read : ∀ now ∈ decayTimes operations, ∃ latest, clock = some latest ∧ now ≤ latest) :
    (graph.after operations).Sound thresholds clock := by
  refine List.foldlRecOn operations _ sound fun _ sofar operation listed => ?_
  apply sofar.perform (decaysUnder operation listed)
  intro now reads
  exact read now (List.mem_filterMap.2 ⟨operation, listed, reads⟩)

/-- **Labels and the clock.** Whatever is folded, moved and demoted in a graph that was
empty, at whatever times but under one pair of thresholds, no label overstates how long its
entry has not been observed by the latest time that a step has read; and one step more, at
whatever time, settles every label. -/
theorem sound_after
    {thresholds : Thresholds}
    {operations : List Operation}
    (decaysUnder : ∀ operation ∈ operations, operation.DecaysUnder thresholds) :
    (empty.after operations).Sound thresholds (decayTimes operations).max? ∧
      ∀ now, (empty.after operations).Settled thresholds now
        ((empty.after operations).decay thresholds now).1 := by
  refine ⟨?sound, fun now => settled_decayed thresholds now _⟩
  case sound =>
    have initial : empty.Sound thresholds (decayTimes operations).max? :=
      ⟨by simp [empty], by simp [empty]⟩
    apply initial.after decaysUnder
    intro now reads
    obtain ⟨latest, isLatest⟩ := Option.isSome_iff_exists.1 (List.isSome_max?_of_mem reads)
    exact ⟨latest, isLatest, (List.max?_eq_some_iff.1 isLatest).2 now reads⟩

/-- A connection is observed, and the clock is set back after its entries have begun to
fade. -/
def clockSetBack : List Operation :=
  [.foldConnection ⟨0, false⟩ 10 ⟨"a", "b", none, none, none, none, none⟩,
    .decay ⟨5, 20⟩ 16, .decay ⟨5, 20⟩ 12]

/-- Hosts that fade by a clock that was set back have faded by the latest time. -/
theorem sound_after_clockSetBack :
    (∀ operation ∈ clockSetBack, operation.DecaysUnder ⟨5, 20⟩) ∧
      ((empty.after clockSetBack).nodes.find? "a").map Node.activity = some .fading ∧
      (decayTimes clockSetBack).max? = some 16 ∧
      (empty.after clockSetBack).Sound ⟨5, 20⟩ (some 16) := by
  have decaysUnder : ∀ operation ∈ clockSetBack, operation.DecaysUnder ⟨5, 20⟩ := by
    simp [clockSetBack, Operation.DecaysUnder]
  refine ⟨decaysUnder, ?fades, by decide, (sound_after decaysUnder).1⟩
  case fades =>
    change (Table.find? (decayed _ _ (decayed _ _ (observe _ _ empty _))).nodes "a").map _ = _
    rw [find?_nodes_decayed, find?_nodes_decayed, find?_nodes_observe empty rfl rfl, empty,
      Table.find?_empty]
    decide

end Graph
end TrafficGraph
