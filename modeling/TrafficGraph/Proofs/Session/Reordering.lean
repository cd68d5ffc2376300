import TrafficGraph.Proofs.Graph.Reordering
import TrafficGraph.Proofs.Session.Renewal

/-!
# Increments in another order

Under event time the graph of a session does not tell in which order increments came, how
they were cut into batches or when they were delivered.  As long as every connection
carries a time, sessions that begin without a graph and take the same records find the same
entries under the same keys, and the same ticks keep it so.
-/

namespace TrafficGraph
namespace Session

/-- The records that an operation delivers. -/
def Operation.records : Operation → List Record
  | .applyBatch _ batch _ => batch.events
  | _ => []

/-- The operation delivers an increment, and it is folded. -/
def Adds (session : Session) : Operation → Prop
  | .applyBatch clock batch now =>
    batch.mode = .incremental ∧ ∃ folded skipped reset,
      (session.applyBatch clock batch now).2 = .applied folded skipped reset
  | _ => False

/-- The run delivers increments only, and all of them are folded. -/
def AddsAll (session : Session) : List Operation → Prop
  | [] => True
  | operation :: operations =>
    session.Adds operation ∧ (session.perform operation).AddsAll operations

/-- Every connection that a record describes carries a time. -/
def AllDated (mapping : Source.Mapping) (records : List Record) : Prop :=
  ∀ connection ∈ records.filterMap (Source.connection? mapping), connection.timestamp ≠ none

/-- A session takes records under a mapping, a port threshold and event time. -/
structure Takes (mapping : Source.Mapping) (threshold : UInt16) (session : Session) : Prop where
  /-- The mapping of the source is this one. -/
  mapping_eq : session.mapping = some mapping
  /-- Ports are collapsed from this threshold on. -/
  threshold_eq : session.options.portThreshold = threshold
  /-- Connections are observed at the times that they carry. -/
  timed : session.options.useEventTime = true

variable {mapping : Source.Mapping} {threshold : UInt16} {session : Session}

/-- An increment observes what its records describe, and the session takes records as
before. -/
theorem Adds.lookups_perform
    {operation : Operation}
    (adds : session.Adds operation)
    (takes : session.Takes mapping threshold)
    (dated : AllDated mapping operation.records) :
    (session.perform operation).Takes mapping threshold ∧
      (session.perform operation).graph.lookups =
        (operation.records.filterMap (Source.connection? mapping)).foldl
          (Lookups.observe threshold) session.graph.lookups := by
  cases operation with
  | applyBatch clock batch now =>
      obtain ⟨increment, folded, skipped, reset, applied⟩ := adds
      obtain ⟨_, _, newer⟩ := newer_of_applied applied
      rw [perform, applyBatch_eq_of_lt takes.mapping_eq newer]
      refine ⟨⟨takes.mapping_eq, takes.threshold_eq, takes.timed⟩, ?_⟩
      rw [graph_notify, foldBatch, increment]
      dsimp only
      rw [Graph.lookups_markProcessed, ← takes.threshold_eq]
      exact Graph.lookups_fold takes.timed dated now session.graph
  | setSource clock source => exact adds.elim
  | setOptions clock options => exact adds.elim
  | tick clock now => exact adds.elim
  | mergePositions clock updates => exact adds.elim

/-- A run of increments observes what all of its records describe. -/
theorem AddsAll.lookups_after
    {operations : List Operation}
    (addsAll : session.AddsAll operations)
    (takes : session.Takes mapping threshold)
    (dated : AllDated mapping (operations.flatMap Operation.records)) :
    (session.after operations).graph.lookups =
      ((operations.flatMap Operation.records).filterMap (Source.connection? mapping)).foldl
        (Lookups.observe threshold) session.graph.lookups := by
  induction operations generalizing session with
  | nil => rfl
  | cons operation operations inductionHypothesis =>
      obtain ⟨adds, others⟩ := addsAll
      rw [AllDated, List.flatMap_cons, List.filterMap_append] at dated
      obtain ⟨datedFirst, datedOthers⟩ := List.forall_mem_append.1 dated
      obtain ⟨stillTakes, lookups_eq⟩ := adds.lookups_perform takes datedFirst
      rw [List.flatMap_cons, List.filterMap_append, List.foldl_append, ← lookups_eq]
      exact inductionHypothesis others stillTakes datedOthers

/-- A session that ticks demotes entries by its own thresholds. -/
theorem graph_after_ticks
    (session : Session)
    (ticks : List (String × UInt64)) :
    (session.after (ticks.map fun tick => .tick tick.1 tick.2)).graph =
      session.graph.after
        (ticks.map fun tick => .decay session.options.thresholds tick.2) := by
  induction ticks generalizing session with
  | nil => rfl
  | cons tick ticks inductionHypothesis =>
      have later := inductionHypothesis (session.perform (.tick tick.1 tick.2))
      rw [perform, options_tick, graph_tick] at later
      exact later

end Session

/-- Graphs with the same entries still have the same after the same demotions. -/
theorem Graph.lookups_after_decays
    {first second : Graph}
    (lookups_eq : first.lookups = second.lookups)
    (steps : List (Thresholds × UInt64)) :
    (first.after (steps.map fun step => .decay step.1 step.2)).lookups =
      (second.after (steps.map fun step => .decay step.1 step.2)).lookups := by
  induction steps generalizing first second with
  | nil => exact lookups_eq
  | cons step steps inductionHypothesis =>
      apply inductionHypothesis
      rw [perform, decay, lookups_decayed, lookups_eq, ← lookups_decayed]
      rfl

namespace Session

/-- Two sessions find the same entries under the same keys. -/
structure Alike (first second : Session) : Prop where
  /-- They do now. -/
  lookups_eq : first.graph.lookups = second.graph.lookups
  /-- They do after the same demotions. -/
  decayed : ∀ steps : List (Thresholds × UInt64),
    (first.graph.after (steps.map fun step => .decay step.1 step.2)).lookups =
      (second.graph.after (steps.map fun step => .decay step.1 step.2)).lookups
  /-- They do after the same ticks, which demote by the thresholds of the session. -/
  ticked : first.options.thresholds = second.options.thresholds →
    ∀ ticks : List (String × UInt64),
      (first.after (ticks.map fun tick => .tick tick.1 tick.2)).graph.lookups =
        (second.after (ticks.map fun tick => .tick tick.1 tick.2)).graph.lookups

theorem alike_of_lookups_eq
    {first second : Session}
    (lookups_eq : first.graph.lookups = second.graph.lookups) :
    first.Alike second := by
  have decayed := Graph.lookups_after_decays lookups_eq
  refine ⟨lookups_eq, decayed, ?_⟩
  intro thresholds_eq ticks
  have steps := decayed (ticks.map fun tick => (first.options.thresholds, tick.2))
  rw [List.map_map] at steps
  rw [graph_after_ticks, graph_after_ticks, ← thresholds_eq]
  exact steps

/-- **Order independence.** Of sessions that show nothing and take records alike under event
time, two runs of increments with the same dated records, in whatever order and batches,
make graphs that are the same up to order and version. -/
theorem alike_after
    {mapping : Source.Mapping}
    {threshold : UInt16}
    {first second : Session}
    (firstTakes : first.Takes mapping threshold)
    (secondTakes : second.Takes mapping threshold)
    (firstBlank : first.graph.snapshot = .empty)
    (secondBlank : second.graph.snapshot = .empty)
    {firstRun secondRun : List Operation}
    (firstAdds : first.AddsAll firstRun)
    (secondAdds : second.AddsAll secondRun)
    (dated : AllDated mapping (firstRun.flatMap Operation.records))
    (perm : (firstRun.flatMap Operation.records).Perm (secondRun.flatMap Operation.records)) :
    (first.after firstRun).Alike (second.after secondRun) := by
  have described := perm.filterMap (Source.connection? mapping)
  have alsoDated : AllDated mapping (secondRun.flatMap Operation.records) :=
    fun connection listed => dated connection (described.mem_iff.2 listed)
  apply alike_of_lookups_eq
  rw [firstAdds.lookups_after firstTakes dated, secondAdds.lookups_after secondTakes alsoDated,
    Graph.lookups_of_snapshot_eq_empty firstBlank,
    Graph.lookups_of_snapshot_eq_empty secondBlank]
  exact Lookups.foldl_observe_perm described threshold .empty

/-- A connection at a time. -/
def dial (time : String) : Record :=
  .ofMembers [("src", .string "::1"), ("dst", .string "db"), ("ts", .string time)]

/-- A session that takes connections at their times. -/
def dialled : Session :=
  (create "view" { GraphOptions.standard with useEventTime := true }).after
    [.setSource "" (.ofRecord (dial "0"))]

/-- Two connections in one batch. -/
def together : List Operation :=
  [.applyBatch "" { version := 1, mode := .incremental, events := [dial "5", dial "9"] } 0]

/-- The later one first, in batches of their own. -/
def apart : List Operation :=
  [.applyBatch "" { version := 3, mode := .incremental, events := [dial "9"] } 100,
    .applyBatch "" { version := 7, mode := .incremental, events := [dial "5"] } 200]

/-- Whether the connections come together or apart shows only in the version. -/
theorem alike_after_apart :
    dialled.AddsAll together ∧ dialled.AddsAll apart ∧
      (dialled.after together).version = 1 ∧ (dialled.after apart).version = 7 ∧
      (dialled.after together).Alike (dialled.after apart) := by
  have accountsFirst := (Ledger.accounts_create "view"
    { GraphOptions.standard with useEventTime := true }).after
      [.setSource "" (.ofRecord (dial "0"))]
  rw [← dialled] at accountsFirst
  have accounts := accountsFirst.after
  have takes : dialled.Takes
      ⟨"src", "dst", none, none, none, some "ts", none⟩ GraphOptions.standard.portThreshold := by
    refine ⟨accountsFirst.mapping_eq.trans rfl, accountsFirst.threshold_eq, ?_⟩
    exact congrArg GraphOptions.useEventTime (options_setSource "" _ _)
  have blank : dialled.graph.snapshot = .empty := by
    have nothing := accountsFirst.blank_of_nil rfl
    have graph_eq := Graph.eq_empty_of_traffic_eq_empty nothing.traffic_eq nothing.version_eq
    rw [graph_eq]
    rfl
  have addsTogether : dialled.AddsAll together := by
    refine ⟨⟨rfl, ?_⟩, trivial⟩
    exact (accountsFirst.determines.applied_iff _ _ _).2 (by decide)
  have addsApart : dialled.AddsAll apart := by
    refine ⟨⟨rfl, ?_⟩, ⟨rfl, ?_⟩, trivial⟩
    · exact (accountsFirst.determines.applied_iff _ _ _).2 (by decide)
    · exact ((accounts (apart.take 1)).determines.applied_iff _ _ _).2 (by decide)
  have dated : AllDated ⟨"src", "dst", none, none, none, some "ts", none⟩
      (together.flatMap Operation.records) := by
    unfold AllDated
    decide
  have perm : [dial "5", dial "9"].Perm [dial "9", dial "5"] := .swap _ _ _
  have first : (dialled.after together).version = 1 :=
    (accounts together).version_eq.trans (by decide)
  have second : (dialled.after apart).version = 7 :=
    (accounts apart).version_eq.trans (by decide)
  have alike := alike_after takes takes blank blank addsTogether addsApart dated perm
  exact ⟨addsTogether, addsApart, first, second, alike⟩

end Session
end TrafficGraph
