import TrafficGraph.Proofs.Graph.Counting
import TrafficGraph.Proofs.Session.Steps
import TrafficGraph.Proofs.Sum

/-!
# What the counters of a session tell

The counters are raised by every step and survive the graph, while the event counts of the
edges are thrown away with it.  So the counters are sums over all steps of a run, and the
event counts a sum over the steps since the graph was discarded last: a reset leaves
nothing to be counted, and a full window counts its own records.
-/

namespace TrafficGraph

/-- Every record of a batch describes a connection or none. -/
theorem Batch.described_add_undescribed
    (mapping : Source.Mapping)
    (batch : Batch) :
    batch.described mapping + batch.undescribed mapping = batch.events.length := by
  have parted := List.length_eq_countP_add_countP
    (fun record => (Source.connection? mapping record).isSome) (l := batch.events)
  rw [parted, described, undescribed, Nat.add_right_inj]
  apply List.countP_congr
  intro record _
  cases Source.connection? mapping record with
  | none => simp
  | some connection => simp

/-! ## Counters as sums over steps -/

namespace Stats

open Session in
/-- The cumulative counters after some steps are those before them, each raised by what the
steps did. -/
structure Raised (history : List Step) (before after : Stats) : Prop where
  /-- Folded batches. -/
  applied_eq : after.batchesApplied =
    before.batchesApplied + (answers history).countP BatchOutcome.isApplied
  /-- Stale batches. -/
  stale_eq : after.batchesStale =
    before.batchesStale + (answers history).countP BatchOutcome.isStale
  /-- Batches without a source. -/
  notApplicable_eq : after.batchesNotApplicable =
    before.batchesNotApplicable + (answers history).countP BatchOutcome.isNotApplicable
  /-- Folded full windows. -/
  fullWindows_eq : after.fullWindowBatches =
    before.fullWindowBatches + (answers history).countP BatchOutcome.isReset
  /-- Folded records. -/
  folded_eq : after.eventsFolded =
    before.eventsFolded + sumOf BatchOutcome.folded (answers history)
  /-- Skipped records. -/
  skipped_eq : after.eventsSkipped =
    before.eventsSkipped + sumOf BatchOutcome.skipped (answers history)
  /-- Discarded graphs. -/
  resets_eq : after.resets = before.resets + history.countP Step.isReset
  /-- Decay steps. -/
  ticks_eq : after.decayTicks = before.decayTicks + history.countP Step.isTick

/-- No cumulative counter is lower than before. -/
structure NotLowered (before after : Stats) : Prop where
  /-- Folded batches. -/
  applied_le : before.batchesApplied ≤ after.batchesApplied
  /-- Stale batches. -/
  stale_le : before.batchesStale ≤ after.batchesStale
  /-- Batches without a source. -/
  notApplicable_le : before.batchesNotApplicable ≤ after.batchesNotApplicable
  /-- Folded full windows. -/
  fullWindows_le : before.fullWindowBatches ≤ after.fullWindowBatches
  /-- Folded records. -/
  folded_le : before.eventsFolded ≤ after.eventsFolded
  /-- Skipped records. -/
  skipped_le : before.eventsSkipped ≤ after.eventsSkipped
  /-- Discarded graphs. -/
  resets_le : before.resets ≤ after.resets
  /-- Decay steps. -/
  ticks_le : before.decayTicks ≤ after.decayTicks

namespace Raised

variable {first second history : List Session.Step} {before middle after : Stats}

theorem nil (stats : Stats) : Raised [] stats stats :=
  ⟨rfl, rfl, rfl, rfl, rfl, rfl, rfl, rfl⟩

/-- What two stretches of a history raise adds up. -/
theorem append
    (earlier : Raised first before middle)
    (later : Raised second middle after) :
    Raised (first ++ second) before after := by
  constructor
  · rw [later.applied_eq, earlier.applied_eq, Session.answers_append, List.countP_append,
      Nat.add_assoc]
  · rw [later.stale_eq, earlier.stale_eq, Session.answers_append, List.countP_append,
      Nat.add_assoc]
  · rw [later.notApplicable_eq, earlier.notApplicable_eq, Session.answers_append,
      List.countP_append, Nat.add_assoc]
  · rw [later.fullWindows_eq, earlier.fullWindows_eq, Session.answers_append,
      List.countP_append, Nat.add_assoc]
  · rw [later.folded_eq, earlier.folded_eq, Session.answers_append, sumOf_append,
      Nat.add_assoc]
  · rw [later.skipped_eq, earlier.skipped_eq, Session.answers_append, sumOf_append,
      Nat.add_assoc]
  · rw [later.resets_eq, earlier.resets_eq, List.countP_append, Nat.add_assoc]
  · rw [later.ticks_eq, earlier.ticks_eq, List.countP_append, Nat.add_assoc]

theorem notLowered (raised : Raised history before after) : NotLowered before after := by
  constructor
  · exact Nat.le.intro raised.applied_eq.symm
  · exact Nat.le.intro raised.stale_eq.symm
  · exact Nat.le.intro raised.notApplicable_eq.symm
  · exact Nat.le.intro raised.fullWindows_eq.symm
  · exact Nat.le.intro raised.folded_eq.symm
  · exact Nat.le.intro raised.skipped_eq.symm
  · exact Nat.le.intro raised.resets_eq.symm
  · exact Nat.le.intro raised.ticks_eq.symm

end Raised
end Stats

namespace Session

/-- A declared source counts a reset if it replaces a mapping. -/
theorem counters_setSource
    (clock : String)
    (source : Source.Description)
    (session : Session) :
    (session.perform (.setSource clock source)).counters = { session.counters with
      resets := session.counters.resets +
        if (Step.mk session (.setSource clock source)).isReset then 1 else 0 } := by
  rw [perform, setSource, Step.isReset]
  by_cases same : session.mapping = (Source.inspect source).fields
  · simp [same]
  · cases mapped : session.hasSource with
    | false => simp [same, notify]
    | true => simp [same, notify, reset]

/-- Given options count a reset if they are usable and have another port threshold. -/
theorem counters_setOptions
    (clock : String)
    (options : GraphOptions)
    (session : Session) :
    (session.perform (.setOptions clock options)).counters = { session.counters with
      resets := session.counters.resets +
        if (Step.mk session (.setOptions clock options)).isReset then 1 else 0 } := by
  by_cases discards : session.Discards (.setOptions clock options)
  · rw [perform_setOptions_of_ne discards.1 discards.2,
      if_pos ((Step.isReset_iff session _).2 discards)]
    rfl
  · rw [if_neg fun reset => discards ((Step.isReset_iff session _).1 reset)]
    cases usable : options.validate with
    | error fault => rw [perform_setOptions_of_error usable]; rfl
    | ok _ =>
        by_cases same : session.options.portThreshold = options.portThreshold
        · rw [perform_setOptions_of_eq usable same]; rfl
        · exact absurd ⟨usable, same⟩ discards

theorem raised_of_silent
    {step : Step}
    (silent : step.outcome? = none)
    (stats : Stats) :
    Stats.Raised [step] stats { stats with
      resets := stats.resets + if step.isReset then 1 else 0
      decayTicks := stats.decayTicks + if step.isTick then 1 else 0 } := by
  have unanswered : answers [step] = [] := by
    rw [answers, List.filterMap_cons, silent, List.filterMap_nil]
  constructor
  all_goals simp only [unanswered, List.countP_cons, List.countP_nil, sumOf_nil, Nat.add_zero,
    Nat.zero_add]

/-- The counters after a batch was answered. -/
def recordOutcome (clock : String) (stats : Stats) : BatchOutcome → Stats
  | .notApplicable => { stats with batchesNotApplicable := stats.batchesNotApplicable + 1 }
  | .stale _ => { stats with batchesStale := stats.batchesStale + 1 }
  | .applied folded skipped reset => stats.recordApplied folded skipped reset clock

theorem counters_applyBatch
    (clock : String)
    (batch : Batch)
    (now : UInt64)
    (session : Session) :
    (session.applyBatch clock batch now).1.counters =
      recordOutcome clock session.counters (session.applyBatch clock batch now).2 := by
  unfold applyBatch
  split
  · rfl
  · dsimp only
    split
    · rfl
    · rfl

theorem raised_recordOutcome
    {step : Step}
    {outcome : BatchOutcome}
    (answered : step.outcome? = some outcome)
    (kept : step.isReset = false)
    (untimed : step.isTick = false)
    (clock : String)
    (stats : Stats) :
    Stats.Raised [step] stats (recordOutcome clock stats outcome) := by
  have answers_eq : answers [step] = [outcome] := by
    rw [answers, List.filterMap_cons, answered, List.filterMap_nil]
  cases outcome with
  | notApplicable =>
      constructor
      all_goals simp [answers_eq, kept, untimed, recordOutcome]
  | stale version =>
      constructor
      all_goals simp [answers_eq, kept, untimed, recordOutcome]
  | applied folded skipped reset =>
      constructor
      all_goals cases reset
      all_goals simp [answers_eq, kept, untimed, recordOutcome, Stats.recordApplied]

theorem raised_applyBatch
    (clock : String)
    (batch : Batch)
    (now : UInt64)
    (session : Session) :
    Stats.Raised [⟨session, .applyBatch clock batch now⟩] session.counters
      (session.applyBatch clock batch now).1.counters := by
  rw [counters_applyBatch]
  exact raised_recordOutcome rfl rfl rfl clock session.counters

/-- Every step raises the counters by what it did. -/
theorem raised_perform
    (session : Session)
    (operation : Operation) :
    Stats.Raised [⟨session, operation⟩] session.counters
      (session.perform operation).counters := by
  cases operation with
  | setSource clock source =>
      rw [counters_setSource]
      exact raised_of_silent rfl session.counters
  | setOptions clock options =>
      rw [counters_setOptions]
      exact raised_of_silent rfl session.counters
  | applyBatch clock batch now => exact raised_applyBatch clock batch now session
  | tick clock now =>
      have counters_eq : (session.perform (.tick clock now)).counters = { session.counters with
          decayTicks := session.counters.decayTicks + 1 } := by
        rw [perform, tick]
        dsimp only
        split <;> rfl
      rw [counters_eq]
      exact raised_of_silent rfl session.counters
  | mergePositions clock updates =>
      rw [perform, (moves_mergePositions clock updates session).counters_eq]
      exact raised_of_silent rfl session.counters

/-- Every run raises the counters by what its steps did. -/
theorem raised_after
    (operations : List Operation)
    (session : Session) :
    Stats.Raised (session.steps operations) session.counters
      (session.after operations).counters := by
  induction operations generalizing session with
  | nil => exact .nil session.counters
  | cons operation operations inductionHypothesis =>
      exact (raised_perform session operation).append
        (inductionHypothesis (session.perform operation))

/-! ## Records of applied batches -/

/-- The records of an applied batch are folded or skipped. -/
theorem length_appliedRecords (step : Step) :
    sumOf BatchOutcome.folded (answers [step]) +
        sumOf BatchOutcome.skipped (answers [step]) =
      step.appliedRecords.length := by
  obtain ⟨session, operation⟩ := step
  cases operation with
  | applyBatch clock batch now =>
      change sumOf BatchOutcome.folded [(session.applyBatch clock batch now).2] +
          sumOf BatchOutcome.skipped [(session.applyBatch clock batch now).2] =
        (if (session.applyBatch clock batch now).2.isApplied = true then
          [batch].flatMap Batch.events else []).length
      cases outcome_eq : (session.applyBatch clock batch now).2 with
      | notApplicable => rfl
      | stale version => rfl
      | applied folded skipped reset =>
          obtain ⟨mapping, mapped, newer⟩ := newer_of_applied outcome_eq
          rw [applyBatch_eq_of_lt mapped newer] at outcome_eq
          obtain ⟨rfl, rfl, _⟩ := BatchOutcome.applied.inj outcome_eq
          simpa using batch.described_add_undescribed mapping
  | setSource clock source => rfl
  | setOptions clock options => rfl
  | tick clock now => rfl
  | mergePositions clock updates => rfl

/-- All records of applied batches are folded or skipped. -/
theorem length_flatMap_appliedRecords (history : List Step) :
    sumOf BatchOutcome.folded (answers history) +
        sumOf BatchOutcome.skipped (answers history) =
      (history.flatMap Step.appliedRecords).length := by
  induction history with
  | nil => rfl
  | cons step history inductionHypothesis =>
      rw [List.flatMap_cons, List.length_append, ← length_appliedRecords, ← inductionHypothesis,
        ← List.singleton_append, answers_append, sumOf_append, sumOf_append]
      omega

end Session

/-! ## Event counts -/

namespace Graph

/-- The sum of the event counts of all edges. -/
def eventTotal (graph : Graph) : Nat :=
  sumOf (fun edge => edge.eventCount.toNat) graph.edges.toList

theorem eventTotal_traffic (graph : Graph) :
    graph.traffic.eventTotal = graph.eventTotal := by
  rw [Traffic.eventTotal, traffic, eventTotal]
  induction graph.edges.toList with
  | nil => rfl
  | cons edge edges inductionHypothesis =>
      rw [List.map_cons, EdgeTraffic.total, inductionHypothesis, sumOf_cons]
      rfl

theorem isKeyed_traffic (graph : Graph) : graph.traffic.IsKeyed := by
  rw [Traffic.IsKeyed, traffic, List.map_map]
  exact graph.edges.nodup_keys

/-- The event counts add up to a number, unless a count is full. -/
structure Weighs (count : Nat) (graph : Graph) : Prop where
  /-- They count no more. -/
  le : graph.traffic.eventTotal ≤ count
  /-- They count no less than what one of them can hold. -/
  ge : min largestWord count ≤ graph.traffic.eventTotal

theorem weighs_empty : empty.Weighs 0 :=
  ⟨Nat.le_refl 0, Nat.zero_le _⟩

theorem Weighs.of_traffic_eq
    {count : Nat}
    {graph later : Graph}
    (weighs : graph.Weighs count)
    (traffic_eq : later.traffic = graph.traffic) :
    later.Weighs count := by
  refine ⟨?_, ?_⟩
  · rw [traffic_eq]
    exact weighs.le
  · rw [traffic_eq]
    exact weighs.ge

/-- As long as the number fits into a word it is the sum of the event counts. -/
theorem Weighs.eventTotal_eq
    {count : Nat}
    {graph : Graph}
    (weighs : graph.Weighs count)
    (fits : count ≤ largestWord) :
    graph.eventTotal = count := by
  have le := weighs.le
  have ge := weighs.ge
  rw [eventTotal_traffic] at le ge
  omega

/-- A batch that is folded adds the records that describe a connection, and a full window
puts them in place of what was counted before. -/
theorem Weighs.foldBatch
    {count : Nat}
    {graph : Graph}
    (weighs : graph.Weighs count)
    (mapping : Source.Mapping)
    (options : GraphOptions)
    (batch : Batch)
    (now : UInt64) :
    (Session.foldBatch mapping options batch now graph).1.Weighs
      ((if batch.mode = .fullWindow then 0 else count) + batch.described mapping) := by
  have described_eq : (batch.events.filterMap (Source.connection? mapping)).length =
      batch.described mapping :=
    List.length_filterMap_eq_countP
  have grown (base : Graph) := Traffic.eventTotal_foldl options.portThreshold
    base.isKeyed_traffic (batch.events.filterMap (Source.connection? mapping))
  rw [described_eq] at grown
  have le := weighs.le
  have ge := weighs.ge
  cases mode_eq : batch.mode with
  | incremental =>
      have traffic_eq := Session.traffic_foldBatch mapping options batch now graph
      rw [Traffic.deliver, mode_eq] at traffic_eq
      dsimp only at traffic_eq
      obtain ⟨upper, lower⟩ := grown graph
      rw [if_neg (by decide)]
      refine ⟨?_, ?_⟩
      · rw [traffic_eq]
        omega
      · rw [traffic_eq]
        omega
  | fullWindow =>
      have traffic_eq := Session.traffic_foldBatch mapping options batch now graph
      rw [Traffic.deliver, mode_eq] at traffic_eq
      obtain ⟨upper, lower⟩ := grown .empty
      have blank : empty.traffic.eventTotal = 0 := rfl
      rw [blank] at upper lower
      rw [if_pos rfl]
      refine ⟨?_, ?_⟩
      · rw [traffic_eq]
        exact upper
      · rw [traffic_eq]
        exact lower

end Graph

namespace Session

/-- The number of records that were folded in some steps. -/
def foldedTotal (history : List Step) : Nat :=
  sumOf BatchOutcome.folded (answers history)

theorem foldedTotal_append (first second : List Step) :
    foldedTotal (first ++ second) = foldedTotal first + foldedTotal second := by
  rw [foldedTotal, answers_append, sumOf_append]
  rfl

/-- A step that delivers no batch and does not reset the graph counts nothing. -/
theorem foldedTotal_keep_of_silent
    {step : Step}
    (silent : step.outcome? = none)
    (spared : step.isReset = false)
    (kept : List Step) :
    foldedTotal (keep kept step) = foldedTotal kept := by
  have steady : step.isRebuild = false := by
    rw [Step.isRebuild, silent]
    rfl
  have uncounted : foldedTotal [step] = 0 := by
    rw [foldedTotal, answers, List.filterMap_cons, silent]
    rfl
  rw [keep, spared, steady]
  simp only [Bool.false_eq_true, if_false, foldedTotal_append, uncounted, Nat.add_zero]

theorem foldedTotal_keep_applyBatch
    (clock : String)
    (batch : Batch)
    (now : UInt64)
    (session : Session)
    (kept : List Step) :
    foldedTotal (keep kept ⟨session, .applyBatch clock batch now⟩) =
      (if (session.applyBatch clock batch now).2.isReset then 0 else foldedTotal kept) +
        (session.applyBatch clock batch now).2.folded := by
  have counted : foldedTotal [⟨session, .applyBatch clock batch now⟩] =
      (session.applyBatch clock batch now).2.folded :=
    Nat.add_zero _
  have spared : (Step.mk session (.applyBatch clock batch now)).isReset = false := rfl
  have rebuild_eq : (Step.mk session (.applyBatch clock batch now)).isRebuild =
      (session.applyBatch clock batch now).2.isReset := rfl
  rw [keep, spared, rebuild_eq]
  cases (session.applyBatch clock batch now).2.isReset with
  | true => simp [counted]
  | false => simp [counted, foldedTotal_append]

/-- A reset leaves nothing to be counted. -/
theorem weighs_of_isReset
    {session : Session}
    {operation : Operation}
    (reset : (Step.mk session operation).isReset = true)
    (kept : List Step) :
    (session.perform operation).graph.Weighs
      (foldedTotal (keep kept ⟨session, operation⟩)) := by
  rw [Step.graph_eq_empty_of_isReset reset, keep, if_pos reset]
  exact Graph.weighs_empty

theorem weighs_applyBatch
    {session : Session}
    {kept : List Step}
    (weighs : session.graph.Weighs (foldedTotal kept))
    (clock : String)
    (batch : Batch)
    (now : UInt64) :
    (session.perform (.applyBatch clock batch now)).graph.Weighs
      (foldedTotal (keep kept ⟨session, .applyBatch clock batch now⟩)) := by
  rw [foldedTotal_keep_applyBatch, perform]
  cases mapped : session.mapping with
  | none =>
      obtain ⟨answered, agrees⟩ := applyBatch_of_unmapped mapped clock batch now
      rw [answered]
      exact weighs.of_traffic_eq agrees.traffic_eq
  | some mapping =>
      by_cases newer : session.version < batch.version
      · rw [applyBatch_eq_of_lt mapped newer, graph_notify]
        simpa using weighs.foldBatch mapping session.options batch now
      · obtain ⟨answered, agrees⟩ := applyBatch_of_le mapped newer clock now
        rw [answered]
        exact weighs.of_traffic_eq agrees.traffic_eq

/-- After every operation the event counts add up to the records that were folded since the
graph was discarded last. -/
theorem weighs_perform
    {session : Session}
    {kept : List Step}
    (weighs : session.graph.Weighs (foldedTotal kept))
    (operation : Operation) :
    (session.perform operation).graph.Weighs
      (foldedTotal (keep kept ⟨session, operation⟩)) := by
  cases operation with
  | setSource clock source =>
      by_cases reset : (Step.mk session (.setSource clock source)).isReset = true
      · exact weighs_of_isReset reset kept
      · have spared := mt (Step.isReset_iff session (.setSource clock source)).2 reset
        rw [foldedTotal_keep_of_silent rfl (Bool.eq_false_iff.2 reset),
          graph_setSource_of_not_discards spared]
        exact weighs
  | setOptions clock options =>
      by_cases reset : (Step.mk session (.setOptions clock options)).isReset = true
      · exact weighs_of_isReset reset kept
      · have spared := mt (Step.isReset_iff session (.setOptions clock options)).2 reset
        rw [foldedTotal_keep_of_silent rfl (Bool.eq_false_iff.2 reset),
          graph_setOptions_of_not_discards spared]
        exact weighs
  | applyBatch clock batch now => exact weighs_applyBatch weighs clock batch now
  | tick clock now =>
      rw [foldedTotal_keep_of_silent rfl rfl]
      exact weighs.of_traffic_eq (agrees_tick clock now session).traffic_eq
  | mergePositions clock updates =>
      rw [foldedTotal_keep_of_silent rfl rfl]
      exact weighs.of_traffic_eq (agrees_mergePositions clock updates session).traffic_eq

theorem weighs_after
    {session : Session}
    {kept : List Step}
    (weighs : session.graph.Weighs (foldedTotal kept))
    (operations : List Operation) :
    (session.after operations).graph.Weighs
      (foldedTotal ((session.steps operations).foldl keep kept)) := by
  induction operations generalizing session kept with
  | nil => exact weighs
  | cons operation operations inductionHypothesis =>
      exact inductionHypothesis (weighs_perform weighs operation)

/-! ## The reckoning -/

/-- What the counters of a session tell of its history and of its graph. -/
structure Reckons (history : List Step) (session : Session) : Prop where
  /-- Every delivered batch is counted once. -/
  batches_eq :
    session.stats.batchesApplied + session.stats.batchesStale +
        session.stats.batchesNotApplicable =
      (history.filterMap (·.operation.batch?)).length
  /-- Batches are counted as what they were answered. -/
  outcomes_eq :
    session.stats.batchesApplied = (answers history).countP BatchOutcome.isApplied ∧
      session.stats.batchesStale = (answers history).countP BatchOutcome.isStale ∧
      session.stats.batchesNotApplicable =
        (answers history).countP BatchOutcome.isNotApplicable
  /-- The folded records are those of the answers. -/
  folded_eq : session.stats.eventsFolded = sumOf BatchOutcome.folded (answers history)
  /-- The skipped records are those of the answers. -/
  skipped_eq : session.stats.eventsSkipped = sumOf BatchOutcome.skipped (answers history)
  /-- Together they are all records of the applied batches. -/
  events_eq : session.stats.eventsFolded + session.stats.eventsSkipped =
    (history.flatMap Step.appliedRecords).length
  /-- A full window is counted when the answer tells of it. -/
  fullWindows_eq :
    session.stats.fullWindowBatches = (answers history).countP BatchOutcome.isReset
  /-- Resets are counted. -/
  resets_eq : session.stats.resets = history.countP Step.isReset
  /-- Decay steps are counted. -/
  ticks_eq : session.stats.decayTicks = history.countP Step.isTick
  /-- The number of nodes is that of the graph. -/
  nodes_eq : session.stats.nodeCount = session.graph.nodes.toList.length
  /-- The number of edges is that of the graph. -/
  edges_eq : session.stats.edgeCount = session.graph.edges.toList.length
  /-- The event counts of the edges add up to the records folded since the last discard. -/
  eventTotal_eq : foldedTotal (sinceDiscard history) ≤ largestWord →
    session.graph.eventTotal = foldedTotal (sinceDiscard history)
  /-- Nothing lowers a cumulative counter. -/
  notLowered : ∀ operations, session.stats.NotLowered (session.after operations).stats

/-- Every delivered batch is answered. -/
theorem length_answers (history : List Step) :
    (answers history).length = (history.filterMap (·.operation.batch?)).length := by
  rw [answers, List.length_filterMap_eq_countP, List.length_filterMap_eq_countP]
  apply List.countP_congr
  intro step _
  cases operation_eq : step.operation with
  | _ => simp [Step.outcome?, operation_eq, Operation.batch?]

/-- Every answer is of one of three kinds. -/
theorem countP_outcomes (outcomes : List BatchOutcome) :
    outcomes.countP BatchOutcome.isApplied + outcomes.countP BatchOutcome.isStale +
        outcomes.countP BatchOutcome.isNotApplicable =
      outcomes.length := by
  induction outcomes with
  | nil => rfl
  | cons outcome outcomes inductionHypothesis =>
      rw [List.length_cons, ← inductionHypothesis]
      simp only [List.countP_cons]
      cases outcome with
      | notApplicable => rfl
      | stale version => exact Nat.add_right_comm _ 1 _
      | applied folded skipped reset =>
          simp only [BatchOutcome.isApplied, BatchOutcome.isStale,
            BatchOutcome.isNotApplicable, if_true, Bool.false_eq_true, if_false]
          omega

/-- **Reckoning.** Whatever is done with a new session, its counters are sums over the steps of
its run, and the event counts of its edges add up to the records that were folded since its
graph was discarded last. -/
theorem reckons_after
    (viewId : String)
    (options : GraphOptions)
    (operations : List Operation) :
    ((create viewId options).after operations).Reckons
      ((create viewId options).steps operations) := by
  have raised := raised_after operations (create viewId options)
  have blank : (create viewId options).graph.Weighs (foldedTotal []) := Graph.weighs_empty
  have weighs := weighs_after blank operations
  have applied_eq := raised.applied_eq.trans (Nat.zero_add _)
  have stale_eq := raised.stale_eq.trans (Nat.zero_add _)
  have notApplicable_eq := raised.notApplicable_eq.trans (Nat.zero_add _)
  have folded_eq := raised.folded_eq.trans (Nat.zero_add _)
  have skipped_eq := raised.skipped_eq.trans (Nat.zero_add _)
  refine {
    batches_eq := ?batches
    outcomes_eq := ⟨applied_eq, stale_eq, notApplicable_eq⟩
    folded_eq := folded_eq
    skipped_eq := skipped_eq
    events_eq := ?events
    fullWindows_eq := raised.fullWindows_eq.trans (Nat.zero_add _)
    resets_eq := raised.resets_eq.trans (Nat.zero_add _)
    ticks_eq := raised.ticks_eq.trans (Nat.zero_add _)
    nodes_eq := rfl
    edges_eq := rfl
    eventTotal_eq := weighs.eventTotal_eq
    notLowered := ?notLowered }
  case batches =>
    rw [← length_answers, ← countP_outcomes, ← applied_eq, ← stale_eq, ← notApplicable_eq]
    rfl
  case events =>
    rw [← length_flatMap_appliedRecords, ← folded_eq, ← skipped_eq]
    rfl
  case notLowered =>
    intro further
    obtain ⟨applied, stale, notApplicable, fullWindows, folded, skipped, resets, ticks⟩ :=
      (raised_after further ((create viewId options).after operations)).notLowered
    exact ⟨applied, stale, notApplicable, fullWindows, folded, skipped, resets, ticks⟩

end Session
end TrafficGraph
