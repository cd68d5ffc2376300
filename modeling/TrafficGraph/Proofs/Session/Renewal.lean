import TrafficGraph.Proofs.Graph.Placement
import TrafficGraph.Proofs.Session.Ledger
import TrafficGraph.Proofs.Session.Policy

/-!
# Graphs that begin anew

A full window is folded into an empty graph, and so is the first batch after a graph was
discarded.  So the graph that such a batch leaves behind is the one that it makes in a new
session with the same options and the same mapping.  Only the positions of a full window
tell what was there before, and the counters, which go on.
-/

namespace TrafficGraph

namespace Batch

/-- The records of the batch that describe a connection. -/
def described (mapping : Source.Mapping) (batch : Batch) : Nat :=
  batch.events.countP fun record => (Source.connection? mapping record).isSome

/-- The records of the batch that describe none. -/
def undescribed (mapping : Source.Mapping) (batch : Batch) : Nat :=
  batch.events.countP fun record => (Source.connection? mapping record).isNone

end Batch

namespace Session

/-! ## Folded batches -/

/-- What a batch counts does not depend on the graph. -/
theorem outcome_foldBatch
    (mapping : Source.Mapping)
    (options : GraphOptions)
    (batch : Batch)
    (now : UInt64)
    (graph : Graph) :
    (foldBatch mapping options batch now graph).2.folded = batch.described mapping ∧
      (foldBatch mapping options batch now graph).2.skipped = batch.undescribed mapping := by
  rw [foldBatch]
  cases batch.mode with
  | incremental => exact ⟨Graph.folded_fold .., Graph.skipped_fold ..⟩
  | fullWindow => exact ⟨Graph.folded_fold .., Graph.skipped_fold ..⟩

/-- Apart from positions, a full window leaves behind what it makes of the empty graph. -/
theorem foldBatch_of_fullWindow
    {batch : Batch}
    (full : batch.mode = .fullWindow)
    (mapping : Source.Mapping)
    (options : GraphOptions)
    (now : UInt64)
    (graph : Graph) :
    (foldBatch mapping options batch now graph).1.unplaced =
      (foldBatch mapping options batch now .empty).1 := by
  have blank (host : String) :
      (Graph.empty.fold mapping options.fold now batch.events).1.position? host = none := by
    rw [Graph.position?_fold, Graph.position?_empty]
  rw [foldBatch, full]
  dsimp only
  rw [Graph.unplaced_markProcessed, Graph.unplaced_mergePositions,
    Graph.unplaced_of_position?_eq_none blank, foldBatch, full]
  rfl

/-- The session after a batch was folded, and the answer. -/
theorem applyBatch_eq_of_lt
    {session : Session}
    {mapping : Source.Mapping}
    (mapped : session.mapping = some mapping)
    {batch : Batch}
    (newer : session.version < batch.version)
    (clock : String)
    (now : UInt64) :
    session.applyBatch clock batch now =
      (({ session with
          graph := (foldBatch mapping session.options batch now session.graph).1
          counters := session.counters.recordApplied (batch.described mapping)
            (batch.undescribed mapping) (batch.mode = .fullWindow) clock } : Session).notify
          clock .batchFolded,
        .applied (batch.described mapping) (batch.undescribed mapping)
          (batch.mode = .fullWindow)) := by
  have accepted : session.graph.accepts batch.version = true := decide_eq_true newer
  obtain ⟨folded_eq, skipped_eq⟩ :=
    outcome_foldBatch mapping session.options batch now session.graph
  rw [← folded_eq, ← skipped_eq]
  simp only [applyBatch, mapped, if_pos accepted]

/-- Only a batch whose version is new is folded, and only with a source. -/
theorem newer_of_applied
    {session : Session}
    {clock : String}
    {batch : Batch}
    {now : UInt64}
    {folded skipped : Nat}
    {reset : Bool}
    (applied : (session.applyBatch clock batch now).2 = .applied folded skipped reset) :
    ∃ mapping, session.mapping = some mapping ∧ session.version < batch.version := by
  cases mapped : session.mapping with
  | none =>
      rw [(applyBatch_of_unmapped mapped clock batch now).1] at applied
      cases applied
  | some mapping =>
      refine ⟨mapping, rfl, ?_⟩
      by_cases newer : session.version < batch.version
      · exact newer
      · rw [(applyBatch_of_le mapped newer clock now).1] at applied
        cases applied

/-! ## Discarded graphs -/

/-- The operation discards the graph: it puts another mapping in place of one, or gives
usable options with another port threshold. -/
def Discards (session : Session) : Operation → Prop
  | .setSource _ source =>
    session.mapping ≠ none ∧ session.mapping ≠ (Source.inspect source).fields
  | .setOptions _ options =>
    options.validate = .ok () ∧ session.options.portThreshold ≠ options.portThreshold
  | _ => False

theorem Discards.graph_eq
    {session : Session}
    {operation : Operation}
    (discards : session.Discards operation) :
    (session.perform operation).graph = .empty := by
  cases operation with
  | setSource clock source =>
      obtain ⟨mapped, different⟩ := discards
      rcases graph_setSource clock source session with
        ⟨same, _⟩ | ⟨unmapped, _⟩ | ⟨_, _, graph_eq⟩
      · exact absurd same different
      · exact absurd unmapped mapped
      · exact graph_eq
  | setOptions clock options =>
      rw [perform_setOptions_of_ne discards.1 discards.2]
      rfl
  | applyBatch clock batch now => exact discards.elim
  | tick clock now => exact discards.elim
  | mergePositions clock updates => exact discards.elim

/-! ## New sessions -/

/-- A new session with the options and the mapping of another one. -/
structure Renews (new session : Session) : Prop where
  /-- It was opened with the options and given a source. -/
  begun : ∃ viewId clock source opened,
    create? viewId session.options = .ok opened ∧ new = (opened.setSource clock source).1
  /-- The source has the mapping. -/
  mapping_eq : new.mapping = session.mapping

namespace Renews

variable {new session : Session}

theorem options_eq (renews : new.Renews session) : new.options = session.options := by
  obtain ⟨viewId, clock, source, opened, isOpened, rfl⟩ := renews.begun
  rw [options_setSource, (create?_eq_ok_iff.1 isOpened).2]
  rfl

theorem graph_eq (renews : new.Renews session) : new.graph = .empty := by
  obtain ⟨viewId, clock, source, opened, isOpened, rfl⟩ := renews.begun
  have blank : opened.graph = .empty := by
    rw [(create?_eq_ok_iff.1 isOpened).2]
    rfl
  rcases graph_setSource clock source opened with
    ⟨_, kept⟩ | ⟨_, _, kept⟩ | ⟨_, _, discarded⟩
  · exact kept.trans blank
  · exact kept.trans blank
  · exact discarded

end Renews

/-- An operation changes the mapping only if it declares a source. -/
theorem mapping_perform
    (operation : Operation)
    (session : Session) :
    (∃ source, (session.perform operation).mapping = (Source.inspect source).fields) ∨
      (session.perform operation).mapping = session.mapping := by
  cases operation with
  | setSource clock source => exact Or.inl ⟨source, mapping_setSource clock source session⟩
  | setOptions clock options =>
      apply Or.inr
      cases usable : options.validate with
      | error fault => rw [perform_setOptions_of_error usable]
      | ok _ =>
          by_cases same : session.options.portThreshold = options.portThreshold
          · rw [perform_setOptions_of_eq usable same]
          · rw [perform_setOptions_of_ne usable same]
            rfl
  | applyBatch clock batch now =>
      apply Or.inr
      cases mapped : session.mapping with
      | none =>
          exact (applyBatch_of_unmapped mapped clock batch now).2.mapping_eq.trans mapped
      | some mapping =>
          by_cases newer : session.version < batch.version
          · rw [perform, applyBatch_eq_of_lt mapped newer]
            exact mapped
          · exact (applyBatch_of_le mapped newer clock now).2.mapping_eq.trans mapped
  | tick clock now => exact Or.inr (agrees_tick clock now session).mapping_eq
  | mergePositions clock updates =>
      exact Or.inr (agrees_mergePositions clock updates session).mapping_eq

/-- Every mapping comes from a source. -/
theorem exists_source_after
    {session : Session}
    (given : ∃ source, session.mapping = (Source.inspect source).fields)
    (operations : List Operation) :
    ∃ source, (session.after operations).mapping = (Source.inspect source).fields := by
  induction operations generalizing session with
  | nil => exact given
  | cons operation operations inductionHypothesis =>
      apply inductionHypothesis
      rcases mapping_perform operation session with declared | kept
      · exact declared
      · rw [kept]
        exact given

/-! ## Renewal -/

/-- What a folded batch leaves of a session apart from its graph. -/
structure Carries
    (clock : String)
    (batch : Batch)
    (mapping : Source.Mapping)
    (session later : Session) : Prop where
  /-- The identity stays. -/
  viewId_eq : later.viewId = session.viewId
  /-- The mapping stays. -/
  mapping_eq : later.mapping = session.mapping
  /-- The options stay. -/
  options_eq : later.options = session.options
  /-- The counters go on by this batch. -/
  counters_eq : later.counters = { session.counters with
    batchesApplied := session.counters.batchesApplied + 1
    fullWindowBatches :=
      session.counters.fullWindowBatches + if batch.mode = .fullWindow then 1 else 0
    eventsFolded := session.counters.eventsFolded + batch.described mapping
    eventsSkipped := session.counters.eventsSkipped + batch.undescribed mapping
    lastBatchAt := some clock }

/-- The graph of a session can be made anew: what was before it does not show. -/
structure Renewable (session : Session) : Prop where
  /-- There are new sessions like this one. -/
  exists_new : ∃ new : Session, new.Renews session
  /-- A full window makes the graph that it makes in a new session, apart from positions. -/
  fullWindow : ∀ clock newClock batch now folded skipped reset, batch.mode = .fullWindow →
    (session.applyBatch clock batch now).2 = .applied folded skipped reset →
      ∀ new : Session, new.Renews session →
        (new.applyBatch newClock batch now).2 = .applied folded skipped reset ∧
          (session.applyBatch clock batch now).1.graph.unplaced =
            (new.applyBatch newClock batch now).1.graph
  /-- After the graph was discarded, every batch makes the graph that it makes in a new
  session. -/
  discarded : ∀ operation, session.Discards operation →
    ∀ clock newClock batch now folded skipped reset,
      ((session.perform operation).applyBatch clock batch now).2 =
          .applied folded skipped reset →
        ∀ new : Session, new.Renews (session.perform operation) →
          (new.applyBatch newClock batch now).2 = .applied folded skipped reset ∧
            ((session.perform operation).applyBatch clock batch now).1.graph =
              (new.applyBatch newClock batch now).1.graph
  /-- A batch that is folded changes nothing else but the counters. -/
  carries : ∀ clock batch now folded skipped reset,
    (session.applyBatch clock batch now).2 = .applied folded skipped reset →
      ∃ mapping, session.mapping = some mapping ∧
        session.Carries clock batch mapping (session.applyBatch clock batch now).1

/-- A full window that is folded by a session is folded by a new one as well, into the
same graph apart from positions. -/
theorem Renews.fullWindow
    {new session : Session}
    (renews : new.Renews session)
    {mapping : Source.Mapping}
    (mapped : session.mapping = some mapping)
    {batch : Batch}
    (full : batch.mode = .fullWindow)
    (processed : Graph.unprocessedVersion ≤ session.version)
    (newer : session.version < batch.version)
    (clock newClock : String)
    (now : UInt64) :
    (new.applyBatch newClock batch now).2 = (session.applyBatch clock batch now).2 ∧
      (session.applyBatch clock batch now).1.graph.unplaced =
        (new.applyBatch newClock batch now).1.graph := by
  have newlyMapped : new.mapping = some mapping := renews.mapping_eq.trans mapped
  have alsoNewer : new.version < batch.version := by
    rw [version, renews.graph_eq]
    exact Int64.lt_of_le_of_lt processed newer
  rw [applyBatch_eq_of_lt mapped newer, applyBatch_eq_of_lt newlyMapped alsoNewer]
  refine ⟨rfl, ?_⟩
  rw [graph_notify, graph_notify, foldBatch_of_fullWindow full, renews.graph_eq,
    renews.options_eq]

/-- Without a graph, every batch does to a session what it does to a new one. -/
theorem Renews.applyBatch_eq
    {new session : Session}
    (renews : new.Renews session)
    (blank : session.graph = .empty)
    (clock newClock : String)
    (batch : Batch)
    (now : UInt64) :
    (new.applyBatch newClock batch now).2 = (session.applyBatch clock batch now).2 ∧
      (session.applyBatch clock batch now).1.graph =
        (new.applyBatch newClock batch now).1.graph := by
  have graph_eq := renews.graph_eq.trans blank.symm
  simp only [applyBatch, renews.mapping_eq, renews.options_eq, graph_eq]
  cases session.mapping with
  | none => exact ⟨rfl, rfl⟩
  | some mapping =>
      dsimp only
      split
      · exact ⟨rfl, rfl⟩
      · exact ⟨rfl, rfl⟩

/-- **History independence.** Whatever was done with a session that was opened with usable
options, a full window makes of its graph what it makes of that of a new session, apart
from positions, and so does any batch after the graph was discarded, positions included.
Options, mapping and counters are carried over. -/
theorem renewable_after
    {viewId : String}
    {options : GraphOptions}
    {session : Session}
    (opened : create? viewId options = .ok session)
    (operations : List Operation) :
    (session.after operations).Renewable := by
  obtain ⟨usable, rfl⟩ := create?_eq_ok_iff.1 opened
  have stillUsable : ((create viewId options).after operations).options.validate = .ok () :=
    validate_after usable operations
  have given : ∃ source, (create viewId options).mapping = (Source.inspect source).fields :=
    ⟨⟨"", []⟩, rfl⟩
  obtain ⟨source, mapping_eq⟩ := exists_source_after given operations
  have accounts := (Ledger.accounts_create viewId options).after operations
  have processed := accounts.wellFormed.unprocessed_le
  rw [← accounts.version_eq] at processed
  generalize (create viewId options).after operations = reached at *
  refine {
    exists_new := ?new
    fullWindow := ?fullWindow
    discarded := ?discarded
    carries := ?carries }
  case new =>
    refine ⟨((create "" reached.options).setSource "" source).1, ?_, ?_⟩
    · exact ⟨"", "", source, _, create?_eq_ok_iff.2 ⟨stillUsable, rfl⟩, rfl⟩
    · rw [mapping_setSource, mapping_eq]
  case fullWindow =>
    intro clock newClock batch now folded skipped reset full applied new renews
    obtain ⟨mapping, mapped, newer⟩ := newer_of_applied applied
    rw [← applied]
    exact renews.fullWindow mapped full processed newer clock newClock now
  case discarded =>
    intro operation discards clock newClock batch now folded skipped reset applied new renews
    rw [← applied]
    exact renews.applyBatch_eq discards.graph_eq clock newClock batch now
  case carries =>
    intro clock batch now folded skipped reset applied
    obtain ⟨mapping, mapped, newer⟩ := newer_of_applied applied
    refine ⟨mapping, mapped, ?_⟩
    rw [applyBatch_eq_of_lt mapped newer]
    exact ⟨rfl, rfl, rfl, by simp [notify, Stats.recordApplied]⟩

/-- A connection that the standard options leave as it is. -/
def visit : Record :=
  .ofMembers [("src", .string "::1"), ("dst", .string "db")]

/-- The connection is delivered and fades. -/
def visited : List Operation :=
  [.setSource "" (.ofRecord visit),
    .applyBatch "" { version := 1, mode := .incremental, events := [visit] } 0,
    .tick "" 9000]

/-- The connection is among those that the source still holds, twice. -/
def revisit : Batch where
  version := 2
  mode := .fullWindow
  events := [visit, visit]

/-- The full window that follows is folded, and shows nothing of what was before. -/
theorem renewable_after_visited :
    create? "view" .standard = .ok (create "view" .standard) ∧
      (((create "view" .standard).after visited).applyBatch "" revisit 9500).2 =
        .applied 2 0 true ∧
      ((create "view" .standard).after visited).Renewable := by
  have opened : create? "view" .standard = .ok (create "view" .standard) := by rfl
  have accounts := (Ledger.accounts_create "view" .standard).after visited
  have mapped : ((create "view" .standard).after visited).mapping =
      Source.mapping? (.ofRecord visit) := accounts.mapping_eq
  have newer : ((create "view" .standard).after visited).version < revisit.version := by
    rw [accounts.version_eq]
    decide
  have answered := congrArg Prod.snd (applyBatch_eq_of_lt mapped newer "" 9500)
  exact ⟨opened, answered.trans rfl, renewable_after opened visited⟩

end Session
end TrafficGraph
