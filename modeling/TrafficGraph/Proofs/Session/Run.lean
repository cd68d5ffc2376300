import TrafficGraph.Proofs.Graph.Traffic
import TrafficGraph.Session.Basic

/-!
# Runs of a session

A run is a sequence of operations on one session.  Of each operation this module
says what becomes of the mapping, the port threshold, the version and the traffic
of the graph: a new mapping in place of another one and a new port threshold
discard the graph, a batch whose version is new is folded, and everything else
leaves the four as they are.
-/

namespace TrafficGraph
namespace Traffic

/-- The traffic after a batch goes on from the traffic before it, and after a full
window from nothing. -/
def deliver (mapping : Source.Mapping) (threshold : UInt16) (batch : Batch)
    (traffic : Traffic) : Traffic :=
  (batch.events.filterMap (Source.connection? mapping)).foldl (observe threshold)
    (match batch.mode with
      | .incremental => traffic
      | .fullWindow => .empty)

/-- An increment adds its records to those of the traffic. -/
theorem deliver_of_incremental
    {batch : Batch}
    (mode_eq : batch.mode = .incremental)
    (mapping : Source.Mapping)
    (threshold : UInt16)
    (records : List Record) :
    (ofRecords mapping threshold records).deliver mapping threshold batch =
      ofRecords mapping threshold (records ++ batch.events) := by
  rw [deliver, mode_eq, ofRecords_append]

/-- A full window puts its records in place of those of the traffic. -/
theorem deliver_of_fullWindow
    {batch : Batch}
    (mode_eq : batch.mode = .fullWindow)
    (mapping : Source.Mapping)
    (threshold : UInt16)
    (traffic : Traffic) :
    traffic.deliver mapping threshold batch = ofRecords mapping threshold batch.events := by
  rw [deliver, mode_eq, ofRecords]

end Traffic

namespace Session

/-- What can be done with a session. -/
inductive Operation
  /-- A source is declared. -/
  | setSource (clock : String) (source : Source.Description)
  /-- Other options are given. -/
  | setOptions (clock : String) (options : GraphOptions)
  /-- A batch is delivered. -/
  | applyBatch (clock : String) (batch : Batch) (now : UInt64)
  /-- Stale entries are demoted. -/
  | tick (clock : String) (now : UInt64)
  /-- Nodes are given positions. -/
  | mergePositions (clock : String) (updates : List PositionUpdate)

/-- The batch that an operation delivers. -/
def Operation.batch? : Operation → Option Batch
  | .applyBatch _ batch _ => some batch
  | _ => none

/-- The session after an operation; refused options leave it as it is. -/
def perform (session : Session) : Operation → Session
  | .setSource clock source => (session.setSource clock source).1
  | .setOptions clock options =>
    match session.setOptions clock options with
    | .ok (after, _) => after
    | .error _ => session
  | .applyBatch clock batch now => (session.applyBatch clock batch now).1
  | .tick clock now => (session.tick clock now).1
  | .mergePositions clock updates => (session.mergePositions clock updates).1

/-- The session after a run. -/
def after (operations : List Operation) (session : Session) : Session :=
  operations.foldl perform session

@[simp] theorem options_notify (clock : String) (kind : ChangeKind) (session : Session) :
    (session.notify clock kind).options = session.options := rfl

@[simp] theorem graph_notify (clock : String) (kind : ChangeKind) (session : Session) :
    (session.notify clock kind).graph = session.graph := rfl

/-! ## Sources and options -/

theorem mapping_setSource
    (clock : String)
    (source : Source.Description)
    (session : Session) :
    (session.setSource clock source).1.mapping = (Source.inspect source).fields := by
  unfold setSource
  by_cases same : session.mapping = (Source.inspect source).fields
  · rw [if_pos same]
    exact same
  · rw [if_neg same]
    rfl

theorem options_setSource
    (clock : String)
    (source : Source.Description)
    (session : Session) :
    (session.setSource clock source).1.options = session.options := by
  unfold setSource
  by_cases same : session.mapping = (Source.inspect source).fields
  · rw [if_pos same]
  · rw [if_neg same]
    by_cases mapped : session.hasSource = true
    · rw [if_pos mapped]
      rfl
    · rw [if_neg mapped]
      simp only [options_notify]

/-- The graph stays as it is if the mapping is the same or the first one; a mapping
in place of another one discards it. -/
theorem graph_setSource
    (clock : String)
    (source : Source.Description)
    (session : Session) :
    (session.mapping = (Source.inspect source).fields ∧
        (session.setSource clock source).1.graph = session.graph) ∨
      (session.mapping = none ∧ session.mapping ≠ (Source.inspect source).fields ∧
        (session.setSource clock source).1.graph = session.graph) ∨
      (session.mapping ≠ none ∧ session.mapping ≠ (Source.inspect source).fields ∧
        (session.setSource clock source).1.graph = .empty) := by
  unfold setSource
  by_cases same : session.mapping = (Source.inspect source).fields
  · rw [if_pos same]
    exact Or.inl ⟨same, rfl⟩
  · rw [if_neg same, hasSource]
    cases mapped : session.mapping with
    | none =>
        rw [mapped] at same
        simp only [Option.isSome_none, Bool.false_eq_true, if_false, graph_notify]
        exact Or.inr (Or.inl ⟨trivial, same, trivial⟩)
    | some mapping =>
        rw [mapped] at same
        simp only [Option.isSome_some, if_true, graph_notify, reset]
        exact Or.inr (Or.inr ⟨by simp, same, trivial⟩)

theorem perform_setOptions_of_error
    {options : GraphOptions}
    {fault : OptionsError}
    (refused : options.validate = .error fault)
    (clock : String)
    (session : Session) :
    session.perform (.setOptions clock options) = session := by
  simp [perform, setOptions, refused, bind, Except.bind]

/-- Options with the same port threshold leave mapping and graph as they are. -/
theorem perform_setOptions_of_eq
    {options : GraphOptions}
    (usable : options.validate = .ok ())
    {session : Session}
    (same : session.options.portThreshold = options.portThreshold)
    (clock : String) :
    session.perform (.setOptions clock options) = { session with options } := by
  simp [perform, setOptions, usable, same, bind, Except.bind, pure, Except.pure]

/-- Options with another port threshold discard the graph. -/
theorem perform_setOptions_of_ne
    {options : GraphOptions}
    (usable : options.validate = .ok ())
    {session : Session}
    (different : session.options.portThreshold ≠ options.portThreshold)
    (clock : String) :
    session.perform (.setOptions clock options) =
      ({ session.reset with options } : Session).notify clock .reset := by
  simp [perform, setOptions, usable, different, bind, Except.bind, pure, Except.pure]

/-! ## Batches -/

@[simp] theorem threshold_fold (options : GraphOptions) :
    options.fold.portThreshold = options.portThreshold := rfl

/-- The traffic after a batch depends on the traffic before it. -/
theorem traffic_foldBatch
    (mapping : Source.Mapping)
    (options : GraphOptions)
    (batch : Batch)
    (now : UInt64)
    (graph : Graph) :
    (foldBatch mapping options batch now graph).1.traffic =
      graph.traffic.deliver mapping options.portThreshold batch := by
  rw [foldBatch, Traffic.deliver]
  cases batch.mode with
  | incremental =>
      simp only [Graph.traffic_markProcessed, Graph.traffic_fold, threshold_fold]
  | fullWindow =>
      simp only [Graph.traffic_markProcessed, Graph.traffic_mergePositions, Graph.traffic_fold,
        Graph.traffic_empty, threshold_fold]

/-- A batch whose version is new leaves its version behind, also if it is a full
window and empties the graph first. -/
theorem version_foldBatch
    (mapping : Source.Mapping)
    (options : GraphOptions)
    {batch : Batch}
    (now : UInt64)
    {graph : Graph}
    (processed : Graph.unprocessedVersion ≤ graph.version)
    (accepted : graph.version < batch.version) :
    (foldBatch mapping options batch now graph).1.version = batch.version := by
  rw [foldBatch]
  cases batch.mode with
  | incremental =>
      apply Graph.version_markProcessed
      rw [Graph.version_fold]
      exact accepted
  | fullWindow =>
      apply Graph.version_markProcessed
      rw [Graph.version_mergePositions, Graph.version_fold]
      exact Int64.lt_of_le_of_lt processed accepted

/-- Two sessions agree if they have the same mapping, port threshold, version and
traffic. -/
structure Agrees (first second : Session) : Prop where
  /-- The mappings are the same. -/
  mapping_eq : first.mapping = second.mapping
  /-- The port thresholds are the same. -/
  threshold_eq : first.options.portThreshold = second.options.portThreshold
  /-- The versions are the same. -/
  version_eq : first.version = second.version
  /-- The traffic is the same. -/
  traffic_eq : first.graph.traffic = second.graph.traffic

theorem Agrees.refl (session : Session) : session.Agrees session :=
  ⟨rfl, rfl, rfl, rfl⟩

/-- Sessions with the same terms and the same graph agree. -/
theorem agrees_of_graph_eq
    {first second : Session}
    (mapping_eq : first.mapping = second.mapping)
    (threshold_eq : first.options.portThreshold = second.options.portThreshold)
    (graph_eq : first.graph = second.graph) :
    first.Agrees second :=
  ⟨mapping_eq, threshold_eq, congrArg Graph.version graph_eq, congrArg Graph.traffic graph_eq⟩

/-- A session is blank if its graph has processed no batch and shows nothing. -/
structure Blank (session : Session) : Prop where
  /-- No batch was processed. -/
  version_eq : session.version = Graph.unprocessedVersion
  /-- There is no traffic. -/
  traffic_eq : session.graph.traffic = .empty

theorem blank_of_graph_eq
    {session : Session}
    (graph_eq : session.graph = .empty) :
    session.Blank := by
  refine ⟨?_, ?_⟩
  · rw [version, graph_eq]
    rfl
  · rw [graph_eq, Graph.traffic_empty]

theorem Blank.of_graph_eq
    {first second : Session}
    (blank : second.Blank)
    (graph_eq : first.graph = second.graph) :
    first.Blank :=
  ⟨(congrArg Graph.version graph_eq).trans blank.version_eq,
    (congrArg Graph.traffic graph_eq).trans blank.traffic_eq⟩

theorem Blank.of_agrees
    {first second : Session}
    (blank : second.Blank)
    (agrees : first.Agrees second) :
    first.Blank :=
  ⟨agrees.version_eq.trans blank.version_eq, agrees.traffic_eq.trans blank.traffic_eq⟩

/-- Without a source no batch is applicable. -/
theorem applyBatch_of_unmapped
    {session : Session}
    (unmapped : session.mapping = none)
    (clock : String)
    (batch : Batch)
    (now : UInt64) :
    (session.applyBatch clock batch now).2 = .notApplicable ∧
      (session.applyBatch clock batch now).1.Agrees session := by
  rw [applyBatch, unmapped]
  exact ⟨rfl, unmapped.symm, rfl, rfl, rfl⟩

/-- A batch whose version is not new is stale. -/
theorem applyBatch_of_le
    {session : Session}
    {mapping : Source.Mapping}
    (mapped : session.mapping = some mapping)
    {batch : Batch}
    (old : ¬session.version < batch.version)
    (clock : String)
    (now : UInt64) :
    (session.applyBatch clock batch now).2 = .stale session.version ∧
      (session.applyBatch clock batch now).1.Agrees session := by
  have refused : ¬session.graph.accepts batch.version = true := by
    rw [Graph.accepts, decide_eq_true_iff]
    exact old
  rw [applyBatch, mapped]
  simp only [refused]
  exact ⟨rfl, mapped.symm, rfl, rfl, rfl⟩

/-- A batch whose version is new is folded. -/
theorem applyBatch_of_lt
    {session : Session}
    {mapping : Source.Mapping}
    (mapped : session.mapping = some mapping)
    {batch : Batch}
    (new : session.version < batch.version)
    (clock : String)
    (now : UInt64) :
    (∃ folded skipped, (session.applyBatch clock batch now).2 =
        .applied folded skipped (batch.mode = .fullWindow)) ∧
      (session.applyBatch clock batch now).1.mapping = session.mapping ∧
      (session.applyBatch clock batch now).1.options = session.options ∧
      (session.applyBatch clock batch now).1.graph =
        (foldBatch mapping session.options batch now session.graph).1 := by
  have accepted : session.graph.accepts batch.version = true := by
    rw [Graph.accepts, decide_eq_true_iff]
    exact new
  rw [applyBatch, mapped]
  simp only [accepted, if_true]
  exact ⟨⟨_, _, rfl⟩, rfl, rfl, rfl⟩

/-! ## Ticks and positions -/

theorem agrees_tick
    (clock : String)
    (now : UInt64)
    (session : Session) :
    (session.tick clock now).1.Agrees session := by
  have traffic_eq := Graph.traffic_decayed session.options.thresholds now session.graph
  unfold tick
  dsimp only
  split
  · exact ⟨rfl, rfl, rfl, traffic_eq⟩
  · exact ⟨rfl, rfl, rfl, traffic_eq⟩

theorem agrees_mergePositions
    (clock : String)
    (updates : List PositionUpdate)
    (session : Session) :
    (session.mergePositions clock updates).1.Agrees session := by
  have version_eq := Graph.version_mergePositions session.graph updates
  have traffic_eq := Graph.traffic_mergePositions session.graph updates
  unfold mergePositions
  dsimp only
  split
  · exact ⟨rfl, rfl, version_eq, traffic_eq⟩
  · exact ⟨rfl, rfl, version_eq, traffic_eq⟩

end Session
end TrafficGraph
