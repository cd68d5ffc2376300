import TrafficGraph.Proofs.Session.Run

/-!
# The ledger of a session

A ledger is kept of a run: the mapping, the port threshold and the batches that
were accepted since the last reset.  It knows nothing of graphs.  A batch is
accepted if there is a source and its version is newer than those of all accepted
batches.  The ledger tells what a session answers to the next batch, which
version it is at, and the records of which its graph is one fold.
-/

namespace TrafficGraph

/-- What is kept of the run of a session. -/
structure Ledger where
  /-- The mapping of the last declared source. -/
  mapping : Option Source.Mapping
  /-- The port threshold of the last usable options. -/
  portThreshold : UInt16
  /-- The batches accepted since the last reset, oldest first. -/
  accepted : List Batch

namespace Ledger

/-- The ledger of a run without operations. -/
def opened (options : GraphOptions) : Ledger := ⟨none, options.portThreshold, []⟩

/-- A batch is accepted if there is a source and its version is newer than that of
a graph without batches and than those of the accepted batches. -/
def Accepts (batch : Batch) (ledger : Ledger) : Prop :=
  ledger.mapping.isSome ∧ Graph.unprocessedVersion < batch.version ∧
    ∀ earlier ∈ ledger.accepted, earlier.version < batch.version

instance (batch : Batch) (ledger : Ledger) : Decidable (ledger.Accepts batch) :=
  inferInstanceAs (Decidable (_ ∧ _ ∧ _))

/-- The ledger after a batch was accepted. -/
def accept (batch : Batch) (ledger : Ledger) : Ledger :=
  { ledger with accepted := ledger.accepted ++ [batch] }

/-- The ledger after one more operation.  It is reset by a mapping in place of
another one and by usable options with another port threshold. -/
def note (ledger : Ledger) : Session.Operation → Ledger
  | .setSource _ source =>
    let mapping := (Source.inspect source).fields
    if ledger.mapping.isSome ∧ ledger.mapping ≠ mapping then
      { ledger with mapping, accepted := [] }
    else { ledger with mapping }
  | .setOptions _ options =>
    match options.validate with
    | .ok () =>
      if ledger.portThreshold ≠ options.portThreshold then
        { ledger with portThreshold := options.portThreshold, accepted := [] }
      else ledger
    | .error _ => ledger
  | .applyBatch _ batch _ =>
    if ledger.Accepts batch then ledger.accept batch else ledger
  | .tick _ _ => ledger
  | .mergePositions _ _ => ledger

/-- The ledger after a run. -/
def after (operations : List Session.Operation) (ledger : Ledger) : Ledger :=
  operations.foldl note ledger

/-- The version of the last accepted batch since the last reset. -/
def lastVersion (ledger : Ledger) : Int64 :=
  match ledger.accepted.getLast? with
  | some batch => batch.version
  | none => Graph.unprocessedVersion

@[simp] theorem lastVersion_accept (batch : Batch) (ledger : Ledger) :
    (ledger.accept batch).lastVersion = batch.version := by
  simp [lastVersion, accept]

/-- The batches from the last full window on; without one these are all. -/
def standing (batches : List Batch) : List Batch :=
  batches.foldl (fun kept batch =>
    match batch.mode with
    | .incremental => kept ++ [batch]
    | .fullWindow => [batch]) []

/-- The records accepted since the last discard point, oldest first. -/
def records (ledger : Ledger) : List Record :=
  (standing ledger.accepted).flatMap Batch.events

/-- A further batch stands behind the others or, with a full window, alone. -/
theorem standing_append
    (batches : List Batch)
    (batch : Batch) :
    standing (batches ++ [batch]) =
      match batch.mode with
      | .incremental => standing batches ++ [batch]
      | .fullWindow => [batch] := by
  rw [standing, List.foldl_append]
  rfl

/-- The traffic of the records, of which there is none without a source. -/
def traffic (ledger : Ledger) : Traffic :=
  match ledger.mapping with
  | some mapping => .ofRecords mapping ledger.portThreshold ledger.records
  | none => .empty

/-- Only sources let batches in, and the versions of those that came in grow up to
the last one. -/
structure WellFormed (ledger : Ledger) : Prop where
  /-- Without a source nothing is accepted. -/
  accepted_eq : ledger.mapping = none → ledger.accepted = []
  /-- Accepted versions are processed versions. -/
  processed : ∀ batch ∈ ledger.accepted, Graph.unprocessedVersion < batch.version
  /-- The last accepted version is the newest. -/
  version_le : ∀ batch ∈ ledger.accepted, batch.version ≤ ledger.lastVersion

namespace WellFormed

variable {ledger : Ledger}

theorem of_nil (blank : ledger.accepted = []) : ledger.WellFormed := by
  refine ⟨fun _ => blank, ?_, ?_⟩
  · simp [blank]
  · simp [blank]

/-- No last version lies before that of a graph without batches. -/
theorem unprocessed_le (wellFormed : ledger.WellFormed) :
    Graph.unprocessedVersion ≤ ledger.lastVersion := by
  unfold lastVersion
  split
  · next batch last =>
    exact Int64.le_of_lt (wellFormed.processed batch (List.mem_of_getLast? last))
  · exact Int64.le_refl _

/-- With a source, exactly the batches newer than the last one are accepted. -/
theorem accepts_iff
    (wellFormed : ledger.WellFormed)
    {batch : Batch} :
    ledger.Accepts batch ↔ ledger.mapping.isSome ∧ ledger.lastVersion < batch.version := by
  constructor
  · rintro ⟨mapped, processed, newer⟩
    refine ⟨mapped, ?_⟩
    unfold lastVersion
    split
    · next last found => exact newer last (List.mem_of_getLast? found)
    · exact processed
  · rintro ⟨mapped, newer⟩
    refine ⟨mapped, Int64.lt_of_le_of_lt wellFormed.unprocessed_le newer, ?_⟩
    intro earlier accepted
    exact Int64.lt_of_le_of_lt (wellFormed.version_le earlier accepted) newer

/-- An accepted batch keeps a ledger well-formed. -/
theorem accept
    (wellFormed : ledger.WellFormed)
    {batch : Batch}
    (accepted : ledger.Accepts batch) :
    (ledger.accept batch).WellFormed := by
  obtain ⟨mapped, processed, newer⟩ := accepted
  refine ⟨?_, ?_, ?_⟩
  · intro unmapped
    simp only [Ledger.accept] at unmapped
    simp [unmapped] at mapped
  · intro other listed
    rcases List.mem_append.1 listed with earlier | last
    · exact wellFormed.processed other earlier
    · rw [List.mem_singleton.1 last]
      exact processed
  · intro other listed
    rw [lastVersion_accept]
    rcases List.mem_append.1 listed with earlier | last
    · exact Int64.le_of_lt (newer other earlier)
    · rw [List.mem_singleton.1 last]
      exact Int64.le_refl _

end WellFormed

/-- A session stands as a ledger has it. -/
structure Accounts (ledger : Ledger) (session : Session) : Prop where
  /-- The mappings are the same. -/
  mapping_eq : session.mapping = ledger.mapping
  /-- The port thresholds are the same. -/
  threshold_eq : session.options.portThreshold = ledger.portThreshold
  /-- The version is the last accepted one. -/
  version_eq : session.version = ledger.lastVersion
  /-- The traffic is that of the accepted records. -/
  traffic_eq : session.graph.traffic = ledger.traffic
  /-- The ledger is well-formed. -/
  wellFormed : ledger.WellFormed

theorem traffic_of_nil
    {ledger : Ledger}
    (blank : ledger.accepted = []) :
    ledger.traffic = .empty := by
  rw [traffic, records, blank]
  cases ledger.mapping with
  | none => rfl
  | some mapping => rfl

theorem lastVersion_of_nil
    {ledger : Ledger}
    (blank : ledger.accepted = []) :
    ledger.lastVersion = Graph.unprocessedVersion := by
  rw [lastVersion, blank]
  rfl

/-- The traffic of a ledger after an accepted batch is what the batch makes of the
traffic before it. -/
theorem traffic_accept
    {ledger : Ledger}
    {mapping : Source.Mapping}
    (mapped : ledger.mapping = some mapping)
    (batch : Batch) :
    (ledger.accept batch).traffic =
      ledger.traffic.deliver mapping ledger.portThreshold batch := by
  simp only [traffic, records, accept, mapped, standing_append]
  cases mode_eq : batch.mode with
  | incremental =>
      rw [Traffic.deliver_of_incremental mode_eq, List.flatMap_append, List.flatMap_singleton]
  | fullWindow =>
      rw [Traffic.deliver_of_fullWindow mode_eq, List.flatMap_singleton]

/-- A blank session stands as a ledger without batches has it. -/
theorem accounts_of_blank
    {ledger : Ledger}
    {session : Session}
    (mapping_eq : session.mapping = ledger.mapping)
    (threshold_eq : session.options.portThreshold = ledger.portThreshold)
    (blank : session.Blank)
    (empty : ledger.accepted = []) :
    ledger.Accounts session :=
  ⟨mapping_eq, threshold_eq,
    blank.version_eq.trans (lastVersion_of_nil empty).symm,
    blank.traffic_eq.trans (traffic_of_nil empty).symm,
    .of_nil empty⟩

/-- A new session stands as a new ledger has it. -/
theorem accounts_create
    (viewId : String)
    (options : GraphOptions) :
    (opened options).Accounts (Session.create viewId options) :=
  accounts_of_blank rfl rfl (Session.blank_of_graph_eq rfl) rfl

namespace Accounts

variable {ledger : Ledger} {session : Session}

theorem of_agrees
    (accounts : ledger.Accounts session)
    {later : Session}
    (agrees : later.Agrees session) :
    ledger.Accounts later :=
  ⟨agrees.mapping_eq.trans accounts.mapping_eq,
    agrees.threshold_eq.trans accounts.threshold_eq,
    agrees.version_eq.trans accounts.version_eq,
    agrees.traffic_eq.trans accounts.traffic_eq,
    accounts.wellFormed⟩

/-- A session stands as a ledger without batches has it only if it is blank. -/
theorem blank_of_nil
    (accounts : ledger.Accounts session)
    (empty : ledger.accepted = []) :
    session.Blank :=
  ⟨accounts.version_eq.trans (lastVersion_of_nil empty),
    accounts.traffic_eq.trans (traffic_of_nil empty)⟩

theorem setSource
    (accounts : ledger.Accounts session)
    (clock : String)
    (source : Source.Description) :
    (ledger.note (.setSource clock source)).Accounts
      (session.perform (.setSource clock source)) := by
  have mapping_eq := Session.mapping_setSource clock source session
  have threshold_eq : (session.setSource clock source).1.options.portThreshold =
      ledger.portThreshold := by
    rw [Session.options_setSource, accounts.threshold_eq]
  have graph_eq := Session.graph_setSource clock source session
  rw [accounts.mapping_eq] at graph_eq
  simp only [Session.perform, note]
  rcases graph_eq with ⟨same, graph_eq⟩ | ⟨unmapped, _, graph_eq⟩ | ⟨mapped, different, graph_eq⟩
  · rw [if_neg fun replaced => replaced.2 same]
    rw [← same] at mapping_eq ⊢
    exact accounts.of_agrees (Session.agrees_of_graph_eq
      (mapping_eq.trans accounts.mapping_eq.symm)
      (threshold_eq.trans accounts.threshold_eq.symm) graph_eq)
  · rw [if_neg (by simp [unmapped])]
    have empty := accounts.wellFormed.accepted_eq unmapped
    have blank := (accounts.blank_of_nil empty).of_graph_eq graph_eq
    exact accounts_of_blank mapping_eq threshold_eq blank empty
  · rw [if_pos ⟨Option.isSome_iff_ne_none.2 mapped, different⟩]
    exact accounts_of_blank mapping_eq threshold_eq (Session.blank_of_graph_eq graph_eq) rfl

theorem setOptions
    (accounts : ledger.Accounts session)
    (clock : String)
    (options : GraphOptions) :
    (ledger.note (.setOptions clock options)).Accounts
      (session.perform (.setOptions clock options)) := by
  rw [note]
  cases usable : options.validate with
  | error fault =>
      rw [Session.perform_setOptions_of_error usable]
      exact accounts
  | ok _ =>
      by_cases same : session.options.portThreshold = options.portThreshold
      · rw [Session.perform_setOptions_of_eq usable same,
          if_neg (by rw [← accounts.threshold_eq]; simpa using same)]
        exact ⟨accounts.mapping_eq, same.symm.trans accounts.threshold_eq,
          accounts.version_eq, accounts.traffic_eq, accounts.wellFormed⟩
      · rw [Session.perform_setOptions_of_ne usable same,
          if_pos (by rw [← accounts.threshold_eq]; exact same)]
        exact accounts_of_blank accounts.mapping_eq rfl (Session.blank_of_graph_eq rfl) rfl

theorem applyBatch
    (accounts : ledger.Accounts session)
    (clock : String)
    (batch : Batch)
    (now : UInt64) :
    (ledger.note (.applyBatch clock batch now)).Accounts
      (session.perform (.applyBatch clock batch now)) := by
  simp only [note, Session.perform]
  cases mapped : ledger.mapping with
  | none =>
      have refused : ¬ledger.Accepts batch := by
        rw [accounts.wellFormed.accepts_iff]
        simp [mapped]
      rw [if_neg refused]
      have unmapped := accounts.mapping_eq.trans mapped
      exact accounts.of_agrees (Session.applyBatch_of_unmapped unmapped clock batch now).2
  | some mapping =>
      have sessionMapped := accounts.mapping_eq.trans mapped
      by_cases newer : session.version < batch.version
      · have accepted : ledger.Accepts batch := by
          rw [accounts.wellFormed.accepts_iff, ← accounts.version_eq]
          exact ⟨by simp [mapped], newer⟩
        rw [if_pos accepted]
        obtain ⟨_, mapping_eq, options_eq, graph_eq⟩ :=
          Session.applyBatch_of_lt sessionMapped newer clock now
        have processed : Graph.unprocessedVersion ≤ session.graph.version := by
          have unprocessed_le := accounts.wellFormed.unprocessed_le
          rw [← accounts.version_eq] at unprocessed_le
          exact unprocessed_le
        refine ⟨mapping_eq.trans accounts.mapping_eq, ?_, ?_, ?_,
          accounts.wellFormed.accept accepted⟩
        · rw [options_eq, accounts.threshold_eq, accept]
        · rw [Session.version, graph_eq,
            Session.version_foldBatch mapping session.options now processed newer,
            lastVersion_accept]
        · rw [graph_eq, Session.traffic_foldBatch, traffic_accept mapped, accounts.traffic_eq,
            accounts.threshold_eq]
      · have refused : ¬ledger.Accepts batch := by
          rw [accounts.wellFormed.accepts_iff, ← accounts.version_eq]
          exact fun accepted => newer accepted.2
        rw [if_neg refused]
        exact accounts.of_agrees (Session.applyBatch_of_le sessionMapped newer clock now).2

/-- Every operation is noted. -/
theorem perform
    (accounts : ledger.Accounts session)
    (operation : Session.Operation) :
    (ledger.note operation).Accounts (session.perform operation) := by
  cases operation with
  | setSource clock source => exact accounts.setSource clock source
  | setOptions clock options => exact accounts.setOptions clock options
  | applyBatch clock batch now => exact accounts.applyBatch clock batch now
  | tick clock now => exact accounts.of_agrees (Session.agrees_tick clock now session)
  | mergePositions clock updates =>
      exact accounts.of_agrees (Session.agrees_mergePositions clock updates session)

theorem after
    (accounts : ledger.Accounts session)
    (operations : List Session.Operation) :
    (ledger.after operations).Accounts (session.after operations) := by
  induction operations generalizing ledger session with
  | nil => exact accounts
  | cons operation operations inductionHypothesis =>
      exact inductionHypothesis (accounts.perform operation)

/-- The answer to a batch: not applicable without a source, and otherwise applied
or stale, as the ledger accepts the batch or not. -/
theorem answer
    (accounts : ledger.Accounts session)
    (clock : String)
    (batch : Batch)
    (now : UInt64) :
    (ledger.mapping = none ∧ ¬ledger.Accepts batch ∧
        (session.applyBatch clock batch now).2 = .notApplicable) ∨
      (ledger.mapping ≠ none ∧ ledger.Accepts batch ∧
        ∃ folded skipped, (session.applyBatch clock batch now).2 =
          .applied folded skipped (batch.mode = .fullWindow)) ∨
      (ledger.mapping ≠ none ∧ ¬ledger.Accepts batch ∧
        (session.applyBatch clock batch now).2 = .stale ledger.lastVersion) := by
  rw [accounts.wellFormed.accepts_iff, ← accounts.mapping_eq, ← accounts.version_eq]
  cases mapped : session.mapping with
  | none =>
      have answered := (Session.applyBatch_of_unmapped mapped clock batch now).1
      exact Or.inl ⟨rfl, by simp, answered⟩
  | some mapping =>
      by_cases newer : session.version < batch.version
      · have answered := (Session.applyBatch_of_lt mapped newer clock now).1
        exact Or.inr (Or.inl ⟨by simp, ⟨rfl, newer⟩, answered⟩)
      · have answered := (Session.applyBatch_of_le mapped newer clock now).1
        exact Or.inr (Or.inr ⟨by simp, fun accepted => newer accepted.2, answered⟩)

end Accounts

/-- What the ledger of a run tells of the session after it. -/
structure Determines (ledger : Ledger) (session : Session) : Prop where
  /-- The mapping is the last declared one. -/
  mapping_eq : session.mapping = ledger.mapping
  /-- The port threshold is the last usable one. -/
  threshold_eq : session.options.portThreshold = ledger.portThreshold
  /-- The version is that of the last accepted batch since the last reset. -/
  version_eq : session.version = ledger.lastVersion
  /-- With a source, the graph is one fold of the records accepted since the last
  discard point. -/
  tallies : ∀ mapping, ledger.mapping = some mapping →
    session.graph.Tallies mapping ledger.portThreshold ledger.records
  /-- Without a source, nothing is accepted and nothing is shown. -/
  traffic_of_unmapped : ledger.mapping = none →
    ledger.records = [] ∧ session.graph.traffic = .empty
  /-- Exactly the accepted batches are applied. -/
  applied_iff : ∀ clock batch now,
    (∃ folded skipped reset,
        (session.applyBatch clock batch now).2 = .applied folded skipped reset) ↔
      ledger.Accepts batch
  /-- Batches are not applicable exactly without a source. -/
  notApplicable_iff : ∀ clock batch now,
    (session.applyBatch clock batch now).2 = .notApplicable ↔ ledger.mapping = none
  /-- All other batches are stale, and the answer tells the version. -/
  stale_iff : ∀ clock batch now version,
    (session.applyBatch clock batch now).2 = .stale version ↔
      ledger.mapping ≠ none ∧ ¬ledger.Accepts batch ∧ version = ledger.lastVersion

/-- A session that stands as a ledger has it is determined by the ledger. -/
theorem Accounts.determines
    {ledger : Ledger}
    {session : Session}
    (accounts : ledger.Accounts session) :
    ledger.Determines session := by
  refine {
    mapping_eq := accounts.mapping_eq
    threshold_eq := accounts.threshold_eq
    version_eq := accounts.version_eq
    tallies := ?tallies
    traffic_of_unmapped := ?unmapped
    applied_iff := ?applied
    notApplicable_iff := ?notApplicable
    stale_iff := ?stale }
  case tallies =>
    intro mapping mapped
    rw [Graph.tallies_iff, accounts.traffic_eq, traffic, mapped]
  case unmapped =>
    intro unmapped
    have empty := accounts.wellFormed.accepted_eq unmapped
    refine ⟨?_, (accounts.blank_of_nil empty).traffic_eq⟩
    rw [records, empty]
    rfl
  case applied =>
    intro clock batch now
    rcases accounts.answer clock batch now with
      ⟨_, refused, answered⟩ | ⟨_, accepted, folded, skipped, answered⟩ | ⟨_, refused, answered⟩
    · simp [answered, refused]
    · simp [answered, accepted]
    · simp [answered, refused]
  case notApplicable =>
    intro clock batch now
    rcases accounts.answer clock batch now with
      ⟨unmapped, _, answered⟩ | ⟨mapped, _, folded, skipped, answered⟩ | ⟨mapped, _, answered⟩
    · simp [answered, unmapped]
    · simp [answered, mapped]
    · simp [answered, mapped]
  case stale =>
    intro clock batch now version
    rcases accounts.answer clock batch now with
      ⟨unmapped, _, answered⟩ | ⟨_, accepted, folded, skipped, answered⟩ |
        ⟨mapped, refused, answered⟩
    · simp [answered, unmapped]
    · simp [answered, accepted]
    · simp [answered, mapped, refused, eq_comm]

/-- **Closed form of a session.** Whatever is done with a new session, in whatever
order batches are delivered, the ledger of the run tells its version, its graph
and its answer to the next batch. -/
theorem determines_after
    (viewId : String)
    (options : GraphOptions)
    (operations : List Session.Operation) :
    ((opened options).after operations).Determines
      ((Session.create viewId options).after operations) := by
  have accounts : (opened options).Accounts (Session.create viewId options) :=
    accounts_of_blank rfl rfl (Session.blank_of_graph_eq rfl) rfl
  exact (accounts.after operations).determines

end Ledger
end TrafficGraph
