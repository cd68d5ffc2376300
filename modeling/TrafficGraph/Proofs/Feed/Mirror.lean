import TrafficGraph.Proofs.Feed.Cutting
import TrafficGraph.Proofs.Session.Run

/-!
# Sessions that mirror a history

A session that is fed from one history either is blank or reflects a stretch of
the history: its version is the end of the stretch and its graph one fold of the
records in it, under the present mapping and port threshold.  A batch that begins
at the end of the stretch extends it, and one that comes to a blank session or
brings a full window begins another.  What is done without a batch leaves the
stretch as it is or discards the graph.
-/

namespace TrafficGraph

/-- A batch spans the stretch of a history between two places. -/
structure Batch.Spans (history : List Record) (first last : Nat) (batch : Batch) : Prop where
  /-- The version is the end of the stretch. -/
  version_eq : batch.version.toInt = last
  /-- The records are those of the stretch. -/
  events_eq : batch.events = history.extract first last
  /-- The stretch is in order. -/
  first_le : first ≤ last
  /-- The stretch lies inside the history. -/
  last_le : last ≤ history.length

/-- A batch that brings the history from a place on spans the rest of it. -/
theorem Batch.Brings.spans
    {history : List Record}
    {first : Nat}
    {batch : Batch}
    (brings : batch.Brings history first)
    (inside : first ≤ history.length) :
    batch.Spans history first history.length :=
  ⟨brings.version_eq, brings.events_eq.trans (Window.extract_length history first).symm,
    inside, Nat.le_refl _⟩

theorem Batch.Spans.push
    {history : List Record}
    {first last : Nat}
    {batch : Batch}
    (spans : batch.Spans history first last)
    (record : Record) :
    batch.Spans (history ++ [record]) first last := by
  refine ⟨spans.version_eq, ?_, spans.first_le, ?_⟩
  · rw [spans.events_eq, Window.extract_append_of_le spans.last_le]
  · have inside := spans.last_le
    simp only [List.length_append]
    omega

namespace Session

/-- A session without a source is blank. -/
def Sound (session : Session) : Prop :=
  session.mapping = none → session.Blank

/-- The terms under which a session folds records: its mapping and its port
threshold. -/
def terms (session : Session) : Option Source.Mapping × UInt16 :=
  (session.mapping, session.options.portThreshold)

theorem Sound.of_agrees
    {first second : Session}
    (sound : second.Sound)
    (agrees : first.Agrees second) :
    first.Sound := by
  intro unmapped
  exact (sound (agrees.mapping_eq.symm.trans unmapped)).of_agrees agrees

/-- What is done without a batch leaves a sound session as it is, apart from times
and places, or leaves it blank under other terms. -/
theorem Sound.perform_silent
    {session : Session}
    (sound : session.Sound)
    {operation : Operation}
    (silent : operation.batch? = none) :
    (session.perform operation).Agrees session ∨
      ((session.perform operation).Blank ∧
        (session.perform operation).terms ≠ session.terms) := by
  cases operation with
  | setSource clock source =>
      have mapping_eq := mapping_setSource clock source session
      have options_eq := options_setSource clock source session
      have replaced (different : session.mapping ≠ (Source.inspect source).fields) :
          (session.perform (.setSource clock source)).terms ≠ session.terms := by
        intro equality
        have same := congrArg Prod.fst equality
        exact different (same.symm.trans mapping_eq)
      rcases graph_setSource clock source session with
        ⟨same, graph_eq⟩ | ⟨unmapped, different, graph_eq⟩ | ⟨_, different, graph_eq⟩
      · have threshold_eq := congrArg GraphOptions.portThreshold options_eq
        exact Or.inl (agrees_of_graph_eq (mapping_eq.trans same.symm) threshold_eq graph_eq)
      -- The first source keeps the graph, which is still blank.
      · exact Or.inr ⟨(sound unmapped).of_graph_eq graph_eq, replaced different⟩
      · exact Or.inr ⟨blank_of_graph_eq graph_eq, replaced different⟩
  | setOptions clock options =>
      cases usable : options.validate with
      | error fault =>
          rw [perform_setOptions_of_error usable]
          exact Or.inl (.refl session)
      | ok _ =>
          by_cases same : session.options.portThreshold = options.portThreshold
          · rw [perform_setOptions_of_eq usable same]
            exact Or.inl ⟨rfl, same.symm, rfl, rfl⟩
          · rw [perform_setOptions_of_ne usable same]
            refine Or.inr ⟨blank_of_graph_eq rfl, ?_⟩
            intro equality
            exact same (congrArg Prod.snd equality).symm
  | applyBatch clock batch now => cases silent
  | tick clock now => exact Or.inl (agrees_tick clock now session)
  | mergePositions clock updates => exact Or.inl (agrees_mergePositions clock updates session)

theorem Sound.perform
    {session : Session}
    (sound : session.Sound)
    {operation : Operation}
    (silent : operation.batch? = none) :
    (session.perform operation).Sound := by
  rcases sound.perform_silent silent with agrees | ⟨blank, _⟩
  · exact sound.of_agrees agrees
  · exact fun _ => blank

theorem Blank.perform
    {session : Session}
    (blank : session.Blank)
    (sound : session.Sound)
    {operation : Operation}
    (silent : operation.batch? = none) :
    (session.perform operation).Blank := by
  rcases sound.perform_silent silent with agrees | ⟨later, _⟩
  · exact blank.of_agrees agrees
  · exact later

theorem Blank.version_neg
    {session : Session}
    (blank : session.Blank) :
    session.version < 0 := by
  rw [blank.version_eq]
  decide

/-- A session reflects the stretch of a history between two places. -/
structure Reflects (history : List Record) (first last : Nat) (session : Session) : Prop where
  /-- The version is the end of the stretch. -/
  version_eq : session.version.toInt = last
  /-- There is a source, and the graph is one fold of the records of the stretch. -/
  shows : ∃ mapping, session.mapping = some mapping ∧
    session.graph.traffic =
      .ofRecords mapping session.options.portThreshold (history.extract first last)
  /-- The stretch is in order. -/
  first_le : first ≤ last
  /-- The stretch lies inside the history. -/
  last_le : last ≤ history.length

namespace Reflects

variable {history : List Record} {first last : Nat} {session : Session}

theorem push
    (reflects : session.Reflects history first last)
    (record : Record) :
    session.Reflects (history ++ [record]) first last := by
  obtain ⟨version_eq, shows, first_le, last_le⟩ := reflects
  refine ⟨version_eq, ?_, first_le, ?_⟩
  · rw [Window.extract_append_of_le last_le]
    exact shows
  · simp only [List.length_append]
    omega

theorem of_agrees
    (reflects : session.Reflects history first last)
    {later : Session}
    (agrees : later.Agrees session) :
    later.Reflects history first last := by
  obtain ⟨mapping, mapped, traffic_eq⟩ := reflects.shows
  refine ⟨?_, ⟨mapping, ?_, ?_⟩, reflects.first_le, reflects.last_le⟩
  · rw [agrees.version_eq, reflects.version_eq]
  · rw [agrees.mapping_eq, mapped]
  · rw [agrees.traffic_eq, agrees.threshold_eq, traffic_eq]

/-- The version of a session that reflects a stretch is not negative. -/
theorem not_version_neg (reflects : session.Reflects history first last) :
    ¬session.version < 0 := by
  have version_eq := reflects.version_eq
  rw [Int64.lt_iff_toInt_lt, Int64.toInt_zero]
  omega

end Reflects

/-- A session mirrors a stretch of a history if it is blank or reflects it. -/
def Mirrors (history : List Record) (first last : Nat) (session : Session) : Prop :=
  session.Blank ∨ session.Reflects history first last

namespace Mirrors

variable {history : List Record} {first last : Nat} {session : Session}

theorem push
    (mirrors : session.Mirrors history first last)
    (record : Record) :
    session.Mirrors (history ++ [record]) first last :=
  mirrors.imp_right fun reflects => reflects.push record

theorem perform
    (mirrors : session.Mirrors history first last)
    (sound : session.Sound)
    {operation : Operation}
    (silent : operation.batch? = none) :
    (session.perform operation).Mirrors history first last := by
  rcases sound.perform_silent silent with agrees | ⟨blank, _⟩
  · exact mirrors.imp (fun blank => blank.of_agrees agrees)
      (fun reflects => reflects.of_agrees agrees)
  · exact Or.inl blank

theorem blank_of_neg
    (mirrors : session.Mirrors history first last)
    (negative : session.version < 0) :
    session.Blank :=
  mirrors.resolve_right fun reflects => reflects.not_version_neg negative

theorem reflects_of_not_neg
    (mirrors : session.Mirrors history first last)
    (processed : ¬session.version < 0) :
    session.Reflects history first last :=
  mirrors.resolve_left fun blank => processed blank.version_neg

end Mirrors

/-! ## Batches that come to a mirror -/

/-- A batch was applied and left a stretch of a history reflected. -/
def Advances (history : List Record) (first last : Nat) (answer : Session × BatchOutcome) :
    Prop :=
  (∃ folded skipped reset, answer.2 = .applied folded skipped reset) ∧
    answer.1.Reflects history first last

theorem Advances.sound
    {history : List Record}
    {first last : Nat}
    {answer : Session × BatchOutcome}
    (advances : Advances history first last answer) :
    answer.1.Sound := by
  intro unmapped
  obtain ⟨mapping, mapped, _⟩ := advances.2.shows
  rw [unmapped] at mapped
  cases mapped

section Batches

variable {history : List Record} {first middle last : Nat} {session : Session} {batch : Batch}

/-- A batch whose version is new and whose records make up a stretch with the
traffic before them leaves the stretch reflected. -/
theorem advances_of_deliver
    {mapping : Source.Mapping}
    (mapped : session.mapping = some mapping)
    (newer : session.version < batch.version)
    (processed : Graph.unprocessedVersion ≤ session.version)
    (version_eq : batch.version.toInt = last)
    (traffic_eq :
      session.graph.traffic.deliver mapping session.options.portThreshold batch =
        .ofRecords mapping session.options.portThreshold (history.extract first last))
    (first_le : first ≤ last)
    (last_le : last ≤ history.length)
    (clock : String)
    (now : UInt64) :
    Advances history first last (session.applyBatch clock batch now) := by
  obtain ⟨⟨folded, skipped, answered⟩, mapping_eq, options_eq, graph_eq⟩ :=
    applyBatch_of_lt mapped newer clock now
  refine ⟨⟨folded, skipped, _, answered⟩, ?_, ⟨mapping, ?_, ?_⟩, first_le, last_le⟩
  · rw [version, graph_eq, version_foldBatch mapping session.options now processed newer,
      version_eq]
  · rw [mapping_eq, mapped]
  · rw [graph_eq, options_eq, traffic_foldBatch, traffic_eq]

/-- A batch that comes to a blank session with a source is reflected. -/
theorem Blank.advances
    (blank : session.Blank)
    {mapping : Source.Mapping}
    (mapped : session.mapping = some mapping)
    (spans : batch.Spans history first last)
    (clock : String)
    (now : UInt64) :
    Advances history first last (session.applyBatch clock batch now) := by
  have newer : session.version < batch.version := by
    rw [blank.version_eq, Int64.lt_iff_toInt_lt, spans.version_eq]
    have lowest : Graph.unprocessedVersion.toInt = -1 := by decide
    omega
  have processed : Graph.unprocessedVersion ≤ session.version := by
    rw [blank.version_eq]
    exact Int64.le_refl _
  refine advances_of_deliver mapped newer processed spans.version_eq ?_ spans.first_le
    spans.last_le clock now
  cases mode_eq : batch.mode with
  | incremental =>
      rw [blank.traffic_eq]
      apply (Traffic.deliver_of_incremental mode_eq mapping _ []).trans
      rw [List.nil_append, spans.events_eq]
  | fullWindow => rw [Traffic.deliver_of_fullWindow mode_eq, spans.events_eq]

/-- The version of a session that reflects a stretch is a processed version before
that of any batch that ends behind the stretch. -/
theorem Reflects.version_bounds
    (reflects : session.Reflects history first middle)
    (version_eq : batch.version.toInt = last)
    (grows : middle < last) :
    Graph.unprocessedVersion ≤ session.version ∧ session.version < batch.version := by
  have middle_eq := reflects.version_eq
  have lowest : Graph.unprocessedVersion.toInt = -1 := by decide
  rw [Int64.le_iff_toInt_le, Int64.lt_iff_toInt_lt]
  omega

/-- An increment that begins at the end of a reflected stretch extends it. -/
theorem Reflects.advances_of_incremental
    (reflects : session.Reflects history first middle)
    (mode_eq : batch.mode = .incremental)
    (spans : batch.Spans history middle last)
    (grows : middle < last)
    (clock : String)
    (now : UInt64) :
    Advances history first last (session.applyBatch clock batch now) := by
  obtain ⟨mapping, mapped, traffic_eq⟩ := reflects.shows
  obtain ⟨processed, newer⟩ := reflects.version_bounds spans.version_eq grows
  have first_le := reflects.first_le
  refine advances_of_deliver mapped newer processed spans.version_eq ?_ (by omega)
    spans.last_le clock now
  rw [traffic_eq, Traffic.deliver_of_incremental mode_eq, spans.events_eq,
    Window.extract_append_extract reflects.first_le spans.first_le]

/-- A full window that ends behind a reflected stretch is reflected in place of it. -/
theorem Reflects.advances_of_fullWindow
    {start : Nat}
    (reflects : session.Reflects history start middle)
    (mode_eq : batch.mode = .fullWindow)
    (spans : batch.Spans history first last)
    (grows : middle < last)
    (clock : String)
    (now : UInt64) :
    Advances history first last (session.applyBatch clock batch now) := by
  obtain ⟨mapping, mapped, _⟩ := reflects.shows
  obtain ⟨processed, newer⟩ := reflects.version_bounds spans.version_eq grows
  refine advances_of_deliver mapped newer processed spans.version_eq ?_ spans.first_le
    spans.last_le clock now
  rw [Traffic.deliver_of_fullWindow mode_eq, spans.events_eq]

end Batches

end Session
end TrafficGraph
