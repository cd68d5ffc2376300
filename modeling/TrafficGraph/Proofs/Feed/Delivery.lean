import TrafficGraph.Feed.Pump
import TrafficGraph.Proofs.Feed.Mirror

/-!
# Deliveries step by step

A pump looks at its session, cuts a batch and applies it, and others may act in
between.  A watch is kept of where the graph begins in the history and of whether
the terms of the session changed between the look and the application.  Whatever
happens, the session mirrors the history from the origin of its graph up to the
cursor.  If the terms did not change in between, the graph begins no later than
what the ring still holds.
-/

namespace TrafficGraph

/-- What is remembered of how a graph came about. -/
structure Watch where
  /-- The place in the history at which the graph begins. -/
  origin : Nat
  /-- The terms changed since the pump last looked at the session. -/
  disturbed : Bool
  /-- They had changed so when the batch with which the graph begins was applied. -/
  raced : Bool
  deriving DecidableEq

namespace Watch

/-- The watch over a session without a graph. -/
def start : Watch := ⟨0, false, false⟩

/-- The pump looks at the session. -/
def look (watch : Watch) : Watch :=
  { watch with disturbed := false }

/-- Others have made one session of another. -/
def act (before after : Session) (watch : Watch) : Watch :=
  { watch with disturbed := watch.disturbed || before.terms ≠ after.terms }

/-- A batch is applied.  A graph begins with it if there was none or if it brings a
full window. -/
def receive (session : Session) (batch : Batch) (watch : Watch) : Watch :=
  if session.mapping.isSome ∧ (session.version < 0 ∨ batch.mode = .fullWindow) then
    { watch with
      origin := batch.version.toInt.toNat - batch.events.length
      raced := watch.disturbed }
  else watch

/-- The watch after the next step of a delivery. -/
def step (state : PumpState) (watch : Watch) : Watch :=
  match state.stage with
  | .deciding => watch.look
  | .comparing => watch.look
  | .applying batch => watch.receive state.session batch
  | _ => watch

/-- Unless the terms have changed since the pump looked at it, a session with a
source that was given records before has a graph. -/
def Settled (delivered : Nat) (session : Session) (watch : Watch) : Prop :=
  watch.disturbed = false →
    delivered = 0 ∨ session.mapping = none ∨ ¬session.version < 0

/-- Unless it changes the terms, what is done without a batch leaves a session as it
is, apart from times and places. -/
theorem agrees_of_undisturbed
    {session : Session}
    (sound : session.Sound)
    {operation : Session.Operation}
    (silent : operation.batch? = none)
    {watch : Watch}
    (undisturbed : (watch.act session (session.perform operation)).disturbed = false) :
    watch.disturbed = false ∧ (session.perform operation).Agrees session := by
  simp only [act, Bool.or_eq_false_iff, decide_eq_false_iff_not, Decidable.not_not]
    at undisturbed
  refine ⟨undisturbed.1, (sound.perform_silent silent).resolve_right ?_⟩
  rintro ⟨_, different⟩
  exact different undisturbed.2.symm

theorem Settled.act
    {delivered : Nat}
    {session : Session}
    {watch : Watch}
    (settled : watch.Settled delivered session)
    (sound : session.Sound)
    {operation : Session.Operation}
    (silent : operation.batch? = none) :
    (watch.act session (session.perform operation)).Settled delivered
      (session.perform operation) := by
  intro undisturbed
  obtain ⟨before, agrees⟩ := agrees_of_undisturbed sound silent undisturbed
  rw [agrees.mapping_eq, agrees.version_eq]
  exact settled before

end Watch

theorem Batch.Spans.origin_eq
    {history : List Record}
    {first last : Nat}
    {batch : Batch}
    (spans : batch.Spans history first last) :
    batch.version.toInt.toNat - batch.events.length = first := by
  have length_eq : batch.events.length = last - first := by
    have inside := spans.last_le
    rw [spans.events_eq, List.extract_eq_take_drop, List.length_take, List.length_drop]
    omega
  have ordered := spans.first_le
  have version_eq := spans.version_eq
  omega

/-- A batch that was cut for a session: an increment begins at the end of what the
session mirrors, and a full window begins no later than the oldest held record. -/
structure Awaits (history : List Record) (oldest : Nat) (watch : Watch) (delivered : Nat)
    (session : Session) (batch : Batch) (first : Nat) : Prop where
  /-- The batch ends at the cursor. -/
  spans : batch.Spans history first delivered
  /-- The session mirrors the history up to the batch or, if it is a full window, up
  to some place before its end. -/
  mirrors :
    (batch.mode = .incremental ∧ first < delivered ∧ watch.Settled first session ∧
        session.Mirrors history watch.origin first) ∨
      (batch.mode = .fullWindow ∧ first ≤ oldest ∧
        ∃ last, last < delivered ∧ session.Mirrors history watch.origin last)

/-- What holds of a session at each stage of a delivery to it. -/
def Attends (history : List Record) (oldest : Nat) (watch : Watch) (delivered : Nat)
    (session : Session) : DeliveryStage → Prop
  | .starting => session.Mirrors history watch.origin delivered
  | .sampling => session.Mirrors history watch.origin delivered
  | .inferring _ => session.Mirrors history watch.origin delivered
  | .deciding => session.Mirrors history watch.origin delivered
  | .comparing => 0 < delivered ∧ session.Mirrors history watch.origin delivered
  | .polling =>
    watch.Settled delivered session ∧ session.Mirrors history watch.origin delivered
  | .rebuilding => 0 < delivered ∧ session.Blank
  | .applying batch => ∃ first, Awaits history oldest watch delivered session batch first
  | .finished outcome =>
    watch.Settled delivered session ∧ session.Mirrors history watch.origin delivered ∧
      (∀ version, outcome ≠ some (.stale version)) ∧
      (∀ folded skipped reset, outcome = some (.applied folded skipped reset) →
        watch.disturbed = false → ¬session.version < 0)

namespace Ring.Keeps

variable {history : List Record} {ring : Ring} {watch : Watch} {session : Session}

theorem delivered_head (keeps : ring.Keeps history) : ring.head.delivered = history.length :=
  keeps.total_eq

/-- A batch that is cut for a cursor awaits its application. -/
theorem awaits_of_poll?
    (keeps : ring.Keeps history)
    (bounded : history.length < versionLimit)
    {cursor : Cursor}
    (settled : watch.Settled cursor.delivered session)
    (mirrors : session.Mirrors history watch.origin cursor.delivered)
    {batch : Batch}
    (cut : ring.poll? cursor = some batch) :
    ∃ first, Awaits history ring.window.dropped watch ring.head.delivered session batch first := by
  rw [keeps.delivered_head]
  obtain ⟨behind, ⟨mode_eq, _, brings⟩ | ⟨mode_eq, lost, brings⟩⟩ :=
    keeps.poll?_brings bounded cut
  · have spans := brings.spans (Nat.le_of_lt behind)
    exact ⟨_, spans, Or.inl ⟨mode_eq, behind, settled, mirrors⟩⟩
  · have spans := brings.spans (Window.Shows.dropped_le keeps)
    exact ⟨_, spans, Or.inr ⟨mode_eq, Nat.le_refl _, _, behind, mirrors⟩⟩

/-- A full window that is cut for a blank session awaits its application. -/
theorem awaits_of_fullWindow
    (keeps : ring.Keeps history)
    (bounded : history.length < versionLimit)
    (pushed : 0 < history.length)
    (blank : session.Blank) :
    ∃ first, Awaits history ring.window.dropped watch ring.head.delivered session
      ring.fullWindow first := by
  rw [keeps.delivered_head]
  have spans := (keeps.fullWindow_brings bounded).spans (Window.Shows.dropped_le keeps)
  exact ⟨_, spans, Or.inr ⟨rfl, Nat.le_refl _, 0, pushed, Or.inl blank⟩⟩

end Ring.Keeps

namespace Attends

variable {history : List Record} {oldest delivered : Nat} {watch : Watch} {session : Session}
  {stage : DeliveryStage}

theorem push
    (attends : Attends history oldest watch delivered session stage)
    {later : Nat}
    (grows : oldest ≤ later)
    (record : Record) :
    Attends (history ++ [record]) later watch delivered session stage := by
  cases stage with
  | starting => exact Session.Mirrors.push attends record
  | sampling => exact Session.Mirrors.push attends record
  | inferring sample => exact Session.Mirrors.push attends record
  | deciding => exact Session.Mirrors.push attends record
  | comparing => exact ⟨attends.1, attends.2.push record⟩
  | polling => exact ⟨attends.1, attends.2.push record⟩
  | rebuilding => exact attends
  | applying batch =>
      obtain ⟨first, spans, ⟨mode_eq, before, settled, mirrors⟩ |
        ⟨mode_eq, first_le, last, before, mirrors⟩⟩ := attends
      · exact ⟨first, spans.push record,
          Or.inl ⟨mode_eq, before, settled, mirrors.push record⟩⟩
      · exact ⟨first, spans.push record,
          Or.inr ⟨mode_eq, Nat.le_trans first_le grows, last, before, mirrors.push record⟩⟩
  | finished outcome => exact ⟨attends.1, attends.2.1.push record, attends.2.2⟩

theorem act
    (attends : Attends history oldest watch delivered session stage)
    (sound : session.Sound)
    {operation : Session.Operation}
    (silent : operation.batch? = none) :
    Attends history oldest (watch.act session (session.perform operation)) delivered
      (session.perform operation) stage := by
  cases stage with
  | starting => exact Session.Mirrors.perform attends sound silent
  | sampling => exact Session.Mirrors.perform attends sound silent
  | inferring sample => exact Session.Mirrors.perform attends sound silent
  | deciding => exact Session.Mirrors.perform attends sound silent
  | comparing => exact ⟨attends.1, attends.2.perform sound silent⟩
  | polling => exact ⟨attends.1.act sound silent, attends.2.perform sound silent⟩
  | rebuilding => exact ⟨attends.1, attends.2.perform sound silent⟩
  | applying batch =>
      obtain ⟨first, spans, ⟨mode_eq, before, settled, mirrors⟩ |
        ⟨mode_eq, first_le, last, before, mirrors⟩⟩ := attends
      · exact ⟨first, spans,
          Or.inl ⟨mode_eq, before, settled.act sound silent, mirrors.perform sound silent⟩⟩
      · exact ⟨first, spans,
          Or.inr ⟨mode_eq, first_le, last, before, mirrors.perform sound silent⟩⟩
  | finished outcome =>
      obtain ⟨settled, mirrors, fresh, processed⟩ := attends
      refine ⟨settled.act sound silent, mirrors.perform sound silent, fresh, ?_⟩
      intro folded skipped reset applied undisturbed
      obtain ⟨before, agrees⟩ := Watch.agrees_of_undisturbed sound silent undisturbed
      rw [agrees.version_eq]
      exact processed folded skipped reset applied before

end Attends

/-- A pump feeds its session from a ring that keeps a history. -/
structure Feeds (history : List Record) (ring : Ring) (watch : Watch) (state : PumpState) :
    Prop where
  /-- The ring keeps the history. -/
  keeps : ring.Keeps history
  /-- The session is sound. -/
  sound : state.session.Sound
  /-- The cursor stands inside the history. -/
  delivered_le : state.cursor.delivered ≤ history.length
  /-- A graph that did not begin in a race begins with what the ring holds, or before. -/
  origin_le : watch.raced = false → watch.origin ≤ ring.window.dropped
  /-- The session is as the stage of the delivery demands. -/
  attends : Attends history ring.window.dropped watch state.cursor.delivered state.session
    state.stage

namespace Watch

variable {session : Session} {batch : Batch}

/-- A batch with which a graph begins sets the origin. -/
theorem receive_of_begins
    {history : List Record}
    {first last : Nat}
    (mapped : session.mapping.isSome)
    (begins : session.version < 0 ∨ batch.mode = .fullWindow)
    (spans : batch.Spans history first last)
    (watch : Watch) :
    watch.receive session batch = { watch with origin := first, raced := watch.disturbed } := by
  rw [receive, if_pos ⟨mapped, begins⟩, spans.origin_eq]

/-- A batch that no graph takes, or one that has begun, changes nothing. -/
theorem receive_of_not_begins
    (continues : session.mapping = none ∨ (¬session.version < 0 ∧ batch.mode = .incremental))
    (watch : Watch) :
    watch.receive session batch = watch := by
  rw [receive, if_neg]
  rintro ⟨mapped, begins⟩
  rcases continues with unmapped | ⟨processed, mode_eq⟩
  · simp [unmapped] at mapped
  · rcases begins with negative | contrary
    · exact processed negative
    · rw [mode_eq] at contrary
      cases contrary

end Watch

section Finish

variable {history : List Record} {oldest delivered first : Nat} {watch : Watch}
  {session : Session} {batch : Batch}

/-- A session that advances to the cursor ends a delivery. -/
theorem attends_of_advances
    {answer : Session × BatchOutcome}
    (advances : Session.Advances history watch.origin delivered answer) :
    Attends history oldest watch delivered answer.1 (.finished (some answer.2)) := by
  obtain ⟨⟨folded, skipped, reset, answered⟩, reflects⟩ := advances
  refine ⟨fun _ => Or.inr (Or.inr reflects.not_version_neg), Or.inr reflects, ?_, ?_⟩
  · intro version stale
    rw [answered] at stale
    cases stale
  · intro _ _ _ _ _
    exact reflects.not_version_neg

/-- A batch that finds no source ends a delivery. -/
theorem attends_of_unmapped
    (unmapped : session.mapping = none)
    (sound : session.Sound)
    (clock : String)
    (batch : Batch)
    (now : UInt64) :
    Attends history oldest watch delivered (session.applyBatch clock batch now).1
      (.finished (some (session.applyBatch clock batch now).2)) := by
  obtain ⟨answered, agrees⟩ := Session.applyBatch_of_unmapped unmapped clock batch now
  rw [answered]
  refine ⟨?_, Or.inl ((sound unmapped).of_agrees agrees), ?_, ?_⟩
  · exact fun _ => Or.inr (Or.inl (agrees.mapping_eq.trans unmapped))
  · intro version stale
    cases stale
  · intro _ _ _ applied
    cases applied

/-- The application of a batch ends a delivery, and unless the terms changed since
the pump looked, a graph that begins with the batch begins no later than what the
ring holds. -/
theorem Awaits.finish
    (awaits : Awaits history oldest watch delivered session batch first)
    (sound : session.Sound)
    (origin_le : watch.raced = false → watch.origin ≤ oldest)
    (clock : String)
    (now : UInt64) :
    (session.applyBatch clock batch now).1.Sound ∧
      ((watch.receive session batch).raced = false →
        (watch.receive session batch).origin ≤ oldest) ∧
      Attends history oldest (watch.receive session batch) delivered
        (session.applyBatch clock batch now).1
        (.finished (some (session.applyBatch clock batch now).2)) := by
  cases mapped : session.mapping with
  | none =>
      have agrees := (Session.applyBatch_of_unmapped mapped clock batch now).2
      rw [Watch.receive_of_not_begins (Or.inl mapped)]
      exact ⟨sound.of_agrees agrees, origin_le,
        attends_of_unmapped mapped sound clock batch now⟩
  | some mapping =>
      have isSome : session.mapping.isSome := by rw [mapped]; rfl
      rcases awaits.mirrors with
        ⟨mode_eq, grows, settled, blank | reflects⟩ | ⟨mode_eq, first_le, last, grows, mirrors⟩
      -- An increment that finds no graph begins one, also where a graph was discarded.
      · have advances := blank.advances mapped awaits.spans clock now
        rw [Watch.receive_of_begins isSome (Or.inl blank.version_neg) awaits.spans]
        refine ⟨advances.sound, ?_, attends_of_advances advances⟩
        intro undisturbed
        rcases settled undisturbed with start | unmapped | processed
        · simp only [start, Nat.zero_le]
        · rw [mapped] at unmapped
          cases unmapped
        · exact absurd blank.version_neg processed
      -- An increment that finds a graph extends it.
      · have advances := reflects.advances_of_incremental mode_eq awaits.spans grows clock now
        rw [Watch.receive_of_not_begins (Or.inr ⟨reflects.not_version_neg, mode_eq⟩)]
        exact ⟨advances.sound, origin_le, attends_of_advances advances⟩
      -- A full window begins a graph in any case.
      · have advances :
            Session.Advances history first delivered (session.applyBatch clock batch now) := by
          rcases mirrors with blank | reflects
          · exact blank.advances mapped awaits.spans clock now
          · exact reflects.advances_of_fullWindow mode_eq awaits.spans grows clock now
        rw [Watch.receive_of_begins isSome (Or.inr mode_eq) awaits.spans]
        exact ⟨advances.sound, fun _ => first_le, attends_of_advances advances⟩

end Finish

namespace Feeds

variable {history : List Record} {ring : Ring} {watch : Watch} {state : PumpState}

/-- A pump goes on feeding its session with the next step of a delivery. -/
theorem step
    (feeds : Feeds history ring watch state)
    (bounded : history.length < versionLimit)
    (clock : String)
    (now : UInt64) :
    Feeds history ring (watch.step state) (state.step clock now ring) := by
  obtain ⟨stage, cursor, session⟩ := state
  obtain ⟨keeps, sound, delivered_le, origin_le, attends⟩ := feeds
  cases stage with
  | starting =>
      refine ⟨keeps, sound, delivered_le, origin_le, ?_⟩
      simp only [PumpState.step]
      split
      · exact attends
      · exact attends
  | sampling =>
      simp only [PumpState.step]
      split
      · exact ⟨keeps, sound, delivered_le, origin_le, attends⟩
      · exact ⟨keeps, sound, delivered_le, origin_le, attends⟩
  | inferring sample =>
      have silent : (Session.Operation.setSource clock (.ofRecord sample)).batch? = none := rfl
      exact ⟨keeps, sound.perform silent, delivered_le, origin_le,
        Session.Mirrors.perform attends sound silent⟩
  | deciding =>
      refine ⟨keeps, sound, delivered_le, origin_le, ?_⟩
      simp only [PumpState.step]
      split
      · next rebuilds =>
        simp only [Bool.and_eq_true, decide_eq_true_eq] at rebuilds
        exact ⟨rebuilds.1, attends⟩
      · next rebuilds =>
        refine ⟨fun _ => ?_, attends⟩
        by_cases start : cursor.delivered = 0
        · exact Or.inl start
        · have delivered : 0 < cursor.delivered := by omega
          exact Or.inr (Or.inl (by simpa [delivered, Session.hasSource] using rebuilds))
  | comparing =>
      refine ⟨keeps, sound, delivered_le, origin_le, ?_⟩
      obtain ⟨delivered, mirrors⟩ := attends
      simp only [PumpState.step]
      split
      · next negative => exact ⟨delivered, mirrors.blank_of_neg negative⟩
      · next processed => exact ⟨fun _ => Or.inr (Or.inr processed), mirrors⟩
  | polling =>
      obtain ⟨settled, mirrors⟩ := attends
      simp only [PumpState.step]
      split
      · next batch cut =>
        have awaits := keeps.awaits_of_poll? bounded settled mirrors cut
        exact ⟨keeps, sound, Nat.le_of_eq keeps.delivered_head, origin_le, awaits⟩
      · exact ⟨keeps, sound, delivered_le, origin_le, settled, mirrors, by simp, by simp⟩
  | rebuilding =>
      obtain ⟨delivered, blank⟩ := attends
      have pushed : 0 < history.length := Nat.lt_of_lt_of_le delivered delivered_le
      exact ⟨keeps, sound, Nat.le_of_eq keeps.delivered_head, origin_le,
        keeps.awaits_of_fullWindow bounded pushed blank⟩
  | applying batch =>
      obtain ⟨first, awaits⟩ := attends
      obtain ⟨sound, origin_le, attends⟩ := awaits.finish sound origin_le clock now
      exact ⟨keeps, sound, delivered_le, origin_le, attends⟩
  | finished outcome => exact ⟨keeps, sound, delivered_le, origin_le, attends⟩

theorem push
    (feeds : Feeds history ring watch state)
    (record : Record) :
    Feeds (history ++ [record]) (ring.push record) watch state := by
  have grows := feeds.keeps.dropped_le_push record
  have longer : history.length ≤ (history ++ [record]).length := by simp
  exact ⟨feeds.keeps.push record, feeds.sound, Nat.le_trans feeds.delivered_le longer,
    fun unraced => Nat.le_trans (feeds.origin_le unraced) grows,
    feeds.attends.push grows record⟩

theorem act
    (feeds : Feeds history ring watch state)
    {operation : Session.Operation}
    (silent : operation.batch? = none) :
    Feeds history ring (watch.act state.session (state.session.perform operation))
      { state with session := state.session.perform operation } :=
  ⟨feeds.keeps, feeds.sound.perform silent, feeds.delivered_le, feeds.origin_le,
    feeds.attends.act feeds.sound silent⟩

end Feeds
end TrafficGraph
