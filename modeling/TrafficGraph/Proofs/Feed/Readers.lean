import TrafficGraph.Proofs.Feed.Cutting

/-!
# Readers of one ring

Any number of readers take batches from one ring, each through a cursor of its
own, while records are pushed.  A reader appends the records of an increment to
what it has received and takes a full window in place of it.  What it has then
received is a suffix of the history of pushes, without gaps and repetitions, that
contains everything the ring still holds.
-/

namespace TrafficGraph

/-- A reader with what it was given and what it has still to be given. -/
structure Reader where
  /-- The place of the reader in the history. -/
  cursor : Cursor
  /-- What the reader has received. -/
  received : List Record
  /-- The records pushed since the last delivery to the reader. -/
  pending : List Record

namespace Reader

/-- A reader that was given nothing. -/
def start : Reader := ⟨.start, [], []⟩

/-- Notes a pushed record. -/
def await (record : Record) (reader : Reader) : Reader :=
  { reader with pending := reader.pending ++ [record] }

/-- Takes a batch that was cut from a ring. -/
def receive (ring : Ring) (batch : Batch) (reader : Reader) : Reader where
  cursor := ring.head
  received :=
    match batch.mode with
    | .incremental => reader.received ++ batch.events
    | .fullWindow => batch.events
  pending := []

end Reader

/-- A ring with its readers. -/
structure SharedRing (ι : Type) where
  /-- The ring. -/
  ring : Ring
  /-- The readers. -/
  readers : ι → Reader

namespace SharedRing

/-- What can be done with a ring and its readers. -/
inductive Operation (ι : Type)
  /-- A record is pushed. -/
  | push (record : Record)
  /-- A reader asks for the next batch. -/
  | poll (name : ι)
  /-- A reader asks for all that the ring holds. -/
  | fullWindow (name : ι)

/-- The record that an operation pushes. -/
def Operation.record? {ι : Type} : Operation ι → Option Record
  | .push record => some record
  | .poll _ => none
  | .fullWindow _ => none

/-- The reader for whom an operation asks for a batch. -/
def Operation.reader? {ι : Type} : Operation ι → Option ι
  | .push _ => none
  | .poll name => some name
  | .fullWindow name => some name

/-- The records pushed by a sequence of operations, oldest first. -/
def pushed {ι : Type} (operations : List (Operation ι)) : List Record :=
  operations.filterMap Operation.record?

/-- A ring without records whose readers were given nothing. -/
def create {ι : Type} (capacity : Nat) (positive : 0 < capacity) : SharedRing ι where
  ring := ⟨capacity, positive, .empty⟩
  readers _ := .start

variable {ι : Type} [DecidableEq ι]

/-- Gives a batch to a reader. -/
def deliver (name : ι) (batch : Batch) (shared : SharedRing ι) : SharedRing ι :=
  { shared with
    readers := fun other =>
      if other = name then (shared.readers other).receive shared.ring batch
      else shared.readers other }

/-- Does an operation, and tells the batch that was delivered. -/
def perform (shared : SharedRing ι) : Operation ι → SharedRing ι × Option Batch
  | .push record =>
    ({ ring := shared.ring.push record
       readers := fun name => (shared.readers name).await record }, none)
  | .poll name =>
    match shared.ring.poll? (shared.readers name).cursor with
    | some batch => (shared.deliver name batch, some batch)
    | none => (shared, none)
  | .fullWindow name =>
    (shared.deliver name shared.ring.fullWindow, some shared.ring.fullWindow)

theorem answer_poll
    (name : ι)
    (shared : SharedRing ι) :
    (shared.perform (.poll name)).2 = shared.ring.poll? (shared.readers name).cursor := by
  unfold perform
  dsimp only
  split
  · next cut => exact cut.symm
  · next cut => exact cut.symm

/-- The ring and its readers after a sequence of operations. -/
def after (operations : List (Operation ι)) (shared : SharedRing ι) : SharedRing ι :=
  operations.foldl (fun current operation => (current.perform operation).1) shared

end SharedRing

namespace Reader

/-- A reader follows a history: its cursor parts the records that it was given
from those that are pending, and what it has received goes from a record that
is not newer than the oldest held one to its cursor. -/
structure Follows (history : List Record) (oldest : Nat) (reader : Reader) : Prop where
  /-- The cursor stands inside the history. -/
  delivered_le : reader.cursor.delivered ≤ history.length
  /-- The records behind the cursor are pending. -/
  pending_eq : reader.pending = history.drop reader.cursor.delivered
  /-- The records in front of the cursor were received from some place on. -/
  received_eq : ∃ first, first ≤ oldest ∧ first ≤ reader.cursor.delivered ∧
    reader.received = history.extract first reader.cursor.delivered

namespace Follows

variable {history : List Record} {ring : Ring} {reader : Reader} {batch : Batch}

theorem start : Follows [] 0 Reader.start :=
  ⟨by simp [Reader.start, Cursor.start], rfl, 0, by simp [Reader.start, Cursor.start]⟩

/-- A reader goes on following when a record is pushed. -/
theorem await
    {oldest later : Nat}
    (follows : reader.Follows history oldest)
    (grows : oldest ≤ later)
    (record : Record) :
    (reader.await record).Follows (history ++ [record]) later := by
  obtain ⟨delivered_le, pending_eq, first, first_le, ordered, received_eq⟩ := follows
  refine ⟨?_, ?_, first, by omega, ordered, ?_⟩
  · simp only [Reader.await, List.length_append]
    omega
  · simp only [Reader.await]
    rw [pending_eq, List.drop_append_of_le_length delivered_le]
  · simp only [Reader.await]
    rw [received_eq, Window.extract_append_of_le delivered_le]

/-- A reader that takes a batch has received a stretch up to the end of the
history: from where it began if the batch is the increment behind its cursor,
and from the oldest held record if the batch is a full window. -/
theorem received_receive
    (follows : reader.Follows history ring.window.dropped)
    (brings :
      (batch.mode = .incremental ∧ batch.Brings history reader.cursor.delivered) ∨
        (batch.mode = .fullWindow ∧ batch.Brings history ring.window.dropped)) :
    ∃ first, first ≤ ring.window.dropped ∧
      (reader.receive ring batch).received = history.drop first := by
  rcases brings with ⟨mode_eq, brings⟩ | ⟨mode_eq, brings⟩
  · obtain ⟨first, first_le, ordered, received_eq⟩ := follows.received_eq
    refine ⟨first, first_le, ?_⟩
    simp only [Reader.receive, mode_eq]
    rw [received_eq, brings.events_eq, ← Window.extract_length,
      Window.extract_append_extract ordered follows.delivered_le, Window.extract_length]
  · refine ⟨ring.window.dropped, Nat.le_refl _, ?_⟩
    simp only [Reader.receive, mode_eq]
    exact brings.events_eq

/-- A reader goes on following when it takes a batch. -/
theorem receive
    (keeps : ring.Keeps history)
    (follows : reader.Follows history ring.window.dropped)
    (brings :
      (batch.mode = .incremental ∧ batch.Brings history reader.cursor.delivered) ∨
        (batch.mode = .fullWindow ∧ batch.Brings history ring.window.dropped)) :
    (reader.receive ring batch).Follows history ring.window.dropped := by
  obtain ⟨first, first_le, received_eq⟩ := follows.received_receive brings
  have delivered_eq : (reader.receive ring batch).cursor.delivered = history.length :=
    keeps.total_eq
  refine ⟨?_, ?_, first, first_le, ?_, ?_⟩
  · omega
  · rw [delivered_eq, List.drop_length]
    rfl
  · have inside := Window.Shows.dropped_le keeps
    omega
  · rw [received_eq, delivered_eq, Window.extract_length]

end Follows
end Reader

namespace SharedRing

variable {ι : Type}

/-- The ring keeps a history that all readers follow. -/
structure Follows (history : List Record) (shared : SharedRing ι) : Prop where
  /-- The ring keeps the history. -/
  keeps : shared.ring.Keeps history
  /-- Each reader follows it. -/
  reader : ∀ name, (shared.readers name).Follows history shared.ring.window.dropped

/-- What a batch that is cut for a reader brings. -/
theorem Follows.poll?_brings
    {history : List Record}
    {shared : SharedRing ι}
    (follows : shared.Follows history)
    (bounded : history.length < versionLimit)
    {name : ι}
    {batch : Batch}
    (cut : shared.ring.poll? (shared.readers name).cursor = some batch) :
    (batch.mode = .incremental ∧
        batch.Brings history (shared.readers name).cursor.delivered) ∨
      (batch.mode = .fullWindow ∧ batch.Brings history shared.ring.window.dropped) := by
  obtain ⟨_, ⟨mode_eq, _, brings⟩ | ⟨mode_eq, _, brings⟩⟩ :=
    follows.keeps.poll?_brings bounded cut
  · exact Or.inl ⟨mode_eq, brings⟩
  · exact Or.inr ⟨mode_eq, brings⟩

theorem follows_create
    (capacity : Nat)
    (positive : 0 < capacity) :
    (create capacity positive : SharedRing ι).Follows [] :=
  ⟨Ring.keeps_new capacity positive, fun _ => Reader.Follows.start⟩

/-- A reader gets a full window exactly if a pending record is no longer held. -/
theorem Follows.poll?_fullWindow_iff
    {history : List Record}
    {shared : SharedRing ι}
    (follows : shared.Follows history)
    (bounded : history.length < versionLimit)
    (name : ι) :
    (∃ batch, shared.ring.poll? (shared.readers name).cursor = some batch ∧
        batch.mode = .fullWindow) ↔
      ∃ index, history.length - (shared.readers name).pending.length ≤ index ∧
        index < history.length - shared.ring.size := by
  have dropped_eq : history.length - shared.ring.size = shared.ring.window.dropped := by
    rw [Ring.size, Window.dropped, ← Window.Shows.total_eq follows.keeps]
  have delivered_eq : history.length - (shared.readers name).pending.length =
      (shared.readers name).cursor.delivered := by
    have inside := (follows.reader name).delivered_le
    rw [(follows.reader name).pending_eq, List.length_drop]
    omega
  rw [dropped_eq, delivered_eq]
  constructor
  · rintro ⟨batch, cut, mode_eq⟩
    obtain ⟨_, ⟨contrary, _⟩ | ⟨_, lost, _⟩⟩ := follows.keeps.poll?_brings bounded cut
    · rw [mode_eq] at contrary
      cases contrary
    · exact ⟨_, Nat.le_refl _, lost⟩
  · rintro ⟨index, behind, before⟩
    have inside := Window.Shows.dropped_le follows.keeps
    cases cut : shared.ring.poll? (shared.readers name).cursor with
    | none =>
        rw [follows.keeps.poll?_eq_none_iff] at cut
        omega
    | some batch =>
        obtain ⟨_, ⟨_, held, _⟩ | ⟨mode_eq, _, _⟩⟩ := follows.keeps.poll?_brings bounded cut
        · omega
        · exact ⟨batch, rfl, mode_eq⟩

variable [DecidableEq ι]

theorem Follows.deliver
    {history : List Record}
    {shared : SharedRing ι}
    (follows : shared.Follows history)
    {name : ι}
    {batch : Batch}
    (brings :
      (batch.mode = .incremental ∧
          batch.Brings history (shared.readers name).cursor.delivered) ∨
        (batch.mode = .fullWindow ∧ batch.Brings history shared.ring.window.dropped)) :
    (shared.deliver name batch).Follows history := by
  refine ⟨follows.keeps, fun other => ?_⟩
  by_cases same : other = name
  · subst same
    simp only [SharedRing.deliver, if_pos]
    exact (follows.reader other).receive follows.keeps brings
  · simp only [SharedRing.deliver, if_neg same]
    exact follows.reader other

theorem Follows.perform
    {history : List Record}
    {shared : SharedRing ι}
    (follows : shared.Follows history)
    (operation : Operation ι)
    (bounded : history.length < versionLimit) :
    (shared.perform operation).1.Follows (history ++ operation.record?.toList) := by
  cases operation with
  | push record =>
      have grows := follows.keeps.dropped_le_push record
      exact ⟨follows.keeps.push record, fun name => (follows.reader name).await grows record⟩
  | poll name =>
      simp only [Operation.record?, Option.toList_none, List.append_nil, SharedRing.perform]
      split
      · next batch cut => exact follows.deliver (follows.poll?_brings bounded cut)
      · exact follows
  | fullWindow name =>
      simp only [Operation.record?, Option.toList_none, List.append_nil, SharedRing.perform]
      exact follows.deliver (Or.inr ⟨rfl, follows.keeps.fullWindow_brings bounded⟩)

theorem Follows.after
    {history : List Record}
    {shared : SharedRing ι}
    (follows : shared.Follows history)
    (operations : List (Operation ι))
    (bounded : (history ++ pushed operations).length < versionLimit) :
    (shared.after operations).Follows (history ++ pushed operations) := by
  refine preserved_of_step Follows ?_ follows operations bounded
  intro history shared operation follows short
  exact follows.perform operation short

/-- No operation changes how many records a ring can hold. -/
theorem capacity_after
    (operations : List (Operation ι))
    (shared : SharedRing ι) :
    (shared.after operations).ring.capacity = shared.ring.capacity := by
  induction operations generalizing shared with
  | nil => rfl
  | cons operation operations inductionHypothesis =>
      rw [after, List.foldl_cons]
      apply (inductionHypothesis _).trans
      cases operation with
      | push record => rfl
      | poll name =>
          simp only [perform]
          split <;> rfl
      | fullWindow name => rfl

/-- What a ring holds after the pushes of a history, and what each reader gets
when it asks for a batch. -/
structure Serves (capacity : Nat) (history : List Record) (shared : SharedRing ι) : Prop where
  /-- The ring holds the newest records, as many as its capacity allows. -/
  items_eq : shared.ring.window.items =
    history.drop (history.length - min capacity history.length)
  /-- A reader gets no batch exactly if no record is pending. -/
  none_iff : ∀ name,
    (shared.perform (.poll name)).2 = none ↔ (shared.readers name).pending = []
  /-- A reader gets a full window exactly if a pending record is no longer held. -/
  fullWindow_iff : ∀ name,
    (∃ batch, (shared.perform (.poll name)).2 = some batch ∧ batch.mode = .fullWindow) ↔
      ∃ index, history.length - (shared.readers name).pending.length ≤ index ∧
        index < history.length - shared.ring.size
  /-- An increment brings the pending records. -/
  increment_eq : ∀ name batch, (shared.perform (.poll name)).2 = some batch →
    batch.mode = .incremental → batch.events = (shared.readers name).pending
  /-- A full window is cut for every reader that asks for it. -/
  fullWindow_of_asked : ∀ name,
    ∃ batch, (shared.perform (.fullWindow name)).2 = some batch ∧ batch.mode = .fullWindow
  /-- A full window brings the held records. -/
  window_eq : ∀ operation batch, (shared.perform operation).2 = some batch →
    batch.mode = .fullWindow → batch.events = shared.ring.window.items
  /-- The version of a batch counts the pushed records. -/
  version_eq : ∀ operation batch, (shared.perform operation).2 = some batch →
    batch.version.toInt = history.length
  /-- After a delivery the reader has received a suffix of the history. -/
  suffix : ∀ operation batch name, (shared.perform operation).2 = some batch →
    operation.reader? = some name →
      ((shared.perform operation).1.readers name).received <:+ history
  /-- After a delivery the reader has received every held record. -/
  covers : ∀ operation batch name, (shared.perform operation).2 = some batch →
    operation.reader? = some name →
      shared.ring.window.items <:+ ((shared.perform operation).1.readers name).received

/-- A batch that an operation delivers was cut for the reader who asked. -/
theorem Follows.perform_brings
    {history : List Record}
    {shared : SharedRing ι}
    (follows : shared.Follows history)
    (bounded : history.length < versionLimit)
    {operation : Operation ι}
    {batch : Batch}
    (delivered : (shared.perform operation).2 = some batch) :
    ∃ name, operation.reader? = some name ∧
      (shared.perform operation).1 = shared.deliver name batch ∧
      ((batch.mode = .incremental ∧
          batch.Brings history (shared.readers name).cursor.delivered) ∨
        (batch.mode = .fullWindow ∧ batch.Brings history shared.ring.window.dropped)) := by
  cases operation with
  | push record => cases delivered
  | poll name =>
      simp only [SharedRing.perform] at delivered ⊢
      split at delivered
      · next cut =>
        cases delivered
        exact ⟨name, rfl, rfl, follows.poll?_brings bounded cut⟩
      · cases delivered
  | fullWindow name =>
      cases delivered
      exact ⟨name, rfl, rfl, Or.inr ⟨rfl, follows.keeps.fullWindow_brings bounded⟩⟩

/-- What a reader has received after a delivery goes to the end of the history
and begins no later than the oldest held record. -/
theorem Follows.received_eq
    {history : List Record}
    {shared : SharedRing ι}
    (follows : shared.Follows history)
    (bounded : history.length < versionLimit)
    {operation : Operation ι}
    {batch : Batch}
    {name : ι}
    (delivered : (shared.perform operation).2 = some batch)
    (asked : operation.reader? = some name) :
    ∃ first, first ≤ shared.ring.window.dropped ∧
      ((shared.perform operation).1.readers name).received = history.drop first := by
  obtain ⟨other, askedOther, after_eq, brings⟩ := follows.perform_brings bounded delivered
  rw [asked] at askedOther
  cases askedOther
  have reader_eq : (shared.perform operation).1.readers name =
      (shared.readers name).receive shared.ring batch := by
    rw [after_eq]
    exact if_pos rfl
  rw [reader_eq]
  exact (follows.reader name).received_receive brings

/-- A reader at the end of the history is the one for whom nothing is pending. -/
theorem Follows.poll_eq_none_iff
    {history : List Record}
    {shared : SharedRing ι}
    (follows : shared.Follows history)
    (name : ι) :
    (shared.perform (.poll name)).2 = none ↔ (shared.readers name).pending = [] := by
  rw [answer_poll, follows.keeps.poll?_eq_none_iff, (follows.reader name).pending_eq,
    List.drop_eq_nil_iff]

/-- Readers that follow the history of their ring are served by it. -/
theorem Follows.serves
    {history : List Record}
    {shared : SharedRing ι}
    (follows : shared.Follows history)
    (bounded : history.length < versionLimit) :
    shared.Serves shared.ring.capacity history := by
  refine {
    items_eq := ?items
    none_iff := follows.poll_eq_none_iff
    fullWindow_iff := fun name => by
      rw [answer_poll]
      exact follows.poll?_fullWindow_iff bounded name
    increment_eq := ?increment
    fullWindow_of_asked := fun name => ⟨_, rfl, rfl⟩
    window_eq := ?window
    version_eq := ?version
    suffix := ?suffix
    covers := ?covers }
  case items =>
    rw [Window.Shows.items_eq follows.keeps, Window.Shows.dropped_eq follows.keeps]
    congr 1
    omega
  case increment =>
    intro name batch delivered mode_eq
    rcases follows.poll?_brings bounded ((answer_poll name shared).symm.trans delivered) with
      ⟨_, brings⟩ | ⟨contrary, _⟩
    · rw [brings.events_eq, (follows.reader name).pending_eq]
    · rw [mode_eq] at contrary
      cases contrary
  case window =>
    intro operation batch delivered mode_eq
    obtain ⟨name, _, _, ⟨contrary, _⟩ | ⟨_, brings⟩⟩ :=
      follows.perform_brings bounded delivered
    · rw [mode_eq] at contrary
      cases contrary
    · rw [brings.events_eq, Window.Shows.items_eq follows.keeps]
  case version =>
    intro operation batch delivered
    obtain ⟨name, _, _, ⟨_, brings⟩ | ⟨_, brings⟩⟩ := follows.perform_brings bounded delivered
    · exact brings.version_eq
    · exact brings.version_eq
  case suffix =>
    intro operation batch name delivered asked
    obtain ⟨first, _, received_eq⟩ := follows.received_eq bounded delivered asked
    rw [received_eq]
    exact List.drop_suffix first history
  case covers =>
    intro operation batch name delivered asked
    obtain ⟨first, first_le, received_eq⟩ := follows.received_eq bounded delivered asked
    rw [received_eq, Window.Shows.items_eq follows.keeps]
    exact List.drop_suffix_drop_left history first_le

/-- **Delivery law.** Whatever is pushed and whichever readers ask for batches,
the ring holds the newest records and serves each reader without gaps and
repetitions. -/
theorem serves_after
    (capacity : Nat)
    (positive : 0 < capacity)
    (operations : List (Operation ι))
    (bounded : (pushed operations).length < versionLimit) :
    ((create capacity positive : SharedRing ι).after operations).Serves capacity
      (pushed operations) := by
  have follows := (follows_create (ι := ι) capacity positive).after operations bounded
  have capacity_eq : ((create capacity positive : SharedRing ι).after operations).ring.capacity =
      capacity := capacity_after operations _
  rw [List.nil_append] at follows
  have serves := follows.serves bounded
  rw [capacity_eq] at serves
  exact serves

/-- Three records are pushed into a ring for two of them, after the first was
delivered to one of two readers. -/
theorem serves_after_overrun :
    let record : Record := .ofMembers [("src", .string "a"), ("dst", .string "b")]
    let operations : List (Operation Bool) :=
      [.push record, .poll true, .push record, .push record, .push record, .poll true,
        .fullWindow false, .poll false]
    0 < 2 ∧ (pushed operations).length < versionLimit ∧
      ((create 2 (by decide) : SharedRing Bool).after operations).Serves 2
        (pushed operations) := by
  intro record operations
  have bounded : (pushed operations).length < versionLimit := by decide
  exact ⟨by decide, bounded, serves_after 2 (by decide) operations bounded⟩

end SharedRing
end TrafficGraph
