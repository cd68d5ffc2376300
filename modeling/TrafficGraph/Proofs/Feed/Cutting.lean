import TrafficGraph.Feed.Ring
import TrafficGraph.Proofs.Window

/-!
# Batches cut from a ring

A ring that was filled by pushes keeps the newest records of its history.  A
batch that is cut from it brings the history from some place to its end, and its
version is the length of the history.  An increment starts where the cursor
stands; a full window starts at the oldest record that is still held and is cut
for a cursor that stands before it.
-/

namespace TrafficGraph

/-- The number of versions that are not negative, two to the power of 63. -/
def versionLimit : Nat := 9223372036854775808

/-- What each operation of a run preserves, while the record that it pushes is added to
the history, the whole run preserves. -/
theorem preserved_of_step
    {σ ο : Type}
    {perform : σ → ο → σ}
    {record? : ο → Option Record}
    (holds : List Record → σ → Prop)
    (step : ∀ history state operation, holds history state → history.length < versionLimit →
      holds (history ++ (record? operation).toList) (perform state operation))
    {history : List Record}
    {state : σ}
    (initial : holds history state)
    (operations : List ο)
    (bounded : (history ++ operations.filterMap record?).length < versionLimit) :
    holds (history ++ operations.filterMap record?) (operations.foldl perform state) := by
  induction operations generalizing history state with
  | nil => simpa using initial
  | cons operation operations inductionHypothesis =>
      have pushed_eq : history ++ (operation :: operations).filterMap record? =
          history ++ (record? operation).toList ++ operations.filterMap record? := by
        rw [List.filterMap_cons, List.append_assoc]
        cases record? operation <;> rfl
      rw [pushed_eq] at bounded ⊢
      have short : history.length < versionLimit := by
        simp only [List.length_append] at bounded
        omega
      exact inductionHypothesis (step history state operation initial short) bounded

/-- A batch brings the records of a history from a place on. -/
structure Batch.Brings (history : List Record) (first : Nat) (batch : Batch) : Prop where
  /-- The version counts the records of the history. -/
  version_eq : batch.version.toInt = history.length
  /-- The records are those from the place on. -/
  events_eq : batch.events = history.drop first

namespace Ring

/-- A ring keeps the newest records of a history. -/
def Keeps (history : List Record) (ring : Ring) : Prop :=
  ring.window.Shows ring.capacity history

theorem keeps_new
    (capacity : Nat)
    (positive : 0 < capacity) :
    Keeps [] ⟨capacity, positive, .empty⟩ :=
  Window.shows_empty capacity

theorem poll?_eq_none_iff
    {cursor : Cursor}
    {ring : Ring} :
    ring.poll? cursor = none ↔ ring.total ≤ cursor.delivered := by
  unfold poll?
  constructor
  · intro absent
    split at absent
    · next atEnd => exact atEnd
    · split at absent <;> cases absent
  · intro atEnd
    rw [if_pos atEnd]

namespace Keeps

variable {history : List Record} {ring : Ring}

theorem push
    (keeps : Keeps history ring)
    (record : Record) :
    Keeps (history ++ [record]) (ring.push record) :=
  Window.Shows.push keeps record

/-- A ring never takes back what it let go. -/
theorem dropped_le_push
    (keeps : Keeps history ring)
    (record : Record) :
    ring.window.dropped ≤ (ring.push record).window.dropped := by
  rw [Window.Shows.dropped_eq keeps, Window.Shows.dropped_eq (keeps.push record),
    List.length_append, List.length_singleton]
  change history.length - ring.capacity ≤ history.length + 1 - ring.capacity
  omega

theorem total_eq (keeps : Keeps history ring) : ring.total = history.length :=
  Window.Shows.total_eq keeps

/-- As long as the history has fewer records than the positive versions, the
version of a batch is the length of the history. -/
theorem toInt_version
    (keeps : Keeps history ring)
    (bounded : history.length < versionLimit) :
    ring.version.toInt = history.length := by
  rw [version, keeps.total_eq, Int64.toInt_ofNat_of_lt bounded]

/-- A full window brings the history from the oldest held record on. -/
theorem fullWindow_brings
    (keeps : Keeps history ring)
    (bounded : history.length < versionLimit) :
    ring.fullWindow.Brings history ring.window.dropped :=
  ⟨keeps.toInt_version bounded, Window.Shows.items_eq keeps⟩

theorem poll?_eq_none_iff
    (keeps : Keeps history ring)
    (cursor : Cursor) :
    ring.poll? cursor = none ↔ history.length ≤ cursor.delivered := by
  rw [Ring.poll?_eq_none_iff, keeps.total_eq]

/-- A batch that is cut for a cursor is either the increment from the cursor on,
which the ring still holds, or the full window, which starts behind the cursor. -/
theorem poll?_brings
    (keeps : Keeps history ring)
    (bounded : history.length < versionLimit)
    {cursor : Cursor}
    {batch : Batch}
    (cut : ring.poll? cursor = some batch) :
    cursor.delivered < history.length ∧
      ((batch.mode = .incremental ∧ ring.window.dropped ≤ cursor.delivered ∧
          batch.Brings history cursor.delivered) ∨
        (batch.mode = .fullWindow ∧ cursor.delivered < ring.window.dropped ∧
          batch.Brings history ring.window.dropped)) := by
  rw [poll?, keeps.total_eq] at cut
  split at cut
  · cases cut
  · next behind =>
    refine ⟨by omega, ?_⟩
    split at cut
    · next lost =>
      cases cut
      exact Or.inr ⟨rfl, lost, keeps.fullWindow_brings bounded⟩
    · next held =>
      cases cut
      have covered : ring.window.dropped ≤ cursor.delivered := by omega
      exact Or.inl ⟨rfl, covered,
        keeps.toInt_version bounded, Window.Shows.itemsSince_eq keeps covered⟩

end Keeps
end Ring
end TrafficGraph
