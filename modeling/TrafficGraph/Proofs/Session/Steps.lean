import TrafficGraph.Proofs.Session.Positions

/-!
# Steps of a run

A run is told step by step, each operation together with the session to which it was done,
since what an operation answers depends on both.  A step discards the graph if it is a reset
or a full window that is folded; the graph that stands after a run was made by the steps
since the last discard.
-/

namespace TrafficGraph

namespace BatchOutcome

/-- The batch was folded. -/
@[simp] def isApplied : BatchOutcome → Bool
  | .applied _ _ _ => true
  | _ => false

/-- The version of the batch was not new. -/
@[simp] def isStale : BatchOutcome → Bool
  | .stale _ => true
  | _ => false

/-- The session had no source. -/
@[simp] def isNotApplicable : BatchOutcome → Bool
  | .notApplicable => true
  | _ => false

/-- The batch was folded into an empty graph. -/
@[simp] def isReset : BatchOutcome → Bool
  | .applied _ _ reset => reset
  | _ => false

/-- The records that described a connection. -/
@[simp] def folded : BatchOutcome → Nat
  | .applied folded _ _ => folded
  | _ => 0

/-- The records that described none. -/
@[simp] def skipped : BatchOutcome → Nat
  | .applied _ skipped _ => skipped
  | _ => 0

end BatchOutcome

namespace Session

/-- An operation together with the session to which it was done. -/
structure Step where
  /-- The session before the operation. -/
  session : Session
  /-- The operation. -/
  operation : Operation

namespace Step

/-- The answer to a delivered batch. -/
def outcome? (step : Step) : Option BatchOutcome :=
  match step.operation with
  | .applyBatch clock batch now => some (step.session.applyBatch clock batch now).2
  | _ => none

/-- A mapping was replaced by another one or by none, or options were answered with the
news that the graph is discarded. -/
def isReset (step : Step) : Bool :=
  match step.operation with
  | .setSource _ source =>
    step.session.hasSource && step.session.mapping != (Source.inspect source).fields
  | .setOptions clock options =>
    match step.session.setOptions clock options with
    | .ok (_, reset) => reset
    | .error _ => false
  | _ => false

/-- A full window was folded. -/
def isRebuild (step : Step) : Bool :=
  step.outcome?.any BatchOutcome.isReset

/-- The step discards the graph. -/
def isDiscard (step : Step) : Bool :=
  step.isReset || step.isRebuild

/-- Stale entries were demoted. -/
def isTick (step : Step) : Bool :=
  match step.operation with
  | .tick _ _ => true
  | _ => false

/-- The records that were delivered and folded or skipped. -/
def appliedRecords (step : Step) : List Record :=
  if step.outcome?.any BatchOutcome.isApplied then
    step.operation.batch?.toList.flatMap Batch.events
  else []

end Step

/-- The steps of a run. -/
def steps : List Operation → Session → List Step
  | [], _ => []
  | operation :: operations, session =>
    ⟨session, operation⟩ :: steps operations (session.perform operation)

/-- The answers to the batches that were delivered, in order. -/
def answers (history : List Step) : List BatchOutcome :=
  history.filterMap Step.outcome?

/-- The steps since the last discard after one more step; a reset leaves none, and a full
window stands alone. -/
def keep (kept : List Step) (step : Step) : List Step :=
  if step.isReset then []
  else if step.isRebuild then [step]
  else kept ++ [step]

/-- The steps since the graph was discarded last. -/
def sinceDiscard (history : List Step) : List Step :=
  history.foldl keep []

theorem answers_append (first second : List Step) :
    answers (first ++ second) = answers first ++ answers second :=
  List.filterMap_append

namespace Step

/-! ## Steps that discard the graph -/

/-- A step is a reset if and only if its operation discards the graph. -/
theorem isReset_iff
    (session : Session)
    (operation : Operation) :
    (Step.mk session operation).isReset = true ↔ session.Discards operation := by
  cases operation with
  | setSource clock source =>
      rw [isReset, Discards, Bool.and_eq_true, bne_iff_ne, hasSource,
        Option.isSome_iff_ne_none]
  | setOptions clock options =>
      rw [isReset, Discards]
      cases usable : options.validate with
      | error fault => simp [setOptions, usable, bind, Except.bind]
      | ok _ =>
          by_cases same : session.options.portThreshold = options.portThreshold
          · simp [setOptions, usable, same, bind, Except.bind, pure, Except.pure]
          · simp [setOptions, usable, same, bind, Except.bind, pure, Except.pure]
  | applyBatch clock batch now => exact iff_of_false Bool.false_ne_true id
  | tick clock now => exact iff_of_false Bool.false_ne_true id
  | mergePositions clock updates => exact iff_of_false Bool.false_ne_true id

/-- A reset leaves an empty graph. -/
theorem graph_eq_empty_of_isReset
    {session : Session}
    {operation : Operation}
    (reset : (Step.mk session operation).isReset = true) :
    (session.perform operation).graph = .empty :=
  ((isReset_iff session operation).1 reset).graph_eq

/-- A batch that is not a full window does not discard the graph. -/
theorem isDiscard_of_incremental
    {batch : Batch}
    (increment : batch.mode = .incremental)
    (session : Session)
    (clock : String)
    (now : UInt64) :
    (Step.mk session (.applyBatch clock batch now)).isDiscard = false := by
  change (some (session.applyBatch clock batch now).2).any BatchOutcome.isReset = false
  cases mapped : session.mapping with
  | none =>
      rw [(applyBatch_of_unmapped mapped clock batch now).1]
      rfl
  | some mapping =>
      by_cases newer : session.version < batch.version
      · rw [applyBatch_eq_of_lt mapped newer, increment]
        rfl
      · rw [(applyBatch_of_le mapped newer clock now).1]
        rfl

/-- A batch that is folded without discarding the graph is an increment. -/
theorem incremental_of_not_isDiscard
    {session : Session}
    {mapping : Source.Mapping}
    (mapped : session.mapping = some mapping)
    {clock : String}
    {batch : Batch}
    {now : UInt64}
    (newer : session.version < batch.version)
    (steady : (Step.mk session (.applyBatch clock batch now)).isDiscard = false) :
    batch.mode = .incremental := by
  cases mode_eq : batch.mode with
  | incremental => rfl
  | fullWindow =>
      have answered : (session.applyBatch clock batch now).2.isReset = false := steady
      rw [applyBatch_eq_of_lt mapped newer, mode_eq] at answered
      cases answered

end Step
end Session
end TrafficGraph
