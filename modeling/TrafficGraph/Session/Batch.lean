import TrafficGraph.Json.Basic

/-!
# Batches of records

A batch has a version and brings either the records since the batch before it or
all the records that its source still holds.
-/

namespace TrafficGraph

/-- How a batch relates to the one before it. -/
inductive BatchMode
  /-- The records since the batch before. -/
  | incremental
  /-- All records that the source still holds. -/
  | fullWindow
  deriving DecidableEq

/-- Records delivered together. -/
structure Batch where
  /-- The version, which grows from batch to batch. -/
  version : Int64
  /-- How the batch relates to the one before. -/
  mode : BatchMode
  /-- The records, oldest first. -/
  events : List Record

/-- What a session did with a batch. -/
inductive BatchOutcome
  /-- The session has no source with address fields. -/
  | notApplicable
  /-- A batch of this version or a later one was processed before. -/
  | stale (lastVersion : Int64)
  /-- The records were folded, into an empty graph after a reset. -/
  | applied (folded skipped : Nat) (reset : Bool)
  deriving DecidableEq

end TrafficGraph
