import TrafficGraph.Feed.Ring
import TrafficGraph.Text.Trim
import TrafficGraph.Wire.Basic

/-!
# Records from lines of JSON

Each line holds one record as a JSON object.  An input is read line by line until nothing is
left.  Lines of white space are passed over without notice; a line that holds anything else is
skipped and counted, and the lines around it are read as if it were not there.
-/

namespace TrafficGraph

/-- What became of the lines of an input. -/
structure IngestStats where
  /-- The lines whose record was pushed. -/
  accepted : Nat
  /-- The lines that held no record. -/
  skipped : Nat
  deriving DecidableEq

/-- White space around a line. -/
def isLineSpace (byte : UInt8) : Bool :=
  byte == 0x20 || byte == 0x09 || byte == 0x0A || byte == 0x0C || byte == 0x0D

/-- The bytes of an input up to its first line feed and with it, or all of them if there is
none, and the bytes that are left. -/
def cutLine : Bytes → Bytes × Bytes
  | [] => ([], [])
  | byte :: rest =>
    if byte = 0x0A then ([byte], rest)
    else
      let (line, left) := cutLine rest
      (byte :: line, left)

theorem cutLine_append (input : Bytes) : (cutLine input).1 ++ (cutLine input).2 = input := by
  induction input with
  | nil => rfl
  | cons byte rest inductionHypothesis =>
    rw [cutLine]
    split
    · rfl
    · exact congrArg (byte :: ·) inductionHypothesis

/-- Cutting off a line that is not empty leaves less. -/
theorem length_cutLine_lt {input : Bytes} (nonempty : (cutLine input).1 ≠ []) :
    (cutLine input).2.length < input.length := by
  have lengths := congrArg List.length (cutLine_append input)
  have positive := List.length_pos_iff.2 nonempty
  rw [List.length_append] at lengths
  omega

namespace Ring

/-- Pushes the record of a line, if it holds one. -/
def ingestLine : Ring × IngestStats → Bytes → Ring × IngestStats
  | (ring, stats), line =>
    match Text.trimEnds isLineSpace line with
    | [] => (ring, stats)
    | content =>
      match (Wire.parse? content : Option Record) with
      | some record => (ring.push record, { stats with accepted := stats.accepted + 1 })
      | none => (ring, { stats with skipped := stats.skipped + 1 })

/-- Takes in one line of an input after the other until nothing is left. -/
def ingestLines (state : Ring × IngestStats) (input : Bytes) : Ring × IngestStats :=
  if (cutLine input).1 = [] then state
  else ingestLines (ingestLine state (cutLine input).1) (cutLine input).2
termination_by input.length
decreasing_by exact length_cutLine_lt ‹_›

/-- Pushes the records of the lines of an input, and counts the lines. -/
def ingest (input : Bytes) (ring : Ring) : Ring × IngestStats :=
  ingestLines (ring, ⟨0, 0⟩) input

end Ring
end TrafficGraph
