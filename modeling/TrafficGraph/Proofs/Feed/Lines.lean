import TrafficGraph.Feed.Ingest
import TrafficGraph.Proofs.Json.Decoding
import TrafficGraph.Proofs.Json.Printing
import TrafficGraph.Proofs.Text.Trimming

/-!
# Taking in records line by line

An input falls into lines at its line feeds.  Each line is blank, holds a record or cannot be
read, whatever the other lines are, and exactly the records are pushed.  So an input can be
taken in by parts that end between lines, and what is printed one record a line is taken in
completely.
-/

namespace TrafficGraph

namespace Json

/-- A text is parsed as a record exactly if it writes an object that is not nested too
deeply. -/
theorem parse?_record_eq_some_iff
    {input : Bytes}
    {record : Record} :
    (Wire.parse? input : Option Record) = some record ↔
      ∃ members, Writes input (.object members) ∧
        nesting (.object members) < nestingAllowance ∧ record = Record.ofMembers members := by
  have positive : 0 < nestingAllowance := by decide
  constructor
  · intro parsed
    obtain ⟨tree, taken, decoded⟩ := Option.bind_eq_some_iff.1 parsed
    obtain ⟨members, isValue, record_eq⟩ :=
      Decoder.record_eq_ok_iff.1 (toOption_eq_some_iff.1 decoded)
    obtain ⟨rfl, fits⟩ := (value_eq_ok_iff positive).1 isValue
    exact ⟨members, readWhole_eq_some_iff.1 taken, fits, record_eq⟩
  · rintro ⟨members, writes, fits, record_eq⟩
    refine Option.bind_eq_some_iff.2 ⟨_, readWhole_eq_some_iff.2 writes, ?_⟩
    have decoded := Decoder.record_eq_ok_iff.2
      ⟨members, (value_eq_ok_iff positive).2 ⟨rfl, fits⟩, record_eq⟩
    exact toOption_eq_some_iff.2 decoded

end Json

/-! ## Lines -/

/-- Lines make up an input: they stand between its line feeds. -/
structure AreLines (lines : List Bytes) (input : Bytes) : Prop where
  nonempty : lines ≠ []
  noLineFeed : ∀ line ∈ lines, 0x0A ∉ line
  joined : Text.join 0x0A lines = input

/-- There is nothing but white space on a line. -/
def IsBlankLine (line : Bytes) : Prop :=
  ∀ byte ∈ line, isLineSpace byte = true

/-- A line holds a record: between white space it writes one JSON object, in which no more
containers stand inside each other than the decoder allows. -/
def HoldsRecord (line : Bytes) (record : Record) : Prop :=
  ∃ members, Json.Writes (Text.trimEnds isLineSpace line) (.object members) ∧
    Json.nesting (.object members) < Json.nestingAllowance ∧ record = Record.ofMembers members

/-- There is something on a line, but no record. -/
def IsUnreadable (line : Bytes) : Prop :=
  ¬IsBlankLine line ∧ ∀ record, ¬HoldsRecord line record

/-- Lines hold some records, and so many of the lines cannot be read. -/
inductive Yields : List Bytes → List Record → Nat → Prop
  | done : Yields [] [] 0
  | blank {line : Bytes} {lines : List Bytes} {records : List Record} {skipped : Nat}
      (isBlank : IsBlankLine line) (rest : Yields lines records skipped) :
      Yields (line :: lines) records skipped
  | record {line : Bytes} {lines : List Bytes} {record : Record} {records : List Record}
      {skipped : Nat} (holds : HoldsRecord line record) (rest : Yields lines records skipped) :
      Yields (line :: lines) (record :: records) skipped
  | skip {line : Bytes} {lines : List Bytes} {records : List Record} {skipped : Nat}
      (isUnreadable : IsUnreadable line) (rest : Yields lines records skipped) :
      Yields (line :: lines) records (skipped + 1)

/-- The counts of two inputs together. -/
def IngestStats.plus (first second : IngestStats) : IngestStats :=
  ⟨first.accepted + second.accepted, first.skipped + second.skipped⟩

namespace Ring

/-- Pushes records one after the other. -/
def pushAll (records : List Record) (ring : Ring) : Ring :=
  records.foldl (fun ring record => ring.push record) ring

/-! ## One line -/

variable {ring : Ring} {stats : IngestStats} {line : Bytes}

theorem ingestLine_of_isBlankLine (isBlank : IsBlankLine line) :
    ingestLine (ring, stats) line = (ring, stats) := by
  rw [ingestLine, Text.trimEnds_eq_nil_iff.2 isBlank]

theorem ingestLine_of_not_isBlankLine (notBlank : ¬IsBlankLine line) :
    ingestLine (ring, stats) line =
      match (Wire.parse? (Text.trimEnds isLineSpace line) : Option Record) with
      | some record => (ring.push record, stats.plus ⟨1, 0⟩)
      | none => (ring, stats.plus ⟨0, 1⟩) := by
  rw [ingestLine]
  split
  · next blank => exact absurd (Text.trimEnds_eq_nil_iff.1 blank) notBlank
  · rfl

theorem not_isBlankLine_of_holdsRecord
    {record : Record}
    (holds : HoldsRecord line record) :
    ¬IsBlankLine line := by
  obtain ⟨members, writes, _⟩ := holds
  exact fun isBlank => writes.ne_nil (Text.trimEnds_eq_nil_iff.2 isBlank)

theorem ingestLine_of_holdsRecord
    {record : Record}
    (holds : HoldsRecord line record) :
    ingestLine (ring, stats) line = (ring.push record, stats.plus ⟨1, 0⟩) := by
  rw [ingestLine_of_not_isBlankLine (not_isBlankLine_of_holdsRecord holds),
    Json.parse?_record_eq_some_iff.2 holds]

theorem ingestLine_of_isUnreadable (isUnreadable : IsUnreadable line) :
    ingestLine (ring, stats) line = (ring, stats.plus ⟨0, 1⟩) := by
  obtain ⟨notBlank, noRecord⟩ := isUnreadable
  have notParsed : (Wire.parse? (Text.trimEnds isLineSpace line) : Option Record) = none :=
    Option.eq_none_iff_forall_ne_some.2 fun record parsed =>
      noRecord record (Json.parse?_record_eq_some_iff.1 parsed)
  rw [ingestLine_of_not_isBlankLine notBlank, notParsed]

/-- What stands on a line does not depend on the line feed behind it. -/
theorem ingestLine_append_lineFeed (state : Ring × IngestStats) (line : Bytes) :
    ingestLine state (line ++ [0x0A]) = ingestLine state line := by
  have lineFeed : ∀ byte ∈ [(0x0A : UInt8)], isLineSpace byte = true :=
    List.forall_mem_singleton.2 rfl
  obtain ⟨ring, stats⟩ := state
  rw [ingestLine, ingestLine, Text.trimEnds_append_right line lineFeed]

/-! ## All lines -/

theorem cutLine_append_lineFeed
    {line : Bytes}
    (noLineFeed : 0x0A ∉ line)
    (rest : Bytes) :
    cutLine (line ++ 0x0A :: rest) = (line ++ [0x0A], rest) := by
  induction line with
  | nil => rfl
  | cons byte line inductionHypothesis =>
      obtain ⟨notHere, notLater⟩ := not_or.1 (mt List.mem_cons.2 noLineFeed)
      rw [List.cons_append, cutLine, if_neg (Ne.symm notHere), inductionHypothesis notLater]
      rfl

theorem cutLine_of_not_mem
    {line : Bytes}
    (noLineFeed : 0x0A ∉ line) :
    cutLine line = (line, []) := by
  induction line with
  | nil => rfl
  | cons byte line inductionHypothesis =>
      obtain ⟨notHere, notLater⟩ := not_or.1 (mt List.mem_cons.2 noLineFeed)
      rw [cutLine, if_neg (Ne.symm notHere), inductionHypothesis notLater]

theorem ingestLines_nil (state : Ring × IngestStats) : ingestLines state [] = state := by
  rw [ingestLines]
  exact if_pos rfl

theorem ingest_nil (ring : Ring) : ring.ingest [] = (ring, ⟨0, 0⟩) :=
  ingestLines_nil (ring, ⟨0, 0⟩)

theorem ingestLines_append_lineFeed
    {line : Bytes}
    (noLineFeed : 0x0A ∉ line)
    (state : Ring × IngestStats)
    (rest : Bytes) :
    ingestLines state (line ++ 0x0A :: rest) = ingestLines (ingestLine state line) rest := by
  rw [ingestLines, cutLine_append_lineFeed noLineFeed]
  rw [if_neg (by simp), ingestLine_append_lineFeed]

theorem ingestLines_of_not_mem
    {line : Bytes}
    (noLineFeed : 0x0A ∉ line)
    (state : Ring × IngestStats) :
    ingestLines state line = ingestLine state line := by
  rw [ingestLines, cutLine_of_not_mem noLineFeed]
  split
  · next empty =>
    rw [show line = [] from empty]
    rfl
  · exact ingestLines_nil _

/-- The lines of an input are taken in one after the other. -/
theorem ingestLines_eq_foldl
    {lines : List Bytes}
    {input : Bytes}
    (areLines : AreLines lines input)
    (state : Ring × IngestStats) :
    ingestLines state input = lines.foldl ingestLine state := by
  obtain ⟨nonempty, noLineFeed, rfl⟩ := areLines
  induction lines generalizing state with
  | nil => contradiction
  | cons line lines inductionHypothesis =>
      obtain ⟨notHere, notLater⟩ := List.forall_mem_cons.1 noLineFeed
      cases lines with
      | nil => exact ingestLines_of_not_mem notHere state
      | cons next lines =>
          rw [Text.join_cons_cons, ingestLines_append_lineFeed notHere]
          exact inductionHypothesis (ingestLine state line) (List.cons_ne_nil next lines) notLater

/-- What lines yield is pushed and counted. -/
theorem foldl_ingestLine
    {lines : List Bytes}
    {records : List Record}
    {skipped : Nat}
    (yields : Yields lines records skipped)
    (ring : Ring)
    (stats : IngestStats) :
    lines.foldl ingestLine (ring, stats) =
      (ring.pushAll records, stats.plus ⟨records.length, skipped⟩) := by
  induction yields generalizing ring stats with
  | done => rfl
  | blank isBlank _ inductionHypothesis =>
      rw [List.foldl_cons, ingestLine_of_isBlankLine isBlank, inductionHypothesis]
  | record holds _ inductionHypothesis =>
      rw [List.foldl_cons, ingestLine_of_holdsRecord holds, inductionHypothesis]
      simp [pushAll, IngestStats.plus, Nat.add_assoc, Nat.add_comm 1]
  | skip isUnreadable _ inductionHypothesis =>
      rw [List.foldl_cons, ingestLine_of_isUnreadable isUnreadable, inductionHypothesis]
      simp [IngestStats.plus, Nat.add_assoc, Nat.add_comm 1]

/-- A part of an input that ends between lines is taken in before the rest. -/
theorem ingestLines_append
    {lines : List Bytes}
    {front : Bytes}
    (areLines : AreLines lines front)
    (state : Ring × IngestStats)
    (rest : Bytes) :
    ingestLines state (front ++ 0x0A :: rest) =
      ingestLines (lines.foldl ingestLine state) rest := by
  obtain ⟨nonempty, noLineFeed, rfl⟩ := areLines
  induction lines generalizing state with
  | nil => contradiction
  | cons line lines inductionHypothesis =>
      obtain ⟨notHere, notLater⟩ := List.forall_mem_cons.1 noLineFeed
      cases lines with
      | nil => exact ingestLines_append_lineFeed notHere state rest
      | cons next lines =>
          rw [Text.join_cons_cons, List.append_assoc, List.cons_append,
            ingestLines_append_lineFeed notHere]
          exact inductionHypothesis (ingestLine state line) (List.cons_ne_nil next lines) notLater

end Ring

/-- The lines of an input are its pieces between line feeds. -/
theorem areLines_iff
    {lines : List Bytes}
    {input : Bytes} :
    AreLines lines input ↔ lines = Text.pieces 0x0A input := by
  constructor
  · rintro ⟨nonempty, noLineFeed, rfl⟩
    exact (Text.pieces_join nonempty noLineFeed).symm
  · rintro rfl
    exact ⟨Text.pieces_ne_nil 0x0A input, fun _ => Text.not_mem_of_mem_pieces,
      Text.join_pieces 0x0A input⟩

theorem exists_yields (lines : List Bytes) : ∃ records skipped, Yields lines records skipped := by
  induction lines with
  | nil => exact ⟨[], 0, .done⟩
  | cons line lines inductionHypothesis =>
      obtain ⟨records, skipped, yields⟩ := inductionHypothesis
      by_cases isBlank : IsBlankLine line
      · exact ⟨records, skipped, .blank isBlank yields⟩
      by_cases holds : ∃ record, HoldsRecord line record
      · obtain ⟨record, holds⟩ := holds
        exact ⟨record :: records, skipped, .record holds yields⟩
      · exact ⟨records, skipped + 1, .skip ⟨isBlank, not_exists.1 holds⟩ yields⟩

namespace Ring

/-- Counting from other counts adds them. -/
theorem ingestLines_eq_plus
    (ring : Ring)
    (stats : IngestStats)
    (input : Bytes) :
    ingestLines (ring, stats) input =
      ((ring.ingest input).1, stats.plus (ring.ingest input).2) := by
  have areLines := areLines_iff.2 (rfl : Text.pieces 0x0A input = _)
  obtain ⟨records, skipped, yields⟩ := exists_yields (Text.pieces 0x0A input)
  rw [ingest, ingestLines_eq_foldl areLines, ingestLines_eq_foldl areLines,
    foldl_ingestLine yields, foldl_ingestLine yields]
  simp [IngestStats.plus]

end Ring

/-! ## Written records -/

/-- What may stand behind a record on its line. -/
def lineEndings : List Bytes :=
  [[0x0A], [0x0D, 0x0A]]

/-- Records are written one a line, with any blank lines between them. -/
inductive WritesRecords : Bytes → List Record → Prop
  | done : WritesRecords [] []
  | blank {line rest : Bytes} {records : List Record} (isBlank : IsBlankLine line)
      (noLineFeed : 0x0A ∉ line) (written : WritesRecords rest records) :
      WritesRecords (line ++ 0x0A :: rest) records
  | record {record : Record} {ending rest : Bytes} {records : List Record}
      (isEnding : ending ∈ lineEndings) (written : WritesRecords rest records) :
      WritesRecords (Json.print record.toJson ++ ending ++ rest) (record :: records)

/-- The records that survive being written and taken in: they hold no floating point number,
and no more containers stand inside each other than the decoder allows. -/
def Record.IsPortable (record : Record) : Prop :=
  Json.IsExact record.toJson ∧ Json.nesting record.toJson < Json.nestingAllowance

/-- What is printed for a record holds it, with or without a carriage return behind it. -/
theorem holdsRecord_print
    {record : Record}
    (isPortable : record.IsPortable)
    {back : Bytes}
    (isBlank : IsBlankLine back) :
    HoldsRecord (Json.print record.toJson ++ back) record := by
  obtain ⟨isExact, fits⟩ := isPortable
  obtain ⟨text, denotes, print_eq⟩ := Json.exists_denotes_print isExact
  have record_eq : record = .ofMembers record.members := (Record.ofMembers_members record).symm
  refine ⟨record.members, ⟨text, denotes.toWithin, ?_⟩, fits, record_eq⟩
  rw [Text.trimEnds_append_right _ isBlank, ← print_eq, Record.toJson, Json.print, List.cons_append,
    Text.trimEnds_enclosed (by decide) (by decide)]

theorem lineFeed_not_mem_print
    {record : Record}
    (isPortable : record.IsPortable) :
    0x0A ∉ Json.print record.toJson := fun member =>
  absurd (Json.isPrintable_print isPortable.1 0x0A member) (by decide)

namespace Ring

theorem ingestLines_of_writesRecords
    {input : Bytes}
    {records : List Record}
    (writes : WritesRecords input records)
    (arePortable : ∀ record ∈ records, record.IsPortable)
    (ring : Ring)
    (stats : IngestStats) :
    ingestLines (ring, stats) input =
      (ring.pushAll records, stats.plus ⟨records.length, 0⟩) := by
  induction writes generalizing ring stats with
  | done => exact ingestLines_nil _
  | blank isBlank noLineFeed _ inductionHypothesis =>
      rw [ingestLines_append_lineFeed noLineFeed, ingestLine_of_isBlankLine isBlank,
        inductionHypothesis arePortable]
  | @record record ending rest records isEnding _ inductionHypothesis =>
      obtain ⟨isPortable, othersPortable⟩ := List.forall_mem_cons.1 arePortable
      obtain ⟨back, isBlank, noLineFeed, rfl⟩ :
          ∃ back, IsBlankLine back ∧ 0x0A ∉ back ∧ ending = back ++ [0x0A] := by
        simp only [lineEndings, List.mem_cons, List.not_mem_nil, or_false] at isEnding
        rcases isEnding with rfl | rfl
        · exact ⟨[], List.forall_mem_nil _, List.not_mem_nil, rfl⟩
        · exact ⟨[0x0D], by simp [IsBlankLine, isLineSpace], by decide, rfl⟩
      have noLineFeed : 0x0A ∉ Json.print record.toJson ++ back := fun member =>
        (List.mem_append.1 member).elim (lineFeed_not_mem_print isPortable) noLineFeed
      rw [← List.append_assoc, List.append_assoc, List.singleton_append,
        ingestLines_append_lineFeed noLineFeed,
        ingestLine_of_holdsRecord (holdsRecord_print isPortable isBlank),
        inductionHypothesis othersPortable]
      simp [pushAll, IngestStats.plus, Nat.add_assoc, Nat.add_comm 1]

end Ring

/-! ## The whole input -/

/-- An input is taken in line by line, and nothing that is written in lines is lost. -/
structure Ring.TakesLines (ring : Ring) : Prop where
  /-- Every input has lines, and each of them is blank, holds a record or cannot be read. -/
  yields : ∀ input, ∃ lines records skipped, AreLines lines input ∧ Yields lines records skipped
  /-- Exactly the records of the lines are pushed, in their order, and the lines with and
  without a record are counted. -/
  takes : ∀ {input lines records skipped}, AreLines lines input → Yields lines records skipped →
    ring.ingest input = (ring.pushAll records, ⟨records.length, skipped⟩)
  /-- A line holds one record at most. -/
  unique : ∀ {line first second}, HoldsRecord line first → HoldsRecord line second →
    first = second
  /-- Lines that are no UTF-8 cannot be read. -/
  encoded : ∀ {line}, ¬IsBlankLine line → ofUtf8? (Text.trimEnds isLineSpace line) = none →
    IsUnreadable line
  /-- A line that cannot be read is counted, and the others are taken in as if it were not
  there. -/
  neighbours : ∀ {before line after input shorter}, IsUnreadable line →
    AreLines (before ++ line :: after) input → AreLines (before ++ after) shorter →
      ring.ingest input = ((ring.ingest shorter).1, (ring.ingest shorter).2.plus ⟨0, 1⟩)
  /-- An input can be taken in by parts that end between lines. -/
  parts : ∀ {first} second, first = [] ∨ first.getLast? = some 0x0A →
    ring.ingest (first ++ second) = (((ring.ingest first).1.ingest second).1,
      (ring.ingest first).2.plus ((ring.ingest first).1.ingest second).2)
  /-- Records that are written one a line are all taken in. -/
  written : ∀ {input records}, WritesRecords input records →
    (∀ record ∈ records, record.IsPortable) →
      ring.ingest input = (ring.pushAll records, ⟨records.length, 0⟩)

end TrafficGraph
