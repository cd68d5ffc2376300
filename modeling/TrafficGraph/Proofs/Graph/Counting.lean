import TrafficGraph.Proofs.Graph.Traffic
import TrafficGraph.Proofs.Window

/-!
# Counting observations

The event counts of a graph add up to the number of connections that were folded
into it, as long as that number fits into a word.  So a graph tells how many of its
records describe connections, and a graph that is one fold of a stretch of a history
accounts for no record outside of the stretch.
-/

namespace TrafficGraph

/-- The sum of the event counts of edges. -/
def EdgeTraffic.total : List EdgeTraffic → Nat
  | [] => 0
  | edge :: edges => edge.eventCount.toNat + total edges

theorem EdgeTraffic.total_append
    (edges : List EdgeTraffic)
    (added : EdgeTraffic) :
    total (edges ++ [added]) = total edges + added.eventCount.toNat := by
  induction edges with
  | nil => simp only [List.nil_append, total, Nat.add_zero, Nat.zero_add]
  | cons edge edges inductionHypothesis =>
      rw [List.cons_append, total, total, inductionHypothesis, Nat.add_assoc]

namespace Traffic

/-- The sum of all event counts. -/
def eventTotal (traffic : Traffic) : Nat :=
  EdgeTraffic.total traffic.edges

/-- The keys of the edges are distinct. -/
def IsKeyed (traffic : Traffic) : Prop :=
  (traffic.edges.map EdgeTraffic.key).Nodup

theorem keys_count
    (key : EdgeKey)
    (byteCount : UInt64)
    (edges : List EdgeTraffic) :
    (edges.map fun edge => if edge.key = key then edge.observe byteCount else edge).map
        EdgeTraffic.key =
      edges.map EdgeTraffic.key := by
  rw [List.map_map]
  apply List.map_congr_left
  intro edge _
  simp only [Function.comp]
  split
  · rfl
  · rfl

theorem IsKeyed.observe
    {traffic : Traffic}
    (keyed : traffic.IsKeyed)
    (threshold : UInt16)
    (connection : Source.Connection) :
    (traffic.observe threshold connection).IsKeyed := by
  rw [IsKeyed, Traffic.observe, observeEdge]
  split
  · rw [keys_count]
    exact keyed
  · next fresh =>
    rw [List.map_append, List.nodup_append]
    refine ⟨keyed, by simp, ?_⟩
    intro listed isListed added isAdded equality
    rw [List.map_singleton, List.mem_singleton] at isAdded
    rw [equality, isAdded] at isListed
    exact fresh isListed

/-- Counting an observation for one of several edges with distinct keys adds one to
the sum of their counts, unless the count is full. -/
theorem total_count
    {key : EdgeKey}
    {edges : List EdgeTraffic}
    (distinct : (edges.map EdgeTraffic.key).Nodup)
    (listed : key ∈ edges.map EdgeTraffic.key)
    (byteCount : UInt64) :
    EdgeTraffic.total
          (edges.map fun edge => if edge.key = key then edge.observe byteCount else edge) ≤
        EdgeTraffic.total edges + 1 ∧
      min largestWord (EdgeTraffic.total edges + 1) ≤
        EdgeTraffic.total
          (edges.map fun edge => if edge.key = key then edge.observe byteCount else edge) := by
  induction edges with
  | nil => cases listed
  | cons edge edges inductionHypothesis =>
      rw [List.map_cons, List.nodup_cons] at distinct
      rw [List.map_cons, EdgeTraffic.total, EdgeTraffic.total]
      by_cases same : edge.key = key
      · have others : (edges.map fun edge =>
            if edge.key = key then edge.observe byteCount else edge) = edges := by
          rw [List.map_congr_left (g := id), List.map_id]
          intro other isOther
          rw [if_neg]
          · rfl
          · intro equality
            exact distinct.1 (List.mem_map.2 ⟨other, isOther, equality.trans same.symm⟩)
        rw [if_pos same, others]
        simp only [EdgeTraffic.observe, toNat_saturatingAdd, UInt64.reduceToNat]
        omega
      · rw [if_neg same]
        rw [List.map_cons, List.mem_cons] at listed
        have later := listed.resolve_left fun equality => same equality.symm
        obtain ⟨upper, lower⟩ := inductionHypothesis distinct.2 later
        omega

/-- An observation adds one to the sum of the event counts, unless a count is full. -/
theorem eventTotal_observe
    {traffic : Traffic}
    (keyed : traffic.IsKeyed)
    (threshold : UInt16)
    (connection : Source.Connection) :
    (traffic.observe threshold connection).eventTotal ≤ traffic.eventTotal + 1 ∧
      min largestWord (traffic.eventTotal + 1) ≤
        (traffic.observe threshold connection).eventTotal := by
  rw [eventTotal, eventTotal, Traffic.observe, observeEdge]
  split
  · next listed => exact total_count keyed listed _
  · next fresh =>
    have counted (key : EdgeKey) (byteCount : UInt64) :
        ((EdgeTraffic.fresh threshold key).observe byteCount).eventCount.toNat = 1 := rfl
    rw [EdgeTraffic.total_append, counted]
    exact ⟨Nat.le_refl _, Nat.min_le_right _ _⟩

/-- The event counts of a traffic grow by the number of observed connections, unless
a count is full. -/
theorem eventTotal_foldl
    (threshold : UInt16)
    {traffic : Traffic}
    (keyed : traffic.IsKeyed)
    (connections : List Source.Connection) :
    (connections.foldl (observe threshold) traffic).eventTotal ≤
        traffic.eventTotal + connections.length ∧
      min largestWord (traffic.eventTotal + connections.length) ≤
        (connections.foldl (observe threshold) traffic).eventTotal := by
  induction connections generalizing traffic with
  | nil =>
      rw [List.foldl_nil, List.length_nil]
      omega
  | cons connection connections inductionHypothesis =>
      obtain ⟨upper, lower⟩ := eventTotal_observe keyed threshold connection
      obtain ⟨laterUpper, laterLower⟩ :=
        inductionHypothesis (keyed.observe threshold connection)
      rw [List.foldl_cons, List.length_cons]
      omega

/-- The event counts of the traffic of records add up to the number of records that
describe a connection, unless a count is full. -/
theorem eventTotal_ofRecords
    (mapping : Source.Mapping)
    (threshold : UInt16)
    (records : List Record) :
    (ofRecords mapping threshold records).eventTotal ≤
        (records.filterMap (Source.connection? mapping)).length ∧
      min largestWord (records.filterMap (Source.connection? mapping)).length ≤
        (ofRecords mapping threshold records).eventTotal := by
  have keyed : empty.IsKeyed := List.nodup_nil
  have counted := eventTotal_foldl threshold keyed
    (records.filterMap (Source.connection? mapping))
  have none_counted : empty.eventTotal = 0 := rfl
  rwa [none_counted, Nat.zero_add] at counted

end Traffic

/-- The record at a place of a history describes a connection. -/
def describes (mapping : Source.Mapping) (history : List Record) (place : Nat) : Bool :=
  (history[place]?.bind (Source.connection? mapping)).isSome

/-- The connections that the records at given places describe. -/
theorem length_connections
    (mapping : Source.Mapping)
    (history : List Record)
    (places : List Nat) :
    ((places.filterMap (history[·]?)).filterMap (Source.connection? mapping)).length =
      (places.filter (describes mapping history)).length := by
  rw [List.filterMap_filterMap, List.length_filterMap_eq_countP, List.countP_eq_length_filter]
  rfl

namespace Graph

/-- A graph is one fold of a selection of the history, in which each place between two
others whose record describes a connection occurs exactly once. -/
def FoldsOnce (mapping : Source.Mapping) (threshold : UInt16) (history : List Record)
    (oldest last : Nat) (graph : Graph) : Prop :=
  ∃ places : List Nat,
    graph.Tallies mapping threshold (places.filterMap (history[·]?)) ∧
      ∀ place, oldest ≤ place → place < last → describes mapping history place = true →
        places.count place = 1

/-- If a graph is one fold of two selections of a history, then no more records of the
second than of the first describe connections, as long as the first is short enough
to be counted. -/
theorem length_described_le
    {mapping : Source.Mapping}
    {threshold : UInt16}
    {history : List Record}
    {graph : Graph}
    {first second : List Nat}
    (tallies : graph.Tallies mapping threshold (first.filterMap (history[·]?)))
    (tallied : graph.Tallies mapping threshold (second.filterMap (history[·]?)))
    (short : first.length < largestWord) :
    (second.filter (describes mapping history)).length ≤
      (first.filter (describes mapping history)).length := by
  have upper := (Traffic.eventTotal_ofRecords mapping threshold
    (first.filterMap (history[·]?))).1
  have lower := (Traffic.eventTotal_ofRecords mapping threshold
    (second.filterMap (history[·]?))).2
  rw [length_connections, ← tallies_iff.1 tallies] at upper
  rw [length_connections, ← tallies_iff.1 tallied] at lower
  have part := List.length_filter_le (describes mapping history) first
  omega

/-- A selection that has each described place behind another one exactly once has more
described places than a stretch that leaves out such a place before it. -/
theorem length_described_lt
    {mapping : Source.Mapping}
    {history : List Record}
    {places : List Nat}
    {oldest missing first last : Nat}
    (once : ∀ place, oldest ≤ place → place < last → describes mapping history place = true →
      places.count place = 1)
    (held : oldest ≤ missing)
    (before : missing < first)
    (ordered : first ≤ last)
    (described : describes mapping history missing = true) :
    ((List.range' first (last - first)).filter (describes mapping history)).length <
      (places.filter (describes mapping history)).length := by
  have distinct : (missing ::
      (List.range' first (last - first)).filter (describes mapping history)).Nodup := by
    rw [List.nodup_cons]
    refine ⟨?_, List.Pairwise.filter _ List.nodup_range'⟩
    intro listed
    have reached := (List.mem_range'_1.1 (List.mem_filter.1 listed).1).1
    omega
  apply distinct.length_le_of_subset
  intro place listed
  have due : oldest ≤ place ∧ place < last ∧ describes mapping history place = true := by
    rcases List.mem_cons.1 listed with same | later
    · rw [same]
      exact ⟨held, Nat.lt_of_lt_of_le before ordered, described⟩
    · obtain ⟨ranged, isDescribed⟩ := List.mem_filter.1 later
      obtain ⟨reached, behind⟩ := List.mem_range'_1.1 ranged
      exact ⟨by omega, by omega, isDescribed⟩
  have counted := once place due.1 due.2.1 due.2.2
  have isSelected : place ∈ places := List.count_pos_iff.1 (by omega)
  exact List.mem_filter.2 ⟨isSelected, due.2.2⟩

/-- A graph that is one fold of a stretch of the history contains all places behind
another one exactly once if and only if no record before the stretch is missing. -/
theorem foldsOnce_iff
    {mapping : Source.Mapping}
    {threshold : UInt16}
    {history : List Record}
    {first last : Nat}
    {graph : Graph}
    (tallies : graph.Tallies mapping threshold (history.extract first last))
    (ordered : first ≤ last)
    (inside : last ≤ history.length)
    (bounded : history.length < largestWord)
    (oldest : Nat) :
    graph.FoldsOnce mapping threshold history oldest last ↔
      ∀ place, oldest ≤ place → place < first → describes mapping history place = false := by
  have stretch_eq : (List.range' first (last - first)).filterMap (history[·]?) =
      history.extract first last := by
    rw [Window.filterMap_range', List.extract_eq_take_drop]
  constructor
  · rintro ⟨places, tallied, once⟩ missing held before
    cases described : describes mapping history missing with
    | false => rfl
    | true =>
        -- The graph counts too few observations for a selection with the missing place.
        exfalso
        have fewer : (places.filter (describes mapping history)).length ≤
            ((List.range' first (last - first)).filter (describes mapping history)).length := by
          refine length_described_le (stretch_eq.symm ▸ tallies) tallied ?_
          rw [List.length_range']
          omega
        have more := length_described_lt once held before ordered described
        omega
  · intro complete
    refine ⟨List.range' first (last - first), ?_, ?_⟩
    · rw [stretch_eq]
      exact tallies
    · intro place held behind described
      have reached : first ≤ place := by
        apply Nat.le_of_not_lt
        intro before
        rw [complete place held before] at described
        cases described
      rw [List.count_range_1', if_pos (by omega)]

end Graph
end TrafficGraph
