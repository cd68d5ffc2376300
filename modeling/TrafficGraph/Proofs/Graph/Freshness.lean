import TrafficGraph.Proofs.Graph.Integrity

/-!
# Freshness of nodes and edges

A node is never staler than its edges.  Nodes and edges keep the times of their first
and of their last observation in the same way, and an observation of an edge is one of
both its nodes; so the first time of a node is the earliest of those of its edges, and
the last time the latest.  Hence an edge has always gone unobserved for at least as long
as its nodes, and by the time that a node is demoted its edges were or are as well.
-/

namespace TrafficGraph

/-- The two times that nodes and edges keep in the same way. -/
inductive Milestone
  /-- The time of the first observation. -/
  | first
  /-- The time of the last observation. -/
  | last

namespace Milestone

/-- Which of two times is kept. -/
def pick : Milestone → UInt64 → UInt64 → UInt64
  | first => min
  | last => max

/-- The time that a node keeps. -/
def ofNode : Milestone → Node → UInt64
  | first => Node.firstSeen
  | last => Node.lastSeen

/-- The time that an edge keeps. -/
def ofEdge : Milestone → Edge → UInt64
  | first => Edge.firstSeen
  | last => Edge.lastSeen

variable (milestone : Milestone)

theorem pick_self (time : UInt64) : milestone.pick time time = time := by
  cases milestone with
  | first => exact Std.min_self
  | last => exact Std.max_self

theorem pick_comm (first second : UInt64) :
    milestone.pick first second = milestone.pick second first := by
  cases milestone with
  | first =>
      change min first second = min second first
      exact Std.Commutative.comm first second
  | last =>
      change max first second = max second first
      rw [Std.max_eq_if, Std.max_eq_if]
      grind

theorem pick_assoc (first second third : UInt64) :
    milestone.pick (milestone.pick first second) third =
      milestone.pick first (milestone.pick second third) := by
  cases milestone with
  | first =>
      change min (min first second) third = min first (min second third)
      exact Std.Associative.assoc first second third
  | last =>
      change max (max first second) third = max first (max second third)
      exact Std.Associative.assoc first second third

theorem pick_eq_or (first second : UInt64) :
    milestone.pick first second = first ∨ milestone.pick first second = second := by
  cases milestone with
  | first => exact Std.min_eq_or
  | last => exact Std.max_eq_or

@[simp] theorem ofNode_first (host : String) (seenAt : UInt64) :
    milestone.ofNode (.first host seenAt) = seenAt := by
  cases milestone <;> rfl

@[simp] theorem ofNode_observe (seenAt : UInt64) (node : Node) :
    milestone.ofNode (node.observe seenAt) = milestone.pick (milestone.ofNode node) seenAt := by
  cases milestone <;> rfl

@[simp] theorem ofNode_decay (thresholds : Thresholds) (now : UInt64) (node : Node) :
    milestone.ofNode (node.decay thresholds now) = milestone.ofNode node := by
  cases milestone <;> rfl

@[simp] theorem ofNode_moveTo (position : Position) (node : Node) :
    milestone.ofNode (node.moveTo position) = milestone.ofNode node := by
  cases milestone <;> rfl

@[simp] theorem ofEdge_fresh (threshold : UInt16) (key : EdgeKey) (seenAt : UInt64) :
    milestone.ofEdge (.fresh threshold key seenAt) = seenAt := by
  cases milestone <;> rfl

@[simp] theorem ofEdge_observe (seenAt byteCount : UInt64) (edge : Edge) :
    milestone.ofEdge (edge.observe seenAt byteCount) =
      milestone.pick (milestone.ofEdge edge) seenAt := by
  cases milestone <;> rfl

@[simp] theorem ofEdge_decay (thresholds : Thresholds) (now : UInt64) (edge : Edge) :
    milestone.ofEdge (edge.decay thresholds now) = milestone.ofEdge edge := by
  cases milestone <;> rfl

/-- One time goes before another if it is kept of the two. -/
def Leads (leading time : UInt64) : Prop :=
  milestone.pick leading time = leading

variable {milestone}

theorem leads_first_iff {leading time : UInt64} :
    first.Leads leading time ↔ leading ≤ time := by
  change min leading time = leading ↔ leading ≤ time
  rw [Std.min_eq_if]
  grind

theorem leads_last_iff {leading time : UInt64} :
    last.Leads leading time ↔ time ≤ leading := by
  change max leading time = leading ↔ time ≤ leading
  rw [Std.max_eq_if]
  grind

/-- What is kept of two times leads the second. -/
theorem leads_pick_right (time seenAt : UInt64) :
    milestone.Leads (milestone.pick time seenAt) seenAt := by
  rw [Leads, pick_assoc, pick_self]

/-- What is kept of a leading and another time leads what it led. -/
theorem Leads.pick_left
    {leading time : UInt64}
    (leads : milestone.Leads leading time)
    (seenAt : UInt64) :
    milestone.Leads (milestone.pick leading seenAt) time := by
  rw [Leads, pick_assoc, milestone.pick_comm seenAt, ← pick_assoc, leads]

/-- Keeping one more time on both sides preserves the lead. -/
theorem Leads.pick
    {leading time : UInt64}
    (leads : milestone.Leads leading time)
    (seenAt : UInt64) :
    milestone.Leads (milestone.pick leading seenAt) (milestone.pick time seenAt) := by
  rw [Leads, ← pick_assoc, leads.pick_left seenAt, pick_assoc, pick_self]

/-- A time that leads what is kept of another and itself is kept of the two. -/
theorem Leads.pick_eq
    {time seenAt : UInt64}
    (leads : milestone.Leads seenAt (milestone.pick time seenAt)) :
    milestone.pick time seenAt = seenAt := by
  rw [Leads, milestone.pick_comm, pick_assoc, pick_self] at leads
  exact leads

end Milestone

namespace Activity

/-- A step demotes by at most one rank. -/
theorem rank_next_bounds
    (thresholds : Thresholds)
    (elapsed : UInt64)
    (activity : Activity) :
    activity.rank ≤ (activity.next thresholds elapsed).rank ∧
      (activity.next thresholds elapsed).rank ≤ activity.rank + 1 := by
  cases activity with
  | active =>
      simp only [next]
      split <;> simp
  | fading =>
      simp only [next]
      split <;> simp
  | idle => simp [next]

/-- More elapsed time demotes no less. -/
theorem rank_next_le_of_le
    {shorter longer : UInt64}
    (ordered : shorter ≤ longer)
    (thresholds : Thresholds)
    (activity : Activity) :
    (activity.next thresholds shorter).rank ≤ (activity.next thresholds longer).rank := by
  have monotone (threshold : UInt64) : threshold < shorter → threshold < longer :=
    fun exceeded => UInt64.lt_of_lt_of_le exceeded ordered
  cases activity with
  | active =>
      simp only [next]
      by_cases fades : thresholds.fadeAfter < shorter
      · simp only [if_pos fades, if_pos (monotone _ fades), Nat.le_refl]
      · rw [if_neg fades]
        exact Nat.zero_le _
  | fading =>
      simp only [next]
      by_cases idles : thresholds.idleAfter < shorter
      · simp only [if_pos idles, if_pos (monotone _ idles), Nat.le_refl]
      · rw [if_neg idles]
        split <;> simp
  | idle => exact Nat.le_refl _

theorem eq_of_rank_eq
    {first second : Activity}
    (same : first.rank = second.rank) :
    first = second := by
  cases first <;> cases second <;> simp_all

/-- What is fresher and was observed later is also fresher after a step: either both
were equally fresh, or the step cannot make up for the rank between them. -/
theorem rank_next_le
    {first second : Activity}
    (fresher : first.rank ≤ second.rank)
    {firstElapsed secondElapsed : UInt64}
    (later : firstElapsed ≤ secondElapsed)
    (thresholds : Thresholds) :
    (first.next thresholds firstElapsed).rank ≤ (second.next thresholds secondElapsed).rank := by
  rcases Nat.eq_or_lt_of_le fresher with same | below
  · rw [eq_of_rank_eq same]
    exact rank_next_le_of_le later thresholds second
  · calc (first.next thresholds firstElapsed).rank
        ≤ first.rank + 1 := (rank_next_bounds thresholds firstElapsed first).2
      _ ≤ second.rank := below
      _ ≤ (second.next thresholds secondElapsed).rank :=
        (rank_next_bounds thresholds secondElapsed second).1

end Activity

/-- The later an observation, the less time has gone by. -/
theorem saturatingSub_le
    {earlier later : UInt64}
    (ordered : earlier ≤ later)
    (now : UInt64) :
    saturatingSub now later ≤ saturatingSub now earlier := by
  rw [UInt64.le_iff_toNat_le] at ordered ⊢
  rw [toNat_saturatingSub, toNat_saturatingSub]
  omega

namespace Graph

/-- A milestone of every node is that of one of its edges and leads those of all. -/
structure Led (milestone : Milestone) (graph : Graph) : Prop where
  /-- The nodes are the ends of the edges. -/
  spans : graph.Spans
  /-- A node leads its edges. -/
  leads : ∀ {key host edge node}, key.Joins host → graph.edges.find? key = some edge →
    graph.nodes.find? host = some node →
      milestone.Leads (milestone.ofNode node) (milestone.ofEdge edge)
  /-- One of the edges of a node has its milestone. -/
  attained : ∀ {host node}, graph.nodes.find? host = some node →
    ∃ key edge, key.Joins host ∧ graph.edges.find? key = some edge ∧
      milestone.ofEdge edge = milestone.ofNode node

variable {admits : UInt16 → Source.Connection → Prop} {milestone : Milestone}

/-- The ends of an observed edge lead it, also if they or the edge are new. -/
theorem Led.leads_observe
    {graph : Graph}
    (led : graph.Led milestone)
    {key : EdgeKey}
    {host : String}
    (joins : key.Joins host)
    (threshold : UInt16)
    (seenAt byteCount : UInt64) :
    milestone.Leads
      (milestone.ofNode (((graph.nodes.find? host).getD (.first host seenAt)).observe seenAt))
      (milestone.ofEdge (((graph.edges.find? key).getD (.fresh threshold key seenAt)).observe
        seenAt byteCount)) := by
  rw [Milestone.ofNode_observe, Milestone.ofEdge_observe]
  cases found : graph.edges.find? key with
  | none =>
      rw [Option.getD_none, Milestone.ofEdge_fresh, Milestone.pick_self]
      exact Milestone.leads_pick_right _ seenAt
  | some edge =>
      obtain ⟨node, foundNode⟩ := led.spans.exists_node found joins
      rw [foundNode, Option.getD_some, Option.getD_some]
      exact (led.leads joins found foundNode).pick seenAt

/-- The milestone of an observed node is that of the observed edge or, if it stays as it
was, that of the edge which had it before. -/
theorem Led.attained_observe
    {graph : Graph}
    (led : graph.Led milestone)
    {options : FoldOptions}
    {now seenAt : UInt64}
    {connection : Source.Connection}
    {key : EdgeKey}
    (key_eq : EdgeKey.ofConnection options.portThreshold connection = key)
    (time_eq : observationTime options now connection = seenAt)
    {host : String}
    (joins : key.Joins host) :
    ∃ name edge, name.Joins host ∧
      (graph.observe options now connection).edges.find? name = some edge ∧
        milestone.ofEdge edge =
          milestone.ofNode (((graph.nodes.find? host).getD (.first host seenAt)).observe seenAt) := by
  have lookup (name : EdgeKey) :=
    graph.find?_edges_observe key_eq time_eq name
  have renewed_or_kept : milestone.ofNode
        (((graph.nodes.find? host).getD (.first host seenAt)).observe seenAt) = seenAt ∨
      ∃ node, graph.nodes.find? host = some node ∧
        milestone.pick (milestone.ofNode node) seenAt = milestone.ofNode node := by
    rw [Milestone.ofNode_observe]
    cases found : graph.nodes.find? host with
    | none => exact Or.inl (by rw [Option.getD_none, Milestone.ofNode_first, Milestone.pick_self])
    | some node =>
        rw [Option.getD_some]
        cases milestone.pick_eq_or (milestone.ofNode node) seenAt with
        | inl kept => exact Or.inr ⟨node, rfl, kept⟩
        | inr renewed => exact Or.inl renewed
  rcases renewed_or_kept with renewed | ⟨node, found, kept⟩
  -- A new milestone of the node is one of the edge too, since the node led the edge.
  · have leads := led.leads_observe joins options.portThreshold seenAt
      (connection.byteCount.getD 0)
    rw [renewed, Milestone.ofEdge_observe] at leads
    refine ⟨key, _, joins, (lookup key).trans (if_pos rfl), ?_⟩
    rw [renewed, Milestone.ofEdge_observe, leads.pick_eq]
  · obtain ⟨name, edge, joined, foundEdge, same⟩ := led.attained found
    rw [found, Option.getD_some, Milestone.ofNode_observe, kept]
    by_cases observed : name = key
    · refine ⟨name, _, joined, (lookup name).trans (if_pos observed), ?_⟩
      rw [← observed, foundEdge, Option.getD_some, Milestone.ofEdge_observe, same, kept]
    · exact ⟨name, edge, joined, (lookup name).trans ((if_neg observed).trans foundEdge), same⟩

/-- Giving a position changes neither times nor freshness. -/
theorem exists_unmoved
    {graph : Graph}
    {update : PositionUpdate}
    {host : String}
    {node : Node}
    (found : (graph.applyPosition update).nodes.find? host = some node) :
    ∃ old, graph.nodes.find? host = some old ∧ node.activity = old.activity ∧
      ∀ milestone : Milestone, milestone.ofNode node = milestone.ofNode old := by
  rw [find?_nodes_applyPosition] at found
  split at found
  · obtain ⟨old, foundOld, rfl⟩ := Option.map_eq_some_iff.1 found
    exact ⟨old, foundOld, rfl, fun milestone => milestone.ofNode_moveTo update.position old⟩
  · exact ⟨node, found, rfl, fun _ => rfl⟩

theorem led_empty (milestone : Milestone) : empty.Led milestone := by
  refine { spans := spans_empty, leads := ?_, attained := ?_ }
  · intro key host edge node joins found
    simp [empty] at found
  · intro host node found
    simp [empty] at found

theorem kept_led : Kept admits (Led milestone) where
  observe options now graph connection admitted led := by
    have spans := kept_spans.observe options now graph connection admitted led.spans
    refine { spans, leads := ?_, attained := ?_ }
    all_goals
      generalize key_eq : EdgeKey.ofConnection options.portThreshold connection = key
      generalize time_eq : observationTime options now connection = seenAt
    · intro name host edge node joined foundEdge foundNode
      rw [graph.find?_edges_observe key_eq time_eq] at foundEdge
      rw [graph.find?_nodes_observe key_eq time_eq] at foundNode
      split at foundEdge
      · next same =>
        subst same
        rw [if_pos joined] at foundNode
        rw [← Option.some.inj foundEdge, ← Option.some.inj foundNode]
        exact led.leads_observe joined _ seenAt _
      · obtain ⟨old, foundOld⟩ := led.spans.exists_node foundEdge joined
        have leads := led.leads joined foundEdge foundOld
        rw [foundOld, Option.getD_some] at foundNode
        split at foundNode
        · rw [← Option.some.inj foundNode, Milestone.ofNode_observe]
          exact leads.pick_left seenAt
        · rw [← Option.some.inj foundNode]
          exact leads
    · intro host node found
      rw [graph.find?_nodes_observe key_eq time_eq] at found
      split at found
      · next joins =>
        rw [← Option.some.inj found]
        exact led.attained_observe key_eq time_eq joins
      · next apart =>
        obtain ⟨name, edge, joined, foundEdge, same⟩ := led.attained found
        have different : name ≠ key := fun same => apart (same ▸ joined)
        refine ⟨name, edge, joined, ?_, same⟩
        rw [graph.find?_edges_observe key_eq time_eq, if_neg different, foundEdge]
  decayed thresholds now graph led := by
    have spans := (kept_spans : Kept admits Spans).decayed thresholds now graph led.spans
    refine { spans, leads := ?_, attained := ?_ }
    · intro key host edge node joins foundEdge foundNode
      rw [find?_edges_decayed, Option.map_eq_some_iff] at foundEdge
      rw [find?_nodes_decayed, Option.map_eq_some_iff] at foundNode
      obtain ⟨oldEdge, foundEdge, rfl⟩ := foundEdge
      obtain ⟨oldNode, foundNode, rfl⟩ := foundNode
      rw [Milestone.ofNode_decay, Milestone.ofEdge_decay]
      exact led.leads joins foundEdge foundNode
    · intro host node found
      rw [find?_nodes_decayed, Option.map_eq_some_iff] at found
      obtain ⟨old, found, rfl⟩ := found
      obtain ⟨key, edge, joins, foundEdge, same⟩ := led.attained found
      refine ⟨key, edge.decay thresholds now, joins, ?_, ?_⟩
      · rw [find?_edges_decayed, foundEdge, Option.map_some]
      · rw [Milestone.ofNode_decay, Milestone.ofEdge_decay, same]
  applyPosition update graph led := by
    have spans := (kept_spans : Kept admits Spans).applyPosition update graph led.spans
    refine { spans, leads := ?_, attained := ?_ }
    · intro key host edge node joins foundEdge foundNode
      rw [edges_applyPosition] at foundEdge
      obtain ⟨old, foundOld, _, same⟩ := exists_unmoved foundNode
      rw [same milestone]
      exact led.leads joins foundEdge foundOld
    · intro host node found
      obtain ⟨old, foundOld, _, same⟩ := exists_unmoved found
      rw [edges_applyPosition, same milestone]
      exact led.attained foundOld
  withVersion := by
    intro version graph led
    exact ⟨led.spans, led.leads, led.attained⟩

/-! ## Activity -/

/-- No node is staler than one of its edges. -/
def Livelier (graph : Graph) : Prop :=
  ∀ {key host edge node}, key.Joins host → graph.edges.find? key = some edge →
    graph.nodes.find? host = some node → node.activity.rank ≤ edge.activity.rank

theorem livelier_empty : empty.Livelier := by
  intro key host edge node joins found
  simp [empty] at found

theorem kept_livelier :
    Kept admits fun graph => graph.Led .last ∧ graph.Livelier where
  observe options now graph connection admitted holds := by
    obtain ⟨led, livelier⟩ := holds
    refine ⟨kept_led.observe options now graph connection admitted led, ?_⟩
    intro name host edge node joined foundEdge foundNode
    -- An observed node is active, so only the edges at other nodes matter.
    rw [graph.find?_nodes_observe rfl rfl] at foundNode
    split at foundNode
    · rw [← Option.some.inj foundNode]
      exact Nat.zero_le _
    · next apart =>
      have different : name ≠ .ofConnection options.portThreshold connection :=
        fun same => apart (same ▸ joined)
      rw [graph.find?_edges_observe rfl rfl, if_neg different] at foundEdge
      exact livelier joined foundEdge foundNode
  decayed thresholds now graph holds := by
    obtain ⟨led, livelier⟩ := holds
    refine ⟨(kept_led : Kept admits (Led .last)).decayed thresholds now graph led, ?_⟩
    intro key host edge node joins foundEdge foundNode
    rw [find?_edges_decayed, Option.map_eq_some_iff] at foundEdge
    rw [find?_nodes_decayed, Option.map_eq_some_iff] at foundNode
    obtain ⟨oldEdge, foundEdge, rfl⟩ := foundEdge
    obtain ⟨oldNode, foundNode, rfl⟩ := foundNode
    apply Activity.rank_next_le (livelier joins foundEdge foundNode)
    apply saturatingSub_le
    exact Milestone.leads_last_iff.1 (led.leads joins foundEdge foundNode)
  applyPosition update graph holds := by
    obtain ⟨led, livelier⟩ := holds
    refine ⟨(kept_led : Kept admits (Led .last)).applyPosition update graph led, ?_⟩
    intro key host edge node joins foundEdge foundNode
    rw [edges_applyPosition] at foundEdge
    obtain ⟨old, foundOld, same, _⟩ := exists_unmoved foundNode
    rw [same]
    exact livelier joins foundEdge foundOld
  withVersion version graph holds :=
    ⟨(kept_led : Kept admits (Led .last)).withVersion version graph holds.1, holds.2⟩

/-! ## Freshness after a run -/

/-- The edges at a host, oldest first. -/
def edgesAt (graph : Graph) (host : String) : List Edge :=
  graph.edges.toList.filter fun edge => edge.sourceId = host ∨ edge.destinationId = host

end Graph

/-- A node was observed whenever an edge was, and is at least as fresh. -/
structure Node.Covers (edge : Edge) (node : Node) : Prop where
  /-- The node was first observed with the edge or before it. -/
  firstSeen_le : node.firstSeen ≤ edge.firstSeen
  /-- The edge was last observed at or after its first observation. -/
  firstSeen_le_lastSeen : edge.firstSeen ≤ edge.lastSeen
  /-- The node was last observed with the edge or after it. -/
  lastSeen_le : edge.lastSeen ≤ node.lastSeen
  /-- The node is not staler than the edge. -/
  rank_le : node.activity.rank ≤ edge.activity.rank

namespace Graph

/-- What the times and the freshness of nodes and of edges have to do with each other. -/
structure Fresh (graph : Graph) : Prop where
  /-- At either end of an edge is a node that covers the edge. -/
  covers : ∀ edge ∈ graph.edges.toList, ∀ host,
    edge.sourceId = host ∨ edge.destinationId = host →
      ∃ node, graph.nodes.find? host = some node ∧ node.Covers edge
  /-- A node was first observed with the earliest of its edges. -/
  earliest : ∀ node ∈ graph.nodes.toList,
    ((graph.edgesAt node.id).map Edge.firstSeen).min? = some node.firstSeen
  /-- A node was last observed with the latest of its edges. -/
  latest : ∀ node ∈ graph.nodes.toList,
    ((graph.edgesAt node.id).map Edge.lastSeen).max? = some node.lastSeen
  /-- No snapshot shows an active edge at a stale node. -/
  active : ∀ edge ∈ graph.snapshot.edges, edge.activity = .active →
    ∀ node ∈ graph.snapshot.nodes, edge.sourceId = node.id ∨ edge.destinationId = node.id →
      node.activity = .active

theorem kept_firstSeen_le_lastSeen :
    Kept admits fun graph => ∀ edge ∈ graph.edges.toList, edge.firstSeen ≤ edge.lastSeen := by
  have ordered (first last seenAt : UInt64) : min first seenAt ≤ max last seenAt :=
    Std.le_trans Std.min_le_right Std.right_le_max
  apply kept_edges
  · intro threshold connection seenAt byteCount _
    exact ordered _ _ seenAt
  · intro seenAt byteCount edge _
    exact ordered _ _ seenAt
  · intro thresholds now edge before
    exact before

theorem mem_edgesAt_iff
    {graph : Graph}
    (followsKey : ∀ edge ∈ graph.edges.toList, edge.FollowsKey)
    {host : String}
    {edge : Edge} :
    edge ∈ graph.edgesAt host ↔
      edge.key.Joins host ∧ graph.edges.find? edge.key = some edge := by
  rw [edgesAt, List.mem_filter, decide_eq_true_iff, and_comm, ← Table.mem_toList_iff]
  apply and_congr_left
  intro listed
  rw [(followsKey edge listed).sourceId_eq, (followsKey edge listed).destinationId_eq,
    EdgeKey.Joins]

/-- The milestone of a node is that of one of the edges at it and leads those of all. -/
theorem Led.mem_milestones
    {graph : Graph}
    (led : graph.Led milestone)
    (followsKey : ∀ edge ∈ graph.edges.toList, edge.FollowsKey)
    {node : Node}
    (listed : node ∈ graph.nodes.toList) :
    milestone.ofNode node ∈ (graph.edgesAt node.id).map milestone.ofEdge ∧
      ∀ time ∈ (graph.edgesAt node.id).map milestone.ofEdge,
        milestone.Leads (milestone.ofNode node) time := by
  have found := (graph.nodes.mem_toList_iff node).1 listed
  constructor
  · obtain ⟨key, edge, joins, foundEdge, same⟩ := led.attained found
    rw [← Table.key_of_find? foundEdge] at joins foundEdge
    exact List.mem_map.2 ⟨edge, (mem_edgesAt_iff followsKey).2 ⟨joins, foundEdge⟩, same⟩
  · intro time isTime
    obtain ⟨edge, atNode, rfl⟩ := List.mem_map.1 isTime
    obtain ⟨joins, foundEdge⟩ := (mem_edgesAt_iff followsKey).1 atNode
    exact led.leads joins foundEdge found

/-- A graph is fresh if its nodes lead their edges and are not staler. -/
theorem fresh_of_led
    {graph : Graph}
    (followsKey : ∀ edge ∈ graph.edges.toList, edge.FollowsKey)
    (ordered : ∀ edge ∈ graph.edges.toList, edge.firstSeen ≤ edge.lastSeen)
    (ledFirst : graph.Led .first)
    (ledLast : graph.Led .last)
    (livelier : graph.Livelier) :
    graph.Fresh := by
  have covers : ∀ edge ∈ graph.edges.toList, ∀ host,
      edge.sourceId = host ∨ edge.destinationId = host →
        ∃ node, graph.nodes.find? host = some node ∧ node.Covers edge := by
    intro edge listed host touches
    rw [(followsKey edge listed).sourceId_eq, (followsKey edge listed).destinationId_eq] at touches
    have found := (graph.edges.mem_toList_iff edge).1 listed
    obtain ⟨node, foundNode⟩ := ledFirst.spans.exists_node found touches
    exact ⟨node, foundNode,
      Milestone.leads_first_iff.1 (ledFirst.leads touches found foundNode),
      ordered edge listed,
      Milestone.leads_last_iff.1 (ledLast.leads touches found foundNode),
      livelier touches found foundNode⟩
  refine { covers, earliest := ?earliest, latest := ?latest, active := ?active }
  case earliest =>
    intro node listed
    obtain ⟨attained, leads⟩ := ledFirst.mem_milestones followsKey listed
    rw [List.min?_eq_some_iff]
    exact ⟨attained, fun time isTime => Milestone.leads_first_iff.1 (leads time isTime)⟩
  case latest =>
    intro node listed
    obtain ⟨attained, leads⟩ := ledLast.mem_milestones followsKey listed
    rw [List.max?_eq_some_iff]
    exact ⟨attained, fun time isTime => Milestone.leads_last_iff.1 (leads time isTime)⟩
  case active =>
    intro edgeView shownEdge isActive nodeView shownNode touches
    obtain ⟨edge, listedEdge, rfl⟩ := List.mem_map.1 shownEdge
    obtain ⟨node, listedNode, rfl⟩ := List.mem_map.1 shownNode
    obtain ⟨found, isFound, covered⟩ := covers edge listedEdge node.id touches
    rw [(graph.nodes.mem_toList_iff node).1 listedNode] at isFound
    cases isFound
    have rank_le := covered.rank_le
    change edge.activity = .active at isActive
    rw [isActive] at rank_le
    exact Activity.eq_of_rank_eq (Nat.le_zero.1 rank_le)

/-- **Freshness.** Whatever is folded, demoted, moved and noted in a graph that was
empty, at whatever times and under whatever thresholds, no node is staler than its
edges, and its times are the earliest and the latest of theirs. -/
theorem fresh_after (operations : List Operation) :
    (empty.after operations).Fresh := by
  obtain ⟨ledLast, livelier⟩ :=
    kept_livelier.after_empty ⟨led_empty .last, livelier_empty⟩ operations
  apply fresh_of_led
  · exact kept_followsKey.after_empty (by simp [empty]) operations
  · exact kept_firstSeen_le_lastSeen.after_empty (by simp [empty]) operations
  · exact kept_led.after_empty (led_empty .first) operations
  · exact ledLast
  · exact livelier

end Graph
end TrafficGraph
