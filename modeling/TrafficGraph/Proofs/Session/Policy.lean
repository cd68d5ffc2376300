import TrafficGraph.Proofs.Session.Identity
import TrafficGraph.Proofs.Session.Ledger

/-!
# Sessions and their port policy

Keys and labels are made once, when an edge is first observed, while the policy that
gives them meaning can change.  Since a change of the port threshold discards the graph,
the ports and labels of all edges agree with the present threshold: a port is absent,
collapsed or a number below a positive threshold, the higher of two numbers stands at
the source side, and the asterisk is the label of collapsed ports alone.  The options
are always usable, and without a source there is no graph.
-/

namespace TrafficGraph

/-! ## Ports of keys -/

/-- A port in a key: absent, collapsed under a positive threshold, or a positive number,
which lies below the threshold if that is positive. -/
def IsPortClass (threshold : UInt16) (port : Option UInt16) : Prop :=
  ∀ number, port = some number →
    (number = EdgeKey.collapsedPort ∧ 0 < threshold) ∨
      (1 ≤ number ∧ (0 < threshold → number < threshold))

namespace EdgeKey

theorem isPortClass_map_portClass
    (threshold : UInt16)
    (port : Option UInt16) :
    IsPortClass threshold ((namedPort port).map (portClass threshold)) := by
  intro number found
  obtain ⟨named, isNamed, rfl⟩ := Option.map_eq_some_iff.1 found
  have positive := (namedPort_eq_some_iff.1 isNamed).2
  rw [portClass]
  split
  · next collapses => exact Or.inl ⟨rfl, collapses.1⟩
  · next literal =>
    apply Or.inr
    rw [collapsedPort] at positive
    constructor
    · rw [UInt16.le_iff_toNat_le]
      have different : named.toNat ≠ 0 := fun same => positive (UInt16.toNat_inj.1 same)
      simp
      omega
    · intro collapsing
      exact UInt16.not_le.1 fun reached => literal ⟨collapsing, reached⟩

/-- Both ports of an observed key are port classes. -/
theorem isPortClass_ofConnection
    (threshold : UInt16)
    (connection : Source.Connection) :
    IsPortClass threshold (ofConnection threshold connection).sourcePort ∧
      IsPortClass threshold (ofConnection threshold connection).destinationPort := by
  unfold ofConnection
  dsimp only
  split
  · exact ⟨isPortClass_map_portClass threshold _, isPortClass_map_portClass threshold _⟩
  · exact ⟨isPortClass_map_portClass threshold _, isPortClass_map_portClass threshold _⟩

/-- A class that is not collapsed is the port itself. -/
theorem eq_of_portClass_ne
    {threshold port : UInt16}
    (literal : portClass threshold port ≠ collapsedPort) :
    portClass threshold port = port ∧ (0 < threshold → port < threshold) := by
  unfold portClass at literal ⊢
  split
  · next collapses => exact absurd (if_pos collapses) literal
  · next below =>
    refine ⟨rfl, ?_⟩
    intro collapsing
    exact UInt16.not_le.1 fun reached => below ⟨collapsing, reached⟩

/-- Of two numbers under a positive threshold the higher stands at the source side. -/
theorem destinationPort_le_sourcePort
    {threshold : UInt16}
    (collapsing : 0 < threshold)
    {connection : Source.Connection}
    {source destination : UInt16}
    (isSource : (ofConnection threshold connection).sourcePort = some source)
    (isDestination : (ofConnection threshold connection).destinationPort = some destination)
    (sourceLiteral : source ≠ collapsedPort)
    (destinationLiteral : destination ≠ collapsedPort) :
    destination ≤ source := by
  unfold ofConnection at isSource isDestination
  dsimp only at isSource isDestination
  split at isSource
  · next reversed =>
    rw [if_pos reversed] at isDestination
    obtain ⟨lower, isLower, rfl⟩ := Option.map_eq_some_iff.1 isDestination
    obtain ⟨higher, isHigher, rfl⟩ := Option.map_eq_some_iff.1 isSource
    rw [isLower, isHigher, isReversed, Bool.and_eq_true, decide_eq_true_iff] at reversed
    rw [(eq_of_portClass_ne sourceLiteral).1, (eq_of_portClass_ne destinationLiteral).1]
    exact UInt16.le_of_lt reversed.2
  · next kept =>
    rw [if_neg kept] at isDestination
    obtain ⟨first, isFirst, rfl⟩ := Option.map_eq_some_iff.1 isSource
    obtain ⟨second, isSecond, rfl⟩ := Option.map_eq_some_iff.1 isDestination
    obtain ⟨first_eq, firstBelow⟩ := eq_of_portClass_ne sourceLiteral
    obtain ⟨second_eq, secondBelow⟩ := eq_of_portClass_ne destinationLiteral
    rw [first_eq, second_eq]
    apply UInt16.not_lt.1
    intro ascending
    rw [isFirst, isSecond] at kept
    exact kept (by simp [isReversed, firstBelow collapsing, secondBelow collapsing, ascending])

end EdgeKey

/-! ## Edges and nodes under the policy -/

/-- A port of a key and its label agree with the threshold. -/
structure ShowsPort (threshold : UInt16) (port : Option UInt16) (label : String) : Prop where
  /-- The port is a port class. -/
  isPortClass : IsPortClass threshold port
  /-- The label is that of the port. -/
  label_eq : label = portLabel threshold port
  /-- The asterisk is the label of the collapsed class alone. -/
  star_iff : label = "*" ↔ port = some EdgeKey.collapsedPort
  /-- No label is zero. -/
  ne_zero : label ≠ "0"

theorem showsPort_portLabel
    {threshold : UInt16}
    {port : Option UInt16}
    (isPortClass : IsPortClass threshold port) :
    ShowsPort threshold port (portLabel threshold port) := by
  refine ⟨isPortClass, rfl, ?_, ?_⟩
  · rw [portLabel_eq_star_iff]
    constructor
    · exact And.left
    · intro collapsed
      refine ⟨collapsed, ?_⟩
      rcases isPortClass _ collapsed with ⟨_, collapsing⟩ | ⟨positive, _⟩
      · exact collapsing
      · exact absurd positive (by decide)
  · cases port with
    | none => exact ne_of_beq_false rfl
    | some number =>
        rcases isPortClass number rfl with collapsed | ⟨positive, _⟩
        · rw [portLabel_of_collapsed collapsed]
          decide
        · have literal : ¬(number = EdgeKey.collapsedPort ∧ 0 < threshold) := by
            rintro ⟨rfl, _⟩
            exact absurd positive (by decide)
          rw [portLabel_of_not_collapsed literal]
          intro zero
          have number_eq : number.toNat = 0 :=
            Text.decimal_injective (String.ofList_inj.1 zero)
          rw [UInt16.le_iff_toNat_le, number_eq] at positive
          exact absurd positive (by decide)

/-- Ports and labels of an edge agree with the threshold. -/
structure Edge.Conforms (threshold : UInt16) (edge : Edge) : Prop where
  /-- They do at the source side. -/
  source : ShowsPort threshold edge.key.sourcePort edge.sourcePortLabel
  /-- They do at the destination side. -/
  destination : ShowsPort threshold edge.key.destinationPort edge.destinationPortLabel
  /-- Of two numbers below a positive threshold the higher stands at the source side. -/
  ordered : 0 < threshold → ∀ source destination,
    edge.key.sourcePort = some source → edge.key.destinationPort = some destination →
      source ≠ EdgeKey.collapsedPort → destination ≠ EdgeKey.collapsedPort →
        destination ≤ source

theorem Edge.DerivedUnder.conforms
    {threshold : UInt16}
    {edge : Edge}
    (derived : edge.DerivedUnder threshold) :
    edge.Conforms threshold := by
  obtain ⟨connection, _, key_eq⟩ := derived.key_eq
  have classes := EdgeKey.isPortClass_ofConnection threshold connection
  rw [← key_eq] at classes
  refine ⟨?_, ?_, ?_⟩
  · rw [derived.sourceLabel_eq]
    exact showsPort_portLabel classes.1
  · rw [derived.destinationLabel_eq]
    exact showsPort_portLabel classes.2
  · intro collapsing source destination isSource isDestination
    rw [key_eq] at isSource isDestination
    exact EdgeKey.destinationPort_le_sourcePort collapsing isSource isDestination

namespace Graph

/-- Nodes are known by canonical names. -/
theorem kept_canonical (threshold : UInt16) :
    Kept (ObservedUnder threshold) fun graph =>
      ∀ node ∈ graph.nodes.toList, Address.canonical? node.id = some node.id := by
  apply kept_nodes
  · rintro _ connection host seenAt ⟨_, observed⟩ joins
    exact EdgeKey.canonical?_of_joins observed joins
  · intro seenAt node canonical
    exact canonical
  · intro thresholds now node canonical
    exact canonical
  · intro position node canonical
    exact canonical

/-- Without traffic and without a processed batch a graph is the empty one. -/
theorem eq_empty_of_traffic_eq_empty
    {graph : Graph}
    (traffic_eq : graph.traffic = .empty)
    (version_eq : graph.version = unprocessedVersion) :
    graph = empty := by
  simp only [traffic, Traffic.empty, Traffic.mk.injEq, List.map_eq_nil_iff] at traffic_eq
  have nodes_eq : graph.nodes = .empty := Table.ext_toList traffic_eq.1
  have edges_eq : graph.edges = .empty := Table.ext_toList traffic_eq.2
  cases graph
  cases nodes_eq
  cases edges_eq
  cases version_eq
  rfl

end Graph

/-! ## Sessions -/

/-- Usable thresholds let entries fade after a positive time and be idle later. -/
theorem Thresholds.validate_eq_ok_iff {thresholds : Thresholds} :
    thresholds.validate = .ok () ↔
      0 < thresholds.fadeAfter ∧ thresholds.fadeAfter < thresholds.idleAfter := by
  rw [validate]
  split
  · next zero => simp [zero]
  · next nonzero =>
    have positive : 0 < thresholds.fadeAfter := UInt64.pos_iff_ne_zero.2 nonzero
    split
    · next early => simp [UInt64.not_lt.2 early]
    · next late => simp [positive, UInt64.not_le.1 late]

namespace Session

/-- Every operation leaves usable options. -/
theorem validate_perform
    {session : Session}
    (usable : session.options.validate = .ok ())
    (operation : Operation) :
    (session.perform operation).options.validate = .ok () := by
  cases operation with
  | setSource clock source =>
      rw [perform, options_setSource]
      exact usable
  | setOptions clock options =>
      cases given : options.validate with
      | error fault =>
          rw [perform_setOptions_of_error given]
          exact usable
      | ok _ =>
          by_cases same : session.options.portThreshold = options.portThreshold
          · rw [perform_setOptions_of_eq given same]
            exact given
          · rw [perform_setOptions_of_ne given same]
            exact given
  | applyBatch clock batch now =>
      rw [perform, options_applyBatch]
      exact usable
  | tick clock now =>
      rw [perform, options_tick]
      exact usable
  | mergePositions clock updates =>
      rw [perform, options_mergePositions]
      exact usable

theorem validate_after
    {session : Session}
    (usable : session.options.validate = .ok ())
    (operations : List Operation) :
    (session.after operations).options.validate = .ok () := by
  induction operations generalizing session with
  | nil => exact usable
  | cons operation operations inductionHypothesis =>
      exact inductionHypothesis (validate_perform usable operation)

/-- The parts of a session agree with each other and with the present policy. -/
structure Consistent (session : Session) : Prop where
  /-- Entries fade after a positive time. -/
  fadeAfter_pos : 0 < session.options.fadeAfter
  /-- Entries are idle later than they fade. -/
  fadeAfter_lt_idleAfter : session.options.fadeAfter < session.options.idleAfter
  /-- Without a source there is no graph and no batch was processed. -/
  empty_of_unmapped : session.mapping = none → session.graph = .empty ∧ session.version = -1
  /-- No version lies before that of a session without batches. -/
  version_ge : -1 ≤ session.version
  /-- Nodes are known by canonical names. -/
  canonical : ∀ node ∈ session.graph.nodes.toList, Address.canonical? node.id = some node.id
  /-- Ports and labels of the edges agree with the present threshold. -/
  conforms : ∀ edge ∈ session.graph.edges.toList, edge.Conforms session.options.portThreshold

/-- Only usable options open a session, which has no source. -/
theorem create?_eq_ok_iff
    {viewId : String}
    {options : GraphOptions}
    {session : Session} :
    create? viewId options = .ok session ↔
      options.validate = .ok () ∧ session = create viewId options := by
  rw [create?]
  cases options.validate with
  | error fault => simp [bind, Except.bind]
  | ok _ => simp [bind, Except.bind, pure, Except.pure, eq_comm]

/-- **Consistency.** Whatever is done with a session that was opened with usable options,
its options stay usable, it has no graph without a source, its nodes bear canonical names,
and all ports and labels in its graph agree with the present port threshold. -/
theorem consistent_after
    {viewId : String}
    {options : GraphOptions}
    {session : Session}
    (opened : create? viewId options = .ok session)
    (operations : List Operation) :
    (session.after operations).Consistent := by
  obtain ⟨usable, rfl⟩ := create?_eq_ok_iff.1 opened
  have stillUsable : ((create viewId options).after operations).options.validate = .ok () :=
    validate_after usable operations
  have fades := Thresholds.validate_eq_ok_iff.1 stillUsable
  have accounts := (Ledger.accounts_create viewId options).after operations
  have grown := (isGrown_create viewId options).after operations
  refine {
    fadeAfter_pos := fades.1
    fadeAfter_lt_idleAfter := fades.2
    empty_of_unmapped := ?unmapped
    version_ge := ?version
    canonical := ?canonical
    conforms := ?conforms }
  case unmapped =>
    intro unmapped
    rw [accounts.mapping_eq] at unmapped
    have blank := accounts.blank_of_nil (accounts.wellFormed.accepted_eq unmapped)
    exact ⟨Graph.eq_empty_of_traffic_eq_empty blank.traffic_eq blank.version_eq, blank.version_eq⟩
  case version =>
    rw [accounts.version_eq]
    exact accounts.wellFormed.unprocessed_le
  case canonical =>
    exact Graph.GrownUnder.holds grown (Graph.kept_canonical _) (by simp [Graph.empty])
  case conforms =>
    intro edge listed
    have derived := Graph.GrownUnder.holds grown (Graph.kept_derivedUnder _)
      (by simp [Graph.empty])
    exact (derived edge listed).conforms

/-- A call to a port that the standard options keep, from one that they collapse. -/
def call : Record :=
  .ofMembers [("src", .string "::1"), ("dst", .string "db"), ("src_port", .string "50000"),
    ("dst_port", .string "443")]

/-- The call is delivered, options are refused, and others take away the port threshold
before the call is delivered again. -/
def unfolded : List Operation :=
  [.setSource "" (.ofRecord call),
    .applyBatch "" { version := 1, mode := .incremental, events := [call] } 0,
    .setOptions "" { GraphOptions.standard with fadeAfter := 0 },
    .setOptions "" { GraphOptions.standard with portThreshold := 0 },
    .applyBatch "" { version := 2, mode := .fullWindow, events := [call] } 5,
    .tick "" 9000]

/-- The port that was collapsed at first is shown by its number in the end. -/
theorem consistent_after_unfolded :
    create? "view" .standard = .ok (create "view" .standard) ∧
      ((create "view" .standard).after (unfolded.take 3)).graph.traffic.edges.map
        EdgeTraffic.sourcePortLabel = ["*"] ∧
      ((create "view" .standard).after unfolded).graph.traffic.edges.map
        EdgeTraffic.sourcePortLabel = ["50000"] ∧
      ((create "view" .standard).after unfolded).Consistent := by
  have opened : create? "view" .standard = .ok (create "view" .standard) := by rfl
  have traffic_eq (operations : List Operation) :=
    ((Ledger.accounts_create "view" .standard).after operations).traffic_eq
  refine ⟨opened, ?_, ?_, consistent_after opened unfolded⟩
  · rw [traffic_eq]
    rfl
  · rw [traffic_eq]
    rfl

end Session
end TrafficGraph
