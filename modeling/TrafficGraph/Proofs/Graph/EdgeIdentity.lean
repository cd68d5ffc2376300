import TrafficGraph.Graph.EdgeKey

/-!
# Which connections share an edge

Two connections are observed under one key exactly if they speak the same protocol and
either agree in their ends, each a host and the class of a port, or are the two views of one
exchange between different ports below the threshold.  In the latter case the key shows the
lower port at the destination side, whichever end was observed as the source; without two
such ports the observed direction is kept, so nothing else is merged against its direction.
-/

namespace TrafficGraph

/-- What an edge tells of an observed port. -/
inductive PortClass
  /-- No port was observed. -/
  | absent
  /-- The port is one of those at or above the threshold. -/
  | collapsed
  /-- The port is this one. -/
  | literal (port : UInt16)
  deriving DecidableEq

namespace PortClass

/-- The class of an observed port, where port zero counts as none. -/
def ofPort (threshold : UInt16) : Option UInt16 → PortClass
  | none => absent
  | some port =>
    if port = 0 then absent
    else if 0 < threshold ∧ threshold ≤ port then collapsed
    else literal port

/-- A class as a key shows it. -/
def shown : PortClass → Option UInt16
  | absent => none
  | collapsed => some EdgeKey.collapsedPort
  | literal port => some port

variable {threshold : UInt16}

theorem ofPort_eq_literal_iff {observed : Option UInt16} {port : UInt16} :
    ofPort threshold observed = literal port ↔
      observed = some port ∧ port ≠ 0 ∧ ¬(0 < threshold ∧ threshold ≤ port) := by
  cases observed with
  | none => simp [ofPort]
  | some other =>
      rw [ofPort, Option.some.injEq]
      constructor
      · intro isLiteral
        split at isLiteral
        · cases isLiteral
        · next named =>
          split at isLiteral
          · cases isLiteral
          · next low =>
            rw [← literal.inj isLiteral]
            exact ⟨rfl, named, low⟩
      · rintro ⟨rfl, named, low⟩
        rw [if_neg named, if_neg low]

/-- A port below the threshold is a class of its own. -/
theorem ofPort_of_lt
    {port : UInt16}
    (positive : port ≠ 0)
    (below : port < threshold) :
    ofPort threshold (some port) = literal port :=
  ofPort_eq_literal_iff.2 ⟨rfl, positive, fun high => UInt16.not_le.2 below high.2⟩

/-- Only the port itself has the class of a port below the threshold. -/
theorem eq_some_of_ofPort_eq
    {port : UInt16}
    (positive : port ≠ 0)
    (below : port < threshold)
    {first second : Option UInt16}
    (isPort : first = some port)
    (same : ofPort threshold first = ofPort threshold second) :
    second = some port := by
  rw [isPort, ofPort_of_lt positive below] at same
  exact (ofPort_eq_literal_iff.1 same.symm).1

theorem shown_ofPort (observed : Option UInt16) :
    (ofPort threshold observed).shown =
      (EdgeKey.namedPort observed).map (EdgeKey.portClass threshold) := by
  cases observed with
  | none => rfl
  | some port =>
      by_cases zero : port = EdgeKey.collapsedPort
      · rw [zero]
        rfl
      · have named : EdgeKey.namedPort (some port) = some port :=
          EdgeKey.namedPort_eq_some_iff.2 ⟨rfl, zero⟩
        rw [named, Option.map_some, ofPort, EdgeKey.portClass]
        refine (congrArg shown (if_neg zero)).trans ?_
        split
        · rfl
        · rfl

/-- The class that a key shows. -/
def ofShown : Option UInt16 → PortClass
  | none => absent
  | some port => if port = EdgeKey.collapsedPort then collapsed else literal port

/-- An observed port zero is no class of its own, so keys tell classes apart. -/
theorem ofShown_shown_ofPort (observed : Option UInt16) :
    ofShown (ofPort threshold observed).shown = ofPort threshold observed := by
  cases isClass : ofPort threshold observed with
  | absent => rfl
  | collapsed => rfl
  | literal port => exact if_neg (ofPort_eq_literal_iff.1 isClass).2.1

theorem shown_ofPort_inj {first second : Option UInt16} :
    (ofPort threshold first).shown = (ofPort threshold second).shown ↔
      ofPort threshold first = ofPort threshold second := by
  refine ⟨fun same => ?_, congrArg shown⟩
  rw [← ofShown_shown_ofPort first, same, ofShown_shown_ofPort]

end PortClass

namespace Source.Connection

/-- The connection as it is seen from its other end. -/
def exchanged (connection : Connection) : Connection :=
  { connection with
    source := connection.destination
    destination := connection.source
    sourcePort := connection.destinationPort
    destinationPort := connection.sourcePort }

/-- Both ports were observed, lie below the threshold and differ. -/
def HasFixedPorts (threshold : UInt16) (connection : Connection) : Prop :=
  ∃ sourcePort destinationPort,
    connection.sourcePort = some sourcePort ∧ connection.destinationPort = some destinationPort ∧
      sourcePort ≠ 0 ∧ destinationPort ≠ 0 ∧ sourcePort < threshold ∧
        destinationPort < threshold ∧ sourcePort ≠ destinationPort

/-- Two connections agree in both hosts and in the classes of both ports. -/
structure SameEnds (threshold : UInt16) (first second : Connection) : Prop where
  /-- The sources are the same. -/
  source_eq : first.source = second.source
  /-- The destinations are the same. -/
  destination_eq : first.destination = second.destination
  /-- The ports at the sources are of one class. -/
  sourceClass_eq : PortClass.ofPort threshold first.sourcePort =
    PortClass.ofPort threshold second.sourcePort
  /-- The ports at the destinations are of one class. -/
  destinationClass_eq : PortClass.ofPort threshold first.destinationPort =
    PortClass.ofPort threshold second.destinationPort

/-- Two connections between different ports below the threshold are views of one exchange
from its two ends. -/
structure OppositeEnds (threshold : UInt16) (first second : Connection) : Prop where
  /-- The ports are different ports below the threshold. -/
  ports : first.HasFixedPorts threshold
  /-- The source of one is the destination of the other. -/
  source_eq : second.source = first.destination
  /-- The destination of one is the source of the other. -/
  destination_eq : second.destination = first.source
  /-- So are the ports at one end. -/
  sourcePort_eq : second.sourcePort = first.destinationPort
  /-- So are the ports at the other. -/
  destinationPort_eq : second.destinationPort = first.sourcePort

/-- Both ports lie below the threshold and the lower one is at the source. -/
def IsReversed (threshold : UInt16) (connection : Connection) : Prop :=
  ∃ lower higher, connection.sourcePort = some lower ∧ connection.destinationPort = some higher ∧
    lower ≠ 0 ∧ lower < higher ∧ higher < threshold

/-- The connection with the lower of two ports below the threshold at its destination. -/
def oriented (threshold : UInt16) (connection : Connection) : Connection :=
  if EdgeKey.isReversed threshold (EdgeKey.namedPort connection.sourcePort)
      (EdgeKey.namedPort connection.destinationPort) then connection.exchanged
  else connection

variable {threshold : UInt16} {connection first second : Connection}

theorem ne_zero_of_lt {lower higher : UInt16} (ascending : lower < higher) : higher ≠ 0 :=
  (UInt16.ne_of_lt (UInt16.lt_of_le_of_lt UInt16.zero_le ascending)).symm

theorem isReversed_iff :
    EdgeKey.isReversed threshold (EdgeKey.namedPort connection.sourcePort)
        (EdgeKey.namedPort connection.destinationPort) = true ↔
      connection.IsReversed threshold := by
  constructor
  · intro reversed
    unfold EdgeKey.isReversed at reversed
    split at reversed
    · next lower higher isLower isHigher =>
      obtain ⟨observedLower, positive⟩ := EdgeKey.namedPort_eq_some_iff.1 isLower
      obtain ⟨observedHigher, _⟩ := EdgeKey.namedPort_eq_some_iff.1 isHigher
      simp only [Bool.and_eq_true, decide_eq_true_iff] at reversed
      exact ⟨lower, higher, observedLower, observedHigher, positive, reversed.2, reversed.1.2⟩
    · cases reversed
  · rintro ⟨lower, higher, isLower, isHigher, positive, ascending, below⟩
    have namedLower := EdgeKey.namedPort_eq_some_iff.2 ⟨isLower, positive⟩
    have namedHigher := EdgeKey.namedPort_eq_some_iff.2 ⟨isHigher, ne_zero_of_lt ascending⟩
    rw [namedLower, namedHigher]
    simp only [EdgeKey.isReversed, Bool.and_eq_true, decide_eq_true_iff]
    exact ⟨⟨UInt16.lt_trans ascending below, below⟩, ascending⟩

theorem oriented_of_isReversed (reversed : connection.IsReversed threshold) :
    connection.oriented threshold = connection.exchanged :=
  if_pos (isReversed_iff.2 reversed)

theorem oriented_of_not_isReversed (kept : ¬connection.IsReversed threshold) :
    connection.oriented threshold = connection :=
  if_neg (mt isReversed_iff.1 kept)

/-- The key of a connection shows its ends once it is oriented. -/
theorem ofConnection_eq (threshold : UInt16) (connection : Connection) :
    EdgeKey.ofConnection threshold connection = {
      source := (connection.oriented threshold).source
      destination := (connection.oriented threshold).destination
      protocol := connection.protocol.getD ""
      sourcePort := (PortClass.ofPort threshold (connection.oriented threshold).sourcePort).shown
      destinationPort :=
        (PortClass.ofPort threshold (connection.oriented threshold).destinationPort).shown } := by
  rw [PortClass.shown_ofPort, PortClass.shown_ofPort, EdgeKey.ofConnection, oriented]
  split
  · rfl
  · rfl

/-- Two connections have one key if and only if they speak one protocol and agree in their
ends once they are oriented. -/
theorem ofConnection_eq_ofConnection_iff :
    EdgeKey.ofConnection threshold first = EdgeKey.ofConnection threshold second ↔
      first.protocol.getD "" = second.protocol.getD "" ∧
        (first.oriented threshold).SameEnds threshold (second.oriented threshold) := by
  rw [ofConnection_eq, ofConnection_eq, EdgeKey.mk.injEq, PortClass.shown_ofPort_inj,
    PortClass.shown_ofPort_inj]
  constructor
  · rintro ⟨source, destination, protocol, sourceClass, destinationClass⟩
    exact ⟨protocol, source, destination, sourceClass, destinationClass⟩
  · rintro ⟨protocol, source, destination, sourceClass, destinationClass⟩
    exact ⟨source, destination, protocol, sourceClass, destinationClass⟩

theorem SameEnds.symm (same : first.SameEnds threshold second) :
    second.SameEnds threshold first :=
  ⟨same.source_eq.symm, same.destination_eq.symm, same.sourceClass_eq.symm,
    same.destinationClass_eq.symm⟩

theorem sameEnds_exchanged_iff :
    first.exchanged.SameEnds threshold second.exchanged ↔ first.SameEnds threshold second :=
  ⟨fun same => ⟨same.destination_eq, same.source_eq, same.destinationClass_eq,
      same.sourceClass_eq⟩,
    fun same => ⟨same.destination_eq, same.source_eq, same.destinationClass_eq,
      same.sourceClass_eq⟩⟩

/-- A connection that agrees with a reversed one in its ends is reversed, since both ports
are classes of their own. -/
theorem SameEnds.isReversed
    (same : first.SameEnds threshold second)
    (reversed : first.IsReversed threshold) :
    second.IsReversed threshold := by
  obtain ⟨lower, higher, isLower, isHigher, positive, ascending, below⟩ := reversed
  refine ⟨lower, higher, ?_, ?_, positive, ascending, below⟩
  · exact PortClass.eq_some_of_ofPort_eq positive (UInt16.lt_trans ascending below) isLower
      same.sourceClass_eq
  · exact PortClass.eq_some_of_ofPort_eq (ne_zero_of_lt ascending) below isHigher
      same.destinationClass_eq

/-- Of the two views of one exchange exactly one is reversed. -/
theorem OppositeEnds.isReversed_iff
    (opposite : first.OppositeEnds threshold second) :
    second.IsReversed threshold ↔ ¬first.IsReversed threshold := by
  obtain ⟨source, destination, isSource, isDestination, sourcePositive, destinationPositive,
    sourceBelow, destinationBelow, different⟩ := opposite.ports
  have firstReversed : first.IsReversed threshold ↔ source < destination := by
    constructor
    · rintro ⟨lower, higher, isLower, isHigher, _, ascending, _⟩
      rw [isSource, Option.some.injEq] at isLower
      rw [isDestination, Option.some.injEq] at isHigher
      rwa [isLower, isHigher]
    · intro ascending
      exact ⟨source, destination, isSource, isDestination, sourcePositive, ascending,
        destinationBelow⟩
  have secondReversed : second.IsReversed threshold ↔ destination < source := by
    unfold IsReversed
    rw [opposite.sourcePort_eq, opposite.destinationPort_eq, isSource, isDestination]
    constructor
    · rintro ⟨lower, higher, isLower, isHigher, _, ascending, _⟩
      rwa [Option.some.inj isLower, Option.some.inj isHigher]
    · intro ascending
      exact ⟨destination, source, rfl, rfl, destinationPositive, ascending, sourceBelow⟩
  rw [firstReversed, secondReversed]
  grind

theorem OppositeEnds.symm (opposite : first.OppositeEnds threshold second) :
    second.OppositeEnds threshold first := by
  obtain ⟨source, destination, isSource, isDestination, sourcePositive, destinationPositive,
    sourceBelow, destinationBelow, different⟩ := opposite.ports
  refine ⟨⟨destination, source, ?_, ?_, destinationPositive, sourcePositive, destinationBelow,
    sourceBelow, different.symm⟩, opposite.destination_eq.symm, opposite.source_eq.symm,
    opposite.destinationPort_eq.symm, opposite.sourcePort_eq.symm⟩
  · rw [opposite.sourcePort_eq, isDestination]
  · rw [opposite.destinationPort_eq, isSource]

theorem OppositeEnds.sameEnds_exchanged (opposite : first.OppositeEnds threshold second) :
    first.exchanged.SameEnds threshold second :=
  ⟨opposite.source_eq.symm, opposite.destination_eq.symm,
    congrArg (PortClass.ofPort threshold) opposite.sourcePort_eq.symm,
    congrArg (PortClass.ofPort threshold) opposite.destinationPort_eq.symm⟩

/-- What agrees with the other view of a reversed connection is that view. -/
theorem oppositeEnds_of_isReversed
    (reversed : first.IsReversed threshold)
    (same : first.exchanged.SameEnds threshold second) :
    first.OppositeEnds threshold second := by
  obtain ⟨lower, higher, isLower, isHigher, positive, ascending, below⟩ := reversed
  have lowerBelow := UInt16.lt_trans ascending below
  have higherPositive := ne_zero_of_lt ascending
  refine ⟨⟨lower, higher, isLower, isHigher, positive, higherPositive, lowerBelow, below,
    UInt16.ne_of_lt ascending⟩, same.source_eq.symm, same.destination_eq.symm, ?_, ?_⟩
  · rw [isHigher]
    exact PortClass.eq_some_of_ofPort_eq higherPositive below isHigher same.sourceClass_eq
  · rw [isLower]
    exact PortClass.eq_some_of_ofPort_eq positive lowerBelow isLower same.destinationClass_eq

/-- Oriented connections agree in their ends if and only if the connections do or are two
views of one exchange. -/
theorem sameEnds_oriented_iff :
    (first.oriented threshold).SameEnds threshold (second.oriented threshold) ↔
      first.SameEnds threshold second ∨ first.OppositeEnds threshold second := by
  by_cases firstReversed : first.IsReversed threshold
  · rw [oriented_of_isReversed firstReversed]
    by_cases secondReversed : second.IsReversed threshold
    · rw [oriented_of_isReversed secondReversed, sameEnds_exchanged_iff]
      exact (or_iff_left fun opposite =>
        opposite.isReversed_iff.1 secondReversed firstReversed).symm
    · rw [oriented_of_not_isReversed secondReversed]
      constructor
      · intro same
        exact Or.inr (oppositeEnds_of_isReversed firstReversed same)
      · rintro (same | opposite)
        · exact absurd (same.isReversed firstReversed) secondReversed
        · exact opposite.sameEnds_exchanged
  · rw [oriented_of_not_isReversed firstReversed]
    by_cases secondReversed : second.IsReversed threshold
    · rw [oriented_of_isReversed secondReversed]
      constructor
      · intro same
        exact Or.inr (oppositeEnds_of_isReversed secondReversed same.symm).symm
      · rintro (same | opposite)
        · exact absurd (same.symm.isReversed secondReversed) firstReversed
        · exact opposite.symm.sameEnds_exchanged.symm
    · rw [oriented_of_not_isReversed secondReversed]
      exact (or_iff_left fun opposite =>
        secondReversed (opposite.isReversed_iff.2 firstReversed)).symm

end Source.Connection

namespace EdgeKey

open Source

/-- A key that shows two different ports below the threshold as they were observed at the
ends of a connection, the lower one at the destination side. -/
def ShowsFixed (connection : Connection) (key : EdgeKey) : Prop :=
  ∃ lower higher, lower < higher ∧ connection.sourcePort = some higher ∧
    connection.destinationPort = some lower ∧
      key = {
        source := connection.source
        destination := connection.destination
        protocol := connection.protocol.getD ""
        sourcePort := some higher
        destinationPort := some lower }

/-- The key of a connection that has its lower port at the destination once it is oriented. -/
theorem showsFixed_of_oriented_eq
    {threshold lower higher : UInt16}
    {connection view : Connection}
    (oriented_eq : connection.oriented threshold = view)
    (positive : lower ≠ 0)
    (ascending : lower < higher)
    (below : higher < threshold)
    (isHigher : view.sourcePort = some higher)
    (isLower : view.destinationPort = some lower) :
    (ofConnection threshold connection).ShowsFixed view := by
  have protocol_eq : view.protocol = connection.protocol := by
    rw [← oriented_eq, Connection.oriented]
    split
    · rfl
    · rfl
  refine ⟨lower, higher, ascending, isHigher, isLower, ?_⟩
  rw [Connection.ofConnection_eq, oriented_eq, isHigher, isLower, protocol_eq,
    PortClass.ofPort_of_lt (Connection.ne_zero_of_lt ascending) below,
    PortClass.ofPort_of_lt positive (UInt16.lt_trans ascending below)]
  rfl

/-- The key of a connection with two fixed ports shows either this or its other view. -/
theorem showsFixed_ofConnection
    {threshold : UInt16}
    {connection : Connection}
    (opposite : connection.OppositeEnds threshold connection.exchanged) :
    (ofConnection threshold connection).ShowsFixed connection ∨
      (ofConnection threshold connection).ShowsFixed connection.exchanged := by
  by_cases reversed : connection.IsReversed threshold
  · have oriented_eq := Connection.oriented_of_isReversed reversed
    obtain ⟨lower, higher, isLower, isHigher, positive, ascending, below⟩ := reversed
    exact Or.inr
      (showsFixed_of_oriented_eq oriented_eq positive ascending below isHigher isLower)
  · have oriented_eq := Connection.oriented_of_not_isReversed reversed
    obtain ⟨lower, higher, isLower, isHigher, positive, ascending, below⟩ :=
      opposite.isReversed_iff.2 reversed
    exact Or.inl
      (showsFixed_of_oriented_eq oriented_eq positive ascending below isHigher isLower)

/-- **Edge identity.** Two connections are observed under one key if and only if they speak
one protocol and either agree in their ends or are the two views of an exchange between
different ports below the threshold; and such an exchange has one key from both its ends,
which shows the lower port at the destination side. -/
theorem ofConnection_eq_iff (threshold : UInt16) (first second : Connection) :
    (ofConnection threshold first = ofConnection threshold second ↔
      first.protocol.getD "" = second.protocol.getD "" ∧
        (first.SameEnds threshold second ∨ first.OppositeEnds threshold second)) ∧
      (first.HasFixedPorts threshold →
        ofConnection threshold first.exchanged = ofConnection threshold first ∧
          ((ofConnection threshold first).ShowsFixed first ∨
            (ofConnection threshold first).ShowsFixed first.exchanged)) := by
  rw [Connection.ofConnection_eq_ofConnection_iff, Connection.sameEnds_oriented_iff]
  refine ⟨Iff.rfl, fun fixed => ?_⟩
  have opposite : first.OppositeEnds threshold first.exchanged := ⟨fixed, rfl, rfl, rfl, rfl⟩
  refine ⟨?_, showsFixed_ofConnection opposite⟩
  rw [Connection.ofConnection_eq_ofConnection_iff, Connection.sameEnds_oriented_iff]
  exact ⟨rfl, Or.inr opposite.symm⟩

/-- A name server that answers at its port asks a time server at its own. -/
def serverExchange : Connection := ⟨"a", "b", some 53, some 123, some "udp", none, none⟩

/-- An exchange between two servers has one key from both its ends, and two if no port is
collapsed. -/
theorem ofConnection_eq_iff_servers :
    serverExchange.HasFixedPorts 1024 ∧
      ofConnection 1024 serverExchange.exchanged = ofConnection 1024 serverExchange ∧
      ofConnection 0 serverExchange.exchanged ≠ ofConnection 0 serverExchange := by
  have fixed : serverExchange.HasFixedPorts 1024 :=
    ⟨53, 123, rfl, rfl, by decide, by decide, by decide, by decide, by decide⟩
  exact ⟨fixed, ((ofConnection_eq_iff 1024 serverExchange serverExchange).2 fixed).1, by decide⟩

end EdgeKey
end TrafficGraph
