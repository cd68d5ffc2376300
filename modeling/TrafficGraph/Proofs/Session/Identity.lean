import TrafficGraph.Proofs.Graph.EdgeText
import TrafficGraph.Proofs.Graph.Integrity
import TrafficGraph.Proofs.Session.Growth
import TrafficGraph.Proofs.Source.Rendering

/-!
# Identities in the snapshots of a session

The hosts of observed connections are canonical names, so the keys that come from them
have distinct texts.  In a session all keys and labels come from observed connections
under the present port threshold; there an edge is also told apart by what a renderer
shows of it, its ends, its protocol and its port labels.
-/

namespace TrafficGraph

/-! ## Observed hosts and keys -/

/-- The hosts of an observed connection are canonical names. -/
theorem Source.Connection.IsObserved.canonical?_eq
    {connection : Source.Connection}
    (observed : connection.IsObserved) :
    Address.canonical? connection.source = some connection.source ∧
      Address.canonical? connection.destination = some connection.destination := by
  obtain ⟨mapping, record, described⟩ := observed
  have normal := (Source.connection?_eq_some_iff.1 described).isNormal
  exact ⟨normal.source, normal.destination⟩

namespace EdgeKey

/-- The key of an observed connection under some threshold. -/
def IsObserved (key : EdgeKey) : Prop :=
  ∃ threshold connection, connection.IsObserved ∧ key = ofConnection threshold connection

theorem canonical?_of_joins
    {threshold : UInt16}
    {connection : Source.Connection}
    (observed : connection.IsObserved)
    {host : String}
    (joins : (ofConnection threshold connection).Joins host) :
    Address.canonical? host = some host := by
  rcases joins_ofConnection_iff.1 joins with rfl | rfl
  · exact observed.canonical?_eq.1
  · exact observed.canonical?_eq.2

theorem IsObserved.isClean
    {key : EdgeKey}
    (observed : key.IsObserved) :
    key.IsClean := by
  obtain ⟨threshold, connection, isObserved, rfl⟩ := observed
  constructor
  · intro character listed
    have canonical := canonical?_of_joins isObserved
      (joins_source (ofConnection threshold connection))
    exact Address.isCanonicalCharacter_of_canonical? canonical listed
  · intro character listed
    have canonical := canonical?_of_joins isObserved
      (joins_destination (ofConnection threshold connection))
    exact Address.isCanonicalCharacter_of_canonical? canonical listed

end EdgeKey

/-! ## Edges of a session -/

/-- Key and labels of an edge come from an observed connection under a threshold. -/
structure Edge.DerivedUnder (threshold : UInt16) (edge : Edge) : Prop where
  /-- The key is that of an observed connection. -/
  key_eq : ∃ connection : Source.Connection, connection.IsObserved ∧
    edge.key = .ofConnection threshold connection
  /-- The label at the source side is that of the port of the key. -/
  sourceLabel_eq : edge.sourcePortLabel = portLabel threshold edge.key.sourcePort
  /-- The label at the destination side is that of the port of the key. -/
  destinationLabel_eq : edge.destinationPortLabel = portLabel threshold edge.key.destinationPort

theorem Edge.DerivedUnder.isObserved
    {threshold : UInt16}
    {edge : Edge}
    (derived : edge.DerivedUnder threshold) :
    edge.key.IsObserved := by
  obtain ⟨connection, observed, key_eq⟩ := derived.key_eq
  exact ⟨threshold, connection, observed, key_eq⟩

namespace Graph

theorem kept_derivedUnder (threshold : UInt16) :
    Kept (ObservedUnder threshold) fun graph =>
      ∀ edge ∈ graph.edges.toList, edge.DerivedUnder threshold := by
  apply kept_edges
  · rintro _ connection seenAt byteCount ⟨rfl, observed⟩
    exact ⟨⟨connection, observed, rfl⟩, rfl, rfl⟩
  · intro seenAt byteCount edge derived
    exact ⟨derived.key_eq, derived.sourceLabel_eq, derived.destinationLabel_eq⟩
  · intro thresholds now edge derived
    exact ⟨derived.key_eq, derived.sourceLabel_eq, derived.destinationLabel_eq⟩

/-- Edges that something tells apart together with their keys are shown distinct. -/
theorem nodup_map_edges
    {graph : Graph}
    {α : Type}
    {shown : Edge → α}
    (determines : ∀ first ∈ graph.edges.toList, ∀ second ∈ graph.edges.toList,
      shown first = shown second → first.key = second.key) :
    (graph.edges.toList.map shown).Nodup := by
  have distinct := graph.edges.nodup_keys
  rw [List.Nodup, List.pairwise_map] at distinct ⊢
  apply distinct.imp_of_mem
  intro first second isFirst isSecond different same
  exact different (determines first isFirst second isSecond same)

end Graph

/-- What a renderer shows of an edge: its ends, its protocol and its port labels. -/
def EdgeView.appearance (view : EdgeView) : String × String × String × String × String :=
  (view.sourceId, view.destinationId, view.protocol, view.sourcePortLabel,
    view.destinationPortLabel)

/-- Under one threshold an edge is told by its appearance. -/
theorem key_eq_of_appearance_eq
    {threshold : UInt16}
    {first second : Edge}
    (firstFollows : first.FollowsKey)
    (secondFollows : second.FollowsKey)
    (firstDerived : first.DerivedUnder threshold)
    (secondDerived : second.DerivedUnder threshold)
    (equality : first.view.appearance = second.view.appearance) :
    first.key = second.key := by
  simp only [EdgeView.appearance, Edge.view, Prod.mk.injEq] at equality
  obtain ⟨sources, destinations, protocols, sourceLabels, destinationLabels⟩ := equality
  rw [firstFollows.sourceId_eq, secondFollows.sourceId_eq] at sources
  rw [firstFollows.destinationId_eq, secondFollows.destinationId_eq] at destinations
  rw [firstFollows.protocol_eq, secondFollows.protocol_eq] at protocols
  rw [firstDerived.sourceLabel_eq, secondDerived.sourceLabel_eq] at sourceLabels
  rw [firstDerived.destinationLabel_eq, secondDerived.destinationLabel_eq] at destinationLabels
  cases keyEq : first.key with
  | mk source destination protocol sourcePort destinationPort =>
      cases otherEq : second.key with
      | mk otherSource otherDestination otherProtocol otherSourcePort otherDestinationPort =>
          rw [keyEq, otherEq] at sources destinations protocols sourceLabels destinationLabels
          rw [EdgeKey.mk.injEq]
          exact ⟨sources, destinations, protocols, portLabel_injective sourceLabels,
            portLabel_injective destinationLabels⟩

namespace Session

/-- **Identities.** Whatever is done with a new session, the texts of the edges in its
snapshot are distinct, and so are their appearances; and the keys of observed
connections have distinct texts, under whatever thresholds they are taken. -/
theorem edges_distinct_after
    (viewId : String)
    (options : GraphOptions)
    (operations : List Operation) :
    ((((create viewId options).after operations).graph.snapshot.edges.map EdgeView.id).Nodup ∧
      (((create viewId options).after operations).graph.snapshot.edges.map
        EdgeView.appearance).Nodup) ∧
      ∀ first second : EdgeKey, first.IsObserved → second.IsObserved →
        first.print = second.print → first = second := by
  have injective (first second : EdgeKey) (firstObserved : first.IsObserved)
      (secondObserved : second.IsObserved) (equality : first.print = second.print) :
      first = second :=
    EdgeKey.print_injective firstObserved.isClean secondObserved.isClean equality
  have grown := (isGrown_create viewId options).after operations
  have derived := Graph.GrownUnder.holds grown
    (Graph.kept_derivedUnder _) (by simp [Graph.empty])
  have follows := Graph.GrownUnder.holds grown Graph.kept_followsKey (by simp [Graph.empty])
  refine ⟨⟨?_, ?_⟩, injective⟩
  · rw [Graph.snapshot, List.map_map]
    apply Graph.nodup_map_edges
    intro first isFirst second isSecond same
    exact injective _ _ (derived first isFirst).isObserved (derived second isSecond).isObserved same
  · rw [Graph.snapshot, List.map_map]
    apply Graph.nodup_map_edges
    intro first isFirst second isSecond same
    exact key_eq_of_appearance_eq (follows first isFirst) (follows second isSecond)
      (derived first isFirst) (derived second isSecond) same

/-- A connection of which a record tells nothing but the hosts. -/
def bareConnection (source destination : String) : Source.Connection where
  source
  destination
  sourcePort := none
  destinationPort := none
  protocol := none
  timestamp := none
  byteCount := none

/-- Hosts whose hyphens touch the arrow are told apart. -/
theorem edges_distinct_after_hyphens :
    (EdgeKey.ofConnection 0 (bareConnection "a-" "b")).IsObserved ∧
      (EdgeKey.ofConnection 1024 (bareConnection "a" "-b")).IsObserved ∧
        (EdgeKey.ofConnection 0 (bareConnection "a-" "b")).print ≠
          (EdgeKey.ofConnection 1024 (bareConnection "a" "-b")).print := by
  have first : (EdgeKey.ofConnection 0 (bareConnection "a-" "b")).IsObserved :=
    ⟨0, _, ⟨⟨"src", "dst", none, none, none, none, none⟩,
      .ofMembers [("src", .string "a-"), ("dst", .string "b")], by rfl⟩, rfl⟩
  have second : (EdgeKey.ofConnection 1024 (bareConnection "a" "-b")).IsObserved :=
    ⟨1024, _, ⟨⟨"src", "dst", none, none, none, none, none⟩,
      .ofMembers [("src", .string "a"), ("dst", .string "-b")], by rfl⟩, rfl⟩
  refine ⟨first, second, ?_⟩
  intro same
  have keys_eq := (edges_distinct_after "view" .standard []).2 _ _ first second same
  exact absurd keys_eq (by decide)

end Session
end TrafficGraph
