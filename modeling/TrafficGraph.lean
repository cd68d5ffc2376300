import TrafficGraph.Main
import TrafficGraph.Session.DecayLoop
import TrafficGraph.Proofs.Feed.Interleaving
import TrafficGraph.Proofs.Feed.Pumping
import TrafficGraph.Proofs.Feed.Readers
import TrafficGraph.Proofs.Graph.Freshness
import TrafficGraph.Proofs.Session.Ledger
import TrafficGraph.Proofs.Session.Policy
import TrafficGraph.Proofs.Graph.Demotion
import TrafficGraph.Proofs.Graph.Placement
import TrafficGraph.Proofs.Session.Notification
import TrafficGraph.Proofs.Session.Subscription
import TrafficGraph.Proofs.Session.Renewal
import TrafficGraph.Proofs.Session.Positions
import TrafficGraph.Proofs.Graph.Reordering
import TrafficGraph.Proofs.Session.Reordering
import TrafficGraph.Proofs.Session.Steps
import TrafficGraph.Proofs.Sum
import TrafficGraph.Proofs.Session.Reckoning
import TrafficGraph.Proofs.Graph.Extension
import TrafficGraph.Proofs.Session.Extension
import TrafficGraph.Proofs.Schedule
import TrafficGraph.Proofs.Registry.Run
import TrafficGraph.Proofs.Registry.Ownership
import TrafficGraph.Proofs.Registry.Isolation
import TrafficGraph.Proofs.Http.Effects
import TrafficGraph.Proofs.Http.Atomicity
import TrafficGraph.Proofs.Graph.Recency
import TrafficGraph.Proofs.Graph.Grouping
import TrafficGraph.Proofs.Graph.EdgeIdentity
import TrafficGraph.Proofs.Graph.Collapsing
import TrafficGraph.Proofs.Graph.Staleness
import TrafficGraph.Proofs.Graph.Interchange
import TrafficGraph.Proofs.Session.Interchange
import TrafficGraph.Proofs.Graph.DecayRun
import TrafficGraph.Proofs.Address.Identity
import TrafficGraph.Proofs.Source.Assignment
import TrafficGraph.Proofs.Source.Naming
import TrafficGraph.Proofs.Json.Strings
import TrafficGraph.Proofs.Json.Numbers
import TrafficGraph.Proofs.Json.Nesting
import TrafficGraph.Proofs.Json.Reading
import TrafficGraph.Proofs.Json.Printing
import TrafficGraph.Proofs.Feed.Lines
import TrafficGraph.Proofs.Settings.Decoding
import TrafficGraph.Proofs.Settings.Layers
import TrafficGraph.Proofs.Wire.Interface
