import Unoc.Base.System
import Unoc.Base.Bfs
import Unoc.Model.Rows
import Unoc.EventStore.Log
import Unoc.Coalescer.Machine
import Unoc.Coalescer.Safety
import Unoc.Traffic.Cache
import Unoc.Traffic.Capacity
import Unoc.Traffic.Shaping
import Unoc.Traffic.Adjacency
import Unoc.Traffic.Generation
import Unoc.Traffic.Reproducibility
import Unoc.Base.Dict
import Unoc.Model.Database
import Unoc.Subscriber.Accounts
import Unoc.Subscriber.Consistency
import Unoc.Base.Worklist
import Unoc.Optical.SignalBudget
import Unoc.Status.Affected
import Unoc.Status.Coalescing
import Unoc.Status.Evaluate
import Unoc.Status.Recompute
import Unoc.Status.Incremental
import Unoc.Api.Snapshots
import Unoc.Base.Dijkstra
import Unoc.Optical.Agreement
import Unoc.Base.Frontier
import Unoc.Pathfinding.Coherence
import Unoc.Status.CausalChain
import Unoc.Status.Fallback
import Unoc.Status.Passability
import Unoc.Traffic.BackendGraph
import Unoc.Traffic.CongestionHandlers
import Unoc.Traffic.Segments
import Unoc.Links.Accepted
import Unoc.Links.Alone
import Unoc.Links.Batch
import Unoc.Links.BatchAgreement
import Unoc.Links.Policy
import Unoc.Links.Race
import Unoc.Pathfinding.UpstreamCache
import Unoc.Pathfinding.UpstreamCoverage
import Unoc.PortSummary.Chains
import Unoc.PortSummary.Deadlock
import Unoc.PortSummary.Endpoint
import Unoc.PortSummary.Reload
import Unoc.Realtime.EngineEvents
import Unoc.Base.Ends
import Unoc.Base.ExchangeSort
import Unoc.Base.QueuedOnce
import Unoc.Base.WorkerPool
import Unoc.Devices.Delete
import Unoc.Optical.AffectedOnts
import Unoc.Optical.Parallel
import Unoc.Provisioning.MacAllocator
import Unoc.Provisioning.ManagementAddress
import Unoc.Realtime.ClientVersions
import Unoc.Realtime.DevicesStore
import Unoc.Realtime.LinksStore
import Unoc.Traffic.CatalogEffective
import Unoc.Base.Eager
import Unoc.Base.Onward
import Unoc.Base.Hops
import Unoc.Optical.Optimality
import Unoc.Optical.ParallelFibers
import Unoc.Optical.TieBreak
import Unoc.Status.TracePath
import Unoc.Status.TraceSoundness
import Unoc.Status.UpstreamChain
import Unoc.Status.UpstreamShape
import Unoc.Traffic.AnchorPath
import Unoc.Traffic.Conservation
import Unoc.Traffic.Fairness
import Unoc.Status.TraceOrder
import Unoc.Status.PassiveRule
import Unoc.Status.GraphCache
import Unoc.Pathfinding.CollapsedAccess
import Unoc.Subscriber.CountOrder
import Unoc.Subscriber.NearestPorts
import Unoc.Subscriber.Oversubscription
import Unoc.Traffic.MetricsAccuracy
import Unoc.Optical.SignalRuns
import Unoc.Traffic.PairKeys
import Unoc.Realtime.PortSummaryManager
import Unoc.Base.Greedy
import Unoc.Links.Bulk
import Unoc.Links.DryRun
import Unoc.Links.SplitterUsage
import Unoc.Provisioning.L3Idempotent
import Unoc.Provisioning.L3Adjacencies
import Unoc.Forwarding.DeviceLocal
import Unoc.Links.ManyToOne
import Unoc.Pathfinding.ShortestOpticalPath
import Unoc.Regions.RegionIds
import Unoc.Base.EventSourcing
import Unoc.Links.Lifecycle
import Unoc.Links.EventLog
import Unoc.Links.Media
import Unoc.Base.SlicedQueue
import Unoc.Links.Jobs
import Unoc.Base.Orbit
import Unoc.Forwarding.MacLearning
import Unoc.Forwarding.FlowPath
import Unoc.Base.SortedBfs
import Unoc.Traffic.BackendPath
import Unoc.Traffic.LeafRoutes
import Unoc.Base.Feed
import Unoc.Traffic.BackendTick
import Unoc.Traffic.BackendRuns
import Unoc.Realtime.Dispatcher
import Unoc.Realtime.Delivery
import Unoc.Realtime.Drain
import Unoc.Provisioning.Gate
import Unoc.Provisioning.Grounded
import Unoc.Base.Buckets
import Unoc.PortSummary.Bulk
import Unoc.Devices.Placement
import Unoc.Layout.Store
import Unoc.Layout.Sync
