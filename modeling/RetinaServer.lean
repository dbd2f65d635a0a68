import RetinaServer.Library.Dict
import RetinaServer.Library.Runs
import RetinaServer.Library.Selection
import RetinaServer.Library.FirstFit
import RetinaServer.Library.Recollection
import RetinaServer.Library.Transaction
import RetinaServer.Library.Rounding
import RetinaServer.Feed.Entry
import RetinaServer.Feed.Dedup
import RetinaServer.Feed.Publication
import RetinaServer.Feed.Agreement
import RetinaServer.Solver.Input
import RetinaServer.Solver.EpochAlign
import RetinaServer.Solver.PoolAdoption
import RetinaServer.Solver.ResolveSlots
import RetinaServer.Multinode.Entry
import RetinaServer.Multinode.TrackFilter
import RetinaServer.Multinode.Smoothing
import RetinaServer.Multinode.Keying
import RetinaServer.Multinode.KeyDecision
import RetinaServer.Multinode.Supersession
import RetinaServer.Multinode.Publish
import RetinaServer.Multinode.Stores
import RetinaServer.Multinode.Pruning
import RetinaServer.Multinode.Posterior
import RetinaServer.Frames.Frame
import RetinaServer.Frames.ProcessFrame
import RetinaServer.Library.Ledger
import RetinaServer.Frames.ArchiveBuffer
import RetinaServer.Frames.FrameQueue
import RetinaServer.Feed.TrailStore
import RetinaServer.Feed.Trails
import RetinaServer.Frames.NodeTracks
import RetinaServer.Frames.ClosedTracks
import RetinaServer.Multinode.Absorption
import RetinaServer.Multinode.Alarms
import RetinaServer.Multinode.Lineage
import RetinaServer.Solver.Gates
import RetinaServer.Solver.ProcessItem
import RetinaServer.Solver.TwoNodes
import RetinaServer.Limits.FixedWindowCounters
import RetinaServer.Limits.Bounds
import RetinaServer.Limits.Windows
import RetinaServer.Sites.NodeSites
import RetinaServer.Sites.PublicLocation
import RetinaServer.Registry.Identity
import RetinaServer.Library.Replacement
import RetinaServer.Registry.Republication
import RetinaServer.Tcp.Json
import RetinaServer.Tcp.NodeConfig
import RetinaServer.Tcp.Detection
import RetinaServer.Tcp.Connection
import RetinaServer.Tcp.Authentication
import RetinaServer.Tcp.Lifecycle
import RetinaServer.Tcp.Custody
import RetinaServer.Tcp.Confinement
import RetinaServer.Known.Claim
import RetinaServer.Known.Prediction
import RetinaServer.Known.Paths
import RetinaServer.Known.Calibration
import RetinaServer.Known.ClaimKnownTargets
import RetinaServer.Known.Arbitration
import RetinaServer.Known.CalibrationRules
import RetinaServer.Known.Lifetimes
import RetinaServer.Library.Grouping
import RetinaServer.Mirror.WireFrame
import RetinaServer.Mirror.DetectionMirror
import RetinaServer.Library.Delimited
import RetinaServer.Tcp.Framing
import RetinaServer.Tcp.ReadLoop
import RetinaServer.Polled.Poller
import RetinaServer.Polled.FrameOrder
import RetinaServer.Claiming.MagicLinks
import RetinaServer.Claiming.NodeClaims
import RetinaServer.Claiming.Requests
import RetinaServer.Claiming.Turns
import RetinaServer.Claiming.LiveLinks
import RetinaServer.Claiming.Ownership
import RetinaServer.Library.Upsert
import RetinaServer.Sync.Tables
import RetinaServer.Sync.Sender
import RetinaServer.Sync.Receiver
import RetinaServer.Sync.Acceptance
import RetinaServer.Sync.Push
import RetinaServer.Sync.Mirroring
import RetinaServer.Sync.TakenRefs
import RetinaServer.Sync.Convergence
import RetinaServer.Parquet.Columns
import RetinaServer.Library.Partial
import RetinaServer.Parquet.Writer
import RetinaServer.Parquet.LegacyJson
import RetinaServer.Parquet.RoundTrip
import RetinaServer.Parquet.Flushes
import RetinaServer.Parquet.Verdict
import RetinaServer.Feed.Withholding
import RetinaServer.Registry.Disclosure
import RetinaServer.Tcp.CustodyRefresh
import RetinaServer.Pipelines.Factory
import RetinaServer.Pipelines.Registries
import RetinaServer.Polled.Registration
import RetinaServer.Tracks.Geolocation
import RetinaServer.Tracks.SharedPlaces
import RetinaServer.Tracks.TaggedEvents
import RetinaServer.Tracks.LegibleEvents
import RetinaServer.Tracks.TagContainment
import RetinaServer.Polled.Trust
import RetinaServer.Polled.Rejoining
import RetinaServer.Library.Kalman
import RetinaServer.Multinode.Covariance
import RetinaServer.Solver.Provenance
import RetinaServer.NodeApi.Blocks
import RetinaServer.NodeApi.Rows
import RetinaServer.NodeApi.LiveTokens
import RetinaServer.Frames.AdsbCache
import RetinaServer.Snapshot.Disk
import RetinaServer.Snapshot.Restore
import RetinaServer.Library.Machines
import RetinaServer.Retirement.Messages
import RetinaServer.Retirement.Coverage
import RetinaServer.Retirement.NodeRecords
import RetinaServer.Retirement.ClaimMemory
import RetinaServer.Retirement.Retire
import RetinaServer.Feed.TrackEntry
import RetinaServer.Feed.Build
import RetinaServer.Feed.GateHold
import RetinaServer.Library.Memo
import RetinaServer.Feed.ArcMemo
import RetinaServer.Multinode.DictOrder
import RetinaServer.Library.Freshest
import RetinaServer.KnownLane.ClaimSelection
import RetinaServer.KnownLane.Reanchor
import RetinaServer.DarkFollow.Publications
import RetinaServer.DarkFollow.Targets
import RetinaServer.DarkFollow.Reprieve
import RetinaServer.DarkFollow.Cooldown
import RetinaServer.Known.FailOpen
import RetinaServer.Known.Accounting
import RetinaServer.Solver.LinkingIds
import RetinaServer.Library.JsonSchema
import RetinaServer.Library.Window
import RetinaServer.Limits.RateBuckets
import RetinaServer.Alerting.SendAlert
import RetinaServer.Alerting.Spacing
import RetinaServer.Tcp.ConfigGate
import RetinaServer.Tcp.ConfigProjection
import RetinaServer.NodeApi.ConfigContract
import RetinaServer.NodeApi.ConfigHistory
import RetinaServer.NodeApi.ConfigColumns
import RetinaServer.NodeApi.ProbedConfig
import RetinaServer.Feed.DedupFolds
import RetinaServer.Feed.Duplicates
import RetinaServer.Frames.UntypedTracks
import RetinaServer.Sites.Partition
import RetinaServer.Sites.Placement
import RetinaServer.Sites.Newcomer
import RetinaServer.Sites.Polygons
import RetinaServer.Library.Sphere
import RetinaServer.Adsb.Regions
import RetinaServer.Adsb.Coverage
import RetinaServer.Library.GreatCircle
import RetinaServer.Known.RangeScreen
import RetinaServer.Library.Numerals
import RetinaServer.Library.IpText
import RetinaServer.Polled.Endpoint
import RetinaServer.Polled.EndpointKey
import RetinaServer.Polled.Spelling
import RetinaServer.Polled.AddressPolicy
import RetinaServer.Polled.PinnedClient
import RetinaServer.Library.ClosestFirst
import RetinaServer.Mlat.Verification
import RetinaServer.Mlat.ClosestSolve
import RetinaServer.Analytics.DetectedHexes
import RetinaServer.Library.Queueing
import RetinaServer.Analytics.CoverageRebuild
import RetinaServer.Analytics.CoverageAgreement
import RetinaServer.Analytics.Disappearance
import RetinaServer.Multinode.TrackMemory
import RetinaServer.Library.Rotation
import RetinaServer.Adsb.Fallback
import RetinaServer.Adsb.FallbackRuns
import RetinaServer.Adsb.BadRows
import RetinaServer.Access.SigningKeys
import RetinaServer.Solver.PoolRaces
import RetinaServer.Claiming.LinkRuns
import RetinaServer.DarkFollow.GuardMaps
import RetinaServer.Library.Calendar
import RetinaServer.Library.ReadThrough
import RetinaServer.Library.FileTree
import RetinaServer.Archive.Backups
import RetinaServer.Archive.Lifecycle
import RetinaServer.Archive.Routes
import RetinaServer.Feed.PolicyCaches
