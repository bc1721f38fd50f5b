import BorderEmpires.Reach.BorderRuns
import BorderEmpires.Reach.Snapshot
import BorderEmpires.Reach.Replay
import BorderEmpires.Reach.Restore
import BorderEmpires.Encirclement
import BorderEmpires.EncirclementRuns
import BorderEmpires.AutoFill
import BorderEmpires.Economy.TownTiles
import BorderEmpires.Lib.Ledger
import BorderEmpires.Vision.CoverageCache
import BorderEmpires.Lib.Broadcast
import BorderEmpires.Vision.Tracker
import BorderEmpires.Vision.Accounts
import BorderEmpires.Vision.AllianceRuns
import BorderEmpires.Vision.Footprints
import BorderEmpires.Vision.TerrainRuns
import BorderEmpires.Combat.LockIndex
import BorderEmpires.Combat.LockViews
import BorderEmpires.Lib.Escrow
import BorderEmpires.Combat.Flags
import BorderEmpires.Combat.FrontierCommand
import BorderEmpires.Combat.LockResolution
import BorderEmpires.Combat.Books
import BorderEmpires.Combat.Runs
import BorderEmpires.Combat.Lifecycle
import BorderEmpires.Combat.Reservations
import BorderEmpires.Combat.Refunds
import BorderEmpires.Combat.Territory
import BorderEmpires.Combat.Expansion
import BorderEmpires.Combat.Staging
import BorderEmpires.Combat.Funding
import BorderEmpires.Combat.DoubleSpend
import BorderEmpires.Combat.RecoveredLocks
import BorderEmpires.Combat.Restart
import BorderEmpires.Lib.Overwrite
import BorderEmpires.Combat.RecoveredTerritory
import BorderEmpires.Combat.RestartTerritory
import BorderEmpires.Lib.Memo
import BorderEmpires.Trades.Agreements
import BorderEmpires.Trades.Allocation
import BorderEmpires.Trades.PhantomSuspension
import BorderEmpires.Trades.LedgerRuns
import BorderEmpires.Commands.ReplayCache
import BorderEmpires.Commands.JobQueue
import BorderEmpires.Commands.AtMostOnce
import BorderEmpires.Lib.Patch
import BorderEmpires.Deltas.Tiles
import BorderEmpires.Deltas.StringifyCache
import BorderEmpires.Deltas.Consumers
import BorderEmpires.Deltas.Recovery
import BorderEmpires.Deltas.RecoveredFields
import BorderEmpires.Deltas.RecoveryRuns
import BorderEmpires.Lib.HostValue
import BorderEmpires.Checkpoints.SnapshotTiles
import BorderEmpires.Checkpoints.Compaction
import BorderEmpires.Checkpoints.CompactionRoundTrip
import BorderEmpires.Gateway.LoginQueue
import BorderEmpires.Gateway.RateLimiter
import BorderEmpires.Gateway.TruceSync
import BorderEmpires.Gateway.Subscriptions
import BorderEmpires.Vision.FootprintRuns
import BorderEmpires.Vision.WireStamp
import BorderEmpires.Snapshots.Cache
import BorderEmpires.Snapshots.Stringifier
import BorderEmpires.Siphon.Runs
import BorderEmpires.PendingCommands.Runs
import BorderEmpires.Duke.Conservation
import BorderEmpires.Duke.Derelicts
import BorderEmpires.Duke.Production
import BorderEmpires.Waypoints.Shortest
import BorderEmpires.Commands.DrainScheduling
import BorderEmpires.Manpower.MusterBooks
import BorderEmpires.Structures.Removal
import BorderEmpires.Structures.AttackHold
import BorderEmpires.Reach.Anchors
import BorderEmpires.Reach.Mountains
import BorderEmpires.Reach.OwnerCount
import BorderEmpires.Docks.SeaRoutes
import BorderEmpires.Waypoints.Drain
import BorderEmpires.Indexes.Books
import BorderEmpires.Gateway.InitTransfer
import BorderEmpires.Indexes.SupportRing
import BorderEmpires.Persistence.Queue
import BorderEmpires.Persistence.WriterChannel
import BorderEmpires.Vision.Transitions
import BorderEmpires.StrandedFrontier
import BorderEmpires.Slots.SiphonTransfer
import BorderEmpires.Slots.SiphonRuns
import BorderEmpires.March.Route
import BorderEmpires.CandidateIndex.Runs
import BorderEmpires.Planner.CandidateRuns
import BorderEmpires.Social.CounterOffer
import BorderEmpires.Social.Invariants
import BorderEmpires.FrontierAutoHeal
import BorderEmpires.Docks.LandingIndex
