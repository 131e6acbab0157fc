import SuitApi.Exclusive
import SuitApi.Streams
import SuitApi.Membership
import SuitApi.Overview
import SuitApi.HealthCheck
import SuitApi.LogReplay
import SuitApi.SharedCluster
import SuitApi.Progress
import SuitApi.DockerHost
import SuitApi.GpuHistory
import SuitApi.Borrowing
import SuitApi.Quiescence
import SuitApi.TaskSocket
import SuitApi.Accounts
import SuitApi.Listener
import SuitApi.Wire
import SuitApi.Bookkeeping
import SuitApi.Charging
import SuitApi.Ownership
import SuitApi.HeartbeatRace
import SuitApi.SnapshotOrder
import SuitApi.QueueLoss
import SuitApi.ForeignKeys
import SuitApi.AllocatorRace
import SuitApi.OpenOperations
import SuitApi.BillingRace
import SuitApi.Credits
import SuitApi.QueueOrder
import SuitApi.LaunchFailure
import SuitApi.Deployment
import SuitApi.Instances
import SuitApi.StopRetry
import SuitApi.AIService
import SuitApi.Library.Binding
import SuitApi.Rejections
import SuitApi.NodeLoss
import SuitApi.Catalogue
import SuitApi.Redelivery
import SuitApi.Balances
import SuitApi.Library.Selection
import SuitApi.Placement
import SuitApi.Mirror
import SuitApi.TaskRows
import SuitApi.Auth
import SuitApi.RunConfig
import SuitApi.Library.Json
import SuitApi.Library.Utf8
import SuitApi.UsageStream
import SuitApi.Gateway
import SuitApi.TaskDesk
import SuitApi.Tenants
import SuitApi.OfflineSweep
import SuitApi.RoundRobin
import SuitApi.Deletions
import SuitApi.Listings
import SuitApi.Library.Binary64
import SuitApi.Numerals
import SuitApi.GpuMonitor
import SuitApi.Library.Regex
import SuitApi.GpuRequirement
import SuitApi.TasksStore
import SuitApi.NodesStore
import SuitApi.Library.JsonText
import SuitApi.Hosting
