import UbseSsu.Api.Operations
import UbseSsu.Api.Outcomes
import UbseSsu.Api.ProbedAllocation
import UbseSsu.Controller.Failures
import UbseSsu.Controller.FreshIds
import UbseSsu.Controller.Layout
import UbseSsu.Controller.NamedAllocation
import UbseSsu.Controller.PoolMerge
import UbseSsu.Controller.ReleaseRetry
import UbseSsu.Controller.ReleasedIds
import UbseSsu.Dataplane.Operations
import UbseSsu.Dataplane.RoundTrip
import UbseSsu.Kernel.Concurrent
import UbseSsu.Kernel.DataPath
import UbseSsu.Kernel.Lifecycle
import UbseSsu.Kernel.Requests
import UbseSsu.Kernel.Store
import UbseSsu.Kernel.WorkerRuns
import UbseSsu.Library.SlotTable
import UbseSsu.Library.Transition
import UbseSsu.Plugin.MountTranslation
import UbseSsu.Runtime.RequestFifo
import UbseSsu.Sdk.Options
import UbseSsu.System.AllocateRoundTrip
import UbseSsu.System.CachedRequests
import UbseSsu.System.DeviceNames
import UbseSsu.System.DevicePaths
import UbseSsu.System.ExchangeService
import UbseSsu.System.MappingView
import UbseSsu.System.NamespaceAliases
import UbseSsu.System.NamespacesInStep
import UbseSsu.System.PhysicalIsolation
import UbseSsu.System.RemoteRuns
import UbseSsu.System.ReportedExtents
import UbseSsu.System.ResponseRoundTrip
import UbseSsu.System.SharedMounts
import UbseSsu.Tools.Ubsectl
