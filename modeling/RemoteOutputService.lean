import RemoteOutputService.Basic
import RemoteOutputService.Registry.State
import RemoteOutputService.Registry.Operations
import RemoteOutputService.Registry.System
import RemoteOutputService.Registry.Ring
import RemoteOutputService.Registry.Invariant
import RemoteOutputService.Registry.Sessions
import RemoteOutputService.Registry.StartBuild
import RemoteOutputService.Registry.ReadDir
import RemoteOutputService.Registry.ChangeId
import RemoteOutputService.Registry.Surface
import RemoteOutputService.Registry.Races
import RemoteOutputService.Filter.Model
import RemoteOutputService.Filter.Errors
import RemoteOutputService.Filter.Batches
import RemoteOutputService.Filter.Run
import RemoteOutputService.Filter.Laws
import RemoteOutputService.BatchCreate.Model
import RemoteOutputService.BatchCreate.Paths
import RemoteOutputService.BatchCreate.Entries
import RemoteOutputService.BatchCreate.Placement
import RemoteOutputService.BatchStat.Model
import RemoteOutputService.BatchStat.Laws
import RemoteOutputService.BatchStat.VirtualRoot
import RemoteOutputService.Service.Builds
import RemoteOutputService.Service.Clean
