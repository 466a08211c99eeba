import SpatialWorkers.LabelledRuns
import SpatialWorkers.PollingLoops
import SpatialWorkers.Dispatcher
import SpatialWorkers.Workers
import SpatialWorkers.Batching
import SpatialWorkers.UseAfterDisconnect
import SpatialWorkers.Network
import SpatialWorkers.WorkerSteps
import SpatialWorkers.DisconnectReporting
import SpatialWorkers.CommandLine
import SpatialWorkers.SnapshotGenerator
import SpatialWorkers.Programs
import SpatialWorkers.ArrayStores
import SpatialWorkers.Collections
import SpatialWorkers.Components
import SpatialWorkers.EntityQueries
import SpatialWorkers.Metrics
import SpatialWorkers.Replication
import SpatialWorkers.Snapshots
import SpatialWorkers.ClientHandles
import SpatialWorkers.Commands
import SpatialWorkers.QueryResults
import SpatialWorkers.Reentrancy
import SpatialWorkers.ViewCallbacks
