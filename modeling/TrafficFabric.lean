import TrafficFabric.Codec.Bounds
import TrafficFabric.Codec.Requests
import TrafficFabric.Codec.Utf8
import TrafficFabric.Coordinator.BulkCapacity
import TrafficFabric.Coordinator.Completions
import TrafficFabric.Coordinator.Deadlines
import TrafficFabric.Coordinator.Entries
import TrafficFabric.Coordinator.FlowCeiling
import TrafficFabric.Coordinator.Generations
import TrafficFabric.Coordinator.Peaks
import TrafficFabric.Coordinator.RestoredTopology
import TrafficFabric.Coordinator.Routes
import TrafficFabric.Coordinator.Stamps
import TrafficFabric.Coordinator.Traces
import TrafficFabric.Coordinator.TransferCounts
import TrafficFabric.Core.IdentityText
import TrafficFabric.Ledger.AttemptNumbers
import TrafficFabric.Ledger.Population
import TrafficFabric.Ledger.Progress
import TrafficFabric.Service.Recovery
import TrafficFabric.Service.Registrations
import TrafficFabric.Service.Start
import TrafficFabric.Wire.Checksum
import TrafficFabric.Wire.Client
import TrafficFabric.Wire.FrameLimit
