import Uplink.Batch.Aggregator
import Uplink.Batch.Run
import Uplink.Batch.Interleaving
import Uplink.Satellite.Core
import Uplink.Satellite.New
import Uplink.Satellite.ErrGroup
import Uplink.Satellite.Lifecycle
