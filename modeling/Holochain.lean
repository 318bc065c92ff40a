import Holochain.Lib.AListMap
import Holochain.Lib.Run
import Holochain.Lib.Except
import Holochain.Lib.Deque
import Holochain.CoreTypes.Entry
import Holochain.CoreTypes.Error
import Holochain.Core.ChainStore
import Holochain.Core.Agent
import Holochain.Core.Network
import Holochain.Core.Nucleus.CallZomeFunction
import Holochain.Protocol.Data
import Holochain.Core.Dht.Store
import Holochain.Core.Dht.Reducers
import Holochain.Sim2h.ImState
import Holochain.Sim2h.ConnectionMgr
import Holochain.Sim2h.Handler
import Holochain.Sim2h.Identity
import Holochain.Core.Network.Handler
import Holochain.Core.Nucleus.Validation
import Holochain.CoreTypes.Eav
import Holochain.CoreTypes.Ribosome
import Holochain.Core.Network.ValidationCache
import Holochain.Conductor.Config
import Holochain.Core.Dht.InnerReducers
import Holochain.Lib.Loop
import Holochain.Core.Workflows.GetEntryResult
import Holochain.Core.Dht.HoldOrder
import Holochain.Lib.Multimap
import Holochain.Net.AspectMap
import Holochain.Lib.QueueEdit
import Holochain.Net.Sim2hWorker
import Holochain.CoreTypes.Time
import Holochain.CoreTypes.TimeRoundTrip
import Holochain.WasmUtils.Stack
import Holochain.Core.Nucleus.ZomeCalls
import Holochain.Sim2h.Queries
import Holochain.Core.Dht.GetLinks
import Holochain.Lib.Toposort
import Holochain.Sim2h.Drop
import Holochain.Conductor.BridgeOrder
import Holochain.Net.Backoff
import Holochain.Sim2h.ConnectionCount
import Holochain.Lib.ByteBuf
import Holochain.Dpki.KeyBlob
import Holochain.Dpki.KeyBlobRoundTrip
import Holochain.Lib.RateLimit
import Holochain.Sim2h.RelayStore
import Holochain.Sim2h.Gossip
import Holochain.Conductor.Admin
import Holochain.Lib.ReadyOrder
import Holochain.Conductor.Boot
import Holochain.Conductor.Lifecycle
