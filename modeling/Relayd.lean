import Relayd.Foundation.Bytes
import Relayd.Foundation.IpLiteral
import Relayd.Foundation.IpText
import Relayd.Foundation.IpChars
import Relayd.Foundation.Fallible
import Relayd.Foundation.Interruption
import Relayd.Foundation.KeyedMap
import Relayd.Foundation.Transition
import Relayd.Foundation.Linearization
import Relayd.Foundation.Suspension
import Relayd.Foundation.Utf8
import Relayd.Model
import Relayd.Config
import Relayd.Settings
import Relayd.Storage.Sqlite
import Relayd.Storage.PortScan
import Relayd.Storage.Hydration
import Relayd.Storage.Readers
import Relayd.Storage.Migration
import Relayd.Storage.Writes
import Relayd.Storage.Mirror
import Relayd.Prometheus
import Relayd.Runtime.Facade
import Relayd.Runtime.Listener
import Relayd.Runtime.Real
import Relayd.Runtime.Aggregate
import Relayd.Runtime.RealSteps
import Relayd.Runtime.Netlink
import Relayd.Runtime.NetlinkProjection
import Relayd.Runtime.InMemory
import Relayd.Runtime.Parity
import Relayd.Runtime.NetlinkDetach
import Relayd.Runtime.NetlinkMaps
import Relayd.Runtime.NetlinkFirstMatch
import Relayd.Runtime.NetlinkCalls
import Relayd.Runtime.TcpTasks
import Relayd.Runtime.TcpDelete
import Relayd.Runtime.TcpRetarget
import Relayd.Runtime.TcpStatus
import Relayd.Runtime.TcpMeters
import Relayd.Runtime.UdpSessions
import Relayd.Runtime.UdpPass
import Relayd.Runtime.UdpConservation
import Relayd.Runtime.UdpBatching
import Relayd.Runtime.UdpBuffers
import Relayd.Runtime.UdpSend
import Relayd.Runtime.UdpPeers
import Relayd.Runtime.UdpListener
import Relayd.Runtime.UdpStaleReply
import Relayd.Runtime.UdpGeneration
import Relayd.Runtime.UdpLeak
import Relayd.Runtime.UdpMoves
import Relayd.Runtime.UdpCalls
import Relayd.Runtime.UdpRemoval
import Relayd.Runtime.UdpSessionCap
import Relayd.Runtime.Served
import Relayd.Runtime.UdpExpiry
import Relayd.Runtime.ByteCounters
import Relayd.Service.AllocationService
import Relayd.Service.Overlap
import Relayd.Service.Views
import Relayd.Service.CreateLoop
import Relayd.Service.Simulation
import Relayd.Service.Effects
import Relayd.Service.PortReservation
import Relayd.Service.Restart
import Relayd.Service.Agreement
import Relayd.Service.LowestPort
import Relayd.Service.ProxyAgreement
import Relayd.Service.NetlinkAgreement
import Relayd.Service.StoredResults
import Relayd.Service.TornListing
import Relayd.Service.Table
import Relayd.Service.FailedCreate
import Relayd.Service.FailedDelete
import Relayd.Service.Cancellation
import Relayd.Service.DroppedMutations
import Relayd.Http.ControlPlane
import Relayd.Http.Authentication
import Relayd.Http.Api
import Relayd.Http.ReadBack
import Relayd.Http.Lives
