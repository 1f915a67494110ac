import LibddRc.Foundation.TransitionSystem
import LibddRc.Foundation.Channel
import LibddRc.Foundation.Table
import LibddRc.Foundation.Threads
import LibddRc.Foundation.HashCache
import LibddRc.Foundation.Format
import LibddRc.Foundation.Rounding
import LibddRc.Crypto.Identifiers
import LibddRc.Crypto.ConnectionBinding
import LibddRc.Crypto.Certificate
import LibddRc.Crypto.Hex
import LibddRc.Crypto.HexStr
import LibddRc.Client.Codec
import LibddRc.Client.WireCodec
import LibddRc.Client.Delegate
import LibddRc.Client.Actor
import LibddRc.Client.Reference
import LibddRc.Client.EventHandler
import LibddRc.Client.EventLoop
import LibddRc.Trust.UntrustedCert
import LibddRc.Trust.Chain
import LibddRc.Trust.Stability
import LibddRc.Trust.TrustStore
import LibddRc.Trust.MemoryCertCache
import LibddRc.Connection.Model
import LibddRc.Connection.Moves
import LibddRc.Connection.Conservation
import LibddRc.Connection.Requests
import LibddRc.Connection.Sending
import LibddRc.Connection.ReplySlots
import LibddRc.Connection.Steady
import LibddRc.Connection.Reports
import LibddRc.Connection.Callbacks
import LibddRc.Connection.Payloads
import LibddRc.Ffi.Connection
import LibddRc.Ffi.Lifecycle
import LibddRc.Ffi.Instance
import LibddRc.Ffi.Isolation
import LibddRc.Ffi.Status
import LibddRc.Ffi.Callbacks
import LibddRc.Go.Invocation
import LibddRc.Go.InvokePool
import LibddRc.Go.PoolInvariants
import LibddRc.Go.PoolAnswers
import LibddRc.Go.PoolOrder
import LibddRc.Go.PoolPanics
import LibddRc.Go.Host
import LibddRc.Go.HostMoves
import LibddRc.Go.Delivery
import LibddRc.Go.Jobs
import LibddRc.Go.Teardown
import LibddRc.Go.Responses
import LibddRc.Go.Outcomes
import LibddRc.Go.ResponseBytes
import LibddRc.Go.DispatchReply
import LibddRc.Go.RunSession
import LibddRc.Go.SessionCleanup
import LibddRc.Go.SessionRefinement
import LibddRc.Go.Client
import LibddRc.Go.ClientSafety
import LibddRc.Go.NativeCalls
import LibddRc.Go.Context
import LibddRc.Go.ContextMoves
import LibddRc.Go.ContextSafety
import LibddRc.Go.ContextOrder
import LibddRc.Go.SerialCalls
import LibddRc.Go.HostCalls
import LibddRc.Go.ConnectionCalls
import LibddRc.Go.Backoff
import LibddRc.Go.RunLoop
import LibddRc.Go.RunLoopSafety
import LibddRc.Go.RunLoopActors
import LibddRc.Go.Reconnect
import LibddRc.Go.Handles
import LibddRc.Go.LoopCalls
import LibddRc.Go.WholeClient
import LibddRc.Go.WholeClientSafety
import LibddRc.Go.LogSink
import LibddRc.Go.Routing
import LibddRc.Go.RoutingSafety
