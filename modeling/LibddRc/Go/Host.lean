import LibddRc.Go.DispatchReply
import LibddRc.Go.InvokePool

/-! The Go host of one connection: the native connection, the invoke pool that
its dispatch callback feeds, the `Outgoing` channel that its send callback
fills, and the session that moves messages between them and a websocket. A
callback or a native call is one step of both sides. -/

set_option autoImplicit false

namespace LibddRc.Go

open Foundation

/-! ## Crossing the boundary -/

/-- A native environment with the protobuf encoder of the messages it sends, and
the one that the host marshals its payloads with. Of that, only that a payload
with its oneof set carries at least the tag of the field. -/
structure HostEnv where
  native : Env
  encode : WireClientToServer → Bytes
  marshal : GoResponsePayload → Except GoString Bytes
  marshal_nonempty : ∀ result encoded, marshal ⟨some (some result)⟩ = .ok encoded → encoded ≠ []

namespace HostEnv

/-- The payloads of responses, as the host writes them and the library reads them. -/
def codec (env : HostEnv) : ProtoCodec where
  marshal := env.marshal
  unmarshal data := (env.native.decode data).toOption

def wire (env : HostEnv) (message : ClientToServer) : Bytes := message.toBytes env.encode

/-- The payloads that a sink call marshals to hand over. -/
def reported (env : HostEnv) : SinkCall → List Bytes
  | .sendDispatchResult result =>
      (sendDispatchResult env.codec result).map DispatchResultCall.encoded
  | .sendDispatchError _ => []

/-- What a sink call hands to the client library, if it can say anything at all. -/
def answerTo (env : HostEnv) : SinkCall → Option HostAnswer
  | .sendDispatchResult result =>
      (sendDispatchResult env.codec result).head?.bind fun call =>
        (cgoDispatchResult call).toOption.map fun passed => .result passed.encoded
  | .sendDispatchError _ => some .handlerExecTimeout

/-- The payload that a sink call marshals is never empty, so that the call does not
panic on its way to the library. -/
theorem reported_ne_nil {env : HostEnv} {call : SinkCall} {data : Bytes}
    (reported : data ∈ env.reported call) : data ≠ [] := by
  have kept : ∀ {result encoded}, env.codec.marshal ⟨some (some result)⟩ = .ok encoded →
      guardEmpty env.codec encoded ≠ [] := by
    intro result encoded marshalled
    have nonempty := env.marshal_nonempty result encoded marshalled
    simp [guardEmpty, nonempty]
  cases call with
  | sendDispatchError => cases reported
  | sendDispatchResult result =>
      simp only [HostEnv.reported, sendDispatchResult] at reported
      split at reported
      · next first =>
        cases List.mem_singleton.mp reported
        exact kept first
      · split at reported
        · next second =>
          cases List.mem_singleton.mp reported
          exact kept second
        · cases reported

/-- A result is handed over as what was marshalled, its length as a `uint32_t`. -/
theorem answerTo_sendDispatchResult (env : HostEnv) (result : DispatchResult) :
    env.answerTo (.sendDispatchResult result) =
      (env.reported (.sendDispatchResult result)).head?.map fun data => .result (handed data) := by
  have nonempty : ∀ call ∈ sendDispatchResult env.codec result, call.encoded ≠ [] :=
    fun _ sent => @reported_ne_nil env (.sendDispatchResult result) _ (List.mem_map_of_mem sent)
  simp only [reported, answerTo]
  cases calls : sendDispatchResult env.codec result with
  | nil => rfl
  | cons call rest =>
      have filled := nonempty call (calls ▸ List.mem_cons_self)
      simp only [List.head?_cons, Option.bind_some, List.map_cons, Option.map_some,
        cgoDispatchResult_ok filled]
      rfl

end HostEnv

/-- `C.GoBytes` with a length that is made a `C.int`: from 2 ^ 31 on that is
negative, and the call panics. -/
def goBytes (data : Bytes) : Option Bytes := if data.length < 2 ^ 31 then some data else none

theorem goBytes_handed {buf : Bytes} (short : buf.length < 2 ^ 31) :
    goBytes (handed buf) = some buf := by
  rw [handed_eq (short.trans (by decide)), goBytes, if_pos short]

/-! ## The session -/

def outgoingQueueCap : Nat := 100

/-- Where `runSession` stands. The first three are its loop; after it the
deferred cleanup closes the connection, drains `Outgoing` and calls `CloseNow`. -/
inductive SessionPc
  | selecting
  | delivering (input : ServerInput)
  | writing (message : ClientToServer)
  | closing
  | draining
  | drainWriting (message : ClientToServer)
  | finished

/-- The message that `runSession` has taken from `Outgoing` and not written yet. -/
def SessionPc.held : SessionPc → List ClientToServer
  | .writing message | .drainWriting message => [message]
  | _ => []

/-- Where the one call of `Connection.Close` that does the work stands. -/
inductive ClosePc
  | open_
  | shuttingDown
  | disconnecting
  | closed
  deriving DecidableEq

/-- The host of one connection. The last three fields only record what happened:
the messages written, the jobs put on the dispatch queue, and the jobs whose
outcome was handed to the client library. -/
structure Host where
  conn : Conn
  pool : Pool
  outgoing : Channel ClientToServer outgoingQueueCap
  session : SessionPc
  close : ClosePc
  writable : Bool
  written : List ClientToServer
  jobs : List DispatchJob
  answered : List DispatchJob

def Host.init (appInfo : AppInfo) : Host where
  conn := .init appInfo
  pool := .init
  outgoing := .empty
  session := .selecting
  close := .open_
  writable := true
  written := []
  jobs := []
  answered := []

def DispatchJob.id (job : DispatchJob) : CorrelationId := ⟨job.correlationID⟩

/-- Steps of the session goroutine. `stop` is a cancelled context or a closed
`incoming` channel. -/
inductive SessionAct
  | stop
  | receive (input : ServerInput)
  | deliver
  | takeOutgoing
  | wrote
  | writeFailed
  | close
  | drain

inductive HostAct
  | native (action : Act)
  | enqueue
  | offer
  | pool (action : PoolAct)
  | workerSink (worker : Fin invokeWorkerCount)
  | watcherSink (ticket : Nat)
  | goSendCb
  | session (action : SessionAct)
  | contextClose
  | close

/-- Pool steps that involve nobody else. -/
def PoolAct.internal : PoolAct → Bool
  | .add | .take _ | .seeStop _ | .finishDrain _ => true
  | .worker _ action => action ≠ .callSink
  | .watcher _ action => action ≠ .watcherSink
  | .lock _ | .offer | .shutdown => false

/-- The sink call that a step of an invocation returns from. -/
def Invocation.sinkCall? (inv : Invocation) : InvocationAct → Option SinkCall
  | .callSink =>
      match inv.call with
      | .sinking result => some (.sendDispatchResult result)
      | _ => none
  | .watcherSink =>
      match inv.watcher with
      | .sinking => some (.sendDispatchError inv.job.correlationID)
      | _ => none
  | _ => none

/-- The call of `rc_conn_disconnected`, one step at a time. -/
def disconnectStep : Link → Act
  | .connected => .disconnect
  | .ioCancelled => .cancelDispatch
  | .cancelled => .joinIo
  | .ioJoined | .disconnected => .joinDispatch

namespace Host

/-- Native steps that change nothing on the Go side. While `enqueue` holds the
mutex its callback has not returned; a callback that does not get as far as
`enqueue` refuses the request for another reason than a full queue. The actor is
stopped once the library has seen the connection disconnected. -/
def admits (host : Host) : Act → Bool
  | .actor _ | .ioTask => true
  | .dispatchTask => host.pool.mutex.adding?.isNone
  | .refuse ret =>
      match host.pool.mutex with
      | .enqueueing _ => false
      | _ => ret ≠ .queueFull
  | .cancelStop => host.conn.link = .disconnected
  | _ => false

/-- The rest of `goDispatchCb` once its `enqueue` call holds the mutex. -/
def offerStep (env : HostEnv) (host : Host) (job : DispatchJob) : Option Host :=
  (host.pool.step .offer).bind fun pool =>
    if pool.mutex = .free then
      (host.conn.step env.native (.refuse .queueFull)).map fun conn => { host with conn, pool }
    else
      (host.conn.step env.native .accept).map fun conn =>
        { host with conn, pool, jobs := host.jobs ++ [job] }

/-- The ticket whose sink call a step returns from, on the worker or the watcher. -/
def returning (host : Host) : HostAct → Option (Nat × InvocationAct × PoolAct)
  | .workerSink worker =>
      match host.pool.workers worker with
      | .invoking ticket _ => some (ticket, .callSink, .worker worker .callSink)
      | _ => none
  | .watcherSink ticket => some (ticket, .watcherSink, .watcher ticket .watcherSink)
  | _ => none

def sinkCall? (host : Host) (action : HostAct) : Option SinkCall :=
  (host.returning action).bind fun (ticket, returns, _) =>
    (host.pool.invocations ticket).bind fun inv => inv.sinkCall? returns

/-- A sink call hands its job's outcome to the client library and returns. -/
def sinkStep (env : HostEnv) (host : Host) (ticket : Nat) (action : InvocationAct)
    (step : PoolAct) : Option Host :=
  (host.pool.invocations ticket).bind fun inv => (inv.sinkCall? action).bind fun call =>
    (host.pool.step step).bind fun pool =>
      match env.answerTo call with
      | none => some { host with pool }
      | some answer =>
          (host.conn.step env.native (.answer (host.conn.host.idxOf inv.job.id) answer)).map
            fun conn => { host with conn, pool, answered := host.answered ++ [inv.job] }

/-- A full channel and a panic that is recovered from give the same return. -/
def goSendCb (env : HostEnv) (host : Host) (message : ClientToServer) : Option Host :=
  match (goBytes (sendCbData env.wire message)).bind fun _ => host.outgoing.push? message with
  | some outgoing =>
      (host.conn.step env.native (.sendReturn .success)).map fun conn =>
        { host with conn, outgoing }
  | none =>
      (host.conn.step env.native (.sendReturn .unknown)).map fun conn => { host with conn }

/-- The rest of a `Connection.Close` call that found the connection open. -/
def closeStep (env : HostEnv) (host : Host) : Option Host :=
  match host.close with
  | .open_ | .closed => none
  | .shuttingDown =>
      if host.pool.shutdown = .returned then some { host with close := .disconnecting }
      else (host.pool.step .shutdown).map fun pool => { host with pool }
  | .disconnecting =>
      if host.conn.link = .disconnected then some { host with close := .closed }
      else (host.conn.step env.native (disconnectStep host.conn.link)).map fun conn =>
        { host with conn }

/-- `Recv` and `Close` exclude each other, and both fail on a closed connection. -/
def sessionStep (env : HostEnv) (host : Host) : SessionAct → Option Host
  | .stop =>
      match host.session with
      | .selecting => some { host with session := .closing }
      | _ => none
  | .receive input =>
      match host.session with
      | .selecting => some { host with session := .delivering input }
      | _ => none
  | .deliver =>
      match host.session, host.close with
      | .delivering input, .open_ =>
          (host.conn.step env.native (.recv input)).map fun conn =>
            { host with conn, session := .selecting }
      | .delivering _, .closed => some { host with session := .closing }
      | _, _ => none
  | .takeOutgoing =>
      match host.session, host.outgoing.pop? with
      | .selecting, some (message, outgoing) =>
          some { host with session := .writing message, outgoing }
      | .selecting, none =>
          if host.close = .closed then some { host with session := .closing } else none
      | _, _ => none
  | .wrote =>
      match host.session with
      | .writing message =>
          some { host with session := .selecting, written := host.written ++ [message] }
      | .drainWriting message =>
          some { host with session := .draining, written := host.written ++ [message] }
      | _ => none
  | .writeFailed =>
      match host.session with
      | .writing _ => some { host with session := .closing }
      | .drainWriting _ => some { host with session := .draining, writable := false }
      | _ => none
  | .close =>
      match host.session, host.close with
      | .closing, .open_ => some { host with close := .shuttingDown }
      | .closing, .closed => some { host with session := .draining }
      | _, _ => none
  | .drain =>
      match host.session, host.outgoing.pop? with
      | .draining, some (message, outgoing) =>
          if host.writable then some { host with session := .drainWriting message, outgoing }
          else some { host with outgoing }
      | .draining, none => some { host with session := .finished }
      | _, _ => none

def stepRunning (env : HostEnv) (host : Host) : HostAct → Option Host
  | .native action =>
      if host.admits action then
        (host.conn.step env.native action).map fun conn => { host with conn }
      else none
  | .enqueue =>
      match host.conn.dispatchTask with
      | .calling request =>
          (host.pool.step (.lock request.correlationId.raw)).map fun pool => { host with pool }
      | _ => none
  | .offer =>
      match host.pool.mutex with
      | .enqueueing job => host.offerStep env job
      | _ => none
  | .pool action =>
      if action.internal then (host.pool.step action).map fun pool => { host with pool } else none
  | .workerSink worker =>
      (host.returning (.workerSink worker)).bind fun (ticket, action, step) =>
        host.sinkStep env ticket action step
  | .watcherSink ticket =>
      (host.returning (.watcherSink ticket)).bind fun (ticket, action, step) =>
        host.sinkStep env ticket action step
  | .goSendCb =>
      match host.conn.ioTask with
      | .calling message => host.goSendCb env message
      | _ => none
  | .session action => host.sessionStep env action
  | .contextClose => if host.close = .open_ then some { host with close := .shuttingDown } else none
  | .close => host.closeStep env

/-- A negative wait group counter ends the process. -/
def step (env : HostEnv) (host : Host) (action : HostAct) : Option Host :=
  if host.pool.wg < 0 then none else host.stepRunning env action

end Host

def goHost (env : HostEnv) : System Host HostAct where
  initial host := ∃ appInfo, host = Host.init appInfo
  step := Host.step env

theorem fixtureCodec_nonempty (result : GoTunnelResult) (encoded : Bytes)
    (marshalled : fixtureCodec.marshal ⟨some (some result)⟩ = .ok encoded) : encoded ≠ [] :=
  fixtureCodec_documented.nonempty marshalled

def fixtureHostEnv : HostEnv where
  native := fixtureEnv Ctx.runtime
  encode := clientBook.write
  marshal := fixtureCodec.marshal
  marshal_nonempty := fixtureCodec_nonempty

end LibddRc.Go
