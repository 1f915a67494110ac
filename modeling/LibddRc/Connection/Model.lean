import LibddRc.Client.Actor
import LibddRc.Client.WireCodec
import LibddRc.Foundation.TransitionSystem
import LibddRc.Foundation.Channel

/-! One connection with every party that touches it: the actor on the runtime
thread, the I/O task and the dispatch task on threads of their own, and the
host that is called back and calls in. A step is one of their atomic actions,
so a schedule is any interleaving. Blocking calls have no step while blocked. -/

set_option autoImplicit false

namespace LibddRc

open Foundation

/-! ## The runtime -/

/-- The part of a tokio runtime builder that matters here. -/
structure RuntimeBuilder where
  enableTime : Bool := false

structure Runtime where
  timeEnabled : Bool
  deriving DecidableEq

namespace RuntimeBuilder

def newCurrentThread : RuntimeBuilder := {}

def build (builder : RuntimeBuilder) : Runtime := ⟨builder.enableTime⟩

end RuntimeBuilder

/-- The runtime that `Ctx::new` builds. -/
def Ctx.runtime : Runtime := RuntimeBuilder.newCurrentThread.build

/-! ## Parties -/

def queueBufferLen : Nat := 100

/-- `DISPATCH_QUEUE_LEN`; the reply queue has one slot more. -/
def dispatchQueueLen : Nat := 255

inductive SendRet
  | success
  | closed
  | unknown
  deriving DecidableEq

inductive DispatchRet
  | success
  | unknownPayload
  | noDispatchHandler
  | queueFull
  | unknown
  deriving DecidableEq

/-- The error `dispatch_task` reports for a callback that did not succeed. -/
def DispatchRet.toError? : DispatchRet → Option DispatchError
  | .success => none
  | .unknownPayload => some .unknownPayload
  | .noDispatchHandler => some .noDispatchHandler
  | .queueFull => some .handlerQueueFull
  | .unknown => some .unknownHostDispatchError

/-- How a host answers a request: `rc_conn_dispatch_result` with some bytes, or
`rc_conn_dispatch_error`, whose only code is a handler timeout. -/
inductive HostAnswer
  | result (data : Bytes)
  | handlerExecTimeout
  deriving DecidableEq

/-- Where the actor stands. `turn` carries out what is left to do of a
reaction, `backoff` waits inside `retry_send`, `reporting` waits inside
`DispatchPublisher::dispatch` for a reply slot, and the three polls are the
branches of the biased select in the order they are tried. -/
inductive ActorPc
  | hello
  | turn
  | backoff
  | reporting (result : DispatchResult)
  | pollStop
  | pollReplies
  | pollServer
  | returned
  | panicked

/-- The actor's task has ended, so everything it owned is dropped. -/
def ActorPc.Ended : ActorPc → Prop
  | .returned => True
  | .panicked => True
  | _ => False

instance (pc : ActorPc) : Decidable pc.Ended := by
  cases pc <;> unfold ActorPc.Ended <;> infer_instance

/-- Where `dispatch_task` stands. Inside the callback the host has either not
decided yet or has accepted the request. -/
inductive DispatchTaskPc
  | idle
  | calling (request : Dispatch)
  | accepted (request : Dispatch)
  | replying (result : DispatchResult)
  | exited

inductive IoTaskPc
  | waiting
  | calling (message : ClientToServer)
  | exited
  deriving DecidableEq

def DispatchTaskPc.isExited : DispatchTaskPc → Bool
  | .exited => true
  | _ => false

/-- The connection as `set_disconnected` takes it down: cancel the I/O task,
cancel the dispatch task, await one, await the other. -/
inductive Link
  | connected
  | ioCancelled
  | cancelled
  | ioJoined
  | disconnected
  deriving DecidableEq

def Link.ioStop (link : Link) : Bool := link != .connected

def Link.dispatchStop : Link → Bool
  | .connected => false
  | .ioCancelled => false
  | _ => true

/-- How a `retry_send` call ended. -/
inductive SendEnding
  | enqueued
  | closed
  | stopped
  deriving DecidableEq

/-- The state of one connection. The last four fields only record what
happened. -/
structure Conn where
  actor : ActorPc
  todo : List Effect
  phase : Phase
  stop : Bool
  incoming : Channel ServerInput queueBufferLen
  outgoing : Channel ClientToServer queueBufferLen
  requests : Channel Dispatch dispatchQueueLen
  replies : Channel DispatchResult (dispatchQueueLen + 1)
  dispatchTask : DispatchTaskPc
  ioTask : IoTaskPc
  host : List CorrelationId
  link : Link
  dispatched : List CorrelationId
  sent : List ClientToServer
  endings : List (ClientToServer × SendEnding)
  offered : List ClientToServer

structure Env where
  prim : Primitives
  runtime : Runtime
  metrics : InstanceMetrics
  decode : Bytes → Except DecodeError DispatchResponsePayload

/-- The result a host's answer stands for. An empty result returns from
`rc_conn_dispatch_result` before anything is delivered. -/
def HostAnswer.toResult? (env : Env) (correlationId : CorrelationId) :
    HostAnswer → Option DispatchResult
  | .result data =>
      if data = [] then none
      else some ⟨correlationId, (env.decode data).mapError .replyDeserialisation⟩
  | .handlerExecTimeout => some ⟨correlationId, .error .handlerExecTimeout⟩

/-- A connection right after `set_connected`, before its actor first runs. -/
def Conn.init (appInfo : AppInfo) : Conn where
  actor := .hello
  todo := []
  phase := .preHandshake appInfo
  stop := false
  incoming := .empty
  outgoing := .empty
  requests := .empty
  replies := .empty
  dispatchTask := .idle
  ioTask := .waiting
  host := []
  link := .connected
  dispatched := []
  sent := []
  endings := []
  offered := []

/-- A strong sender of the reply queue exists: the connection's own, or the
clone that `dispatch_task` holds. -/
def Conn.responderAlive (conn : Conn) : Bool :=
  conn.link != .disconnected || !conn.dispatchTask.isExited

/-- One attempt of `retry_send`. On a full queue the source creates a timer
before it looks at the stop token. -/
def Conn.trySend (env : Env) (conn : Conn) (message : ClientToServer) (rest : List Effect) : Conn :=
  match conn.ioTask with
  | .exited => { conn with todo := rest, endings := conn.endings ++ [(message, .closed)] }
  | _ =>
      match conn.outgoing.push? message with
      | some outgoing => { conn with
          outgoing
          todo := rest
          sent := conn.sent ++ [message]
          endings := conn.endings ++ [(message, .enqueued)] }
      | none =>
          if env.runtime.timeEnabled then { conn with actor := .backoff }
          else { conn with actor := .panicked }

/-- The failure path of `DispatchPublisher::dispatch`. -/
def Conn.reportFailure (conn : Conn) (request : Dispatch) (rest : List Effect)
    (error : DispatchError) : Conn :=
  if conn.responderAlive then
    { conn with
      actor := .reporting ⟨request.correlationId, .error error⟩
      todo := rest
      dispatched := conn.dispatched ++ [request.correlationId] }
  else
    { conn with todo := rest, dispatched := conn.dispatched ++ [request.correlationId] }

/-- `DispatchPublisher::dispatch` up to its first await. -/
def Conn.tryDispatch (conn : Conn) (request : Dispatch) (rest : List Effect) : Conn :=
  match conn.dispatchTask with
  | .exited => conn.reportFailure request rest .dispatchClosed
  | _ =>
      match conn.requests.push? request with
      | some requests => { conn with
          requests
          todo := rest
          dispatched := conn.dispatched ++ [request.correlationId] }
      | none => conn.reportFailure request rest .dispatchRequestQueueFull

/-- One atomic action of the actor. -/
def Conn.actorStep (env : Env) (draw : Draw) (conn : Conn) : Option Conn :=
  match conn.actor with
  | .hello =>
      match conn.phase.sendHello env.metrics draw with
      | .error _ => some { conn with actor := .panicked }
      | .ok turn => some { conn with actor := .turn, todo := turn.effects, phase := turn.next }
  | .turn =>
      match conn.todo with
      | [] => some { conn with actor := .pollStop }
      | .send message :: rest => some (conn.trySend env message rest)
      | .dispatch request :: rest => some (conn.tryDispatch request rest)
  | .backoff =>
      match conn.todo with
      | .send message :: rest =>
          if conn.stop then some { conn with
            actor := .turn, todo := rest, endings := conn.endings ++ [(message, .stopped)] }
          else some { conn with actor := .turn }
      | _ => none
  | .reporting result =>
      (conn.replies.push? result).map fun replies => { conn with actor := .turn, replies }
  | .pollStop =>
      if conn.stop then some { conn with actor := .returned }
      else some { conn with actor := .pollReplies }
  | .pollReplies =>
      match conn.replies.pop? with
      | some (result, replies) =>
          some { conn with actor := .turn, todo := [.send result.toResponse], replies }
      | none =>
          if conn.responderAlive then some { conn with actor := .pollServer }
          else some { conn with actor := .returned }
  | .pollServer =>
      match conn.incoming.pop? with
      | some (input, incoming) =>
          match conn.phase.processImpl env.prim draw input with
          | .error _ => some { conn with actor := .panicked, incoming }
          | .ok turn => some { conn with
              actor := .turn, todo := turn.effects, phase := turn.next, incoming }
      | none =>
          if conn.link = .disconnected then some { conn with actor := .returned }
          else some { conn with actor := .pollStop }
  | .returned => none
  | .panicked => none

/-- One atomic action of `dispatch_task` outside its callback. -/
def Conn.dispatchTaskStep (conn : Conn) : Option Conn :=
  match conn.dispatchTask with
  | .idle =>
      if conn.link.dispatchStop then some { conn with dispatchTask := .exited }
      else
        match conn.requests.pop? with
        | some (request, requests) => some { conn with dispatchTask := .calling request, requests }
        | none => if conn.actor.Ended then some { conn with dispatchTask := .exited } else none
  | .calling _ => none
  | .accepted _ => some { conn with dispatchTask := .idle }
  | .replying result =>
      if conn.actor.Ended then some { conn with dispatchTask := .exited }
      else (conn.replies.push? result).map fun replies =>
        { conn with dispatchTask := .idle, replies }
  | .exited => none

/-- `FFIConnection::handle_dispatch_result` for an accepted request. -/
def Conn.deliverAnswer (conn : Conn) (host : List CorrelationId) (result : DispatchResult) :
    Option Conn :=
  if conn.link = .connected ∧ ¬ conn.actor.Ended then
    (conn.replies.push? result).map fun replies => { conn with host, replies }
  else some { conn with host }

/-- `rc_conn_dispatch_result` and `rc_conn_dispatch_error` for the accepted
request at a position. -/
def Conn.answer (env : Env) (conn : Conn) (position : Nat) (answer : HostAnswer) : Option Conn :=
  match conn.host[position]? with
  | none => none
  | some correlationId =>
      match answer.toResult? env correlationId with
      | none => some { conn with host := conn.host.eraseIdx position }
      | some result => conn.deliverAnswer (conn.host.eraseIdx position) result

/-! ## Buffers -/

/-- What is read of a buffer that is passed by address and length, the length as
a `u32`. -/
def handed (buf : Bytes) : Bytes := buf.take (buf.length % 2 ^ 32)

theorem handed_eq {buf : Bytes} (short : buf.length < 2 ^ 32) : handed buf = buf := by
  rw [handed, Nat.mod_eq_of_lt short, List.take_length]

/-- What `io_task` passes to the send callback for a message. -/
def sendCbData (encode : ClientToServer → Bytes) (message : ClientToServer) : Bytes :=
  handed (encode message)

/-! ## Steps -/

/-- One atomic action of `io_task` outside its callback. Whatever is buffered
when it exits is never read. -/
def Conn.ioTaskStep (conn : Conn) : Option Conn :=
  match conn.ioTask with
  | .waiting =>
      if conn.link.ioStop then some { conn with ioTask := .exited }
      else
        match conn.outgoing.pop? with
        | some (message, outgoing) => some { conn with
            ioTask := .calling message, outgoing, offered := conn.offered ++ [message] }
        | none => if conn.actor.Ended then some { conn with ioTask := .exited } else none
  | .calling _ => none
  | .exited => none

inductive Act
  | actor (draw : Draw)
  | dispatchTask
  | accept
  | refuse (ret : DispatchRet)
  | answer (position : Nat) (answer : HostAnswer)
  | recv (input : ServerInput)
  | ioTask
  | sendReturn (ret : SendRet)
  | disconnect
  | cancelDispatch
  | joinIo
  | joinDispatch
  | cancelStop

def Conn.step (env : Env) (conn : Conn) : Act → Option Conn
  | .actor draw => conn.actorStep env draw
  | .dispatchTask => conn.dispatchTaskStep
  | .accept =>
      match conn.dispatchTask with
      | .calling request => some { conn with
          dispatchTask := .accepted request, host := conn.host ++ [request.correlationId] }
      | _ => none
  | .refuse ret =>
      match conn.dispatchTask with
      | .calling request => ret.toError?.map fun error =>
          { conn with dispatchTask := .replying ⟨request.correlationId, .error error⟩ }
      | _ => none
  | .answer position answer => conn.answer env position answer
  | .recv input =>
      if conn.link = .connected ∧ ¬ conn.actor.Ended then
        (conn.incoming.push? input).map fun incoming => { conn with incoming }
      else some conn
  | .ioTask => conn.ioTaskStep
  | .sendReturn ret =>
      match conn.ioTask with
      | .calling _ => some { conn with
          ioTask := if ret = .success then .waiting else .exited }
      | _ => none
  | .disconnect => if conn.link = .connected then some { conn with link := .ioCancelled } else none
  | .cancelDispatch =>
      if conn.link = .ioCancelled then some { conn with link := .cancelled } else none
  | .joinIo =>
      if conn.link = .cancelled ∧ conn.ioTask = .exited then some { conn with link := .ioJoined }
      else none
  | .joinDispatch =>
      if conn.link = .ioJoined ∧ conn.dispatchTask.isExited then
        some { conn with link := .disconnected }
      else none
  | .cancelStop => some { conn with stop := true }

/-- All interleavings of one connection. -/
def connection (env : Env) : System Conn Act where
  initial conn := ∃ appInfo, conn = Conn.init appInfo
  step := Conn.step env

/-- Response payloads with their protobuf bytes. -/
def responseEntries : List (DispatchResponsePayload × Bytes) :=
  [(⟨none⟩, []), (⟨some ⟨none⟩⟩, [0x0a, 0x00]),
    (⟨some ⟨some (.response [1])⟩⟩, [0x0a, 0x03, 0x0a, 0x01, 0x01]),
    (⟨some ⟨some (.handlerError "boom")⟩⟩, [0x0a, 0x06, 0x12, 0x04, 0x62, 0x6f, 0x6f, 0x6d]),
    (⟨some ⟨some (.handlerError "invalid UTF-8")⟩⟩,
      [0x0a, 0x0f, 0x12, 0x0d, 0x69, 0x6e, 0x76, 0x61, 0x6c, 0x69, 0x64, 0x20, 0x55, 0x54, 0x46,
        0x2d, 0x38])]

theorem responseEntries_readable : Readable responseEntries := by decide

def responseBook : Codebook DispatchResponsePayload := ⟨responseEntries, responseEntries_readable⟩

def decodeResponse (data : Bytes) : Except DecodeError DispatchResponsePayload :=
  match responseBook.read data with
  | some payload => .ok payload
  | none => .error ⟨"not decoded"⟩

theorem decodeResponse_write (payload : DispatchResponsePayload) :
    decodeResponse (responseBook.write payload) = .ok payload := by
  rw [decodeResponse, responseBook.read_write]

/-- Messages of the client with their protobuf bytes. -/
def clientEntries : List (WireClientToServer × Bytes) :=
  [(ClientToServer.pong.toWire, [0x0a, 0x00]),
    ((ClientToServer.clientHello Actor.fixtureHello).toWire,
      [0x12, 0x24, 0x0a, 0x10, 0x0d, 0x0d, 0x0d, 0x0d, 0x0d, 0x0d, 0x0d, 0x0d, 0x0d, 0x0d, 0x0d,
        0x0d, 0x0d, 0x0d, 0x0d, 0x0d, 0x30, 0x01, 0x52, 0x07, 0x62, 0x61, 0x6e, 0x61, 0x6e, 0x61,
        0x73, 0x62, 0x05, 0x31, 0x2e, 0x30, 0x2e, 0x30]),
    ((ClientToServer.dispatchResponse ⟨5⟩ (.payload ⟨some ⟨some (.response [1])⟩⟩)).toWire,
      [0x1a, 0x09, 0x08, 0x05, 0x1a, 0x05, 0x0a, 0x03, 0x0a, 0x01, 0x01])]

theorem clientEntries_readable : Readable clientEntries := by decide

def clientBook : Codebook WireClientToServer := ⟨clientEntries, clientEntries_readable⟩

def fixtureEncode (message : ClientToServer) : Bytes := message.toBytes clientBook.write

def fixtureEnv (runtime : Runtime) : Env where
  prim := fixturePrimitives
  runtime := runtime
  metrics := Actor.fixtureMetrics
  decode := decodeResponse

def fixtureAckInput : ServerInput := .ok (.clientHelloAck ⟨List.replicate 16 42, fixtureId⟩)

def fixtureRequest (id : UInt64) : ServerInput :=
  .ok (.dispatch ⟨id⟩ ⟨[1]⟩ (some ⟨List.replicate 16 7, [1]⟩))

end LibddRc
