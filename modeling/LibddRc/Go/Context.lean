import LibddRc.Foundation.Threads
import LibddRc.Go.Host
import LibddRc.Go.NativeCalls

/-! `X509Context` and its connections as any number of goroutines use them: the
context's mutex, closed flag and map of connections, each connection's mutex and
lifecycle, and the calls into the client library. The workers of the invoke
pools run beside the goroutines. -/

set_option autoImplicit false

namespace LibddRc.Go

open Foundation

/-! ## The lifecycle of a connection -/

inductive LifecycleError
  | connectionClosed
  | connectionNotConnected
  | connectionAlreadyConnected
  deriving DecidableEq

structure ConnLifecycle where
  closed : Bool
  connected : Bool
  deriving DecidableEq

namespace ConnLifecycle

def init : ConnLifecycle := ⟨false, false⟩

def markConnected (lifecycle : ConnLifecycle) : Except LifecycleError ConnLifecycle :=
  if lifecycle.closed then .error .connectionClosed
  else if lifecycle.connected then .error .connectionAlreadyConnected
  else .ok { lifecycle with connected := true }

/-- Whether the connection was connected comes with the closed lifecycle. -/
def markClosed (lifecycle : ConnLifecycle) : Except LifecycleError (Bool × ConnLifecycle) :=
  if lifecycle.closed then .error .connectionClosed
  else .ok (lifecycle.connected, { lifecycle with closed := true })

def checkRecvable (lifecycle : ConnLifecycle) : Except LifecycleError Unit :=
  if lifecycle.closed then .error .connectionClosed
  else if lifecycle.connected then .ok ()
  else .error .connectionNotConnected

section

variable {lifecycle next : ConnLifecycle}

theorem markConnected_ok (marked : lifecycle.markConnected = .ok next) :
    lifecycle = .init ∧ next = ⟨false, true⟩ := by
  obtain ⟨closed, connected⟩ := lifecycle
  cases closed with
  | true => cases marked
  | false =>
      cases connected with
      | true => cases marked
      | false =>
          cases marked
          exact ⟨rfl, rfl⟩

theorem markClosed_ok {wasConnected : Bool}
    (marked : lifecycle.markClosed = .ok (wasConnected, next)) :
    lifecycle = ⟨false, wasConnected⟩ ∧ next = ⟨true, wasConnected⟩ := by
  obtain ⟨closed, connected⟩ := lifecycle
  cases closed with
  | true => cases marked
  | false =>
      cases marked
      exact ⟨rfl, rfl⟩

theorem markClosed_error {err : LifecycleError} (refused : lifecycle.markClosed = .error err) :
    lifecycle.closed = true ∧ err = .connectionClosed := by
  obtain ⟨closed, connected⟩ := lifecycle
  cases closed with
  | true =>
      cases refused
      exact ⟨rfl, rfl⟩
  | false => cases refused

theorem checkRecvable_ok (allowed : lifecycle.checkRecvable = .ok ()) :
    lifecycle = ⟨false, true⟩ := by
  obtain ⟨closed, connected⟩ := lifecycle
  cases closed with
  | true => cases allowed
  | false =>
      cases connected with
      | true => rfl
      | false => cases allowed

end

end ConnLifecycle

/-! ## State -/

/-- `started` tells that `newInvokePool` and `start` were called, `native` which
calls were made for the connection. -/
structure Connection where
  mu : Option Nat
  lifecycle : ConnLifecycle
  pool : Pool
  started : Bool
  native : List NativeCall

/-- What `rc_conn_new` returned, before anything else is done with it. -/
def Connection.new : Connection where
  mu := none
  lifecycle := .init
  pool := .init
  started := false
  native := [.new]

def Connection.call (conn : Connection) (call : NativeCall) : Connection :=
  { conn with native := conn.native ++ [call] }

/-- An error value of the package, an error with a text of its own, or one that
tells what a native call returned. -/
inductive ApiError
  | contextClosed
  | emptyPayload
  | lifecycle (err : LifecycleError)
  | text (message : String)
  | returned (function : String)
  | wrapped (message : String) (err : LifecycleError)
  deriving DecidableEq

inductive ApiResult
  | newConnection (err : Option ApiError)
  | connected (conn : Nat) (err : Option ApiError)
  | recv (conn : Nat) (err : Option ApiError)
  | close (conn : Nat) (err : Option ApiError)
  | contextClose (err : Option ApiError)
  deriving DecidableEq

/-- A context. `conns` are the keys of its map; `connections` holds every
connection that was created. Recorded are the connections that `NewConnection`
returned, the goroutine that set `closed`, the calls of `rc_free`, and what the
calls returned. -/
structure X509Context where
  mu : Option Nat
  closed : Bool
  conns : List Nat
  connections : Nat → Option Connection
  count : Nat
  handed : List Nat
  closer : Option Nat
  rcFrees : Nat
  results : List ApiResult

def X509Context.init : X509Context where
  mu := none
  closed := false
  conns := []
  connections _ := none
  count := 0
  handed := []
  closer := none
  rcFrees := 0
  results := []

/-! ## Where a goroutine stands -/

/-- Who called `Connection.Close`. For `X509Context.Close` the connections left
of its snapshot come along. -/
inductive CloseCaller
  | user
  | context (rest : List Nat)
  deriving DecidableEq

/-- Where a `Connection.Close` call stands, `forget` included. -/
inductive CloseCallPc
  | locking
  | marking
  | shuttingDown (wasConnected : Bool)
  | disconnecting (wasConnected : Bool)
  | freeing
  | unlocking
  | refusing (err : LifecycleError)
  | forgetLocking
  | forgetting
  | forgetUnlocking
  deriving DecidableEq

inductive ContextPc
  | idle
  | newLocking
  | newChecking
  | newCreating
  | newSendCallback (conn : Nat)
  | newRegistering (conn : Nat)
  | newUnlocking (conn : Nat)
  | newRefusing (err : ApiError)
  | connectedLocking (conn : Nat) (endpointHostname : String)
  | connectedMarking (conn : Nat) (endpointHostname : String)
  | connectedCalling (conn : Nat) (endpointHostname : String)
  | recvLocking (conn : Nat) (data : Bytes)
  | recvChecking (conn : Nat) (data : Bytes)
  | recvCalling (conn : Nat) (data : Bytes)
  | connUnlocking (conn : Nat) (result : ApiResult)
  | closing (conn : Nat) (pc : CloseCallPc) (caller : CloseCaller)
  | contextLocking
  | contextChecking
  | contextRefusing
  | contextSnapshotting
  | contextUnlocking (conns : List Nat)
  | contextClosing (rest : List Nat)
  | contextFreeLocking
  | contextFreeing
  | contextFreeUnlocking
  deriving DecidableEq

/-- Which call a goroutine makes, how a native call comes back, and the order in
which the map of connections is ranged over. -/
inductive ContextChoice
  | newConnection
  | connected (conn : Nat) (endpointHostname : String)
  | recv (conn : Nat) (data : Bytes)
  | close (conn : Nat)
  | contextClose
  | ok
  | err
  | range (order : List Nat)
  deriving DecidableEq

def maxStringLen : Nat := 255

namespace X509Context

def setConn (ctx : X509Context) (index : Nat) (conn : Connection) : X509Context :=
  { ctx with connections := Function.update ctx.connections index (some conn) }

def withConn (ctx : X509Context) (index : Nat)
    (step : Connection → Option (Connection × ContextPc)) : Option (X509Context × ContextPc) :=
  (ctx.connections index).bind fun conn => (step conn).map fun (next, point) =>
    (ctx.setConn index next, point)

def returns (ctx : X509Context) (result : ApiResult) : X509Context :=
  { ctx with results := ctx.results ++ [result] }

/-! ## Steps -/

/-- A call, up to the lock it takes first. A goroutine only has connections that
`NewConnection` returned. -/
def start (ctx : X509Context) : ContextChoice → Option (X509Context × ContextPc)
  | .newConnection => some (ctx, .newLocking)
  | .connected conn endpointHostname =>
      if conn ∈ ctx.handed then
        if endpointHostname = "" then some (ctx.returns (.connected conn (some
          (.text "libddrc: endpointHostname must not be empty"))), .idle)
        else if maxStringLen < endpointHostname.utf8ByteSize then
          some (ctx.returns (.connected conn (some
            (.text "libddrc: endpointHostname must not be longer than 255 bytes"))), .idle)
        else some (ctx, .connectedLocking conn endpointHostname)
      else none
  | .recv conn data =>
      if conn ∈ ctx.handed then
        if data = [] then some (ctx.returns (.recv conn (some .emptyPayload)), .idle)
        else some (ctx, .recvLocking conn data)
      else none
  | .close conn => if conn ∈ ctx.handed then some (ctx, .closing conn .locking .user) else none
  | .contextClose => some (ctx, .contextLocking)
  | .ok | .err | .range _ => none

def lockConn (id : Nat) (ctx : X509Context) (index : Nat) (inside : ContextPc) :
    Option (X509Context × ContextPc) :=
  ctx.withConn index fun conn =>
    if conn.mu = none then some ({ conn with mu := some id }, inside) else none

/-- A `Connection.Close` call returns with an error. `X509Context.Close` goes on
if another call closed the connection. -/
def closeFailed (ctx : X509Context) (index : Nat) (err : LifecycleError) :
    CloseCaller → X509Context × ContextPc
  | .user => (ctx.returns (.close index (some (.lifecycle err))), .idle)
  | .context rest =>
      if err = .connectionClosed then (ctx, .contextClosing rest)
      else (ctx.returns (.contextClose (some
        (.wrapped "ddrc: failed to disconnect connection during Close: " err))), .idle)

def closeReturned (ctx : X509Context) (index : Nat) : CloseCaller → X509Context × ContextPc
  | .user => (ctx.returns (.close index none), .idle)
  | .context rest => (ctx, .contextClosing rest)

def closeStep (id : Nat) (ctx : X509Context) (index : Nat) (caller : CloseCaller) :
    CloseCallPc → Option (X509Context × ContextPc)
  | .locking => ctx.lockConn id index (.closing index .marking caller)
  | .marking => ctx.withConn index fun conn =>
      match conn.lifecycle.markClosed with
      | .error err => some (conn, .closing index (.refusing err) caller)
      | .ok (wasConnected, lifecycle) =>
          some ({ conn with lifecycle }, .closing index (.shuttingDown wasConnected) caller)
  | .shuttingDown wasConnected => ctx.withConn index fun conn =>
      if conn.pool.shutdown = .returned then
        some (conn, .closing index (.disconnecting wasConnected) caller)
      else (conn.pool.step .shutdown).map fun pool =>
        ({ conn with pool }, .closing index (.shuttingDown wasConnected) caller)
  | .disconnecting wasConnected => ctx.withConn index fun conn =>
      some (if wasConnected then conn.call .disconnected else conn, .closing index .freeing caller)
  | .freeing => ctx.withConn index fun conn =>
      some (conn.call .free, .closing index .unlocking caller)
  | .unlocking => ctx.withConn index fun conn =>
      some ({ conn with mu := none }, .closing index .forgetLocking caller)
  | .refusing err =>
      (ctx.connections index).map fun conn =>
        (ctx.setConn index { conn with mu := none }).closeFailed index err caller
  | .forgetLocking =>
      if ctx.mu = none then some ({ ctx with mu := some id }, .closing index .forgetting caller)
      else none
  | .forgetting => some ({ ctx with conns := ctx.conns.filter (· ≠ index) },
      .closing index .forgetUnlocking caller)
  | .forgetUnlocking => some (({ ctx with mu := none } : X509Context).closeReturned index caller)

def step (id : Nat) (ctx : X509Context) (point : ContextPc) (choice : ContextChoice) :
    Option (X509Context × ContextPc) :=
  match point with
  | .idle => ctx.start choice
  | .newLocking =>
      if ctx.mu = none then some ({ ctx with mu := some id }, .newChecking) else none
  | .newChecking =>
      some (ctx, if ctx.closed then .newRefusing .contextClosed else .newCreating)
  | .newCreating =>
      if choice = .err then
        some (ctx, .newRefusing (.text "ddrc: rc_conn_new returned a nil connection"))
      else some ({ ctx.setConn ctx.count .new with count := ctx.count + 1 },
        .newSendCallback ctx.count)
  | .newSendCallback index => ctx.withConn index fun conn =>
      some (conn.call .sendCallback, .newRegistering index)
  | .newRegistering index =>
      (ctx.connections index).map fun conn =>
        ({ ctx.setConn index { conn with started := true } with conns := ctx.conns ++ [index] },
          .newUnlocking index)
  | .newUnlocking index =>
      some (({ ctx with mu := none, handed := ctx.handed ++ [index] } : X509Context).returns
        (.newConnection none), .idle)
  | .newRefusing err =>
      some (({ ctx with mu := none } : X509Context).returns (.newConnection (some err)), .idle)
  | .connectedLocking index endpointHostname =>
      ctx.lockConn id index (.connectedMarking index endpointHostname)
  | .connectedMarking index endpointHostname => ctx.withConn index fun conn =>
      match conn.lifecycle.markConnected with
      | .error err => some (conn, .connUnlocking index (.connected index (some (.lifecycle err))))
      | .ok lifecycle =>
          some ({ conn with lifecycle }, .connectedCalling index endpointHostname)
  | .connectedCalling index endpointHostname => ctx.withConn index fun conn =>
      -- a failed call leaves the lifecycle as `markConnected` set it
      some (conn.call (.connected endpointHostname (choice ≠ .err)),
        .connUnlocking index (.connected index
          (if choice = .err then some (.returned "rc_conn_connected") else none)))
  | .recvLocking index data => ctx.lockConn id index (.recvChecking index data)
  | .recvChecking index data => ctx.withConn index fun conn =>
      match conn.lifecycle.checkRecvable with
      | .error err => some (conn, .connUnlocking index (.recv index (some (.lifecycle err))))
      | .ok () => some (conn, .recvCalling index data)
  | .recvCalling index data => ctx.withConn index fun conn =>
      some (conn.call (.recv data), .connUnlocking index (.recv index
        (if choice = .err then some (.returned "rc_conn_recv") else none)))
  | .connUnlocking index result =>
      (ctx.connections index).map fun conn =>
        ((ctx.setConn index { conn with mu := none }).returns result, .idle)
  | .closing index pc caller => ctx.closeStep id index caller pc
  | .contextLocking =>
      if ctx.mu = none then some ({ ctx with mu := some id }, .contextChecking) else none
  | .contextChecking =>
      if ctx.closed then some (ctx, .contextRefusing)
      else some ({ ctx with closed := true, closer := some id }, .contextSnapshotting)
  | .contextRefusing =>
      some (({ ctx with mu := none } : X509Context).returns
        (.contextClose (some .contextClosed)), .idle)
  | .contextSnapshotting =>
      match choice with
      | .range order =>
          if order.isPerm ctx.conns then some (ctx, .contextUnlocking order) else none
      | _ => none
  | .contextUnlocking conns => some ({ ctx with mu := none }, .contextClosing conns)
  | .contextClosing [] => some (ctx, .contextFreeLocking)
  | .contextClosing (conn :: rest) => some (ctx, .closing conn .locking (.context rest))
  | .contextFreeLocking =>
      if ctx.mu = none then some ({ ctx with mu := some id }, .contextFreeing) else none
  | .contextFreeing => some ({ ctx with rcFrees := ctx.rcFrees + 1 }, .contextFreeUnlocking)
  | .contextFreeUnlocking =>
      some (({ ctx with mu := none } : X509Context).returns (.contextClose none), .idle)

end X509Context

/-! ## The pools -/

/-- The job and the sink call that a step of the pool returns from. -/
def Pool.sinking? (pool : Pool) : PoolAct → Option (DispatchJob × SinkCall)
  | .worker worker .callSink =>
      match pool.workers worker with
      | .invoking ticket _ => (pool.invocations ticket).bind fun inv =>
          (inv.sinkCall? .callSink).map fun call => (inv.job, call)
      | _ => none
  | .watcher ticket .watcherSink => (pool.invocations ticket).bind fun inv =>
      (inv.sinkCall? .watcherSink).map fun call => (inv.job, call)
  | _ => none

/-- The native calls of `sendDispatchResult` and `sendDispatchError`. -/
def Connection.dispatches (env : HostEnv) (conn : Connection) (action : PoolAct) :
    List NativeCall :=
  match conn.pool.sinking? action with
  | some (job, call) => ((env.answerTo call).map (.dispatch job.correlationID)).toList
  | none => []

/-- A step of a connection's pool that is not a part of `shutdown`. -/
inductive ContextEvent
  | pool (conn : Nat) (action : PoolAct)

def X509Context.poolStep (env : HostEnv) (ctx : X509Context) : ContextEvent → Option X509Context
  | .pool index action =>
      if action = .shutdown then none
      else (ctx.connections index).bind fun conn =>
        if conn.started then (conn.pool.step action).map fun pool => ctx.setConn index { conn with
          pool, native := conn.native ++ conn.dispatches env action }
        else none

def libddrcffi (env : HostEnv) : Program X509Context ContextPc ContextChoice ContextEvent where
  initial ctx := ctx = .init
  entry := .idle
  step := X509Context.step
  environment := X509Context.poolStep env

end LibddRc.Go
