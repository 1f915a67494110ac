import LibddRc.Ffi.Status
import LibddRc.Go.Backoff
import LibddRc.Go.Context
import LibddRc.Go.SessionCleanup

/-! The connection loop of `rcx509.Client` on top of the client library: `run`
with `establishConnection`, the calls of a connection's life on the library's
instance, the session in between, and the delays between attempts. The library's
tasks, actors and event handler take their steps at any time. -/

set_option autoImplicit false

namespace LibddRc.Go

open Foundation Ffi

def resetThreshold : ℕ := 5 * second

def shouldResetBackoff (sessionDuration : ℕ) : Bool := resetThreshold ≤ sessionDuration

/-- How an attempt came to its end: without a session, or with one of a certain
duration. -/
inductive AttemptEnd
  | failed
  | session (duration : ℕ)
  deriving DecidableEq

def AttemptEnd.resets : AttemptEnd → Bool
  | .failed => false
  | .session duration => shouldResetBackoff duration

/-- Who closes a connection: `establishConnection`, which may have a websocket to
close too, or the session. -/
inductive Closer
  | attempt (ws : Option ℕ)
  | session (ws : ℕ)
  deriving DecidableEq

/-- Where a `Connection.Close` call stands. -/
inductive ClosingPc
  | shuttingDown
  | disconnecting
  | insideDisconnected
  | freeing
  deriving DecidableEq

/-- Where `run` stands. `connecting` is before the call of `rc_conn_connected`
and `marking` inside it; while the loop is `serving`, the session has a place of
its own. -/
inductive LoopPc
  | creating
  | configuring (conn : ℕ)
  | dialing (conn : ℕ)
  | connecting (conn ws : ℕ)
  | marking (conn ws : ℕ)
  | abandoning (conn : ℕ) (ws : Option ℕ)
  | serving (conn ws : ℕ)
  | closing (conn : ℕ) (wasConnected : Bool) (pc : ClosingPc) (closer : Closer)
  | closingWs (conn ws : ℕ)
  | ended (attempt : AttemptEnd)
  | sleeping (delay : Option ℕ)
  | returned
  deriving DecidableEq

structure LoopEnv where
  ffi : FfiEnv
  endpointHostname : String

/-- The loop and the instance it drives. `handles` are the connections whose
`cgo.Handle` is not deleted, `lifecycle` is that of the connection at hand and
`session` the last session. Recorded are the native calls on each connection, the
connection of every call of `Dial`, how many websockets these calls gave, the
`CloseNow` calls, and the delay after each attempt. -/
structure RunLoop where
  inst : Instance
  handles : List ℕ
  pc : LoopPc
  ctxDone : Bool
  backoff : Backoff
  lifecycle : ConnLifecycle
  session : RunSession
  native : ℕ → List NativeCall
  dials : List ℕ
  dialed : ℕ
  closeNows : List ℕ
  waits : List (AttemptEnd × Option ℕ)

/-- How a call of another package comes back, how long a session took, the random
bits of a delay, and which branch of `sleepCtx` is taken. -/
inductive LoopChoice
  | ok
  | err
  | took (duration : ℕ)
  | draw (bits : Fin (2 ^ 53))
  | timer
  | done

inductive LoopAct
  | cancel
  | library (action : InstanceAct)
  | report (correlationId : CorrelationId) (answer : HostAnswer)
  | loop (choice : LoopChoice)
  | session (action : RunSessionAct)

/-- The address of `goSendCb`; its user data stands for the connection's handle. -/
def goSendCallback (conn : ℕ) : SendCallback := ⟨1, conn⟩

namespace RunLoop

def init : RunLoop where
  inst := .init
  handles := []
  pc := .creating
  ctxDone := false
  backoff := newBackoff defaultInitialBackoff defaultMaxBackoff defaultBackoffMultiplier
  lifecycle := .init
  session := .init
  native := fun _ => []
  dials := []
  dialed := 0
  closeNows := []
  waits := []

/-- A native call on a connection has not returned yet. -/
def inCall (inst : Instance) (conn : ℕ) : Bool :=
  (inst.conns conn).any fun ffi => ffi.call ≠ .idle

/-- The native calls on each connection after one more. -/
def calling (loop : RunLoop) (conn : ℕ) (call : NativeCall) : ℕ → List NativeCall :=
  Function.update loop.native conn (loop.native conn ++ [call])

/-! ## Closing a connection -/

/-- `conn.Close` has returned. -/
def closed (loop : RunLoop) (conn : ℕ) : Closer → Option RunLoop
  | .attempt none => some { loop with pc := .ended .failed }
  | .attempt (some ws) => some { loop with pc := .closingWs conn ws }
  | .session ws => (loop.session.step (.main .close)).map fun session =>
      { loop with session, pc := .serving conn ws }

def close (loop : RunLoop) (conn : ℕ) (closer : Closer) : Option RunLoop :=
  match loop.lifecycle.markClosed with
  | .error _ => loop.closed conn closer
  | .ok (wasConnected, lifecycle) =>
      some { loop with lifecycle, pc := .closing conn wasConnected .shuttingDown closer }

def closingStep (env : LoopEnv) (loop : RunLoop) (conn : ℕ) (wasConnected : Bool)
    (closer : Closer) : ClosingPc → Option RunLoop
  | .shuttingDown => some { loop with pc := .closing conn wasConnected .disconnecting closer }
  | .disconnecting =>
      if wasConnected then
        (loop.inst.step env.ffi (.ffi conn .disconnected)).map fun inst => { loop with
          inst
          native := loop.calling conn .disconnected
          pc := .closing conn wasConnected
            (if inCall inst conn then .insideDisconnected else .freeing) closer }
      else some { loop with pc := .closing conn wasConnected .freeing closer }
  | .insideDisconnected =>
      (loop.inst.step env.ffi (.ffi conn .resume)).map fun inst => { loop with
        inst
        pc := .closing conn wasConnected
          (if inCall inst conn then .insideDisconnected else .freeing) closer }
  | .freeing =>
      (loop.inst.step env.ffi (.ffi conn .free)).bind fun inst =>
        ({ loop with
          inst
          native := loop.calling conn .free
          handles := loop.handles.erase conn } : RunLoop).closed conn closer

/-! ## The loop -/

/-- `Connected` up to the native call, which returns at once if it is refused. -/
def connect (env : LoopEnv) (loop : RunLoop) (conn ws : ℕ) : Option RunLoop :=
  if env.endpointHostname = "" ∨ maxStringLen < env.endpointHostname.utf8ByteSize then
    some { loop with pc := .abandoning conn (some ws) }
  else
    match loop.lifecycle.markConnected with
    | .error _ => some { loop with pc := .abandoning conn (some ws) }
    | .ok lifecycle =>
        (loop.inst.step env.ffi (.ffi conn (.connected env.endpointHostname))).map fun inst =>
          { loop with
            inst, lifecycle
            native := loop.calling conn (.connected env.endpointHostname (inCall inst conn))
            pc := if inCall inst conn then .marking conn ws else .abandoning conn (some ws) }

/-- The end of an attempt: `ctx.Err`, the backoff, and the call of `sleep`. -/
def endAttempt (loop : RunLoop) (attempt : AttemptEnd) (choice : LoopChoice) : Option RunLoop :=
  if loop.ctxDone then some { loop with pc := .returned }
  else
    match choice with
    | .draw bits =>
        let backoff := if attempt.resets then loop.backoff.reset else loop.backoff
        let (delay, backoff) := backoff.next bits
        some { loop with
          backoff, pc := .sleeping delay, waits := loop.waits ++ [(attempt, delay)] }
    | _ => none

/-- `sleepCtx`. Without a delay to wait for it does not look at the context. -/
def sleepCtx (ctxDone : Bool) (delay : Option ℕ) : LoopChoice → Option Bool
  | .timer => some true
  | .done => if delay ≠ some 0 ∧ ctxDone then some false else none
  | _ => none

def loopStep (env : LoopEnv) (loop : RunLoop) (choice : LoopChoice) : Option RunLoop :=
  match loop.pc with
  | .creating =>
      match choice with
      | .ok => (loop.inst.step env.ffi .create).map fun inst => { loop with
          inst
          native := loop.calling loop.inst.count .new
          handles := loop.handles ++ [loop.inst.count]
          pc := .configuring loop.inst.count
          lifecycle := .init }
      | .err => some { loop with pc := .ended .failed }
      | _ => none
  | .configuring conn =>
      (loop.inst.step env.ffi (.ffi conn (.sendCallback (goSendCallback conn)))).map fun inst =>
        { loop with inst, native := loop.calling conn .sendCallback, pc := .dialing conn }
  | .dialing conn =>
      let dials := loop.dials ++ [conn]
      match choice with
      | .ok => some { loop with
          pc := .connecting conn loop.dialed, dials, dialed := loop.dialed + 1 }
      | .err => some { loop with pc := .abandoning conn none, dials }
      | _ => none
  | .connecting conn ws => loop.connect env conn ws
  | .marking conn ws =>
      (loop.inst.step env.ffi (.ffi conn .resume)).map fun inst =>
        if inCall inst conn then { loop with inst }
        else { loop with
          inst, pc := .serving conn ws
          session := { RunSession.init with ctxDone := loop.ctxDone } }
  | .abandoning conn ws => loop.close conn (.attempt ws)
  | .serving _ _ =>
      match loop.session.pc, choice with
      | .returned _, .took duration => some { loop with pc := .ended (.session duration) }
      | _, _ => none
  | .closing conn wasConnected pc closer => loop.closingStep env conn wasConnected closer pc
  | .closingWs _ ws =>
      some { loop with pc := .ended .failed, closeNows := loop.closeNows ++ [ws] }
  | .ended attempt => loop.endAttempt attempt choice
  | .sleeping delay =>
      (sleepCtx loop.ctxDone delay choice).map fun slept =>
        { loop with pc := if slept then .creating else .returned }
  | .returned => none

/-! ## The session -/

def sessionMoves (loop : RunLoop) (action : RunSessionAct) : Option RunLoop :=
  (loop.session.step action).map fun session => { loop with session }

/-- `Recv` of the frame that the session has taken. -/
def deliver (env : LoopEnv) (loop : RunLoop) (conn : ℕ) : Option RunLoop :=
  loop.session.received.getLast?.bind fun data =>
    if data = [] then loop.sessionMoves (.main (.recvReturns .rejected))
    else
      match loop.lifecycle.checkRecvable with
      | .error .connectionClosed => loop.sessionMoves (.main (.recvReturns .connectionClosed))
      | .error _ => loop.sessionMoves (.main (.recvReturns .connectionNotConnected))
      | .ok () =>
          (loop.inst.step env.ffi (.ffi conn (.recv data))).bind fun inst =>
            ({ loop with inst, native := loop.calling conn (.recv data) } : RunLoop).sessionMoves
              (.main (.recvReturns
                (if (loop.inst.conns conn).any (·.state = .connected) then .delivered
                else .rejected)))

/-- Steps of the session and its read worker while the loop is serving. Only the
session closes the connection, and no call panics. -/
def servingStep (env : LoopEnv) (loop : RunLoop) (conn ws : ℕ) :
    RunSessionAct → Option RunLoop
  | .env (.push message) => loop.sessionMoves (.env (.push message))
  | .env .cancelCtx | .env .release => none
  | .worker action => loop.sessionMoves (.worker action)
  | .main .close =>
      match loop.session.pc with
      | .closing _ => loop.close conn (.session ws)
      | _ => none
  | .main (.recvReturns _) =>
      match loop.session.pc with
      | .delivering => loop.deliver env conn
      | _ => none
  | .main (.writeReturns .panicked) => none
  | .main .closeNow =>
      (loop.sessionMoves (.main .closeNow)).map fun next =>
        { next with closeNows := loop.closeNows ++ [ws] }
  | .main action => loop.sessionMoves (.main action)

/-- While the connection is closed for the session, the read worker goes on and
the library still fills `Outgoing`. -/
def sessionStep (env : LoopEnv) (loop : RunLoop) (action : RunSessionAct) : Option RunLoop :=
  match loop.pc, action with
  | .serving conn ws, action => loop.servingStep env conn ws action
  | .closing _ _ _ (.session _), .env (.push message) =>
      loop.sessionMoves (.env (.push message))
  | .closing _ _ _ (.session _), .worker action => loop.sessionMoves (.worker action)
  | _, _ => none

/-- The connection whose invoke pool runs, and so may report results. -/
def poolConn (loop : RunLoop) : Option ℕ :=
  match loop.pc with
  | .dialing conn | .connecting conn _ | .marking conn _ | .abandoning conn _
  | .closing conn _ .shuttingDown _ => some conn
  | .serving conn _ => if loop.lifecycle.closed then none else some conn
  | _ => none

def step (env : LoopEnv) (loop : RunLoop) : LoopAct → Option RunLoop
  | .cancel => some { loop with
      ctxDone := true, session := { loop.session with ctxDone := true } }
  | .library action =>
      if action.byTasks then (loop.inst.step env.ffi action).map fun inst => { loop with inst }
      else none
  | .report correlationId answer => loop.poolConn.bind fun conn =>
      (loop.inst.step env.ffi (.ffi conn (.report correlationId answer))).map fun inst =>
        { loop with inst, native := loop.calling conn (.dispatch correlationId.raw answer) }
  | .loop choice => loop.loopStep env choice
  | .session action => loop.sessionStep env action

end RunLoop

def runLoop (env : LoopEnv) : System RunLoop LoopAct where
  initial loop := loop = .init
  step := RunLoop.step env

def fixtureLoopEnv : LoopEnv := ⟨fixtureFfiEnv, "config.datadoghq.com"⟩

/-! ## Moves -/

/-- Where `conn.Close` is called. -/
inductive RunLoop.Closes (loop : RunLoop) : ℕ → Closer → Prop
  | attempt {conn : ℕ} {ws : Option ℕ} (at_ : loop.pc = .abandoning conn ws) :
      Closes loop conn (.attempt ws)
  | session {conn ws : ℕ} {result : SessionResult} (at_ : loop.pc = .serving conn ws)
      (cleanup : loop.session.pc = .closing result) : Closes loop conn (.session ws)

/-- What the loop goes on with after `conn.Close`. -/
inductive RunLoop.Closed (loop : RunLoop) (conn : ℕ) : Closer → RunLoop → Prop
  | undialed : Closed loop conn (.attempt none) { loop with pc := .ended .failed }
  | dialed {ws : ℕ} : Closed loop conn (.attempt (some ws)) { loop with pc := .closingWs conn ws }
  | session {ws : ℕ} {session : RunSession}
      (stepped : loop.session.step (.main .close) = some session) :
      Closed loop conn (.session ws) { loop with session, pc := .serving conn ws }

/-- The moves of `establishConnection` outside `conn.Close`. -/
inductive AttemptMove (env : LoopEnv) (loop : RunLoop) : RunLoop → Prop
  | created {inst : Instance} (at_ : loop.pc = .creating)
      (stepped : loop.inst.step env.ffi .create = some inst) : AttemptMove env loop { loop with
        inst
        native := loop.calling loop.inst.count .new
        handles := loop.handles ++ [loop.inst.count]
        pc := .configuring loop.inst.count
        lifecycle := .init }
  | notCreated (at_ : loop.pc = .creating) :
      AttemptMove env loop { loop with pc := .ended .failed }
  | configured {conn : ℕ} {inst : Instance} (at_ : loop.pc = .configuring conn)
      (stepped : loop.inst.step env.ffi
        (.ffi conn (.sendCallback (goSendCallback conn))) = some inst) :
      AttemptMove env loop { loop with
        inst, native := loop.calling conn .sendCallback, pc := .dialing conn }
  | dialed {conn : ℕ} (at_ : loop.pc = .dialing conn) : AttemptMove env loop { loop with
      pc := .connecting conn loop.dialed
      dials := loop.dials ++ [conn]
      dialed := loop.dialed + 1 }
  | notDialed {conn : ℕ} (at_ : loop.pc = .dialing conn) : AttemptMove env loop { loop with
      pc := .abandoning conn none
      dials := loop.dials ++ [conn] }
  | refused {conn ws : ℕ} (at_ : loop.pc = .connecting conn ws) :
      AttemptMove env loop { loop with pc := .abandoning conn (some ws) }
  | called {conn ws : ℕ} {lifecycle : ConnLifecycle} {inst : Instance}
      (at_ : loop.pc = .connecting conn ws) (named : env.endpointHostname ≠ "")
      (short : env.endpointHostname.utf8ByteSize ≤ maxStringLen)
      (marked : loop.lifecycle.markConnected = .ok lifecycle)
      (stepped : loop.inst.step env.ffi
        (.ffi conn (.connected env.endpointHostname)) = some inst) :
      AttemptMove env loop { loop with
        inst, lifecycle
        native := loop.calling conn
          (.connected env.endpointHostname (RunLoop.inCall inst conn))
        pc := if RunLoop.inCall inst conn then .marking conn ws
          else .abandoning conn (some ws) }
  | marking {conn ws : ℕ} {inst : Instance} (at_ : loop.pc = .marking conn ws)
      (stepped : loop.inst.step env.ffi (.ffi conn .resume) = some inst)
      (inside : RunLoop.inCall inst conn = true) : AttemptMove env loop { loop with inst }
  | established {conn ws : ℕ} {inst : Instance} (at_ : loop.pc = .marking conn ws)
      (stepped : loop.inst.step env.ffi (.ffi conn .resume) = some inst)
      (back : RunLoop.inCall inst conn = false) : AttemptMove env loop { loop with
        inst, pc := .serving conn ws
        session := { RunSession.init with ctxDone := loop.ctxDone } }
  | wsClosed {conn ws : ℕ} (at_ : loop.pc = .closingWs conn ws) : AttemptMove env loop { loop with
      pc := .ended .failed, closeNows := loop.closeNows ++ [ws] }

/-- The moves of `conn.Close`, whoever calls it. -/
inductive ClosingMove (env : LoopEnv) (loop : RunLoop) : RunLoop → Prop
  | closing {conn : ℕ} {closer : Closer} {wasConnected : Bool} {lifecycle : ConnLifecycle}
      (closes : loop.Closes conn closer)
      (marked : loop.lifecycle.markClosed = .ok (wasConnected, lifecycle)) :
      ClosingMove env loop { loop with
        lifecycle, pc := .closing conn wasConnected .shuttingDown closer }
  | closedBefore {conn : ℕ} {closer : Closer} {err : LifecycleError} {next : RunLoop}
      (closes : loop.Closes conn closer) (marked : loop.lifecycle.markClosed = .error err)
      (went : loop.Closed conn closer next) : ClosingMove env loop next
  | shutDown {conn : ℕ} {wasConnected : Bool} {closer : Closer}
      (at_ : loop.pc = .closing conn wasConnected .shuttingDown closer) :
      ClosingMove env loop { loop with pc := .closing conn wasConnected .disconnecting closer }
  | disconnecting {conn : ℕ} {closer : Closer} {inst : Instance}
      (at_ : loop.pc = .closing conn true .disconnecting closer)
      (stepped : loop.inst.step env.ffi (.ffi conn .disconnected) = some inst) :
      ClosingMove env loop { loop with
        inst
        native := loop.calling conn .disconnected
        pc := .closing conn true
          (if RunLoop.inCall inst conn then .insideDisconnected else .freeing) closer }
  | neverConnected {conn : ℕ} {closer : Closer}
      (at_ : loop.pc = .closing conn false .disconnecting closer) :
      ClosingMove env loop { loop with pc := .closing conn false .freeing closer }
  | disconnected {conn : ℕ} {wasConnected : Bool} {closer : Closer} {inst : Instance}
      (at_ : loop.pc = .closing conn wasConnected .insideDisconnected closer)
      (stepped : loop.inst.step env.ffi (.ffi conn .resume) = some inst) :
      ClosingMove env loop { loop with
        inst
        pc := .closing conn wasConnected
          (if RunLoop.inCall inst conn then .insideDisconnected else .freeing) closer }
  | freed {conn : ℕ} {wasConnected : Bool} {closer : Closer} {inst : Instance} {next : RunLoop}
      (at_ : loop.pc = .closing conn wasConnected .freeing closer)
      (stepped : loop.inst.step env.ffi (.ffi conn .free) = some inst)
      (went : ({ loop with
        inst
        native := loop.calling conn .free
        handles := loop.handles.erase conn } : RunLoop).Closed conn closer next) :
      ClosingMove env loop next

/-- The moves of the session and its read worker outside `conn.Close`. -/
inductive ServingMove (env : LoopEnv) (loop : RunLoop) : RunLoop → Prop
  | session {conn ws : ℕ} {action : RunSessionAct} {session : RunSession}
      (at_ : loop.pc = .serving conn ws) (notClose : action ≠ .main .close)
      (notCloseNow : action ≠ .main .closeNow)
      (stepped : loop.session.step action = some session) :
      ServingMove env loop { loop with session }
  | background {conn ws : ℕ} {wasConnected : Bool} {pc : ClosingPc} {action : RunSessionAct}
      {session : RunSession} (at_ : loop.pc = .closing conn wasConnected pc (.session ws))
      (notMain : ∀ action', action ≠ .main action')
      (stepped : loop.session.step action = some session) :
      ServingMove env loop { loop with session }
  | delivered {conn ws : ℕ} {data : Bytes} {outcome : RecvOutcome} {inst : Instance}
      {session : RunSession} (at_ : loop.pc = .serving conn ws)
      (filled : data ≠ []) (recvable : loop.lifecycle.checkRecvable = .ok ())
      (stepped : loop.inst.step env.ffi (.ffi conn (.recv data)) = some inst)
      (returned : loop.session.step (.main (.recvReturns outcome)) = some session) :
      ServingMove env loop { loop with inst, native := loop.calling conn (.recv data), session }
  | hungUp {conn ws : ℕ} {session : RunSession} (at_ : loop.pc = .serving conn ws)
      (stepped : loop.session.step (.main .closeNow) = some session) :
      ServingMove env loop { loop with session, closeNows := loop.closeNows ++ [ws] }
  | ended {conn ws duration : ℕ} {result : SessionResult} (at_ : loop.pc = .serving conn ws)
      (returned : loop.session.pc = .returned result) :
      ServingMove env loop { loop with pc := .ended (.session duration) }

/-- The moves of `run` between two attempts. -/
inductive PauseMove (loop : RunLoop) : RunLoop → Prop
  | stopped {attempt : AttemptEnd} (at_ : loop.pc = .ended attempt)
      (done : loop.ctxDone = true) : PauseMove loop { loop with pc := .returned }
  | waiting {attempt : AttemptEnd} {bits : Fin (2 ^ 53)} (at_ : loop.pc = .ended attempt)
      (going : loop.ctxDone = false) : PauseMove loop (
        let wait := (if attempt.resets then loop.backoff.reset else loop.backoff).next bits
        { loop with
          backoff := wait.2, pc := .sleeping wait.1, waits := loop.waits ++ [(attempt, wait.1)] })
  | woken {delay : Option ℕ} (at_ : loop.pc = .sleeping delay) :
      PauseMove loop { loop with pc := .creating }
  | interrupted {delay : Option ℕ} (at_ : loop.pc = .sleeping delay)
      (done : loop.ctxDone = true) : PauseMove loop { loop with pc := .returned }

/-- Every move of the goroutines, with the guards it was made under. -/
inductive RunMove (env : LoopEnv) (loop : RunLoop) : RunLoop → Prop
  | reported {conn : ℕ} {correlationId : CorrelationId} {answer : HostAnswer} {inst : Instance}
      (pool : loop.poolConn = some conn)
      (stepped : loop.inst.step env.ffi (.ffi conn (.report correlationId answer)) = some inst) :
      RunMove env loop { loop with
        inst, native := loop.calling conn (.dispatch correlationId.raw answer) }
  | attempt {next : RunLoop} (moved : AttemptMove env loop next) : RunMove env loop next
  | close {next : RunLoop} (moved : ClosingMove env loop next) : RunMove env loop next
  | serve {next : RunLoop} (moved : ServingMove env loop next) : RunMove env loop next
  | pause {next : RunLoop} (moved : PauseMove loop next) : RunMove env loop next

inductive LoopMove (env : LoopEnv) (loop : RunLoop) : LoopAct → RunLoop → Prop
  | cancelled : LoopMove env loop .cancel { loop with
      ctxDone := true, session := { loop.session with ctxDone := true } }
  | tasks {action : InstanceAct} {inst : Instance} (own : action.byTasks = true)
      (stepped : loop.inst.step env.ffi action = some inst) :
      LoopMove env loop (.library action) { loop with inst }
  | go {act : LoopAct} {next : RunLoop} (moved : RunMove env loop next) :
      LoopMove env loop act next

namespace RunLoop

section Moves

variable {env : LoopEnv} {loop next : RunLoop}

private theorem closed_cases {conn : ℕ} {closer : Closer}
    (went : loop.closed conn closer = some next) : loop.Closed conn closer next := by
  cases closer with
  | attempt ws =>
      cases ws with
      | none =>
          cases went
          exact .undialed
      | some ws =>
          cases went
          exact .dialed
  | session ws =>
      obtain ⟨session, stepped, rfl⟩ := Option.map_eq_some_iff.mp went
      exact .session stepped

private theorem close_move {conn : ℕ} {closer : Closer} (closes : loop.Closes conn closer)
    (stepped : loop.close conn closer = some next) : ClosingMove env loop next := by
  unfold close at stepped
  split at stepped
  · next marked => exact .closedBefore closes marked (closed_cases stepped)
  · next marked =>
    cases stepped
    exact .closing closes marked

private theorem closingStep_move {conn : ℕ} {wasConnected : Bool} {pc : ClosingPc}
    {closer : Closer} (at_ : loop.pc = .closing conn wasConnected pc closer)
    (stepped : loop.closingStep env conn wasConnected closer pc = some next) :
    ClosingMove env loop next := by
  cases pc with
  | shuttingDown =>
      cases stepped
      exact .shutDown at_
  | disconnecting =>
      cases wasConnected with
      | true =>
          obtain ⟨inst, called, rfl⟩ := Option.map_eq_some_iff.mp stepped
          exact .disconnecting at_ called
      | false =>
          cases stepped
          exact .neverConnected at_
  | insideDisconnected =>
      obtain ⟨inst, called, rfl⟩ := Option.map_eq_some_iff.mp stepped
      exact .disconnected at_ called
  | freeing =>
      obtain ⟨inst, called, went⟩ := Option.bind_eq_some_iff.mp stepped
      exact .freed at_ called (closed_cases went)

private theorem connect_move {conn ws : ℕ} (at_ : loop.pc = .connecting conn ws)
    (stepped : loop.connect env conn ws = some next) : AttemptMove env loop next := by
  unfold connect at stepped
  split at stepped
  · cases stepped
    exact .refused at_
  · next usable =>
    obtain ⟨named, short⟩ := not_or.mp usable
    split at stepped
    · cases stepped
      exact .refused at_
    · next marked =>
      obtain ⟨inst, called, rfl⟩ := Option.map_eq_some_iff.mp stepped
      exact .called at_ named (not_lt.mp short) marked called

private theorem endAttempt_move {attempt : AttemptEnd} {choice : LoopChoice}
    (at_ : loop.pc = .ended attempt) (stepped : loop.endAttempt attempt choice = some next) :
    PauseMove loop next := by
  unfold endAttempt at stepped
  split at stepped
  · next done =>
    cases stepped
    exact .stopped at_ done
  · next going =>
    split at stepped
    · cases stepped
      exact .waiting at_ (Bool.eq_false_iff.mpr going)
    · cases stepped

private theorem sleep_move {delay : Option ℕ} {choice : LoopChoice} {slept : Bool}
    (at_ : loop.pc = .sleeping delay)
    (returned : sleepCtx loop.ctxDone delay choice = some slept) :
    PauseMove loop { loop with pc := if slept then .creating else .returned } := by
  cases choice with
  | timer =>
      cases returned
      exact .woken at_
  | done =>
      obtain ⟨⟨_, done⟩, same⟩ := Option.ite_none_right_eq_some.mp returned
      cases same
      exact .interrupted at_ done
  | ok | err | took | draw => cases returned

private theorem loopStep_move {choice : LoopChoice}
    (stepped : loop.loopStep env choice = some next) : RunMove env loop next := by
  unfold loopStep at stepped
  cases at_ : loop.pc with
  | creating =>
      simp only [at_] at stepped
      split at stepped
      · obtain ⟨inst, called, rfl⟩ := Option.map_eq_some_iff.mp stepped
        exact .attempt (.created at_ called)
      · cases stepped
        exact .attempt (.notCreated at_)
      · cases stepped
  | configuring conn =>
      simp only [at_] at stepped
      obtain ⟨inst, called, rfl⟩ := Option.map_eq_some_iff.mp stepped
      exact .attempt (.configured at_ called)
  | dialing conn =>
      simp only [at_] at stepped
      split at stepped
      · cases stepped
        exact .attempt (.dialed at_)
      · cases stepped
        exact .attempt (.notDialed at_)
      · cases stepped
  | connecting conn ws =>
      simp only [at_] at stepped
      exact .attempt (connect_move at_ stepped)
  | marking conn ws =>
      simp only [at_] at stepped
      obtain ⟨inst, called, rfl⟩ := Option.map_eq_some_iff.mp stepped
      split
      · next inside =>
        rw [← at_]
        exact .attempt (.marking at_ called inside)
      · next back => exact .attempt (.established at_ called (Bool.eq_false_iff.mpr back))
  | abandoning conn ws =>
      simp only [at_] at stepped
      exact .close (close_move (.attempt at_) stepped)
  | serving conn ws =>
      simp only [at_] at stepped
      split at stepped
      · next returned =>
        cases stepped
        exact .serve (.ended at_ returned)
      · cases stepped
  | closing conn wasConnected pc closer =>
      simp only [at_] at stepped
      exact .close (closingStep_move at_ stepped)
  | closingWs conn ws =>
      simp only [at_, Option.some.injEq] at stepped
      subst stepped
      exact .attempt (.wsClosed at_)
  | ended attempt =>
      simp only [at_] at stepped
      exact .pause (endAttempt_move at_ stepped)
  | sleeping delay =>
      simp only [at_] at stepped
      obtain ⟨slept, returned, rfl⟩ := Option.map_eq_some_iff.mp stepped
      exact .pause (sleep_move at_ returned)
  | returned => simp [at_] at stepped

private theorem sessionMoves_move {conn ws : ℕ} {action : RunSessionAct}
    (at_ : loop.pc = .serving conn ws) (notClose : action ≠ .main .close)
    (notCloseNow : action ≠ .main .closeNow)
    (stepped : loop.sessionMoves action = some next) : ServingMove env loop next := by
  obtain ⟨session, moved, rfl⟩ := Option.map_eq_some_iff.mp stepped
  exact .session at_ notClose notCloseNow moved

private theorem deliver_move {conn ws : ℕ} (at_ : loop.pc = .serving conn ws)
    (stepped : loop.deliver env conn = some next) : ServingMove env loop next := by
  obtain ⟨data, _, stepped⟩ := Option.bind_eq_some_iff.mp stepped
  split at stepped
  · exact sessionMoves_move at_ (by simp) (by simp) stepped
  · next filled =>
    split at stepped
    · exact sessionMoves_move at_ (by simp) (by simp) stepped
    · exact sessionMoves_move at_ (by simp) (by simp) stepped
    · next recvable =>
      obtain ⟨inst, called, stepped⟩ := Option.bind_eq_some_iff.mp stepped
      obtain ⟨session, returned, rfl⟩ := Option.map_eq_some_iff.mp stepped
      exact .delivered at_ filled recvable called returned

private theorem servingStep_move {conn ws : ℕ} {action : RunSessionAct}
    (at_ : loop.pc = .serving conn ws)
    (stepped : loop.servingStep env conn ws action = some next) : RunMove env loop next := by
  unfold servingStep at stepped
  split at stepped
  · exact .serve (sessionMoves_move at_ (by simp) (by simp) stepped)
  · cases stepped
  · cases stepped
  · exact .serve (sessionMoves_move at_ (by simp) (by simp) stepped)
  · split at stepped
    · next cleanup => exact .close (close_move (.session at_ cleanup) stepped)
    · cases stepped
  · split at stepped
    · exact .serve (deliver_move at_ stepped)
    · cases stepped
  · cases stepped
  · obtain ⟨moved, went, rfl⟩ := Option.map_eq_some_iff.mp stepped
    obtain ⟨session, closed, rfl⟩ := Option.map_eq_some_iff.mp went
    exact .serve (.hungUp at_ closed)
  · next notClose _ _ notCloseNow =>
    refine .serve (sessionMoves_move at_ ?_ ?_ stepped)
    · rintro ⟨⟩
      exact notClose rfl
    · rintro ⟨⟩
      exact notCloseNow rfl

private theorem sessionStep_move {action : RunSessionAct}
    (stepped : loop.sessionStep env action = some next) : RunMove env loop next := by
  unfold sessionStep at stepped
  split at stepped
  · next at_ => exact servingStep_move at_ stepped
  · next at_ =>
    obtain ⟨session, moved, rfl⟩ := Option.map_eq_some_iff.mp stepped
    exact .serve (.background at_ (by simp) moved)
  · next at_ =>
    obtain ⟨session, moved, rfl⟩ := Option.map_eq_some_iff.mp stepped
    exact .serve (.background at_ (by simp) moved)
  · cases stepped

theorem step_move {action : LoopAct} (stepped : loop.step env action = some next) :
    LoopMove env loop action next := by
  cases action with
  | cancel =>
      cases stepped
      exact .cancelled
  | library action =>
      obtain ⟨own, stepped⟩ := Option.ite_none_right_eq_some.mp stepped
      obtain ⟨inst, moved, rfl⟩ := Option.map_eq_some_iff.mp stepped
      exact .tasks own moved
  | report correlationId answer =>
      obtain ⟨conn, pool, stepped⟩ := Option.bind_eq_some_iff.mp stepped
      obtain ⟨inst, moved, rfl⟩ := Option.map_eq_some_iff.mp stepped
      exact .go (.reported pool moved)
  | loop choice => exact .go (loopStep_move stepped)
  | session action => exact .go (sessionStep_move stepped)

end Moves

end RunLoop

end LibddRc.Go
