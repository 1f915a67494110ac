import LibddRc.Connection.Reports

/-! An `FFIConnection` and the calls a host makes on it. The channels and tasks
that `set_connected` creates are a connection of the model below; they go on
after the state that holds their handles is gone. The calls are not concurrency
safe, so a call starts only when the one before has returned. -/

set_option autoImplicit false

namespace LibddRc.Ffi

open Foundation

/-- Whether `cfg!(debug_assertions)` holds. -/
inductive Build
  | debug
  | release
  deriving DecidableEq

/-- A `SendCb` and its user data, known by their addresses. -/
structure SendCallback where
  cb : Nat
  userData : Nat
  deriving DecidableEq

inductive ConnRet
  | success
  | invalidState
  deriving DecidableEq

inductive RecvRet
  | success
  | invalidState
  deriving DecidableEq

/-- What a call comes back with. A panic aborts the process, so what would
follow one is not modelled. -/
inductive CallResult
  | conn (ret : ConnRet)
  | recv (ret : RecvRet)
  | done
  | panicked (message : String)
  deriving DecidableEq

inductive ConnectionEvent
  | init
  | connected (endpointHostname : String)
  | disconnected
  | release
  deriving DecidableEq

inductive State
  | init
  | configured (send : SendCallback)
  | connected
  | disconnected
  deriving DecidableEq

/-- How far the call under way is: `set_connected` before it publishes its
event, `set_disconnected` while it takes the tasks down, and `set_disconnected`
after its event, when only the senders it holds are left to drop. -/
inductive CallPc
  | idle
  | publishing (endpointHostname : String)
  | disconnecting
  | returning
  deriving DecidableEq

structure FFIConnection where
  state : State
  conn : Option Conn
  call : CallPc
  freed : Bool

/-- `parse` is `ServerToClient::try_from`. -/
structure FfiEnv where
  native : Env
  appInfo : AppInfo
  build : Build
  parse : Bytes → ServerInput

/-- A step of a call: the events it publishes, and the result of a call that
returns with it. -/
structure Outcome where
  next : FFIConnection
  events : List ConnectionEvent
  result : Option CallResult

inductive FfiAct
  | sendCallback (send : SendCallback)
  | connected (endpointHostname : String)
  | recv (data : Bytes)
  | disconnected
  | report (correlationId : CorrelationId) (answer : HostAnswer)
  | free
  | resume
  | native (action : Act)

/-- The `invalid_state!` macro. -/
def FfiEnv.invalidState (env : FfiEnv) (message : String) (ret : CallResult) : CallResult :=
  match env.build with
  | .debug => .panicked message
  | .release => ret

/-- The actions of the tasks, the actor and the callbacks, and the stop token,
which the event handler cancels. -/
def byLibrary : Act → Bool
  | .actor _ | .dispatchTask | .accept | .refuse _ | .ioTask | .sendReturn _ | .cancelStop => true
  | .answer _ _ | .recv _ | .disconnect | .cancelDispatch | .joinIo | .joinDispatch => false

theorem unlinks_of_byLibrary {act : Act} (own : byLibrary act = true) : act.unlinks = false := by
  cases act <;> first | rfl | cases own

namespace FFIConnection

/-- `FFIConnection::new`, which publishes `Init`. -/
def new : FFIConnection where
  state := .init
  conn := none
  call := .idle
  freed := false

def setSendCallback (env : FfiEnv) (ffi : FFIConnection) (send : SendCallback) : Outcome :=
  match ffi.state with
  | .init | .configured _ =>
      ⟨{ ffi with state := .configured send }, [], some (.conn .success)⟩
  | .connected => ⟨ffi, [], some (env.invalidState
      "must disconnect connection before changing send callbacks" (.conn .invalidState))⟩
  | .disconnected => ⟨ffi, [], some (env.invalidState
      "connection is disconnected and cannot be reconfigured" (.conn .invalidState))⟩

/-- `set_connected` up to its event. -/
def setConnected (env : FfiEnv) (ffi : FFIConnection) (endpointHostname : String) : Outcome :=
  match ffi.state with
  | .configured _ => ⟨{ ffi with
      state := .connected
      conn := some (Conn.init env.appInfo)
      call := .publishing endpointHostname }, [], none⟩
  | .init | .connected | .disconnected => ⟨ffi, [], some (env.invalidState
      "connection not in configured state" (.conn .invalidState))⟩

def recvIncoming (env : FfiEnv) (ffi : FFIConnection) (payload : ServerInput) : Option Outcome :=
  match ffi.state with
  | .connected => ffi.conn.bind fun conn => (conn.step env.native (.recv payload)).map fun next =>
      ⟨{ ffi with conn := some next }, [], some (.recv .success)⟩
  | .init | .configured _ | .disconnected => some ⟨ffi, [], some (env.invalidState
      "invalid connection state for recv" (.recv .invalidState))⟩

def rcConnRecv (env : FfiEnv) (ffi : FFIConnection) (data : Bytes) : Option Outcome :=
  if data = [] then some ⟨ffi, [], some (.recv .success)⟩
  else ffi.recvIncoming env (env.parse data)

/-- `set_disconnected` up to its first wait. The state is replaced before it is
looked at, and put back if it was not connected. -/
def setDisconnected (env : FfiEnv) (ffi : FFIConnection) : Outcome :=
  let lastState := ffi.state
  let replaced := { ffi with state := .disconnected }
  match lastState with
  | .connected => ⟨{ replaced with call := .disconnecting }, [], none⟩
  | .init | .configured _ | .disconnected =>
      ⟨{ replaced with state := lastState }, [], some (env.invalidState
        "disconnect on connection not in connected state" (.conn .invalidState))⟩

/-- `rc_conn_dispatch_result` and `rc_conn_dispatch_error`. -/
def handleDispatchResult (env : FfiEnv) (ffi : FFIConnection) (correlationId : CorrelationId)
    (answer : HostAnswer) : Option Outcome :=
  match ffi.state with
  | .connected =>
      ffi.conn.bind fun conn => (conn.report env.native correlationId answer).map fun next =>
        ⟨{ ffi with conn := some next }, [], some .done⟩
  | .init | .configured _ | .disconnected => some ⟨ffi, [], some .done⟩

def free (env : FfiEnv) (ffi : FFIConnection) : Outcome :=
  if ffi.state = .connected then
    ⟨ffi, [], some (env.invalidState "must disconnect connection before free"
      (.conn .invalidState))⟩
  else ⟨{ ffi with freed := true }, [.release], some (.conn .success)⟩

/-- The step of `set_disconnected` that a connection is at. -/
def unlinkStep (env : FfiEnv) (ffi : FFIConnection) (conn : Conn) : Option Outcome :=
  let advance (action : Act) : Option Outcome :=
    (conn.step env.native action).map fun next => ⟨{ ffi with conn := some next }, [], none⟩
  match conn.link with
  | .connected => advance .disconnect
  | .ioCancelled => advance .cancelDispatch
  | .cancelled => advance .joinIo
  | .ioJoined =>
      if conn.dispatchTask.isExited then
        some ⟨{ ffi with call := .returning }, [.disconnected], none⟩
      else none
  | .disconnected => none

/-- The next step of the call under way. -/
def resume (env : FfiEnv) (ffi : FFIConnection) : Option Outcome :=
  match ffi.call with
  | .idle => none
  | .publishing endpointHostname =>
      some ⟨{ ffi with call := .idle }, [.connected endpointHostname], some (.conn .success)⟩
  | .disconnecting => ffi.conn.bind fun conn => ffi.unlinkStep env conn
  | .returning =>
      ffi.conn.bind fun conn => (conn.step env.native .joinDispatch).map fun next =>
        ⟨{ ffi with conn := some next, call := .idle }, [], some (.conn .success)⟩

/-- A call that a host starts. -/
def start (env : FfiEnv) (ffi : FFIConnection) : FfiAct → Option Outcome
  | .sendCallback send => some (ffi.setSendCallback env send)
  | .connected endpointHostname => some (ffi.setConnected env endpointHostname)
  | .recv data => ffi.rcConnRecv env data
  | .disconnected => some (ffi.setDisconnected env)
  | .report correlationId answer => ffi.handleDispatchResult env correlationId answer
  | .free => some (ffi.free env)
  | .resume | .native _ => none

def step (env : FfiEnv) (ffi : FFIConnection) : FfiAct → Option Outcome
  | .native action =>
      if byLibrary action then
        ffi.conn.bind fun conn => (conn.step env.native action).map fun next =>
          ⟨{ ffi with conn := some next }, [], none⟩
      else none
  | .resume => if ffi.freed then none else ffi.resume env
  | action => if ffi.freed ∨ ffi.call ≠ .idle then none else ffi.start env action

end FFIConnection

/-! ## Moves -/

def State.isConfigured : State → Bool
  | .configured _ => true
  | .init | .connected | .disconnected => false

/-- The calls that a state allows. -/
def FfiAct.validIn (state : State) : FfiAct → Bool
  | .sendCallback _ => state = .init || state.isConfigured
  | .connected _ => state.isConfigured
  | .recv data => data = [] || state = .connected
  | .disconnected => state = .connected
  | .free => state ≠ .connected
  | .report _ _ | .resume | .native _ => true

/-- What a call comes back with in a release build if the state does not allow
it. -/
def FfiAct.refusal : FfiAct → CallResult
  | .recv _ => .recv .invalidState
  | _ => .conn .invalidState

/-- Every step of an `FFIConnection`, with the guards it was made under. -/
inductive FfiMove (env : FfiEnv) (ffi : FFIConnection) : FfiAct → Outcome → Prop
  | configured {send : SendCallback} : ffi.call = .idle → ffi.freed = false →
      ffi.state = .init ∨ (∃ old, ffi.state = .configured old) →
      FfiMove env ffi (.sendCallback send)
        ⟨{ ffi with state := .configured send }, [], some (.conn .success)⟩
  | connecting {endpointHostname : String} {send : SendCallback} : ffi.call = .idle →
      ffi.freed = false → ffi.state = .configured send →
      FfiMove env ffi (.connected endpointHostname) ⟨{ ffi with
        state := .connected
        conn := some (Conn.init env.appInfo)
        call := .publishing endpointHostname }, [], none⟩
  | refused {action : FfiAct} {result : CallResult} : action.validIn ffi.state = false →
      FfiMove env ffi action ⟨ffi, [], some result⟩
  | received {data : Bytes} {conn next : Conn} : ffi.state = .connected → ffi.conn = some conn →
      conn.step env.native (.recv (env.parse data)) = some next →
      FfiMove env ffi (.recv data) ⟨{ ffi with conn := some next }, [], some (.recv .success)⟩
  | receivedNothing : FfiMove env ffi (.recv []) ⟨ffi, [], some (.recv .success)⟩
  | disconnecting : ffi.call = .idle → ffi.freed = false → ffi.state = .connected →
      FfiMove env ffi .disconnected ⟨{ ffi with
        state := .disconnected, call := .disconnecting }, [], none⟩
  | reported {correlationId : CorrelationId} {answer : HostAnswer} {conn next : Conn} :
      ffi.state = .connected → ffi.conn = some conn →
      conn.report env.native correlationId answer = some next →
      FfiMove env ffi (.report correlationId answer)
        ⟨{ ffi with conn := some next }, [], some .done⟩
  | reportDropped {correlationId : CorrelationId} {answer : HostAnswer} :
      ffi.state ≠ .connected → FfiMove env ffi (.report correlationId answer) ⟨ffi, [], some .done⟩
  | freed : ffi.call = .idle → ffi.freed = false → ffi.state ≠ .connected →
      FfiMove env ffi .free ⟨{ ffi with freed := true }, [.release], some (.conn .success)⟩
  | published {endpointHostname : String} : ffi.call = .publishing endpointHostname →
      ffi.freed = false → FfiMove env ffi .resume
        ⟨{ ffi with call := .idle }, [.connected endpointHostname], some (.conn .success)⟩
  | unlinked {action : Act} {conn next : Conn} : ffi.call = .disconnecting → ffi.freed = false →
      ffi.conn = some conn → byLibrary action = false → conn.step env.native action = some next →
      FfiMove env ffi .resume ⟨{ ffi with conn := some next }, [], none⟩
  | announced {conn : Conn} : ffi.call = .disconnecting → ffi.freed = false →
      ffi.conn = some conn → FfiMove env ffi .resume
        ⟨{ ffi with call := .returning }, [.disconnected], none⟩
  | returned {conn next : Conn} : ffi.call = .returning → ffi.freed = false →
      ffi.conn = some conn → conn.step env.native .joinDispatch = some next →
      FfiMove env ffi .resume
        ⟨{ ffi with conn := some next, call := .idle }, [], some (.conn .success)⟩
  | native {action : Act} {conn next : Conn} : byLibrary action = true → ffi.conn = some conn →
      conn.step env.native action = some next →
      FfiMove env ffi (.native action) ⟨{ ffi with conn := some next }, [], none⟩

section Steps

variable {env : FfiEnv} {ffi : FFIConnection} {outcome : Outcome}

private theorem start_move {action : FfiAct} (idle : ffi.call = .idle) (held : ffi.freed = false)
    (started : ffi.start env action = some outcome) : FfiMove env ffi action outcome := by
  cases action with
  | sendCallback send =>
      simp only [FFIConnection.start, FFIConnection.setSendCallback, Option.some.injEq] at started
      cases state : ffi.state with
      | init | configured =>
          simp only [state] at started
          subst started
          exact .configured idle held (by simp [state])
      | connected | disconnected =>
          simp only [state] at started
          subst started
          exact .refused (by simp [FfiAct.validIn, State.isConfigured, state])
  | connected endpointHostname =>
      simp only [FFIConnection.start, FFIConnection.setConnected, Option.some.injEq] at started
      cases state : ffi.state with
      | configured send =>
          simp only [state] at started
          subst started
          exact .connecting idle held state
      | init | connected | disconnected =>
          simp only [state] at started
          subst started
          exact .refused (by simp [FfiAct.validIn, State.isConfigured, state])
  | recv data =>
      simp only [FFIConnection.start, FFIConnection.rcConnRecv] at started
      split at started
      · next empty =>
        cases started
        subst empty
        exact .receivedNothing
      · next nonempty =>
        simp only [FFIConnection.recvIncoming] at started
        cases state : ffi.state with
        | connected =>
            simp only [state] at started
            obtain ⟨conn, found, started⟩ := Option.bind_eq_some_iff.mp started
            obtain ⟨next, stepped, rfl⟩ := Option.map_eq_some_iff.mp started
            rw [← state]
            exact .received state found stepped
        | init | configured | disconnected =>
            simp only [state, Option.some.injEq] at started
            subst started
            exact .refused (by simp [FfiAct.validIn, state, nonempty])
  | disconnected =>
      simp only [FFIConnection.start, FFIConnection.setDisconnected, Option.some.injEq] at started
      cases state : ffi.state with
      | connected =>
          simp only [state] at started
          subst started
          exact .disconnecting idle held state
      | init | configured | disconnected =>
          simp only [state] at started
          subst started
          rw [← state]
          exact .refused (by simp [FfiAct.validIn, state])
  | report correlationId answer =>
      simp only [FFIConnection.start, FFIConnection.handleDispatchResult] at started
      cases state : ffi.state with
      | connected =>
          simp only [state] at started
          obtain ⟨conn, found, started⟩ := Option.bind_eq_some_iff.mp started
          obtain ⟨next, stepped, rfl⟩ := Option.map_eq_some_iff.mp started
          rw [← state]
          exact .reported state found stepped
      | init | configured | disconnected =>
          simp only [state, Option.some.injEq] at started
          subst started
          exact .reportDropped (by simp [state])
  | free =>
      simp only [FFIConnection.start, FFIConnection.free, Option.some.injEq] at started
      split at started
      · next connected =>
        subst started
        exact .refused (by simp [FfiAct.validIn, connected])
      · next shut =>
        subst started
        exact .freed idle held shut
  | resume | native => cases started

private theorem resume_move (held : ffi.freed = false)
    (resumed : ffi.resume env = some outcome) : FfiMove env ffi .resume outcome := by
  unfold FFIConnection.resume at resumed
  cases call : ffi.call with
  | idle => simp [call] at resumed
  | publishing endpointHostname =>
      simp only [call, Option.some.injEq] at resumed
      subst resumed
      exact .published call held
  | returning =>
      simp only [call] at resumed
      obtain ⟨conn, found, resumed⟩ := Option.bind_eq_some_iff.mp resumed
      obtain ⟨next, stepped, rfl⟩ := Option.map_eq_some_iff.mp resumed
      exact .returned call held found stepped
  | disconnecting =>
      simp only [call] at resumed
      obtain ⟨conn, found, resumed⟩ := Option.bind_eq_some_iff.mp resumed
      simp only [FFIConnection.unlinkStep] at resumed
      cases link : conn.link with
      | connected | ioCancelled | cancelled =>
          simp only [link] at resumed
          obtain ⟨next, stepped, rfl⟩ := Option.map_eq_some_iff.mp resumed
          exact .unlinked call held found rfl stepped
      | ioJoined =>
          simp only [link, Option.ite_none_right_eq_some, Option.some.injEq] at resumed
          obtain ⟨_, rfl⟩ := resumed
          exact .announced call held found
      | disconnected => simp [link] at resumed

theorem FFIConnection.step_move {action : FfiAct} (stepped : ffi.step env action = some outcome) :
    FfiMove env ffi action outcome := by
  cases action with
  | native action =>
      obtain ⟨allowed, stepped⟩ := Option.ite_none_right_eq_some.mp stepped
      obtain ⟨conn, found, stepped⟩ := Option.bind_eq_some_iff.mp stepped
      obtain ⟨next, moved, rfl⟩ := Option.map_eq_some_iff.mp stepped
      exact .native allowed found moved
  | resume =>
      obtain ⟨held, resumed⟩ := Option.ite_none_left_eq_some.mp stepped
      exact resume_move (by simpa using held) resumed
  | sendCallback | connected | recv | disconnected | report | free =>
      obtain ⟨ready, started⟩ := Option.ite_none_left_eq_some.mp stepped
      simp only [not_or, Bool.not_eq_true, ne_eq, not_not] at ready
      exact start_move ready.2 ready.1 started

end Steps

end LibddRc.Ffi
