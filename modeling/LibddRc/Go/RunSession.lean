import LibddRc.Crypto.Identifiers
import LibddRc.Foundation.Channel
import LibddRc.Foundation.TransitionSystem

/-! `runSession` with its `readWorker`: two goroutines that share the `incoming`
channel, a context and the websocket. The connection of the FFI layer fills and
closes `Outgoing` on its own. Every call that can block is a state of its own. -/

set_option autoImplicit false

namespace LibddRc.Go

open Foundation

def incomingQueueCap : Nat := 100

/-! ## Reading a message -/

/-- What `ws.Read` returns. -/
inductive WsRead
  | failed
  | message (binary : Bool) (data : Bytes)
  deriving DecidableEq

inductive ReadError
  | read
  | nonBinaryFrame
  | emptyPayload
  deriving DecidableEq

def readMessage : WsRead → Except ReadError Bytes
  | .failed => .error .read
  | .message binary data =>
      if binary = false then .error .nonBinaryFrame
      else if data.length = 0 then .error .emptyPayload
      else .ok data

/-! ## State -/

inductive ReadWorkerPc
  | reading
  /-- In the `select` that sends on `messages` or sees the context end. -/
  | enqueueing (message : Bytes)
  /-- Out of the loop, before the deferred `close(messages)`. -/
  | closing
  /-- Before `wg.Done()`. -/
  | closed
  | exited
  deriving DecidableEq

inductive SessionResult
  | nil
  | ctxErr
  | deliverFailed
  | released
  | writeFailed
  /-- A call in the loop panicked. The deferred cleanup runs all the same. -/
  | panicked
  deriving DecidableEq

inductive RunSessionPc
  | selecting
  | delivering
  | writing
  | closing (result : SessionResult)
  | draining (result : SessionResult) (writable : Bool)
  | drainWriting (result : SessionResult)
  | closingWs (result : SessionResult)
  | cancellingRead (result : SessionResult)
  | waiting (result : SessionResult)
  | returned (result : SessionResult)
  deriving DecidableEq

/-- Calls on the connection and the websocket, and the start of the drain. -/
inductive SessionCall
  | recv (message : Bytes)
  | write (message : Bytes)
  | close
  | drain
  | closeNow
  deriving DecidableEq

/-- The last three fields only record what happened: the frames `readMessage`
returned, those that the worker gave up, and the calls of the session. -/
structure RunSession where
  ctxDone : Bool
  readCancelled : Bool
  incoming : Channel Bytes incomingQueueCap
  incomingClosed : Bool
  outgoing : List Bytes
  outgoingClosed : Bool
  wsClosed : Bool
  pc : RunSessionPc
  worker : ReadWorkerPc
  frames : List Bytes
  dropped : List Bytes
  calls : List SessionCall
  deriving DecidableEq

/-! ## Steps -/

inductive EnvAct
  | cancelCtx
  | push (message : Bytes)
  /-- The context closes the connection under the session. -/
  | release
  deriving DecidableEq

inductive RecvOutcome
  | delivered
  | rejected
  | connectionClosed
  | connectionNotConnected
  | panicked
  deriving DecidableEq

inductive WriteOutcome
  | written
  | failed
  | panicked
  deriving DecidableEq

inductive MainAct
  | seeDone
  | takeIncoming
  | recvReturns (outcome : RecvOutcome)
  | takeOutgoing
  | writeReturns (outcome : WriteOutcome)
  | close
  | drainNext
  | drainWriteReturns (ok : Bool)
  | closeNow
  | cancelRead
  | wait
  deriving DecidableEq

inductive ReadWorkerAct
  | read (result : WsRead)
  | enqueue
  | seeDone
  | closeMessages
  | done
  deriving DecidableEq

inductive RunSessionAct
  | env (action : EnvAct)
  | main (action : MainAct)
  | worker (action : ReadWorkerAct)
  deriving DecidableEq

namespace RunSession

def init : RunSession where
  ctxDone := false
  readCancelled := false
  incoming := .empty
  incomingClosed := false
  outgoing := []
  outgoingClosed := false
  wsClosed := false
  pc := .selecting
  worker := .reading
  frames := []
  dropped := []
  calls := []

/-- `readCtx` ends with the session's context or by `cancelRead`. -/
def readDone (session : RunSession) : Bool := session.ctxDone || session.readCancelled

def received (session : RunSession) : List Bytes :=
  session.calls.filterMap fun
    | .recv message => some message
    | _ => none

def envStep (session : RunSession) : EnvAct → Option RunSession
  | .cancelCtx => some { session with ctxDone := true }
  | .push message =>
      if session.outgoingClosed then none
      else some { session with outgoing := session.outgoing ++ [message] }
  | .release => some { session with outgoingClosed := true }

/-- The `incoming` case of the `select`. -/
def takeIncoming (session : RunSession) : Option RunSession :=
  match session.incoming.pop? with
  | some (message, incoming) => some { session with
      incoming, pc := .delivering, calls := session.calls ++ [.recv message] }
  | none => if session.incomingClosed then some { session with pc := .closing .nil } else none

/-- The `Outgoing` case of the `select`. -/
def takeOutgoing (session : RunSession) : Option RunSession :=
  match session.outgoing with
  | message :: outgoing => some { session with
      outgoing, pc := .writing, calls := session.calls ++ [.write message] }
  | [] => if session.outgoingClosed then some { session with pc := .closing .released } else none

/-- One turn of `for msg := range outgoing`. -/
def drainNext (session : RunSession) (result : SessionResult) (writable : Bool) :
    Option RunSession :=
  match session.outgoing with
  | message :: outgoing =>
      if writable then some { session with
        outgoing, pc := .drainWriting result, calls := session.calls ++ [.write message] }
      else some { session with outgoing }
  | [] => if session.outgoingClosed then some { session with pc := .closingWs result } else none

def afterRecv : RecvOutcome → RunSessionPc
  | .delivered | .rejected => .selecting
  | .connectionClosed | .connectionNotConnected => .closing .deliverFailed
  | .panicked => .closing .panicked

def afterWrite : WriteOutcome → RunSessionPc
  | .written => .selecting
  | .failed => .closing .writeFailed
  | .panicked => .closing .panicked

/-- `conn.Close()` closes `Outgoing`, whoever else has closed the connection
before. -/
def mainStep (session : RunSession) (action : MainAct) : Option RunSession :=
  match session.pc, action with
  | .selecting, .seeDone =>
      if session.ctxDone then some { session with pc := .closing .ctxErr } else none
  | .selecting, .takeIncoming => session.takeIncoming
  | .selecting, .takeOutgoing => session.takeOutgoing
  | .delivering, .recvReturns outcome => some { session with pc := afterRecv outcome }
  | .writing, .writeReturns outcome => some { session with pc := afterWrite outcome }
  | .closing result, .close => some { session with
      pc := .draining result true, outgoingClosed := true
      calls := session.calls ++ [.close, .drain] }
  | .draining result writable, .drainNext => session.drainNext result writable
  | .drainWriting result, .drainWriteReturns ok => some { session with pc := .draining result ok }
  | .closingWs result, .closeNow => some { session with
      pc := .cancellingRead result, wsClosed := true, calls := session.calls ++ [.closeNow] }
  | .cancellingRead result, .cancelRead => some { session with
      pc := .waiting result, readCancelled := true }
  | .waiting result, .wait =>
      if session.worker = .exited then some { session with pc := .returned result } else none
  | _, _ => none

def workerStep (session : RunSession) (action : ReadWorkerAct) : Option RunSession :=
  match session.worker, action with
  | .reading, .read result =>
      match readMessage result with
      | .ok frame => some { session with
          worker := .enqueueing frame, frames := session.frames ++ [frame] }
      | .error _ => some { session with worker := .closing }
  | .enqueueing frame, .enqueue =>
      (session.incoming.push? frame).map fun incoming =>
        { session with incoming, worker := .reading }
  | .enqueueing frame, .seeDone =>
      if session.readDone then
        some { session with worker := .closing, dropped := session.dropped ++ [frame] }
      else none
  | .closing, .closeMessages => some { session with worker := .closed, incomingClosed := true }
  | .closed, .done => some { session with worker := .exited }
  | _, _ => none

def step (session : RunSession) : RunSessionAct → Option RunSession
  | .env action => session.envStep action
  | .main action => session.mainStep action
  | .worker action => session.workerStep action

def system : System RunSession RunSessionAct where
  initial session := session = init
  step := step

/-- Steps that come about without anyone else's doing. A read does not return by
itself, but it fails once the websocket was closed or its context has ended. -/
def Due (session : RunSession) : RunSessionAct → Prop
  | .env _ => False
  | .main _ => True
  | .worker (.read result) =>
      result = .failed ∧ (session.wsClosed = true ∨ session.readDone = true)
  | .worker _ => True

/-! ## Moves -/

end RunSession

/-- In the loop, or in a call that the loop makes. -/
def RunSessionPc.inLoop : RunSessionPc → Bool
  | .selecting | .delivering | .writing => true
  | _ => false

namespace RunSession

inductive EnvMove (session : RunSession) : RunSession → Prop
  | cancelCtx : EnvMove session { session with ctxDone := true }
  | push {message : Bytes} (opened : session.outgoingClosed = false) :
      EnvMove session { session with outgoing := session.outgoing ++ [message] }
  | release : EnvMove session { session with outgoingClosed := true }

inductive MainMove (session : RunSession) : RunSession → Prop
  | recv {message : Bytes} {incoming : Channel Bytes incomingQueueCap}
      (loop : session.pc.inLoop = true)
      (held : session.incoming.items = message :: incoming.items) :
      MainMove session { session with
        incoming, pc := .delivering, calls := session.calls ++ [.recv message] }
  | write {message : Bytes} {outgoing : List Bytes} (loop : session.pc.inLoop = true) :
      MainMove session { session with
        outgoing, pc := .writing, calls := session.calls ++ [.write message] }
  | again (loop : session.pc.inLoop = true) : MainMove session { session with pc := .selecting }
  | leave {result : SessionResult} (loop : session.pc.inLoop = true)
      (read : result = .nil → session.incomingClosed = true ∧ session.incoming.items = []) :
      MainMove session { session with pc := .closing result }
  | close {result : SessionResult} (closing : session.pc = .closing result) :
      MainMove session { session with
        pc := .draining result true, outgoingClosed := true
        calls := session.calls ++ [.close, .drain] }
  | drainWrite {result : SessionResult} {writable : Bool} {message : Bytes} {outgoing : List Bytes}
      (draining : session.pc = .draining result writable)
      (held : session.outgoing = message :: outgoing) :
      MainMove session { session with
        outgoing, pc := .drainWriting result, calls := session.calls ++ [.write message] }
  | drainDrop {result : SessionResult} {writable : Bool} {message : Bytes} {outgoing : List Bytes}
      (draining : session.pc = .draining result writable)
      (held : session.outgoing = message :: outgoing) :
      MainMove session { session with outgoing }
  | drainWrote {result : SessionResult} {ok : Bool}
      (writing : session.pc = .drainWriting result) :
      MainMove session { session with pc := .draining result ok }
  | drained {result : SessionResult} {writable : Bool}
      (draining : session.pc = .draining result writable) :
      MainMove session { session with pc := .closingWs result }
  | closeNow {result : SessionResult} (closing : session.pc = .closingWs result) :
      MainMove session { session with
        pc := .cancellingRead result, wsClosed := true, calls := session.calls ++ [.closeNow] }
  | cancelRead {result : SessionResult} (cancelling : session.pc = .cancellingRead result) :
      MainMove session { session with pc := .waiting result, readCancelled := true }
  | wait {result : SessionResult} (waiting : session.pc = .waiting result)
      (exited : session.worker = .exited) :
      MainMove session { session with pc := .returned result }

inductive WorkerMove (session : RunSession) : RunSession → Prop
  | read {frame : Bytes} (reading : session.worker = .reading) :
      WorkerMove session { session with
        worker := .enqueueing frame, frames := session.frames ++ [frame] }
  | readFails (reading : session.worker = .reading) :
      WorkerMove session { session with worker := .closing }
  | enqueue {frame : Bytes} {incoming : Channel Bytes incomingQueueCap}
      (enqueueing : session.worker = .enqueueing frame)
      (held : incoming.items = session.incoming.items ++ [frame]) :
      WorkerMove session { session with incoming, worker := .reading }
  | drop {frame : Bytes} (enqueueing : session.worker = .enqueueing frame)
      (done : session.readDone = true) :
      WorkerMove session { session with
        worker := .closing, dropped := session.dropped ++ [frame] }
  | closeMessages (closing : session.worker = .closing) :
      WorkerMove session { session with worker := .closed, incomingClosed := true }
  | done (closed : session.worker = .closed) :
      WorkerMove session { session with worker := .exited }

inductive Move (session next : RunSession) : Prop
  | env (move : session.EnvMove next)
  | main (move : session.MainMove next)
  | worker (move : session.WorkerMove next)

variable {session next : RunSession}

theorem envStep_moves {action : EnvAct} (stepped : session.envStep action = some next) :
    session.EnvMove next := by
  cases action with
  | cancelCtx =>
      cases stepped
      exact .cancelCtx
  | push message =>
      obtain ⟨opened, same⟩ := Option.ite_none_left_eq_some.mp stepped
      cases same
      exact .push (by simpa using opened)
  | release =>
      cases stepped
      exact .release

theorem takeIncoming_moves (loop : session.pc.inLoop = true)
    (taken : session.takeIncoming = some next) : session.MainMove next := by
  unfold takeIncoming at taken
  split at taken
  · next message incoming popped =>
      cases taken
      exact .recv loop (Channel.pop?_eq_some popped)
  · next popped =>
      obtain ⟨closed, same⟩ := Option.ite_none_right_eq_some.mp taken
      cases same
      exact .leave loop fun _ => ⟨closed, Channel.pop?_eq_none popped⟩

theorem takeOutgoing_moves (loop : session.pc.inLoop = true)
    (taken : session.takeOutgoing = some next) : session.MainMove next := by
  unfold takeOutgoing at taken
  split at taken
  · cases taken
    exact .write loop
  · obtain ⟨_, same⟩ := Option.ite_none_right_eq_some.mp taken
    cases same
    exact .leave loop (by simp)

theorem afterRecv_moves (loop : session.pc.inLoop = true) (outcome : RecvOutcome) :
    session.MainMove { session with pc := afterRecv outcome } := by
  cases outcome with
  | delivered | rejected => exact .again loop
  | connectionClosed | connectionNotConnected | panicked => exact .leave loop (by simp)

theorem afterWrite_moves (loop : session.pc.inLoop = true) (outcome : WriteOutcome) :
    session.MainMove { session with pc := afterWrite outcome } := by
  cases outcome with
  | written => exact .again loop
  | failed | panicked => exact .leave loop (by simp)

theorem drainNext_moves {result : SessionResult} {writable : Bool}
    (draining : session.pc = .draining result writable)
    (taken : session.drainNext result writable = some next) : session.MainMove next := by
  unfold drainNext at taken
  split at taken
  · next message outgoing held =>
      split at taken
      · cases taken
        exact .drainWrite draining held
      · cases taken
        exact .drainDrop draining held
  · obtain ⟨_, same⟩ := Option.ite_none_right_eq_some.mp taken
    cases same
    exact .drained draining

theorem mainStep_moves {action : MainAct} (stepped : session.mainStep action = some next) :
    session.MainMove next := by
  unfold mainStep at stepped
  split at stepped
  · next selecting =>
      obtain ⟨_, same⟩ := Option.ite_none_right_eq_some.mp stepped
      cases same
      exact .leave (by rw [selecting]; rfl) (by simp)
  · next selecting => exact takeIncoming_moves (by rw [selecting]; rfl) stepped
  · next selecting => exact takeOutgoing_moves (by rw [selecting]; rfl) stepped
  · next delivering =>
      cases stepped
      exact afterRecv_moves (by rw [delivering]; rfl) _
  · next writing =>
      cases stepped
      exact afterWrite_moves (by rw [writing]; rfl) _
  · next closing =>
      cases stepped
      exact .close closing
  · next draining => exact drainNext_moves draining stepped
  · next writing =>
      cases stepped
      exact .drainWrote writing
  · next closing =>
      cases stepped
      exact .closeNow closing
  · next cancelling =>
      cases stepped
      exact .cancelRead cancelling
  · next waiting =>
      obtain ⟨exited, same⟩ := Option.ite_none_right_eq_some.mp stepped
      cases same
      exact .wait waiting exited
  · cases stepped

theorem workerStep_moves {action : ReadWorkerAct}
    (stepped : session.workerStep action = some next) : session.WorkerMove next := by
  unfold workerStep at stepped
  split at stepped
  · next reading =>
      split at stepped
      · cases stepped
        exact .read reading
      · cases stepped
        exact .readFails reading
  · next enqueueing =>
      obtain ⟨incoming, pushed, same⟩ := Option.map_eq_some_iff.mp stepped
      cases same
      exact .enqueue enqueueing (Channel.push?_eq_some pushed).2
  · next enqueueing =>
      obtain ⟨done, same⟩ := Option.ite_none_right_eq_some.mp stepped
      cases same
      exact .drop enqueueing done
  · next closing =>
      cases stepped
      exact .closeMessages closing
  · next closed =>
      cases stepped
      exact .done closed
  · cases stepped

theorem step_moves {act : RunSessionAct} (stepped : system.step session act = some next) :
    session.Move next := by
  cases act with
  | env action => exact .env (envStep_moves stepped)
  | main action => exact .main (mainStep_moves stepped)
  | worker action => exact .worker (workerStep_moves stepped)

end RunSession

end LibddRc.Go
