import LibddRc.Go.ContextOrder
import LibddRc.Go.SessionRefinement

/-! The host of one connection is a connection of a context: every run of the host is
answered by a run of the package's calls, in which one goroutine is the session's and
another one closes the context. -/

set_option autoImplicit false

namespace LibddRc.Go

open Foundation

/-! ## Calls of one goroutine -/

section Calls

variable {env : HostEnv} {id : Nat} {ctx : X509Context} {conn : Connection}

/-- A `Close` call that finds the connection open. -/
private theorem mark_alone {caller : CloseCaller} (found : ctx.connections 0 = some conn)
    (free : conn.mu = none) (connected : conn.lifecycle = ⟨false, true⟩) :
    (libddrcffi env).alone id [.ok, .ok] (ctx, .closing 0 .locking caller) =
      some (ctx.setConn 0 { conn with mu := some id, lifecycle := ⟨true, true⟩ },
        .closing 0 (.shuttingDown true) caller) := by
  simp [Program.alone, libddrcffi, X509Context.step, X509Context.closeStep, X509Context.lockConn,
    X509Context.withConn, found, free, X509Context.setConn, ConnLifecycle.markClosed, connected]

private theorem close_alone (found : ctx.connections 0 = some conn) (handed : 0 ∈ ctx.handed)
    (free : conn.mu = none) (connected : conn.lifecycle = ⟨false, true⟩) :
    (libddrcffi env).alone id ([.close 0] ++ [.ok, .ok]) (ctx, .idle) =
      some (ctx.setConn 0 { conn with mu := some id, lifecycle := ⟨true, true⟩ },
        .closing 0 (.shuttingDown true) .user) := by
  have started : (libddrcffi env).alone id [.close 0] (ctx, .idle) =
      some (ctx, .closing 0 .locking .user) := by
    simp [Program.alone, libddrcffi, X509Context.step, X509Context.start, handed]
  rw [Program.alone_append started, mark_alone found free connected]

private theorem contextClose_alone (found : ctx.connections 0 = some conn)
    (unlocked : ctx.mu = none) (unclosed : ctx.closed = false) (conns : ctx.conns = [0])
    (free : conn.mu = none) (connected : conn.lifecycle = ⟨false, true⟩) :
    (libddrcffi env).alone id ([.contextClose, .ok, .ok, .range [0], .ok, .ok] ++ [.ok, .ok])
        (ctx, .idle) =
      some (({ ctx with closed := true, closer := some id } : X509Context).setConn 0
        { conn with mu := some id, lifecycle := ⟨true, true⟩ },
        .closing 0 (.shuttingDown true) (.context [])) := by
  have started : (libddrcffi env).alone id [.contextClose, .ok, .ok, .range [0], .ok, .ok]
      (ctx, .idle) = some ({ ctx with closed := true, closer := some id },
        .closing 0 .locking (.context [])) := by
    obtain ⟨⟩ := ctx
    cases unlocked
    cases unclosed
    cases conns
    rfl
  rw [Program.alone_append started]
  exact mark_alone found free connected

end Calls

/-! ## The relation -/

/-- The job that a native call is about. -/
def NativeCall.dispatched? : NativeCall → Option UInt64
  | .dispatch correlationID _ => some correlationID
  | _ => none

/-- No goroutine is inside the package. -/
def allIdle : Nat → ContextPc := fun _ => .idle

/-- A goroutine is inside `Close` of connection 0, for itself or for the context. -/
def Connection.ClosedIn (conn : Connection) (points : Nat → ContextPc) (pc : CloseCallPc) : Prop :=
  ∃ id caller, conn.mu = some id ∧ conn.lifecycle = ⟨true, true⟩ ∧
    (caller = .user ∨ caller = .context []) ∧
      points = Function.update allIdle id (.closing 0 pc caller)

/-- How far the `Close` call that does the work is. -/
def ClosePc.In (conn : Connection) (state : Threads X509Context ContextPc) : ClosePc → Prop
  | .open_ => conn.mu = none ∧ conn.lifecycle = ⟨false, true⟩ ∧ state.shared.closed = false ∧
      state.shared.conns = [0] ∧ state.points = allIdle
  | .shuttingDown => conn.ClosedIn state.points (.shuttingDown true)
  | .disconnecting => conn.ClosedIn state.points (.disconnecting true)
  | .closed => conn.mu = none ∧ conn.lifecycle.closed = true ∧ state.points = allIdle

/-- The session's own `Close` call has returned. -/
def SessionPc.pastClose : SessionPc → Bool
  | .draining | .drainWriting _ | .finished => true
  | .selecting | .delivering _ | .writing _ | .closing => false

/-- The host's connection as connection 0 of a context. `frame` gives the bytes that
the library reads an input from. -/
structure Host.InContext (frame : ServerInput → Bytes) (host : Host)
    (state : Threads X509Context ContextPc) (conn : Connection) : Prop where
  found : state.shared.connections 0 = some conn
  started : conn.started = true
  handed : 0 ∈ state.shared.handed
  unlocked : state.shared.mu = none
  pool : conn.pool = host.pool
  received : ∀ data, .recv data ∈ conn.native → ∃ input, data = frame input
  answered : conn.native.filterMap NativeCall.dispatched? =
    host.answered.map DispatchJob.correlationID
  close : host.close.In conn state
  returned : host.session.pastClose = true → ∃ err, .close 0 err ∈ state.shared.results

section Simulation

variable {env : HostEnv} {frame : ServerInput → Bytes} {host next : Host}
  {state : Threads X509Context ContextPc} {conn : Connection}

private theorem allIdle_update (id : Nat) : Function.update allIdle id .idle = allIdle :=
  Function.update_eq_self id allIdle

/-- A run of the package answers what the host did. -/
def Host.AnsweredBy (env : HostEnv) (frame : ServerInput → Bytes) (next : Host)
    (state : Threads X509Context ContextPc) : Prop :=
  ∃ actions later, (libddrcffi env).threads.run state actions = some later ∧
    ∃ conn, next.InContext frame later conn

private theorem Host.InContext.stutters (tracked : next.InContext frame state conn) :
    next.AnsweredBy env frame state :=
  ⟨[], state, rfl, conn, tracked⟩

/-- A goroutine makes a call or goes on with one. -/
private theorem Host.AnsweredBy.alone {id : Nat} {choices : List ContextChoice}
    {point after : ContextPc} {ctx : X509Context} (at_ : state.points id = point)
    (ran : (libddrcffi env).alone id choices (state.shared, point) = some (ctx, after))
    (tracked : ∃ conn, next.InContext frame ⟨ctx, Function.update state.points id after⟩ conn) :
    next.AnsweredBy env frame state := by
  subst at_
  exact ⟨_, _, Program.run_alone ran, tracked⟩

private theorem recv_not_mem_dispatches (env : HostEnv) (conn : Connection) (action : PoolAct)
    (data : Bytes) : .recv data ∉ conn.dispatches env action := by
  unfold Connection.dispatches
  split
  · simp
  · simp

/-- A step of the pool that is not a part of `shutdown`. -/
private theorem Host.InContext.pools {pool : Pool} {action : PoolAct}
    (tracked : host.InContext frame state conn) (other : action ≠ .shutdown)
    (stepped : host.pool.step action = some pool) (same : next.close = host.close)
    (session : next.session = host.session) (after : next.pool = pool)
    (answered : next.answered.map DispatchJob.correlationID =
      host.answered.map DispatchJob.correlationID ++
        (conn.dispatches env action).filterMap NativeCall.dispatched?) :
    next.AnsweredBy env frame state := by
  let changed : Connection :=
    { conn with pool, native := conn.native ++ conn.dispatches env action }
  refine ⟨[.environment (.pool 0 action)], ⟨state.shared.setConn 0 changed, state.points⟩, ?_,
    changed, setConn_self, tracked.started, tracked.handed, tracked.unlocked, after.symm,
    ?_, ?_, ?_, ?_⟩
  · refine System.run_single _ ?_
    simp only [Program.threads, libddrcffi, X509Context.poolStep, if_neg other, tracked.found,
      Option.bind_some, if_pos tracked.started, tracked.pool, stepped, Option.map_some]
    rfl
  · intro data member
    rcases List.mem_append.mp member with before | reported
    · exact tracked.received data before
    · exact absurd reported (recv_not_mem_dispatches env conn action data)
  · rw [List.filterMap_append, tracked.answered, answered]
  · have close := tracked.close
    rw [← same] at close
    cases at_ : next.close <;> rw [at_] at close <;> exact close
  · rw [session]
    exact tracked.returned

/-- `Close` finds the connection open, called by the session or for the context. -/
private theorem Host.InContext.closes (tracked : host.InContext frame state conn)
    (hostAction : HostAct) (open_ : host.close = .open_) :
    ({ host with close := .shuttingDown } : Host).AnsweredBy env frame state := by
  have close := tracked.close
  rw [open_] at close
  obtain ⟨free, connected, unclosed, conns, idle⟩ := close
  have at_ (id : Nat) : state.points id = .idle := congrFun idle id
  by_cases context : hostAction = .contextClose
  · refine .alone (at_ 1) (contextClose_alone tracked.found tracked.unlocked unclosed conns free
      connected) ⟨{ conn with mu := some 1, lifecycle := ⟨true, true⟩ }, ?_⟩
    exact { tracked with
      found := setConn_self
      close := ⟨1, _, rfl, rfl, .inr rfl, congrArg (Function.update · 1 _) idle⟩ }
  · refine .alone (at_ 0) (close_alone tracked.found tracked.handed free connected)
      ⟨{ conn with mu := some 0, lifecycle := ⟨true, true⟩ }, ?_⟩
    exact { tracked with
      found := setConn_self
      close := ⟨0, _, rfl, rfl, .inl rfl, congrArg (Function.update · 0 _) idle⟩ }

/-- `Recv` and `Close` on a connection that another call has closed. -/
private theorem Host.InContext.refused {choices : List ContextChoice} {result : ApiResult}
    (tracked : host.InContext frame state conn) (shut : host.close = .closed)
    (ran : ∀ {conn}, state.shared.connections 0 = some conn → conn.mu = none →
      conn.lifecycle.closed = true → (libddrcffi env).alone 0 choices (state.shared, .idle) =
        some ((state.shared.returns result).setConn 0 { conn with mu := none }, .idle))
    (same : next.close = host.close) (pool : next.pool = host.pool)
    (answered : next.answered = host.answered)
    (returned : next.session.pastClose = true →
      ∃ err, .close 0 err ∈ state.shared.results ++ [result]) :
    next.AnsweredBy env frame state := by
  have close := tracked.close
  rw [shut] at close
  obtain ⟨free, closed, idle⟩ := close
  refine .alone (congrFun idle 0) (ran tracked.found free closed) ⟨{ conn with mu := none }, ?_⟩
  have after : Function.update state.points 0 .idle = allIdle := by rw [idle, allIdle_update]
  exact {
    found := setConn_self
    started := tracked.started
    handed := tracked.handed
    unlocked := tracked.unlocked
    pool := tracked.pool.trans pool.symm
    received := tracked.received
    answered := by rw [answered]; exact tracked.answered
    close := by
      rw [same, shut]
      exact ⟨rfl, closed, after⟩
    returned }

/-- A session move that the package takes no part in. -/
private theorem Host.InContext.keeps (tracked : host.InContext frame state conn)
    (pool : next.pool = host.pool) (answered : next.answered = host.answered)
    (close : next.close = host.close)
    (session : next.session.pastClose = true → host.session.pastClose = true) :
    next.AnsweredBy env frame state :=
  Host.InContext.stutters {
    found := tracked.found
    started := tracked.started
    handed := tracked.handed
    unlocked := tracked.unlocked
    pool := tracked.pool.trans pool.symm
    received := tracked.received
    answered := answered ▸ tracked.answered
    close := close ▸ tracked.close
    returned := fun past => tracked.returned (session past) }

/-- A step of the pool that reports nothing. -/
private theorem Host.InContext.silent {pool : Pool} {action : PoolAct}
    (tracked : host.InContext frame state conn) (stepped : host.pool.step action = some pool)
    (silent : action ≠ .shutdown ∧ host.pool.sinking? action = none)
    (same : next.close = host.close) (session : next.session = host.session)
    (after : next.pool = pool)
    (answered : next.answered = host.answered) : next.AnsweredBy env frame state := by
  refine tracked.pools silent.1 stepped same session after ?_
  simp [answered, Connection.dispatches, tracked.pool, silent.2]

end Simulation

end LibddRc.Go
