import LibddRc.Go.ConnectionCalls

/-! What a goroutine does to a context and to one connection of it, one
constructor for each statement. -/

set_option autoImplicit false

namespace LibddRc.Go

open Foundation

/-- The moves that only touch one connection. All but the locks and the one of
`NewConnection` are made by the holder of the connection's mutex. -/
inductive ConnMove (id index : Nat) (conn : Connection) :
    ContextPc → Connection → ContextPc → Prop
  | configured :
      ConnMove id index conn (.newSendCallback index) (conn.call .sendCallback)
        (.newRegistering index)
  | connectedLocked {endpointHostname : String} : conn.mu = none →
      ConnMove id index conn (.connectedLocking index endpointHostname)
        { conn with mu := some id } (.connectedMarking index endpointHostname)
  | connectedRefused {endpointHostname : String} {err : LifecycleError} :
      conn.lifecycle.markConnected = .error err →
      ConnMove id index conn (.connectedMarking index endpointHostname) conn
        (.connUnlocking index (.connected index (some (.lifecycle err))))
  | connectedMarked {endpointHostname : String} : conn.lifecycle = .init →
      ConnMove id index conn (.connectedMarking index endpointHostname)
        { conn with lifecycle := ⟨false, true⟩ } (.connectedCalling index endpointHostname)
  | connected {endpointHostname : String} {success : Bool} :
      ConnMove id index conn (.connectedCalling index endpointHostname)
        (conn.call (.connected endpointHostname success)) (.connUnlocking index (.connected index
          (if success then none else some (.returned "rc_conn_connected"))))
  | recvLocked {data : Bytes} : conn.mu = none →
      ConnMove id index conn (.recvLocking index data) { conn with mu := some id }
        (.recvChecking index data)
  | recvRefused {data : Bytes} {err : LifecycleError} :
      conn.lifecycle.checkRecvable = .error err →
      ConnMove id index conn (.recvChecking index data) conn
        (.connUnlocking index (.recv index (some (.lifecycle err))))
  | recvAllowed {data : Bytes} : conn.lifecycle = ⟨false, true⟩ →
      ConnMove id index conn (.recvChecking index data) conn (.recvCalling index data)
  | received {data : Bytes} {success : Bool} :
      ConnMove id index conn (.recvCalling index data) (conn.call (.recv data))
        (.connUnlocking index (.recv index
          (if success then none else some (.returned "rc_conn_recv"))))
  | closeLocked {caller : CloseCaller} : conn.mu = none →
      ConnMove id index conn (.closing index .locking caller) { conn with mu := some id }
        (.closing index .marking caller)
  | closeRefused {caller : CloseCaller} : conn.lifecycle.closed = true →
      ConnMove id index conn (.closing index .marking caller) conn
        (.closing index (.refusing .connectionClosed) caller)
  | closeMarked {caller : CloseCaller} {wasConnected : Bool} :
      conn.lifecycle = ⟨false, wasConnected⟩ →
      ConnMove id index conn (.closing index .marking caller)
        { conn with lifecycle := ⟨true, wasConnected⟩ }
        (.closing index (.shuttingDown wasConnected) caller)
  | shutdownStepped {caller : CloseCaller} {wasConnected : Bool} {pool : Pool} :
      conn.pool.step .shutdown = some pool →
      ConnMove id index conn (.closing index (.shuttingDown wasConnected) caller)
        { conn with pool } (.closing index (.shuttingDown wasConnected) caller)
  | shutdownReturned {caller : CloseCaller} {wasConnected : Bool} :
      conn.pool.shutdown = .returned →
      ConnMove id index conn (.closing index (.shuttingDown wasConnected) caller) conn
        (.closing index (.disconnecting wasConnected) caller)
  | disconnected {caller : CloseCaller} :
      ConnMove id index conn (.closing index (.disconnecting true) caller)
        (conn.call .disconnected) (.closing index .freeing caller)
  | neverConnected {caller : CloseCaller} :
      ConnMove id index conn (.closing index (.disconnecting false) caller) conn
        (.closing index .freeing caller)
  | freed {caller : CloseCaller} :
      ConnMove id index conn (.closing index .freeing caller) (conn.call .free)
        (.closing index .unlocking caller)
  | unlocked {caller : CloseCaller} :
      ConnMove id index conn (.closing index .unlocking caller) { conn with mu := none }
        (.closing index .forgetLocking caller)

inductive ContextMove (id : Nat) (ctx : X509Context) :
    ContextPc → X509Context → ContextPc → Prop
  | newCalled : ContextMove id ctx .idle ctx .newLocking
  | contextCloseCalled : ContextMove id ctx .idle ctx .contextLocking
  | rejected {index : Nat} {call : ConnectionCall} {err : ApiError} : index ∈ ctx.handed →
      (∀ conn : SerialConnection, conn.call call = (conn, some err)) →
      ContextMove id ctx .idle (ctx.returns (call.result index (some err))) .idle
  | connectedCalled {index : Nat} {endpointHostname : String} : index ∈ ctx.handed →
      acceptsHostname endpointHostname = true →
      ContextMove id ctx .idle ctx (.connectedLocking index endpointHostname)
  | recvCalled {index : Nat} {data : Bytes} : index ∈ ctx.handed → data ≠ [] →
      ContextMove id ctx .idle ctx (.recvLocking index data)
  | closeCalled {index : Nat} : index ∈ ctx.handed →
      ContextMove id ctx .idle ctx (.closing index .locking .user)
  | conn {index : Nat} {conn next : Connection} {point after : ContextPc} :
      ctx.connections index = some conn → ConnMove id index conn point next after →
      ContextMove id ctx point (ctx.setConn index next) after
  | newLocked : ctx.mu = none →
      ContextMove id ctx .newLocking { ctx with mu := some id } .newChecking
  | newClosed {err : ApiError} : ContextMove id ctx .newChecking ctx (.newRefusing err)
  | newOpen : ctx.closed = false → ContextMove id ctx .newChecking ctx .newCreating
  | newFailed {err : ApiError} : ContextMove id ctx .newCreating ctx (.newRefusing err)
  | created : ContextMove id ctx .newCreating
      { ctx.setConn ctx.count .new with count := ctx.count + 1 } (.newSendCallback ctx.count)
  | registered {index : Nat} {conn : Connection} : ctx.connections index = some conn →
      ContextMove id ctx (.newRegistering index)
        { ctx.setConn index { conn with started := true } with conns := ctx.conns ++ [index] }
        (.newUnlocking index)
  | newReturned {index : Nat} : ContextMove id ctx (.newUnlocking index)
      (({ ctx with mu := none, handed := ctx.handed ++ [index] } : X509Context).returns
        (.newConnection none)) .idle
  | newRefused {err : ApiError} : ContextMove id ctx (.newRefusing err)
      (({ ctx with mu := none } : X509Context).returns (.newConnection (some err))) .idle
  | connUnlocked {index : Nat} {conn : Connection} {result : ApiResult} :
      ctx.connections index = some conn → ContextMove id ctx (.connUnlocking index result)
        ((ctx.setConn index { conn with mu := none }).returns result) .idle
  | closeRefusedUser {index : Nat} {conn : Connection} {err : LifecycleError} :
      ctx.connections index = some conn →
      ContextMove id ctx (.closing index (.refusing err) .user)
        ((ctx.setConn index { conn with mu := none }).returns
          (.close index (some (.lifecycle err)))) .idle
  | closeRefusedContext {index : Nat} {conn : Connection} {err : LifecycleError}
      {rest : List Nat} : ctx.connections index = some conn →
      ContextMove id ctx (.closing index (.refusing err) (.context rest))
        (ctx.setConn index { conn with mu := none }) (.contextClosing rest)
  | closeFailed {index : Nat} {conn : Connection} {err : LifecycleError} {rest : List Nat}
      {error : ApiError} : ctx.connections index = some conn →
      ContextMove id ctx (.closing index (.refusing err) (.context rest))
        ((ctx.setConn index { conn with mu := none }).returns (.contextClose (some error))) .idle
  | forgetLocked {index : Nat} {caller : CloseCaller} : ctx.mu = none →
      ContextMove id ctx (.closing index .forgetLocking caller) { ctx with mu := some id }
        (.closing index .forgetting caller)
  | forgotten {index : Nat} {caller : CloseCaller} :
      ContextMove id ctx (.closing index .forgetting caller)
        { ctx with conns := ctx.conns.filter (· ≠ index) } (.closing index .forgetUnlocking caller)
  | closeReturnedUser {index : Nat} : ContextMove id ctx (.closing index .forgetUnlocking .user)
      (({ ctx with mu := none } : X509Context).returns (.close index none)) .idle
  | closeReturnedContext {index : Nat} {rest : List Nat} :
      ContextMove id ctx (.closing index .forgetUnlocking (.context rest)) { ctx with mu := none }
        (.contextClosing rest)
  | contextLocked : ctx.mu = none →
      ContextMove id ctx .contextLocking { ctx with mu := some id } .contextChecking
  | contextAgain : ContextMove id ctx .contextChecking ctx .contextRefusing
  | contextFirst : ctx.closed = false → ContextMove id ctx .contextChecking
      { ctx with closed := true, closer := some id } .contextSnapshotting
  | contextRefused : ContextMove id ctx .contextRefusing
      (({ ctx with mu := none } : X509Context).returns (.contextClose (some .contextClosed))) .idle
  | snapshot {order : List Nat} : order.Perm ctx.conns →
      ContextMove id ctx .contextSnapshotting ctx (.contextUnlocking order)
  | contextUnlocked {order : List Nat} : ContextMove id ctx (.contextUnlocking order)
      { ctx with mu := none } (.contextClosing order)
  | allClosed : ContextMove id ctx (.contextClosing []) ctx .contextFreeLocking
  | nextClosed {index : Nat} {rest : List Nat} : ContextMove id ctx
      (.contextClosing (index :: rest)) ctx (.closing index .locking (.context rest))
  | freeLocked : ctx.mu = none →
      ContextMove id ctx .contextFreeLocking { ctx with mu := some id } .contextFreeing
  | rcFreed : ContextMove id ctx .contextFreeing { ctx with rcFrees := ctx.rcFrees + 1 }
      .contextFreeUnlocking
  | contextReturned : ContextMove id ctx .contextFreeUnlocking
      (({ ctx with mu := none } : X509Context).returns (.contextClose none)) .idle

/-- The function of the package that a goroutine is in. `Connected` and `Recv`
share their last step. -/
inductive ContextFunction
  | none
  | newConnection
  | connectedOrRecv
  | close
  | contextClose

def ContextPc.function : ContextPc → ContextFunction
  | .idle => .none
  | .newLocking | .newChecking | .newCreating | .newSendCallback _ | .newRegistering _
  | .newUnlocking _ | .newRefusing _ => .newConnection
  | .connectedLocking _ _ | .connectedMarking _ _ | .connectedCalling _ _ | .recvLocking _ _
  | .recvChecking _ _ | .recvCalling _ _ | .connUnlocking _ _ => .connectedOrRecv
  | .closing _ _ _ => .close
  | .contextLocking | .contextChecking | .contextRefusing | .contextSnapshotting
  | .contextUnlocking _ | .contextClosing _ | .contextFreeLocking | .contextFreeing
  | .contextFreeUnlocking => .contextClose

section Moves

variable {id index : Nat} {ctx after : X509Context} {point next : ContextPc}

private theorem withConn_move {step : Connection → Option (Connection × ContextPc)}
    (move : ∀ conn changed point', step conn = some (changed, point') →
      ConnMove id index conn point changed point')
    (stepped : ctx.withConn index step = some (after, next)) :
    ContextMove id ctx point after next := by
  obtain ⟨conn, found, stepped⟩ := Option.bind_eq_some_iff.mp stepped
  obtain ⟨⟨changed, point'⟩, moved, same⟩ := Option.map_eq_some_iff.mp stepped
  cases same
  exact .conn found (move _ _ _ moved)

private theorem lockConn_move {inside : ContextPc}
    (move : ∀ conn : Connection, conn.mu = none →
      ConnMove id index conn point { conn with mu := some id } inside)
    (stepped : ctx.lockConn id index inside = some (after, next)) :
    ContextMove id ctx point after next := by
  refine withConn_move ?_ stepped
  intro conn changed point' moved
  obtain ⟨free, same⟩ := Option.ite_none_right_eq_some.mp moved
  cases same
  exact move conn free

private theorem start_move {choice : ContextChoice}
    (stepped : ctx.start choice = some (after, next)) : ContextMove id ctx .idle after next := by
  cases choice with
  | newConnection =>
      cases stepped
      exact .newCalled
  | contextClose =>
      cases stepped
      exact .contextCloseCalled
  | connected conn endpointHostname =>
      obtain ⟨handed, stepped⟩ := Option.ite_none_right_eq_some.mp stepped
      split at stepped
      · next empty =>
        cases stepped
        subst empty
        exact .rejected handed fun conn => conn.call_unnamed true
      · next named =>
        split at stepped
        · next long =>
          cases stepped
          exact .rejected handed fun conn => conn.call_overlong named long true
        · next short =>
          cases stepped
          exact .connectedCalled handed (by simpa [acceptsHostname, named] using short)
  | recv conn data =>
      obtain ⟨handed, stepped⟩ := Option.ite_none_right_eq_some.mp stepped
      split at stepped
      · next empty =>
        cases stepped
        subst empty
        exact .rejected handed fun conn => conn.call_emptyPayload true
      · next filled =>
        cases stepped
        exact .recvCalled handed filled
  | close conn =>
      obtain ⟨handed, same⟩ := Option.ite_none_right_eq_some.mp stepped
      cases same
      exact .closeCalled handed
  | ok | err | range => cases stepped

private theorem closeCall_move {caller : CloseCaller} {pc : CloseCallPc}
    (stepped : ctx.closeStep id index caller pc = some (after, next)) :
    ContextMove id ctx (.closing index pc caller) after next := by
  cases pc with
  | locking => exact lockConn_move (fun _ free => .closeLocked free) stepped
  | marking =>
      refine withConn_move ?_ stepped
      intro conn changed point' moved
      split at moved
      · next err refused =>
        obtain ⟨closed, rfl⟩ := ConnLifecycle.markClosed_error refused
        cases moved
        exact .closeRefused closed
      · next wasConnected lifecycle marked =>
        obtain ⟨unclosed, rfl⟩ := ConnLifecycle.markClosed_ok marked
        cases moved
        exact .closeMarked unclosed
  | shuttingDown wasConnected =>
      refine withConn_move ?_ stepped
      intro conn changed point' moved
      split at moved
      · next returned =>
        cases moved
        exact .shutdownReturned returned
      · obtain ⟨pool, shut, same⟩ := Option.map_eq_some_iff.mp moved
        cases same
        exact .shutdownStepped shut
  | disconnecting wasConnected =>
      refine withConn_move ?_ stepped
      intro conn changed point' moved
      cases wasConnected with
      | true =>
          cases moved
          exact .disconnected
      | false =>
          cases moved
          exact .neverConnected
  | freeing =>
      refine withConn_move ?_ stepped
      rintro conn changed point' ⟨⟩
      exact .freed
  | unlocking =>
      refine withConn_move ?_ stepped
      rintro conn changed point' ⟨⟩
      exact .unlocked
  | refusing err =>
      obtain ⟨conn, found, same⟩ := Option.map_eq_some_iff.mp stepped
      cases caller with
      | user =>
          cases same
          exact .closeRefusedUser found
      | context rest =>
          simp only [X509Context.closeFailed] at same
          split at same
          · cases same
            exact .closeRefusedContext found
          · cases same
            exact .closeFailed found
  | forgetLocking =>
      obtain ⟨free, same⟩ := Option.ite_none_right_eq_some.mp stepped
      cases same
      exact .forgetLocked free
  | forgetting =>
      cases stepped
      exact .forgotten
  | forgetUnlocking =>
      cases caller with
      | user =>
          cases stepped
          exact .closeReturnedUser
      | context rest =>
          cases stepped
          exact .closeReturnedContext

private theorem newConnection_move {choice : ContextChoice}
    (inside : point.function = .newConnection)
    (stepped : ctx.step id point choice = some (after, next)) :
    ContextMove id ctx point after next := by
  cases point with
  | newLocking =>
      obtain ⟨free, same⟩ := Option.ite_none_right_eq_some.mp stepped
      cases same
      exact .newLocked free
  | newChecking =>
      cases closed : ctx.closed with
      | true =>
          simp only [X509Context.step, closed] at stepped
          cases stepped
          exact .newClosed
      | false =>
          simp only [X509Context.step, closed] at stepped
          cases stepped
          exact .newOpen closed
  | newCreating =>
      simp only [X509Context.step] at stepped
      split at stepped
      · cases stepped
        exact .newFailed
      · cases stepped
        exact .created
  | newSendCallback conn =>
      refine withConn_move ?_ stepped
      rintro conn changed point' ⟨⟩
      exact .configured
  | newRegistering conn =>
      obtain ⟨conn, found, same⟩ := Option.map_eq_some_iff.mp stepped
      cases same
      exact .registered found
  | newUnlocking conn =>
      cases stepped
      exact .newReturned
  | newRefusing err =>
      cases stepped
      exact .newRefused
  | idle | connectedLocking | connectedMarking | connectedCalling | recvLocking | recvChecking
  | recvCalling | connUnlocking | closing | contextLocking | contextChecking | contextRefusing
  | contextSnapshotting | contextUnlocking | contextClosing | contextFreeLocking
  | contextFreeing | contextFreeUnlocking => cases inside

private theorem connectedOrRecv_move {choice : ContextChoice}
    (inside : point.function = .connectedOrRecv)
    (stepped : ctx.step id point choice = some (after, next)) :
    ContextMove id ctx point after next := by
  cases point with
  | connectedLocking conn endpointHostname =>
      exact lockConn_move (fun _ free => .connectedLocked free) stepped
  | connectedMarking conn endpointHostname =>
      refine withConn_move ?_ stepped
      intro conn changed point' moved
      split at moved
      · next refused =>
        cases moved
        exact .connectedRefused refused
      · next lifecycle marked =>
        obtain ⟨fresh, rfl⟩ := ConnLifecycle.markConnected_ok marked
        cases moved
        exact .connectedMarked fresh
  | connectedCalling conn endpointHostname =>
      refine withConn_move ?_ stepped
      rintro conn changed point' ⟨⟩
      by_cases failed : choice = .err <;> simpa [failed] using .connected
  | recvLocking conn data => exact lockConn_move (fun _ free => .recvLocked free) stepped
  | recvChecking conn data =>
      refine withConn_move ?_ stepped
      intro conn changed point' moved
      split at moved
      · next refused =>
        cases moved
        exact .recvRefused refused
      · next allowed =>
        cases moved
        exact .recvAllowed (ConnLifecycle.checkRecvable_ok allowed)
  | recvCalling conn data =>
      refine withConn_move ?_ stepped
      rintro conn changed point' ⟨⟩
      by_cases failed : choice = .err
      · rw [if_pos failed]
        exact @ConnMove.received _ _ _ _ false
      · rw [if_neg failed]
        exact @ConnMove.received _ _ _ _ true
  | connUnlocking conn result =>
      obtain ⟨conn, found, same⟩ := Option.map_eq_some_iff.mp stepped
      cases same
      exact .connUnlocked found
  | idle | newLocking | newChecking | newCreating | newSendCallback | newRegistering
  | newUnlocking | newRefusing | closing | contextLocking | contextChecking | contextRefusing
  | contextSnapshotting | contextUnlocking | contextClosing | contextFreeLocking
  | contextFreeing | contextFreeUnlocking => cases inside

private theorem contextClose_move {choice : ContextChoice}
    (inside : point.function = .contextClose)
    (stepped : ctx.step id point choice = some (after, next)) :
    ContextMove id ctx point after next := by
  cases point with
  | contextLocking =>
      obtain ⟨free, same⟩ := Option.ite_none_right_eq_some.mp stepped
      cases same
      exact .contextLocked free
  | contextChecking =>
      simp only [X509Context.step] at stepped
      split at stepped
      · cases stepped
        exact .contextAgain
      · next unclosed =>
        cases stepped
        exact .contextFirst (by simpa using unclosed)
  | contextRefusing =>
      cases stepped
      exact .contextRefused
  | contextSnapshotting =>
      simp only [X509Context.step] at stepped
      split at stepped
      · obtain ⟨permuted, same⟩ := Option.ite_none_right_eq_some.mp stepped
        cases same
        exact .snapshot (List.isPerm_iff.mp permuted)
      · cases stepped
  | contextUnlocking conns =>
      cases stepped
      exact .contextUnlocked
  | contextClosing rest =>
      cases rest with
      | nil =>
          cases stepped
          exact .allClosed
      | cons index rest =>
          cases stepped
          exact .nextClosed
  | contextFreeLocking =>
      obtain ⟨free, same⟩ := Option.ite_none_right_eq_some.mp stepped
      cases same
      exact .freeLocked free
  | contextFreeing =>
      cases stepped
      exact .rcFreed
  | contextFreeUnlocking =>
      cases stepped
      exact .contextReturned
  | idle | newLocking | newChecking | newCreating | newSendCallback | newRegistering
  | newUnlocking | newRefusing | connectedLocking | connectedMarking | connectedCalling
  | recvLocking | recvChecking | recvCalling | connUnlocking | closing => cases inside

theorem X509Context.step_move {choice : ContextChoice}
    (stepped : ctx.step id point choice = some (after, next)) :
    ContextMove id ctx point after next := by
  cases inside : point.function with
  | newConnection => exact newConnection_move inside stepped
  | connectedOrRecv => exact connectedOrRecv_move inside stepped
  | contextClose => exact contextClose_move inside stepped
  | none =>
      cases point with
      | idle => exact start_move stepped
      | _ => cases inside
  | close =>
      cases point with
      | closing index pc caller => exact closeCall_move stepped
      | _ => cases inside

end Moves

end LibddRc.Go
