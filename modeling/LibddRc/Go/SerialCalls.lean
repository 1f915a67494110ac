import LibddRc.Go.ContextOrder

/-! `Connected`, `Recv` and `Close` on a connection take effect one after the
other, however many goroutines call them: the lifecycle of a connection, its native
calls and what the calls return are those of a serial connection on which the calls
were made in the order in which they gave the mutex back. -/

set_option autoImplicit false

namespace LibddRc.Go

open Foundation

/-- A connection without its mutex, its pool and what the pool reports. -/
def Connection.serial (conn : Connection) : SerialConnection :=
  ⟨conn.lifecycle, lifecycleCalls conn.native⟩

/-! ## Recorded results -/

/-- The connection that a result is about. -/
def ApiResult.conn? : ApiResult → Option Nat
  | .connected conn _ | .recv conn _ | .close conn _ => some conn
  | .newConnection _ | .contextClose _ => none

/-- A result of `Connected` or `Recv` on a connection. -/
def ApiResult.ofCall (index : Nat) : ApiResult → Bool
  | .connected conn _ | .recv conn _ => conn = index
  | .newConnection _ | .close _ _ | .contextClose _ => false

/-- What was returned for a connection is what the serial calls return. A `Close`
that a context makes is not recorded, and one that a user makes is only when it has
also taken the connection off the context's list. -/
structure Recorded (index : Nat) (results : List ApiResult) (calls : List ConnectionCall) :
    Prop where
  ordered : results.filter (ApiResult.ofCall index) =
    (SerialConnection.new.results index calls).filter (ApiResult.ofCall index)
  closes : ∀ err, .close index err ∈ results → .close index err ∈
    SerialConnection.new.results index calls

section Recorded

variable {index : Nat} {results : List ApiResult} {calls : List ConnectionCall}

theorem ConnectionCall.result_conn (call : ConnectionCall) (index : Nat)
    (err : Option ApiError) : (call.result index err).conn? = some index := by
  cases call <;> rfl

private theorem ofCall_other {result : ApiResult} (other : result.conn? ≠ some index) :
    result.ofCall index = false := by
  cases result <;> simp_all [ApiResult.ofCall, ApiResult.conn?]

/-- Something else was returned. -/
private theorem Recorded.returns {result : ApiResult} (recorded : Recorded index results calls)
    (other : result.conn? ≠ some index) : Recorded index (results ++ [result]) calls := by
  refine ⟨?_, ?_⟩
  · simpa [ofCall_other other] using recorded.ordered
  · intro err member
    rcases List.mem_append.mp member with before | single
    · exact recorded.closes err before
    · cases List.mem_singleton.mp single
      exact absurd rfl other

/-- A call took effect and returned. -/
private theorem Recorded.call (recorded : Recorded index results calls) (call : ConnectionCall)
    {err : Option ApiError} (gives : ((SerialConnection.new.calls calls).call call).2 = err) :
    Recorded index (results ++ [call.result index err]) (calls ++ [call]) := by
  refine ⟨?_, ?_⟩
  · rw [SerialConnection.results_append, gives, List.filter_append, List.filter_append,
      recorded.ordered]
  · intro other member
    rw [SerialConnection.results_append, gives]
    rcases List.mem_append.mp member with before | single
    · exact List.mem_append_left _ (recorded.closes other before)
    · exact List.mem_append_right _ single

/-- A `Close` took effect, and nothing was returned yet. -/
private theorem Recorded.close (recorded : Recorded index results calls) :
    Recorded index results (calls ++ [.close]) := by
  refine ⟨?_, ?_⟩
  · rw [SerialConnection.results_append, List.filter_append, ← recorded.ordered]
    simp [ConnectionCall.result, ApiResult.ofCall]
  · intro err member
    rw [SerialConnection.results_append]
    exact List.mem_append_left _ (recorded.closes err member)

/-- A `Close` that took effect before returns. -/
private theorem Recorded.closed (recorded : Recorded index results calls)
    (closed : .close index none ∈ SerialConnection.new.results index calls) :
    Recorded index (results ++ [.close index none]) calls := by
  refine ⟨?_, ?_⟩
  · simpa [ApiResult.ofCall] using recorded.ordered
  · intro err member
    rcases List.mem_append.mp member with before | single
    · exact recorded.closes err before
    · cases List.mem_singleton.mp single
      exact closed

end Recorded

/-! ## Inside a connection -/

/-- How far the holder of a connection's mutex is: `serial` is what the connection
was when the mutex was taken, and the next argument what it is now. -/
inductive Midway (index : Nat) (serial : SerialConnection) :
    SerialConnection → ContextPc → Prop
  | connectedMarking {endpointHostname : String} :
      Midway index serial serial (.connectedMarking index endpointHostname)
  | connectedCalling {endpointHostname : String} (fresh : serial.lifecycle = .init) :
      Midway index serial ⟨⟨false, true⟩, serial.native⟩ (.connectedCalling index endpointHostname)
  | recvChecking {data : Bytes} : Midway index serial serial (.recvChecking index data)
  | recvCalling {data : Bytes} (connected : serial.lifecycle = ⟨false, true⟩) :
      Midway index serial serial (.recvCalling index data)
  | unlocking {call : ConnectionCall} {now : SerialConnection} {err : Option ApiError}
      (effect : serial.call call = (now, err)) :
      Midway index serial now (.connUnlocking index (call.result index err))
  | marking {caller : CloseCaller} : Midway index serial serial (.closing index .marking caller)
  | shuttingDown {caller : CloseCaller} {wasConnected : Bool}
      (unclosed : serial.lifecycle = ⟨false, wasConnected⟩) :
      Midway index serial ⟨⟨true, wasConnected⟩, serial.native⟩
        (.closing index (.shuttingDown wasConnected) caller)
  | disconnecting {caller : CloseCaller} {wasConnected : Bool}
      (unclosed : serial.lifecycle = ⟨false, wasConnected⟩) :
      Midway index serial ⟨⟨true, wasConnected⟩, serial.native⟩
        (.closing index (.disconnecting wasConnected) caller)
  | freeing {caller : CloseCaller} {wasConnected : Bool}
      (unclosed : serial.lifecycle = ⟨false, wasConnected⟩) :
      Midway index serial
        ⟨⟨true, wasConnected⟩, serial.native ++ if wasConnected then [.disconnected] else []⟩
        (.closing index .freeing caller)
  | freed {caller : CloseCaller} {now : SerialConnection}
      (effect : serial.call .close = (now, none)) :
      Midway index serial now (.closing index .unlocking caller)
  | refusing {caller : CloseCaller} {err : LifecycleError}
      (effect : serial.call .close = (serial, some (.lifecycle err))) :
      Midway index serial serial (.closing index (.refusing err) caller)

/-- A `Close` that has freed the connection and takes it off the context's list. -/
def ContextPc.forgets (index : Nat) : ContextPc → Bool
  | .closing conn .forgetLocking _ | .closing conn .forgetting _
  | .closing conn .forgetUnlocking _ => conn = index
  | _ => false

/-- The calls on a connection that have taken effect. -/
structure Serialized (index : Nat) (results : List ApiResult) (points : Nat → ContextPc)
    (conn : Connection) (calls : List ConnectionCall) : Prop where
  free : conn.mu = none → conn.serial = SerialConnection.new.calls calls
  inside : ∀ id, conn.mu = some id →
    Midway index (SerialConnection.new.calls calls) conn.serial (points id)
  recorded : Recorded index results calls
  forgets : ∀ id, (points id).forgets index = true →
    .close index none ∈ SerialConnection.new.results index calls

section Serialized

variable {index id : Nat} {results after : List ApiResult} {points : Nat → ContextPc}
  {conn changed : Connection} {calls : List ConnectionCall} {next : ContextPc}

private theorem Midway.not_forgets {serial now : SerialConnection} {point : ContextPc}
    (midway : Midway index serial now point) : point.forgets index = false := by
  cases midway <;> rfl

/-- A change outside the calls. -/
private theorem Serialized.alike (serialized : Serialized index results points conn calls)
    (mu : changed.mu = conn.mu) (serial : changed.serial = conn.serial) :
    Serialized index results points changed calls := by
  obtain ⟨free, inside, recorded, forgets⟩ := serialized
  rw [← mu, ← serial] at free
  rw [← mu, ← serial] at inside
  exact ⟨free, inside, recorded, forgets⟩

/-- A step elsewhere. -/
private theorem Serialized.elsewhere (serialized : Serialized index results points conn calls)
    (outside : ∀ serial now, ¬ Midway index serial now (points id))
    (recorded : Recorded index after calls)
    (forgets : next.forgets index = true → (points id).forgets index = true) :
    Serialized index after (Function.update points id next) conn calls := by
  refine ⟨serialized.free, ?_, recorded, ?_⟩
  · intro holder mu
    have midway := serialized.inside holder mu
    by_cases same : holder = id
    · subst same
      exact absurd midway (outside _ _)
    · rwa [Function.update_of_ne same]
  · intro other forgetting
    by_cases same : other = id
    · subst same
      rw [Function.update_self] at forgetting
      exact serialized.forgets other (forgets forgetting)
    · rw [Function.update_of_ne same] at forgetting
      exact serialized.forgets other forgetting

/-- The holder of the mutex moves on. -/
private theorem Serialized.moves (serialized : Serialized index results points conn calls)
    (mu : changed.mu = some id)
    (midway : Midway index (SerialConnection.new.calls calls) changed.serial next) :
    Serialized index results (Function.update points id next) changed calls := by
  refine ⟨?_, ?_, serialized.recorded, ?_⟩
  · intro free
    simp [mu] at free
  · intro holder held
    rw [mu] at held
    cases held
    rwa [Function.update_self]
  · intro other forgetting
    by_cases same : other = id
    · subst same
      rw [Function.update_self, midway.not_forgets] at forgetting
      cases forgetting
    · rw [Function.update_of_ne same] at forgetting
      exact serialized.forgets other forgetting

/-- The holder of the mutex gives it back, and its call has taken effect. -/
private theorem Serialized.leaves (serialized : Serialized index results points conn calls)
    {call : ConnectionCall} {err : Option ApiError}
    (effect : (SerialConnection.new.calls calls).call call = (conn.serial, err))
    (recorded : Recorded index after (calls ++ [call]))
    (forgets : next.forgets index = true → .close index none = call.result index err) :
    Serialized index after (Function.update points id next) { conn with mu := none }
      (calls ++ [call]) := by
  refine ⟨?_, ?_, recorded, ?_⟩
  · intro _
    rw [SerialConnection.calls_append, effect]
    rfl
  · intro holder held
    cases held
  · intro other forgetting
    rw [SerialConnection.results_append]
    by_cases same : other = id
    · subst same
      rw [Function.update_self] at forgetting
      rw [effect]
      exact List.mem_append_right _ (List.mem_singleton.mpr (forgets forgetting))
    · rw [Function.update_of_ne same] at forgetting
      exact List.mem_append_left _ (serialized.forgets other forgetting)

/-- What the call of a goroutine that returns at the unlock has come to. -/
private theorem Serialized.returning (serialized : Serialized index results points conn calls)
    (mu : conn.mu = some id) {result : ApiResult} (at_ : points id = .connUnlocking index result) :
    ∃ call err, (SerialConnection.new.calls calls).call call = (conn.serial, err) ∧
      result = call.result index err := by
  have midway := serialized.inside id mu
  rw [at_] at midway
  generalize conn.serial = now at midway
  cases midway with
  | unlocking effect => exact ⟨_, _, effect, rfl⟩

private theorem Serialized.refusing (serialized : Serialized index results points conn calls)
    (mu : conn.mu = some id) {err : LifecycleError} {caller : CloseCaller}
    (at_ : points id = .closing index (.refusing err) caller) :
    (SerialConnection.new.calls calls).call .close = (conn.serial, some (.lifecycle err)) := by
  have midway := serialized.inside id mu
  rw [at_] at midway
  generalize conn.serial = now at midway
  cases midway with
  | refusing effect => exact effect

/-- A call that has no effect returns, whoever holds the mutex. -/
private theorem Serialized.rejects (serialized : Serialized index results points conn calls)
    {call : ConnectionCall} {err : ApiError} (idle : points id = .idle)
    (rejects : ∀ conn : SerialConnection, conn.call call = (conn, some err)) :
    Serialized index (results ++ [call.result index (some err)])
      (Function.update points id .idle) conn (calls ++ [call]) := by
  have same : SerialConnection.new.calls (calls ++ [call]) = SerialConnection.new.calls calls := by
    rw [SerialConnection.calls_append, rejects]
  have kept : Function.update points id .idle = points := by
    rw [← idle, Function.update_eq_self]
  rw [kept]
  refine ⟨?_, ?_, serialized.recorded.call call (by rw [rejects]), ?_⟩
  · rw [same]
    exact serialized.free
  · rw [same]
    exact serialized.inside
  · intro other forgetting
    rw [SerialConnection.results_append]
    exact List.mem_append_left _ (serialized.forgets other forgetting)

end Serialized

/-- The arguments of a call that has passed the checks before the lock, and the
connection of its result. -/
def ContextPc.Accepted : ContextPc → Prop
  | .connectedLocking _ endpointHostname | .connectedMarking _ endpointHostname
  | .connectedCalling _ endpointHostname => acceptsHostname endpointHostname = true
  | .recvLocking _ data | .recvChecking _ data | .recvCalling _ data => data ≠ []
  | .connUnlocking conn result => result.conn? = some conn
  | _ => True

section Moves

variable {id index : Nat} {ctx changedCtx : X509Context} {points : Nat → ContextPc}
  {conn changed : Connection} {calls : List ConnectionCall} {results : List ApiResult}
  {point next : ContextPc}

theorem ContextMove.accepted (move : ContextMove id ctx point changedCtx next)
    (accepted : point.Accepted) : next.Accepted := by
  cases move with
  | connectedCalled _ named => exact named
  | recvCalled _ filled => exact filled
  | conn _ moved => cases moved <;> first | exact accepted | trivial
  | _ => trivial

private theorem serial_call {call : NativeCall} (kept : call.isDispatch = false) :
    (conn.call call).serial = ⟨conn.lifecycle, conn.serial.native ++ [call]⟩ := by
  simp [Connection.serial, Connection.call, lifecycleCalls_append, kept]

private theorem serial_lifecycle (lifecycle : ConnLifecycle) :
    ({ conn with lifecycle } : Connection).serial = ⟨lifecycle, conn.serial.native⟩ := rfl

/-- What a pool reports is not among the calls. -/
private theorem serial_dispatches {env : HostEnv} {action : PoolAct} (conn : Connection)
    (pool : Pool) :
    ({ conn with pool, native := conn.native ++ conn.dispatches env action } : Connection).serial =
      conn.serial := by
  simp only [Connection.serial, Connection.dispatches]
  cases conn.pool.sinking? action with
  | none => simp
  | some sinking => cases env.answerTo sinking.2 <;> simp [lifecycleCalls, NativeCall.isDispatch]

private theorem serial_pool (pool : Pool) :
    ({ conn with pool } : Connection).serial = conn.serial := rfl

/-- The holder of the mutex goes on with its call, or gives the mutex back after a
`Close`. -/
private theorem ConnMove.midway {serial now : SerialConnection}
    (move : ConnMove id index conn point changed next) (accepted : point.Accepted)
    (at_ : conn.serial = now) (midway : Midway index serial now point) :
    (changed.mu = conn.mu ∧ Midway index serial changed.serial next) ∨
      (changed = { conn with mu := none } ∧ serial.call .close = (conn.serial, none)) := by
  have lifecycle : conn.lifecycle = now.lifecycle := congrArg SerialConnection.lifecycle at_
  cases midway with
  | connectedMarking =>
      left
      cases move with
      | connectedRefused refused =>
          rw [at_]
          exact ⟨rfl, .unlocking
            (SerialConnection.connected_refuses accepted (lifecycle ▸ refused) true)⟩
      | connectedMarked fresh =>
          rw [serial_lifecycle, at_]
          exact ⟨rfl, .connectedCalling (lifecycle ▸ fresh)⟩
  | connectedCalling fresh =>
      left
      cases move with
      | @connected _ success =>
          rw [serial_call rfl, at_, lifecycle]
          exact ⟨rfl, .unlocking (SerialConnection.connected_reaches accepted fresh success)⟩
  | recvChecking =>
      left
      subst at_
      cases move with
      | recvRefused refused =>
          exact ⟨rfl, .unlocking (SerialConnection.recv_refuses accepted refused true)⟩
      | recvAllowed connected => exact ⟨rfl, .recvCalling connected⟩
  | recvCalling connected =>
      left
      cases move with
      | @received data success =>
          rw [serial_call rfl, at_, lifecycle, connected]
          exact ⟨rfl, .unlocking (SerialConnection.recv_reaches accepted connected success)⟩
  | marking =>
      left
      subst at_
      cases move with
      | closeRefused closed => exact ⟨rfl, .refusing (SerialConnection.close_refuses closed)⟩
      | closeMarked unclosed =>
          rw [serial_lifecycle]
          exact ⟨rfl, .shuttingDown unclosed⟩
  | shuttingDown unclosed =>
      left
      cases move with
      | shutdownStepped =>
          rw [serial_pool, at_]
          exact ⟨rfl, .shuttingDown unclosed⟩
      | shutdownReturned =>
          rw [at_]
          exact ⟨rfl, .disconnecting unclosed⟩
  | disconnecting unclosed =>
      left
      cases move with
      | disconnected =>
          rw [serial_call rfl, at_, lifecycle]
          exact ⟨rfl, .freeing unclosed⟩
      | neverConnected =>
          rw [at_, ← List.append_nil (SerialConnection.native _)]
          exact ⟨rfl, .freeing unclosed⟩
  | freeing unclosed =>
      left
      cases move with
      | freed =>
          rw [serial_call rfl, at_, lifecycle]
          exact ⟨rfl, .freed (SerialConnection.close_frees unclosed)⟩
  | freed effect =>
      cases move with
      | unlocked => exact .inr ⟨rfl, at_ ▸ effect⟩
  | unlocking => cases move
  | refusing => cases move

/-- A move inside a connection. -/
private theorem ConnMove.serialized (move : ConnMove id index conn (points id) changed next)
    (found : ctx.connections index = some conn) (started : conn.started = true)
    (knows : ctx.Knows id (points id)) (accepted : (points id).Accepted)
    (serialized : Serialized index results points conn calls) :
    ∃ calls, Serialized index results (Function.update points id next) changed calls := by
  have locked (free : conn.mu = none) :
      ({ conn with mu := some id } : Connection).serial = SerialConnection.new.calls calls :=
    serialized.free free
  have held (mu : conn.mu = some id) :
      ∃ calls, Serialized index results (Function.update points id next) changed calls := by
    rcases move.midway accepted rfl (serialized.inside id mu) with ⟨same, midway⟩ | ⟨rfl, effect⟩
    · exact ⟨calls, serialized.moves (same.trans mu) midway⟩
    · exact ⟨calls ++ [.close], serialized.leaves effect serialized.recorded.close fun _ => rfl⟩
  obtain ⟨_, known⟩ := knows
  generalize points id = point at move known
  cases move with
  | configured =>
      obtain ⟨unstarted, _⟩ := known.1.of found
      simp [started] at unstarted
  | connectedLocked free =>
      refine ⟨calls, serialized.moves rfl ?_⟩
      rw [locked free]
      exact .connectedMarking
  | recvLocked free =>
      refine ⟨calls, serialized.moves rfl ?_⟩
      rw [locked free]
      exact .recvChecking
  | closeLocked free =>
      refine ⟨calls, serialized.moves rfl ?_⟩
      rw [locked free]
      exact .marking
  | connectedRefused | connectedMarked | connected | recvRefused | recvAllowed | received =>
      exact held (known.of found).2.1
  | closeRefused | closeMarked | shutdownStepped | shutdownReturned | disconnected
  | neverConnected | freed | unlocked => exact held (known.2.of found).2.1

/-- A goroutine is inside the connection that it moves. -/
private theorem ConnMove.inside {other : Nat} {serial now : SerialConnection}
    (move : ConnMove id other conn point changed next) (midway : Midway index serial now point) :
    index = other := by
  cases move <;> cases midway <;> rfl

private theorem ConnMove.forgets {other : Nat} (move : ConnMove id other conn point changed next)
    (forgets : next.forgets index = true) : index = other := by
  cases move <;> simp_all [ContextPc.forgets]

/-- The calls on one connection of a context. -/
def X509Context.Serializes (ctx : X509Context) (points : Nat → ContextPc) (index : Nat) : Prop :=
  ∀ conn, ctx.connections index = some conn → conn.started = true →
    ∃ calls, Serialized index ctx.results points conn calls

/-- A step that touches neither the connection nor its results. -/
private theorem X509Context.Serializes.frame (serializes : ctx.Serializes points index)
    {after : List ApiResult}
    (records : ∀ calls, Recorded index ctx.results calls → Recorded index after calls)
    (outside : ∀ serial now, ¬ Midway index serial now (points id))
    (forgets : next.forgets index = true → (points id).forgets index = true)
    (conn : Connection) (found : ctx.connections index = some conn)
    (started : conn.started = true) :
    ∃ calls, Serialized index after (Function.update points id next) conn calls := by
  obtain ⟨calls, serialized⟩ := serializes conn found started
  exact ⟨calls, serialized.elsewhere outside (records calls serialized.recorded) forgets⟩

private theorem X509Context.Knows.freed (knows : ctx.Knows id point)
    (forgets : point.forgets index = true) : ctx.Freed index := by
  obtain ⟨_, known⟩ := knows
  unfold ContextPc.forgets at forgets
  split at forgets
  · cases of_decide_eq_true forgets
    exact known.2
  · cases of_decide_eq_true forgets
    exact known.2.2
  · cases of_decide_eq_true forgets
    exact known.2.2
  · cases forgets

/-- `NewConnection` starts a connection on which no call was made. -/
private theorem registered_serialized (found : ctx.connections index = some conn)
    (at_ : points id = .newRegistering index) (knows : ∀ id, ctx.Knows id (points id))
    (consistent : ctx.Consistent)
    (returned : ∀ result ∈ ctx.results, result.conn? = some index → ctx.Started index) :
    Serialized index ctx.results (Function.update points id (.newUnlocking index))
      { conn with started := true } [] := by
  obtain ⟨unstarted, phase⟩ := (at_ ▸ (knows id).at_).1.of found
  obtain ⟨_, lifecycle, mu⟩ := (consistent.sound index conn found).unstarted unstarted
  have none : ∀ result ∈ ctx.results, result.conn? ≠ some index := by
    intro result member about
    have started := (returned result member about).of found
    simp [unstarted] at started
  refine ⟨?_, ?_, ⟨?_, ?_⟩, ?_⟩
  · intro _
    exact congrArg₂ SerialConnection.mk lifecycle (reads_of_phase phase)
  · intro holder held
    simp [mu] at held
  · exact List.filter_eq_nil_iff.mpr fun result member =>
      ofCall_other (none result member) ▸ Bool.false_ne_true
  · intro err member
    exact absurd rfl (none _ member)
  · intro other forgetting
    by_cases same : other = id
    · rw [same, Function.update_self] at forgetting
      cases forgetting
    · rw [Function.update_of_ne same] at forgetting
      have freed := ((knows other).freed forgetting).of found
      simp [phase] at freed

/-- A `Close` that found the connection closed gives the mutex back. -/
private theorem refused_serializes {other : Nat} {err : LifecycleError} {caller : CloseCaller}
    {after : List ApiResult} (serializes : ctx.Serializes points index)
    (at_ : points id = .closing other (.refusing err) caller)
    (found : ctx.connections other = some conn) (knows : ctx.Knows id (points id))
    (elsewhere : index ≠ other → ∀ calls, Recorded index ctx.results calls →
      Recorded index after calls)
    (here : ∀ calls, ((SerialConnection.new.calls calls).call .close).2 = some (.lifecycle err) →
      Recorded other ctx.results calls → Recorded other after (calls ++ [.close]))
    (remembers : next.forgets index = false) (peer : Connection)
    (lookup : (ctx.setConn other { conn with mu := none }).connections index = some peer)
    (started : peer.started = true) :
    ∃ calls, Serialized index after (Function.update points id next) peer calls := by
  rcases lookup_conn lookup with ⟨rfl, rfl⟩ | ⟨apart, lookup⟩
  · obtain ⟨before, mu, _⟩ := (at_ ▸ knows.at_).2.of found
    obtain ⟨calls, serialized⟩ := serializes conn found before
    have effect := serialized.refusing mu at_
    refine ⟨calls ++ [.close], serialized.leaves effect
      (here calls (by rw [effect]) serialized.recorded) ?_⟩
    simp [remembers]
  · refine serializes.frame (elsewhere apart) ?_ (by simp [remembers]) peer lookup started
    intro serial now midway
    rw [at_] at midway
    cases midway
    exact apart rfl

private theorem ContextMove.serializes (move : ContextMove id ctx (points id) changedCtx next)
    (knows : ∀ id, ctx.Knows id (points id)) (accepted : (points id).Accepted)
    (consistent : ctx.Consistent)
    (returned : ∀ result ∈ ctx.results, result.conn? = some index → ctx.Started index)
    (serializes : ctx.Serializes points index) :
    changedCtx.Serializes (Function.update points id next) index := by
  have frame := @X509Context.Serializes.frame id index ctx points next serializes
  generalize at_ : points id = point at move frame accepted
  cases move with
  | newCalled | contextCloseCalled | connectedCalled | recvCalled | closeCalled | newLocked
  | newClosed | newOpen | newFailed | closeReturnedContext | contextLocked | contextAgain
  | contextFirst | snapshot | contextUnlocked | allClosed | nextClosed | freeLocked | rcFreed =>
      exact frame (fun _ recorded => recorded) nofun nofun
  | forgetLocked | forgotten =>
      exact frame (fun _ recorded => recorded) nofun fun forgetting => forgetting
  | newReturned | newRefused | contextRefused | contextReturned =>
      exact frame (fun _ recorded => recorded.returns nofun) nofun nofun
  | @rejected other call err handed rejects =>
      by_cases same : other = index
      · subst same
        intro conn found started
        obtain ⟨calls, serialized⟩ := serializes conn found started
        exact ⟨calls ++ [call], serialized.rejects at_ rejects⟩
      · refine frame (fun _ recorded => recorded.returns ?_) nofun nofun
        rw [call.result_conn]
        exact fun equal => same (Option.some.inj equal)
  | @closeReturnedUser other =>
      by_cases same : other = index
      · subst same
        intro conn found started
        obtain ⟨calls, serialized⟩ := serializes conn found started
        have closed := serialized.forgets id (by simp [at_, ContextPc.forgets])
        refine ⟨calls, serialized.elsewhere ?_ (serialized.recorded.closed closed) nofun⟩
        rw [at_]
        nofun
      · exact frame (fun _ recorded => recorded.returns
          (fun equal => same (Option.some.inj equal))) nofun nofun
  | @conn other conn changed _ _ found moved =>
      intro peer lookup started
      rcases lookup_conn lookup with ⟨rfl, rfl⟩ | ⟨elsewhere, lookup⟩
      · subst at_
        have before : conn.started = true :=
          (moved.change found consistent (knows id)).started.symm.trans started
        obtain ⟨calls, serialized⟩ := serializes conn found before
        exact moved.serialized found before (knows id) accepted serialized
      · exact frame (fun _ recorded => recorded) (fun _ _ midway => elsewhere (moved.inside midway))
          (fun forgetting => absurd (moved.forgets forgetting) elsewhere) peer lookup started
  | created =>
      intro peer lookup started
      rcases lookup_conn lookup with ⟨_, rfl⟩ | ⟨_, lookup⟩
      · cases started
      · exact frame (fun _ recorded => recorded) nofun nofun peer lookup started
  | registered found =>
      intro peer lookup started
      rcases lookup_conn lookup with ⟨rfl, rfl⟩ | ⟨_, lookup⟩
      · have serialized := registered_serialized found at_ knows consistent returned
        exact ⟨[], serialized⟩
      · exact frame (fun _ recorded => recorded) nofun nofun peer lookup started
  | @connUnlocked other conn result found =>
      intro peer lookup started
      rcases lookup_conn lookup with ⟨rfl, rfl⟩ | ⟨elsewhere, lookup⟩
      · obtain ⟨before, mu, _⟩ := (at_ ▸ (knows id).at_).of found
        obtain ⟨calls, serialized⟩ := serializes conn found before
        obtain ⟨call, err, effect, rfl⟩ := serialized.returning mu at_
        exact ⟨calls ++ [call], serialized.leaves effect
          (serialized.recorded.call call (by rw [effect])) nofun⟩
      · refine frame (fun _ recorded => recorded.returns ?_) ?_ nofun peer lookup started
        · rw [show result.conn? = some other from accepted]
          exact fun equal => elsewhere (Option.some.inj equal).symm
        · intro _ _ midway
          cases midway
          exact elsewhere rfl
  | @closeRefusedUser other conn err found =>
      refine refused_serializes serializes at_ found (knows id) ?_ ?_ rfl
      · exact fun apart _ recorded => recorded.returns
          fun equal => apart (Option.some.inj equal).symm
      · exact fun _ gives recorded => recorded.call .close gives
  | @closeRefusedContext other conn err rest found =>
      refine refused_serializes serializes at_ found (knows id) ?_ ?_ rfl
      · exact fun _ _ recorded => recorded
      · exact fun _ _ recorded => recorded.close
  | @closeFailed other conn err rest error found =>
      refine refused_serializes serializes at_ found (knows id) ?_ ?_ rfl
      · exact fun _ _ recorded => recorded.returns nofun
      · exact fun _ _ recorded => recorded.close.returns nofun

/-- What is returned is about a connection that `NewConnection` has returned. -/
private theorem ContextMove.returned (move : ContextMove id ctx point changedCtx next)
    (knows : ctx.Knows id point) (accepted : point.Accepted) (consistent : ctx.Consistent)
    (returned : ∀ result ∈ ctx.results, result.conn? = some index → ctx.Started index) :
    ∀ result ∈ changedCtx.results, result.conn? = some index → ctx.Started index := by
  have added {result : ApiResult} (about : result.conn? = some index → ctx.Started index) :
      ∀ other ∈ ctx.results ++ [result], other.conn? = some index → ctx.Started index := by
    intro other member
    rcases List.mem_append.mp member with before | last
    · exact returned other before
    · cases List.mem_singleton.mp last
      exact about
  have known := knows.at_
  cases move with
  | newReturned | newRefused | contextRefused | contextReturned => exact added nofun
  | closeFailed => exact added nofun
  | @rejected other call err handed =>
      refine added fun about => ?_
      rw [call.result_conn] at about
      cases about
      exact consistent.started _ (.inl handed)
  | @connUnlocked other =>
      refine added fun about => ?_
      rw [show ApiResult.conn? _ = some other from accepted] at about
      cases about
      obtain ⟨conn, found, started, _⟩ := known
      exact ⟨conn, found, started⟩
  | closeRefusedUser =>
      refine added fun about => ?_
      cases about
      obtain ⟨conn, found, started, _⟩ := known.2
      exact ⟨conn, found, started⟩
  | closeReturnedUser =>
      refine added fun about => ?_
      cases about
      obtain ⟨all, conn, found, _⟩ := known.2
      exact ⟨conn, found, all _ conn found⟩
  | _ => exact returned

end Moves

/-! ## Every run -/

/-- What every interleaving keeps. -/
private structure SerialThreads (state : Threads X509Context ContextPc) : Prop where
  accepted : ∀ id, (state.points id).Accepted
  returned : ∀ index, ∀ result ∈ state.shared.results, result.conn? = some index →
    state.shared.Started index
  serializes : ∀ index, state.shared.Serializes state.points index

section Runs

variable {env : HostEnv} {state after : Threads X509Context ContextPc}

private theorem SerialThreads.thread {id : Nat} {choice : ContextChoice}
    (serial : SerialThreads state) (consistent : state.shared.Consistent)
    (knows : ∀ id, state.shared.Knows id (state.points id))
    (stepped : (libddrcffi env).threads.step state (.thread id choice) = some after) :
    SerialThreads after := by
  obtain ⟨point, moved, updated⟩ := Program.step_thread stepped
  have move := X509Context.step_move moved
  refine ⟨?_, ?_, ?_⟩
  · intro other
    rw [updated]
    by_cases same : other = id
    · rw [same, Function.update_self]
      exact move.accepted (serial.accepted id)
    · rw [Function.update_of_ne same]
      exact serial.accepted other
  · intro index result member about
    have undisturbed := move.undisturbed (Nat.succ_ne_self id) consistent (knows id)
    exact undisturbed.started (move.returned (knows id) (serial.accepted id) consistent
      (serial.returned index) result member about)
  · intro index
    rw [updated]
    exact move.serializes knows (serial.accepted id) consistent (serial.returned index)
      (serial.serializes index)

private theorem SerialThreads.environment {event : ContextEvent}
    (serial : SerialThreads state) (consistent : state.shared.Consistent)
    (stepped : (libddrcffi env).threads.step state (.environment event) = some after) :
    SerialThreads after := by
  obtain ⟨moved, same⟩ := Program.step_environment stepped
  have undisturbed := (poolStep_keeps consistent moved).2 0
  obtain ⟨index, action⟩ := event
  obtain ⟨_, found⟩ := Option.ite_none_left_eq_some.mp moved
  obtain ⟨conn, found, inner⟩ := Option.bind_eq_some_iff.mp found
  obtain ⟨started, inner⟩ := Option.ite_none_right_eq_some.mp inner
  obtain ⟨pool, _, changed⟩ := Option.map_eq_some_iff.mp inner
  refine ⟨fun id => same ▸ serial.accepted id, ?_, ?_⟩
  · intro other result member about
    rw [← changed] at member
    exact undisturbed.started (serial.returned other result member about)
  · intro other peer lookup peerStarted
    rw [← changed] at lookup ⊢
    rw [same]
    rcases lookup_conn lookup with ⟨rfl, rfl⟩ | ⟨_, lookup⟩
    · obtain ⟨calls, serialized⟩ := serial.serializes other conn found started
      exact ⟨calls, serialized.alike rfl (serial_dispatches conn pool)⟩
    · exact serial.serializes other peer lookup peerStarted

end Runs

end LibddRc.Go
