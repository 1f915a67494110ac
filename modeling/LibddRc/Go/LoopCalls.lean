import LibddRc.Go.ConnectionCalls
import LibddRc.Go.RunLoopSafety

/-! The connection loop calls `Connected`, `Recv` and `Close` on its connection one
after the other. What it makes of what they return, the lifecycle it keeps and the
native calls it makes are those of a serial connection. -/

set_option autoImplicit false

namespace LibddRc.Go

open Foundation Ffi

/-- What `runSession` distinguishes of what `Recv` returns. -/
def RecvOutcome.of : Option ApiError → RecvOutcome
  | none => .delivered
  | some (.lifecycle .connectionClosed) => .connectionClosed
  | some (.lifecycle _) => .connectionNotConnected
  | some _ => .rejected

/-- How far a `Close` is with a connection that was `serial`. -/
def ClosingPc.Within (wasConnected : Bool) (serial now : SerialConnection) : ClosingPc → Prop
  | .shuttingDown | .disconnecting => serial.lifecycle = ⟨false, wasConnected⟩ ∧
      now = ⟨⟨true, wasConnected⟩, serial.native⟩
  | .insideDisconnected | .freeing => serial.lifecycle = ⟨false, wasConnected⟩ ∧
      now = ⟨⟨true, wasConnected⟩,
        serial.native ++ if wasConnected then [.disconnected] else []⟩

/-- What the connection at hand has come to, given the stage of the session. -/
def LoopPc.InSeries (stage : ℕ) (now : SerialConnection) : LoopPc → Prop
  | .configuring _ => now = ⟨.init, [.new]⟩
  | .closing _ wasConnected pc _ =>
      ∃ calls, pc.Within wasConnected (SerialConnection.new.calls calls) now
  | .serving _ _ => (∃ calls, now = SerialConnection.new.calls calls) ∧
      (1 < stage → now.lifecycle.closed = true)
  | _ => ∃ calls, now = SerialConnection.new.calls calls

namespace RunLoop

/-- A connection with the lifecycle of the one at hand, as far as the calls on it read
and change it. -/
def serial (loop : RunLoop) (conn : ℕ) : SerialConnection :=
  ⟨loop.lifecycle, lifecycleCalls (loop.native conn)⟩

section Calls

variable {env : LoopEnv} {loop next : RunLoop} {conn : ℕ}

theorem lifecycleCalls_calling (loop : RunLoop) (conn : ℕ) (call : NativeCall)
    (kept : call.isDispatch = false) :
    lifecycleCalls (loop.calling conn call conn) = (loop.serial conn).native ++ [call] := by
  simp [calling, lifecycleCalls_append, kept, serial]

/-- `establishConnection` goes on if `Connected` returns no error. -/
theorem connect_serial {ws : ℕ} (stepped : loop.connect env conn ws = some next) :
    ∃ succeeds err, (loop.serial conn).call (.connected env.endpointHostname succeeds) =
        (next.serial conn, err) ∧
      next.pc = if err = none then .marking conn ws else .abandoning conn (some ws) := by
  unfold connect at stepped
  split at stepped
  · next unusable =>
    cases stepped
    rcases unusable with unnamed | long
    · rw [unnamed]
      exact ⟨true, _, SerialConnection.call_unnamed _ true, rfl⟩
    · by_cases unnamed : env.endpointHostname = ""
      · rw [unnamed]
        exact ⟨true, _, SerialConnection.call_unnamed _ true, rfl⟩
      · exact ⟨true, _, SerialConnection.call_overlong _ unnamed long true, rfl⟩
  · next usable =>
    obtain ⟨named, short⟩ := not_or.mp usable
    have accepted : acceptsHostname env.endpointHostname = true :=
      decide_eq_true ⟨named, not_lt.mp short⟩
    split at stepped
    · next refused =>
      cases stepped
      exact ⟨true, _, SerialConnection.connected_refuses accepted refused true, rfl⟩
    · next marked =>
      obtain ⟨inst, _, rfl⟩ := Option.map_eq_some_iff.mp stepped
      obtain ⟨fresh, rfl⟩ := ConnLifecycle.markConnected_ok marked
      have effect : (loop.serial conn).call (.connected env.endpointHostname _) = _ :=
        SerialConnection.connected_reaches accepted fresh (inCall inst conn)
      rw [← loop.lifecycleCalls_calling conn (.connected _ _) rfl] at effect
      refine ⟨_, _, effect, ?_⟩
      cases inCall inst conn <;> rfl

/-- `runSession` goes by what `Recv` of the frame it has taken returns. -/
theorem deliver_serial (stepped : loop.deliver env conn = some next) :
    ∃ data succeeds err, loop.session.received.getLast? = some data ∧
      (loop.serial conn).call (.recv data succeeds) = (next.serial conn, err) ∧
      loop.session.step (.main (.recvReturns (.of err))) = some next.session := by
  obtain ⟨data, received, stepped⟩ := Option.bind_eq_some_iff.mp stepped
  split at stepped
  · next empty =>
    obtain ⟨session, returned, rfl⟩ := Option.map_eq_some_iff.mp stepped
    subst empty
    exact ⟨[], true, _, received, SerialConnection.call_emptyPayload _ true, returned⟩
  · next filled =>
    split at stepped
    · next refused =>
      obtain ⟨session, returned, rfl⟩ := Option.map_eq_some_iff.mp stepped
      have effect : (loop.serial conn).call (.recv data true) = _ :=
        SerialConnection.recv_refuses filled refused true
      exact ⟨data, true, _, received, effect, returned⟩
    · next err other refused =>
      obtain ⟨session, returned, rfl⟩ := Option.map_eq_some_iff.mp stepped
      have effect : (loop.serial conn).call (.recv data true) = _ :=
        SerialConnection.recv_refuses filled refused true
      refine ⟨data, true, _, received, effect, ?_⟩
      cases err with
      | connectionClosed => exact absurd rfl other
      | connectionNotConnected | connectionAlreadyConnected => exact returned
    · next recvable =>
      obtain ⟨inst, _, stepped⟩ := Option.bind_eq_some_iff.mp stepped
      obtain ⟨session, returned, rfl⟩ := Option.map_eq_some_iff.mp stepped
      have connected := ConnLifecycle.checkRecvable_ok recvable
      have effect : (loop.serial conn).call (.recv data _) = _ :=
        SerialConnection.recv_reaches filled connected
          ((loop.inst.conns conn).any (·.state = .connected))
      rw [← loop.lifecycleCalls_calling conn (.recv data) rfl, ← connected] at effect
      refine ⟨data, _, _, received, effect, ?_⟩
      cases accepted : (loop.inst.conns conn).any (·.state = .connected) <;>
        simpa [accepted, RecvOutcome.of] using returned

end Calls

/-! ## Every run -/

/-- The native calls on a connection that is closed. -/
def Finished (loop : RunLoop) (conn : ℕ) : Prop :=
  ∃ calls, lifecycleCalls (loop.native conn) = (SerialConnection.new.calls calls).native ∧
    (SerialConnection.new.calls calls).lifecycle.closed = true

/-- The connection at hand is one on which calls were made one after the other, the
last of which may be a `Close` that has not returned. -/
structure InSeries (loop : RunLoop) : Prop where
  fresh : ∀ index, loop.inst.count ≤ index → loop.native index = []
  held : ∀ index, loop.pc.conn? = some index →
    loop.pc.InSeries loop.session.pc.stage (loop.serial index)
  finished : ∀ index < loop.inst.count, loop.pc.conn? ≠ some index → loop.Finished index

section InSeries

variable {env : LoopEnv} {loop next : RunLoop} {conn : ℕ}

theorem Owned.created_before (owned : loop.Owned) (held : loop.pc.conn? = some conn) :
    conn < loop.inst.count := by
  obtain ⟨status, found, _⟩ := owned.held conn held
  by_contra late
  rw [(owned.fresh conn).mp (not_lt.mp late)] at found
  cases found

/-- A step that concerns the connection at hand. -/
private theorem InSeries.moves (series : loop.InSeries) (owned : loop.Owned)
    (held : loop.pc.conn? = some conn) (count : next.inst.count = loop.inst.count)
    (elsewhere : ∀ index, index ≠ conn → next.native index = loop.native index)
    (after : (next.pc.conn? = some conn ∧
        next.pc.InSeries next.session.pc.stage (next.serial conn)) ∨
      (next.pc.conn? = none ∧ next.Finished conn)) : next.InSeries := by
  refine ⟨?_, ?_, ?_⟩
  · intro index late
    rw [count] at late
    have other : index ≠ conn := fun same => absurd (owned.created_before held) (by omega)
    rw [elsewhere index other]
    exact series.fresh index late
  · intro index now
    rcases after with ⟨still, serial⟩ | ⟨gone, _⟩
    · cases still.symm.trans now
      exact serial
    · simp [gone] at now
  · intro index known other
    rw [count] at known
    by_cases same : index = conn
    · subst same
      rcases after with ⟨still, _⟩ | ⟨_, finished⟩
      · exact absurd still other
      · exact finished
    · rw [Finished, elsewhere index same]
      refine series.finished index known ?_
      rw [held]
      exact fun equal => same (Option.some.inj equal).symm

/-- A step without a connection at hand. -/
private theorem InSeries.idles (series : loop.InSeries) (idle : loop.pc.conn? = none)
    (still : next.pc.conn? = none) (inst : next.inst = loop.inst)
    (native : next.native = loop.native) : next.InSeries := by
  refine ⟨?_, ?_, ?_⟩
  · rw [inst, native]
    exact series.fresh
  · intro index now
    simp [still] at now
  · intro index known _
    rw [inst] at known
    rw [Finished, native]
    exact series.finished index known (by simp [idle])

private theorem calling_elsewhere {call : NativeCall} (index : ℕ) (other : index ≠ conn) :
    loop.calling conn call index = loop.native index :=
  Function.update_of_ne other _ _

/-- The connection at hand after a native call. -/
private theorem serial_calling {before : SerialConnection} {lifecycle : ConnLifecycle}
    {call : NativeCall} (known : loop.serial conn = before)
    (native : next.native = loop.calling conn call) (kept : call.isDispatch = false)
    (now : next.lifecycle = lifecycle) :
    next.serial conn = ⟨lifecycle, before.native ++ [call]⟩ := by
  rw [serial, native, lifecycleCalls_calling loop conn call kept, known, now]

/-- A native call that leaves the lifecycle as it is. -/
private theorem serial_called {before : SerialConnection} {call : NativeCall}
    (known : loop.serial conn = before) (native : next.native = loop.calling conn call)
    (kept : call.isDispatch = false) (same : next.lifecycle = loop.lifecycle) :
    next.serial conn = ⟨before.lifecycle, before.native ++ [call]⟩ :=
  serial_calling known native kept (same.trans (congrArg SerialConnection.lifecycle known))

private theorem lifecycleCalls_reported {correlationID : UInt64} {answer : HostAnswer} :
    lifecycleCalls (loop.calling conn (.dispatch correlationID answer) conn) =
      lifecycleCalls (loop.native conn) := by
  simp [calling, lifecycleCalls_append, NativeCall.isDispatch]

/-- What is known of the connection at hand. -/
private theorem InSeries.at_ {pc : LoopPc} (series : loop.InSeries) (at_ : loop.pc = pc)
    (conn : ℕ) (held : pc.conn? = some conn) :
    loop.pc.conn? = some conn ∧ pc.InSeries loop.session.pc.stage (loop.serial conn) := by
  subst at_
  exact ⟨held, series.held conn held⟩

private theorem InSeries.created (series : loop.InSeries) (start : loop.pc = .creating)
    (count : next.inst.count = loop.inst.count + 1)
    (native : next.native = loop.calling loop.inst.count .new)
    (pc : next.pc = .configuring loop.inst.count) (lifecycle : next.lifecycle = .init) :
    next.InSeries := by
  refine ⟨?_, ?_, ?_⟩
  · intro index late
    rw [native, calling_elsewhere index (by omega)]
    exact series.fresh index (by omega)
  · intro index now
    rw [pc] at now ⊢
    cases now
    simp [LoopPc.InSeries, serial, lifecycle, native, calling, series.fresh _ le_rfl,
      lifecycleCalls, NativeCall.isDispatch]
  · intro index known other
    rw [pc] at other
    have apart : index ≠ loop.inst.count := fun same => other (same ▸ rfl)
    rw [Finished, native, calling_elsewhere index apart]
    exact series.finished index (by omega) (by simp [start, LoopPc.conn?])

private theorem InSeries.attempt (series : loop.InSeries) (owned : loop.Owned)
    (move : AttemptMove env loop next) : next.InSeries := by
  cases move with
  | created at_ stepped =>
      exact series.created at_ (Instance.step_create stepped).1 rfl rfl rfl
  | notCreated at_ | wsClosed at_ => exact series.idles (by rw [at_]; rfl) rfl rfl rfl
  | @configured conn inst at_ stepped =>
      obtain ⟨held, before⟩ := series.at_ at_ conn rfl
      refine series.moves owned held (Instance.step_call_count stepped) calling_elsewhere
        (.inl ⟨rfl, [], serial_called before rfl rfl rfl⟩)
  | @dialed conn at_ | @notDialed conn at_ | @refused conn _ at_ =>
      obtain ⟨held, before⟩ := series.at_ at_ conn rfl
      exact series.moves owned held rfl (fun _ _ => rfl) (.inl ⟨rfl, before⟩)
  | @called conn ws lifecycle inst at_ named short marked stepped =>
      obtain ⟨held, calls, before⟩ := series.at_ at_ conn rfl
      obtain ⟨fresh, rfl⟩ := ConnLifecycle.markConnected_ok marked
      have accepted : acceptsHostname env.endpointHostname = true :=
        decide_eq_true ⟨named, short⟩
      have effect := SerialConnection.connected_reaches accepted
        ((congrArg SerialConnection.lifecycle before).symm.trans fresh) (inCall inst conn)
      have after := (SerialConnection.calls_call effect).symm
      refine series.moves owned held (Instance.step_call_count stepped) calling_elsewhere
        (.inl ?_)
      split
      · exact ⟨rfl, _, (serial_calling before rfl rfl rfl).trans after⟩
      · exact ⟨rfl, _, (serial_calling before rfl rfl rfl).trans after⟩
  | @marking conn ws inst at_ stepped _ =>
      obtain ⟨held, before⟩ := series.at_ at_ conn rfl
      exact series.moves owned held (Instance.step_call_count stepped) (fun _ _ => rfl)
        (.inl ⟨held, at_ ▸ before⟩)
  | @established conn ws inst at_ stepped _ =>
      obtain ⟨held, before⟩ := series.at_ at_ conn rfl
      refine series.moves owned held (Instance.step_call_count stepped) (fun _ _ => rfl)
        (.inl ⟨rfl, before, ?_⟩)
      simp [RunSession.init, RunSessionPc.stage]

private theorem InSeries.closes {closer : Closer} (series : loop.InSeries)
    (closes : loop.Closes conn closer) :
    loop.pc.conn? = some conn ∧ ∃ calls, loop.serial conn = SerialConnection.new.calls calls := by
  cases closes with
  | attempt at_ => exact series.at_ at_ conn rfl
  | session at_ =>
      obtain ⟨held, before, _⟩ := series.at_ at_ conn rfl
      exact ⟨held, before⟩

/-- `conn.Close` has returned. -/
private theorem closed_series {closer : Closer} {calls : List ConnectionCall}
    (went : loop.Closed conn closer next)
    (now : loop.serial conn = SerialConnection.new.calls calls)
    (closed : loop.lifecycle.closed = true) :
    next.inst = loop.inst ∧ next.native = loop.native ∧ ((next.pc.conn? = some conn ∧
        next.pc.InSeries next.session.pc.stage (next.serial conn)) ∨
      (next.pc.conn? = none ∧ next.Finished conn)) := by
  have finished : loop.Finished conn := ⟨calls, congrArg SerialConnection.native now, now ▸ closed⟩
  cases went with
  | undialed | dialed => exact ⟨rfl, rfl, .inr ⟨rfl, finished⟩⟩
  | session => exact ⟨rfl, rfl, .inl ⟨rfl, ⟨calls, now⟩, fun _ => closed⟩⟩

private theorem InSeries.closing (series : loop.InSeries) (owned : loop.Owned)
    (move : ClosingMove env loop next) : next.InSeries := by
  cases move with
  | closing closes marked =>
      obtain ⟨held, calls, before⟩ := series.closes closes
      obtain ⟨unclosed, rfl⟩ := ConnLifecycle.markClosed_ok marked
      refine series.moves owned held rfl (fun _ _ => rfl) (.inl ⟨rfl, calls, ?_, ?_⟩)
      · rw [← before]
        exact unclosed
      · rw [← before]
        rfl
  | closedBefore closes marked went =>
      obtain ⟨held, calls, before⟩ := series.closes closes
      obtain ⟨inst, native, after⟩ :=
        closed_series went before (ConnLifecycle.markClosed_error marked).1
      exact series.moves owned held (by rw [inst]) (fun _ _ => by rw [native]) after
  | @shutDown conn _ _ at_ =>
      obtain ⟨held, before⟩ := series.at_ at_ conn rfl
      exact series.moves owned held rfl (fun _ _ => rfl) (.inl ⟨rfl, before⟩)
  | @disconnecting conn closer inst at_ stepped =>
      obtain ⟨held, calls, unclosed, before⟩ := series.at_ at_ conn rfl
      refine series.moves owned held (Instance.step_call_count stepped) calling_elsewhere
        (.inl ⟨rfl, ?_⟩)
      dsimp only
      split
      · exact ⟨calls, unclosed, serial_called before rfl rfl rfl⟩
      · exact ⟨calls, unclosed, serial_called before rfl rfl rfl⟩
  | @neverConnected conn _ at_ =>
      obtain ⟨held, calls, unclosed, before⟩ := series.at_ at_ conn rfl
      exact series.moves owned held rfl (fun _ _ => rfl) (.inl ⟨rfl, calls, unclosed,
        before.trans (congrArg (SerialConnection.mk _) (List.append_nil _).symm)⟩)
  | @disconnected conn _ _ inst at_ stepped =>
      obtain ⟨held, before⟩ := series.at_ at_ conn rfl
      refine series.moves owned held (Instance.step_call_count stepped) (fun _ _ => rfl)
        (.inl ⟨rfl, ?_⟩)
      dsimp only
      split
      · exact before
      · exact before
  | @freed conn wasConnected closer inst _ at_ stepped went =>
      obtain ⟨held, calls, unclosed, before⟩ := series.at_ at_ conn rfl
      have after := (SerialConnection.calls_call (SerialConnection.close_frees unclosed)).symm
      have now : ({ loop with
          inst
          native := loop.calling conn .free
          handles := loop.handles.erase conn } : RunLoop).serial conn =
          SerialConnection.new.calls (calls ++ [.close]) := by
        refine Eq.trans ?_ after
        exact serial_called before rfl rfl rfl
      have closed : loop.lifecycle.closed = true :=
        congrArg (fun serial => serial.lifecycle.closed) before
      obtain ⟨inst, native, after⟩ := closed_series went now closed
      refine series.moves owned held ?_ ?_ after
      · rw [inst]
        exact Instance.step_call_count stepped
      · intro index other
        rw [native]
        exact calling_elsewhere index other

private theorem InSeries.serving (series : loop.InSeries) (owned : loop.Owned)
    (move : ServingMove env loop next) : next.InSeries := by
  cases move with
  | @session conn _ _ _ at_ notClose _ stepped =>
      obtain ⟨held, before, closed⟩ := series.at_ at_ conn rfl
      have early := RunSession.step_early notClose stepped
      refine series.moves owned held rfl (fun _ _ => rfl) (.inl ⟨held, ?_⟩)
      rw [at_]
      exact ⟨before, fun late => closed (not_le.mp fun first => not_le.mpr late (early.mpr first))⟩
  | @background conn _ _ _ _ _ at_ =>
      obtain ⟨held, before⟩ := series.at_ at_ conn rfl
      refine series.moves owned held rfl (fun _ _ => rfl) (.inl ⟨held, ?_⟩)
      rw [at_]
      exact before
  | @delivered conn _ data _ _ _ at_ filled recvable stepped returned =>
      obtain ⟨held, ⟨calls, before⟩, closed⟩ := series.at_ at_ conn rfl
      have connected := ConnLifecycle.checkRecvable_ok recvable
      have effect := SerialConnection.recv_reaches filled
        ((congrArg SerialConnection.lifecycle before).symm.trans connected) true
      have after := (SerialConnection.calls_call effect).symm
      have early := RunSession.step_early (by simp) returned
      refine series.moves owned held (Instance.step_call_count stepped) calling_elsewhere
        (.inl ⟨held, ?_⟩)
      rw [at_]
      refine ⟨⟨_, Eq.trans ?_ after⟩, ?_⟩
      · exact serial_calling before rfl rfl connected
      · exact fun late => closed (not_le.mp fun first => not_le.mpr late (early.mpr first))
  | @hungUp conn _ _ at_ stepped =>
      obtain ⟨held, before, closed⟩ := series.at_ at_ conn rfl
      have early := RunSession.step_early (by simp) stepped
      refine series.moves owned held rfl (fun _ _ => rfl) (.inl ⟨held, ?_⟩)
      rw [at_]
      exact ⟨before, fun late => closed (not_le.mp fun first => not_le.mpr late (early.mpr first))⟩
  | @ended conn _ _ _ at_ returned =>
      obtain ⟨held, ⟨calls, before⟩, closed⟩ := series.at_ at_ conn rfl
      refine series.moves owned held rfl (fun _ _ => rfl) (.inr ⟨rfl, calls, ?_, ?_⟩)
      · exact congrArg SerialConnection.native before
      · rw [← before]
        exact closed (by simp [returned, RunSessionPc.stage])

private theorem InSeries.pausing (series : loop.InSeries) (move : PauseMove loop next) :
    next.InSeries := by
  cases move with
  | stopped at_ | waiting at_ | woken at_ | interrupted at_ =>
      exact series.idles (by rw [at_]; rfl) rfl rfl rfl

private theorem InSeries.go (series : loop.InSeries) (owned : loop.Owned)
    (move : RunMove env loop next) : next.InSeries := by
  cases move with
  | @reported conn _ _ _ pool stepped =>
      have held := poolConn_held pool
      refine series.moves owned held (Instance.step_call_count stepped) calling_elsewhere
        (.inl ⟨held, ?_⟩)
      rw [serial, lifecycleCalls_reported]
      exact series.held conn held
  | attempt moved => exact series.attempt owned moved
  | close moved => exact series.closing owned moved
  | serve moved => exact series.serving owned moved
  | pause moved => exact series.pausing moved

theorem inSeries (reached : (runLoop env).Reachable loop) : loop.InSeries := by
  refine reached.invariant InSeries ?_ ?_
  · rintro _ rfl
    refine ⟨fun _ _ => rfl, ?_, ?_⟩
    · rintro index ⟨⟩
    · intro index known
      exact absurd known (Nat.not_lt_zero index)
  · intro before action after earlier series stepped
    cases step_move stepped with
    | cancelled => exact ⟨series.fresh, series.held, series.finished⟩
    | go moved => exact series.go (sound earlier).owned moved
    | tasks own moved =>
        obtain ⟨count, _⟩ := Instance.step_tasks own moved
        exact ⟨fun index late => series.fresh index (count ▸ late), series.held,
          fun index known => series.finished index (count ▸ known)⟩

end InSeries

end RunLoop

namespace RunLoop

variable {env : LoopEnv} {loop : RunLoop} {conn : ℕ}

private theorem InSeries.calls (series : loop.InSeries) (created : conn < loop.inst.count)
    (configured : loop.pc ≠ .configuring conn) :
    ∃ calls,
      (loop.pc.conn? ≠ some conn →
        lifecycleCalls (loop.native conn) = (SerialConnection.new.calls calls).native ∧
          (SerialConnection.new.calls calls).lifecycle.closed = true) ∧
      (loop.pc.conn? = some conn →
        (∀ wasConnected pc closer, loop.pc ≠ .closing conn wasConnected pc closer) →
          loop.serial conn = SerialConnection.new.calls calls) ∧
      ∀ wasConnected pc closer, loop.pc = .closing conn wasConnected pc closer →
        pc.Within wasConnected (SerialConnection.new.calls calls) (loop.serial conn) := by
  by_cases held : loop.pc.conn? = some conn
  · have serial := series.held conn held
    cases at_ : loop.pc with
    | configuring other =>
        rw [at_] at held configured
        cases held
        exact absurd rfl configured
    | closing other wasConnected pc closer =>
        rw [at_] at held serial
        cases held
        obtain ⟨calls, within⟩ := serial
        refine ⟨calls, fun other => absurd rfl other, fun _ other => absurd rfl (other _ _ _), ?_⟩
        rintro _ _ _ ⟨⟩
        exact within
    | serving =>
        rw [at_] at held serial
        obtain ⟨⟨calls, same⟩, _⟩ := serial
        exact ⟨calls, fun other => absurd held other, fun _ _ => same, nofun⟩
    | dialing | connecting | marking | abandoning =>
        rw [at_] at held serial
        obtain ⟨calls, same⟩ := serial
        exact ⟨calls, fun other => absurd held other, fun _ _ => same, nofun⟩
    | creating | closingWs | ended | sleeping | returned => simp [at_, LoopPc.conn?] at held
  · obtain ⟨calls, finished⟩ := series.finished conn created held
    refine ⟨calls, fun _ => finished, fun now => absurd now held, ?_⟩
    intro wasConnected pc closer at_
    rw [at_] at held
    exact absurd rfl held

end RunLoop

/-- The native calls that the loop makes for a connection are those of `Connected`, `Recv`
and `Close` calls that follow one another, and so is the lifecycle that it keeps for the
connection at hand, but for a `Close` that has not returned. A connection that the loop has
let go of was closed. `establishConnection` and `runSession` go by what `Connected` and
`Recv` return. -/
theorem loop_calls_serial (env : LoopEnv) (loop : RunLoop)
    (reached : (runLoop env).Reachable loop) (conn : ℕ) (created : conn < loop.inst.count)
    (configured : loop.pc ≠ .configuring conn) :
    (∃ calls,
      (loop.pc.conn? ≠ some conn →
        lifecycleCalls (loop.native conn) = (SerialConnection.new.calls calls).native ∧
          (SerialConnection.new.calls calls).lifecycle.closed = true) ∧
      (loop.pc.conn? = some conn →
        (∀ wasConnected pc closer, loop.pc ≠ .closing conn wasConnected pc closer) →
          loop.serial conn = SerialConnection.new.calls calls) ∧
      ∀ wasConnected pc closer, loop.pc = .closing conn wasConnected pc closer →
        pc.Within wasConnected (SerialConnection.new.calls calls) (loop.serial conn)) ∧
    (∀ ws choice next, loop.pc = .connecting conn ws →
      (runLoop env).step loop (.loop choice) = some next →
        ∃ succeeds err, (loop.serial conn).call (.connected env.endpointHostname succeeds) =
            (next.serial conn, err) ∧
          next.pc = if err = none then .marking conn ws else .abandoning conn (some ws)) ∧
    ∀ ws outcome next, loop.pc = .serving conn ws → loop.session.pc = .delivering →
      (runLoop env).step loop (.session (.main (.recvReturns outcome))) = some next →
        ∃ data succeeds err, loop.session.received.getLast? = some data ∧
          (loop.serial conn).call (.recv data succeeds) = (next.serial conn, err) ∧
          loop.session.step (.main (.recvReturns (.of err))) = some next.session := by
  refine ⟨(RunLoop.inSeries reached).calls created configured, ?_, ?_⟩
  · intro ws choice next at_ stepped
    have connecting : loop.connect env conn ws = some next := by
      simpa [runLoop, RunLoop.step, RunLoop.loopStep, at_] using stepped
    exact RunLoop.connect_serial connecting
  · intro ws outcome next at_ delivering stepped
    have delivered : loop.deliver env conn = some next := by
      simpa [runLoop, RunLoop.step, RunLoop.sessionStep, RunLoop.servingStep, at_, delivering]
        using stepped
    exact RunLoop.deliver_serial delivered

theorem loop_calls_serial_hangUp : ∃ loop calls,
    (runLoop fixtureLoopEnv).run .init (establish ++ hangUp) = some loop ∧
      loop.native 0 = [.new, .sendCallback, .connected "config.datadoghq.com" true,
        .disconnected, .free] ∧
      (SerialConnection.new.calls calls).native = loop.native 0 := by
  obtain ⟨loop, ran, ended, count, native⟩ : ∃ loop,
      (runLoop fixtureLoopEnv).run .init (establish ++ hangUp) = some loop ∧
        loop.pc = .ended (.session 1) ∧ loop.inst.count = 1 ∧
        loop.native 0 = [.new, .sendCallback, .connected "config.datadoghq.com" true,
          .disconnected, .free] := ⟨_, rfl, rfl, rfl, rfl⟩
  obtain ⟨⟨calls, gone, _⟩, _⟩ := loop_calls_serial fixtureLoopEnv loop
    (System.reachable_of_run rfl ran) 0 (by omega) (by simp [ended])
  obtain ⟨same, _⟩ := gone (by simp [ended, LoopPc.conn?])
  refine ⟨loop, calls, ran, native, same.symm.trans ?_⟩
  rw [native]
  rfl

end LibddRc.Go
