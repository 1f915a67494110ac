import LibddRc.Go.RunLoop

/-! What the connection loop keeps in every run: it holds at most one connection
and one websocket, lets go of both before it makes another attempt, and so never
leads the client library to mix up the actors of two connections. -/

set_option autoImplicit false

namespace LibddRc.Go

open Foundation Ffi

/-! ## Steps of a session -/

namespace RunSession

variable {session next : RunSession}

theorem step_background {action : RunSessionAct} (notMain : ∀ act, action ≠ .main act)
    (stepped : session.step action = some next) :
    next.pc = session.pc ∧ next.wsClosed = session.wsClosed := by
  cases action with
  | env act => cases envStep_moves stepped <;> exact ⟨rfl, rfl⟩
  | worker act => cases workerStep_moves stepped <;> exact ⟨rfl, rfl⟩
  | main act => exact absurd rfl (notMain act)

/-- The websocket is closed by `CloseNow` only. -/
theorem step_wsClosed {action : RunSessionAct} (notCloseNow : action ≠ .main .closeNow)
    (stepped : session.step action = some next) : next.wsClosed = session.wsClosed := by
  cases action with
  | env act => exact (step_background (by simp) stepped).2
  | worker act => exact (step_background (by simp) stepped).2
  | main act =>
      cases mainStep_moves stepped with
      | closeNow closing =>
          have other : act ≠ .closeNow := by
            rintro rfl
            exact notCloseNow rfl
          cases act <;> simp_all [step, mainStep]
      | recv | write | again | leave | close | drainWrite | drainDrop | drainWrote | drained
      | cancelRead | wait => rfl

/-- Only its close call takes a session from the first stages to the later ones. -/
theorem step_early {action : RunSessionAct} (notClose : action ≠ .main .close)
    (stepped : session.step action = some next) :
    next.pc.stage ≤ 1 ↔ session.pc.stage ≤ 1 := by
  cases action with
  | env act => rw [(step_background (by simp) stepped).1]
  | worker act => rw [(step_background (by simp) stepped).1]
  | main act =>
      cases mainStep_moves stepped with
      | close closing =>
          have other : act ≠ .close := by
            rintro rfl
            exact notClose rfl
          cases act <;> simp_all [step, mainStep]
      | recv loop | write loop | again loop | leave loop =>
          have stage := (RunSessionPc.inLoop_iff _).mp loop
          exact iff_of_true (by simp [RunSessionPc.stage]) (by omega)
      | drainDrop => exact Iff.rfl
      | drainWrite pc | drainWrote pc | drained pc | closeNow pc | cancelRead pc | wait pc =>
          simp [pc, RunSessionPc.stage]

theorem step_close (closing : session.pc.stage = 1)
    (stepped : session.step (.main .close) = some next) :
    next.pc.stage = 2 ∧ next.wsClosed = session.wsClosed := by
  simp only [step] at stepped
  cases pc : session.pc <;> simp [pc, RunSessionPc.stage] at closing
  simp only [mainStep, pc, Option.some.injEq] at stepped
  subst stepped
  exact ⟨rfl, rfl⟩

theorem step_closeNow (stepped : session.step (.main .closeNow) = some next) :
    session.pc.stage = 3 ∧ next.pc.stage = 4 ∧ next.wsClosed = true := by
  simp only [step] at stepped
  cases pc : session.pc <;> simp [mainStep, pc] at stepped
  subst stepped
  exact ⟨rfl, rfl, rfl⟩

end RunSession

/-! ## Connections -/

/-- The connection that the loop has in its hands. -/
def LoopPc.conn? : LoopPc → Option ℕ
  | .configuring conn | .dialing conn | .connecting conn _ | .marking conn _
  | .abandoning conn _ | .serving conn _ | .closing conn _ _ _ => some conn
  | .creating | .closingWs _ _ | .ended _ | .sleeping _ | .returned => none

/-- The status of a connection while it is closed. -/
def ClosingPc.Fits (conn : ℕ) (wasConnected : Bool) (status : Status) : ClosingPc → Prop
  | .shuttingDown | .disconnecting => status =
      ⟨if wasConnected then .connected else .configured (goSendCallback conn), .idle, false⟩
  | .insideDisconnected => status.Leaving
  | .freeing => status.state ≠ .connected ∧ status.call = .idle

namespace RunLoop

/-- The status of the connection at hand. -/
def Fits (loop : RunLoop) (status : Status) : Prop :=
  match loop.pc with
  | .configuring _ => status = ⟨.init, .idle, false⟩ ∧ loop.lifecycle = .init
  | .dialing conn | .connecting conn _ | .abandoning conn _ =>
      status = ⟨.configured (goSendCallback conn), .idle, false⟩ ∧ loop.lifecycle = .init
  | .marking _ _ => loop.lifecycle = ⟨false, true⟩ ∧
      ∃ endpointHostname, status = ⟨.connected, .publishing endpointHostname, false⟩
  | .serving _ _ =>
      if loop.session.pc.stage ≤ 1 then
        status = ⟨.connected, .idle, false⟩ ∧ loop.lifecycle = ⟨false, true⟩
      else status.Released
  | .closing conn wasConnected pc closer => pc.Fits conn wasConnected status ∧
      ∀ ws, closer = .session ws → loop.session.pc.stage = 1
  | .creating | .closingWs _ _ | .ended _ | .sleeping _ | .returned => False

/-- Every connection but the one at hand is released. -/
structure Owned (loop : RunLoop) : Prop where
  fresh : ∀ index, loop.inst.count ≤ index ↔ loop.inst.statuses index = none
  held : ∀ index, loop.pc.conn? = some index →
    ∃ status, loop.inst.statuses index = some status ∧ loop.Fits status
  released : ∀ index status, loop.inst.statuses index = some status →
    loop.pc.conn? ≠ some index → status.Released

section Owned

variable {env : LoopEnv} {loop next : RunLoop}

theorem owned_init : RunLoop.init.Owned := by
  refine ⟨?_, ?_, ?_⟩
  · intro index
    exact iff_of_true (Nat.zero_le _) rfl
  · rintro index ⟨⟩
  · rintro index status ⟨⟩

/-- A step that leaves the statuses alone and keeps the connection at hand. -/
private theorem Owned.keeps (owned : loop.Owned) (count : next.inst.count = loop.inst.count)
    (same : ∀ index, next.inst.statuses index = loop.inst.statuses index)
    (conn : next.pc.conn? = loop.pc.conn?) (fits : ∀ status, loop.Fits status → next.Fits status) :
    next.Owned := by
  refine ⟨?_, ?_, ?_⟩
  · intro index
    rw [count, same]
    exact owned.fresh index
  · intro index held
    rw [conn] at held
    obtain ⟨status, found, now⟩ := owned.held index held
    exact ⟨status, (same index).trans found, fits status now⟩
  · intro index status found other
    rw [conn] at other
    exact owned.released index status ((same index).symm.trans found) other

/-- A step after which the loop has no connection at hand. -/
private theorem Owned.leaves (owned : loop.Owned) (inst : next.inst = loop.inst)
    (gone : next.pc.conn? = none)
    (released : ∀ status, loop.Fits status → status.Released) : next.Owned := by
  refine ⟨?_, ?_, ?_⟩
  · rw [inst]
    exact owned.fresh
  · intro index held
    simp [gone] at held
  · intro index status found _
    rw [inst] at found
    by_cases held : loop.pc.conn? = some index
    · obtain ⟨_, same, fits⟩ := owned.held index held
      rw [found] at same
      cases same
      exact released status fits
    · exact owned.released index status found held

/-- A native call on the connection at hand. -/
private theorem Owned.calls {conn : ℕ} {action : FfiAct} (owned : loop.Owned)
    (held : loop.pc.conn? = some conn)
    (stepped : loop.inst.step env.ffi (.ffi conn action) = some next.inst)
    (fits : ∀ ffi outcome, FfiMove env.ffi ffi action outcome → loop.Fits ffi.status →
      next.inst.conns conn = some outcome.next →
      (next.pc.conn? = some conn ∧ next.Fits outcome.next.status) ∨
        (next.pc.conn? = none ∧ outcome.next.status.Released)) : next.Owned := by
  obtain ⟨ffi, outcome, found, move, count, conns⟩ := Instance.step_call stepped
  obtain ⟨status, known, before⟩ := owned.held conn held
  have same : ffi.status = status := by simpa [Instance.statuses, found] using known
  have written : next.inst.conns conn = some outcome.next := by simp [conns]
  have here : next.inst.statuses conn = some outcome.next.status := by
    simp [Instance.statuses, written]
  have elsewhere : ∀ index, index ≠ conn →
      next.inst.statuses index = loop.inst.statuses index := by
    intro index other
    rw [Instance.statuses, conns, Function.update_of_ne other]
    rfl
  have after := fits ffi outcome move (same ▸ before) written
  refine ⟨?_, ?_, ?_⟩
  · intro index
    by_cases at_ : index = conn
    · subst at_
      rw [count, here, owned.fresh, known]
      simp
    · rw [count, elsewhere index at_]
      exact owned.fresh index
  · intro index now
    rcases after with ⟨still, fits⟩ | ⟨gone, _⟩
    · rw [still] at now
      cases now
      exact ⟨_, here, fits⟩
    · simp [gone] at now
  · intro index status lookup other
    by_cases at_ : index = conn
    · subst at_
      rw [here] at lookup
      cases lookup
      rcases after with ⟨still, _⟩ | ⟨_, released⟩
      · exact absurd still other
      · exact released
    · rw [elsewhere index at_] at lookup
      refine owned.released index status lookup ?_
      rw [held]
      rintro ⟨⟩
      exact at_ rfl

private theorem inCall_eq {inst : Instance} {conn : ℕ} {ffi : FFIConnection}
    (found : inst.conns conn = some ffi) : inCall inst conn = decide (ffi.call ≠ .idle) := by
  simp [inCall, found]

theorem poolConn_held {conn : ℕ} (pool : loop.poolConn = some conn) :
    loop.pc.conn? = some conn := by
  unfold poolConn at pool
  split at pool <;> simp_all [LoopPc.conn?]

private theorem Owned.created (owned : loop.Owned) {inst : Instance} (start : loop.pc = .creating)
    (stepped : loop.inst.step env.ffi .create = some inst) :
    ({ loop with
      inst
      native := loop.calling loop.inst.count .new
      handles := loop.handles ++ [loop.inst.count]
      pc := .configuring loop.inst.count
      lifecycle := .init } : RunLoop).Owned := by
  obtain ⟨count, conns⟩ := Instance.step_create stepped
  have here : inst.statuses loop.inst.count = some ⟨.init, .idle, false⟩ := by
    simp [Instance.statuses, conns, FFIConnection.status, FFIConnection.new]
  have elsewhere : ∀ index, index ≠ loop.inst.count →
      inst.statuses index = loop.inst.statuses index := by
    intro index other
    rw [Instance.statuses, conns, Function.update_of_ne other]
    rfl
  refine ⟨?_, ?_, ?_⟩
  · intro index
    show inst.count ≤ index ↔ inst.statuses index = none
    by_cases at_ : index = loop.inst.count
    · subst at_
      simp [here, count]
    · rw [elsewhere index at_, ← owned.fresh, count]
      omega
  · rintro index ⟨⟩
    exact ⟨_, here, rfl, rfl⟩
  · intro index status lookup other
    have at_ : index ≠ loop.inst.count := by
      rintro rfl
      exact other rfl
    refine owned.released index status ((elsewhere index at_).symm.trans lookup) ?_
    simp [start, LoopPc.conn?]

/-- `conn.Close` has returned and the connection is released. -/
private theorem closed_fits {conn : ℕ} {closer : Closer} (went : loop.Closed conn closer next)
    (cleanup : ∀ ws, closer = .session ws → loop.session.pc.stage = 1) :
    next.inst = loop.inst ∧ ((next.pc.conn? = some conn ∧ ∀ status, status.Released →
      next.Fits status) ∨ next.pc.conn? = none) := by
  cases went with
  | undialed | dialed => exact ⟨rfl, .inr rfl⟩
  | session stepped =>
      obtain ⟨stage, _⟩ := RunSession.step_close (cleanup _ rfl) stepped
      refine ⟨rfl, .inl ⟨rfl, ?_⟩⟩
      intro status released
      simpa [Fits, stage] using released

/-- Nobody else closes the connection at hand. -/
theorem Owned.closes_first (owned : loop.Owned) {conn : ℕ} {closer : Closer}
    (closes : loop.Closes conn closer) (err : LifecycleError) :
    loop.lifecycle.markClosed ≠ .error err := by
  intro marked
  have closed := (ConnLifecycle.markClosed_error marked).1
  cases closes with
  | attempt at_ =>
      obtain ⟨status, _, fits⟩ := owned.held _ (by rw [at_]; rfl)
      simp only [Fits, at_] at fits
      simp [fits.2, ConnLifecycle.init] at closed
  | session at_ cleanup =>
      obtain ⟨status, _, fits⟩ := owned.held _ (by rw [at_]; rfl)
      simp only [Fits, at_, cleanup, RunSessionPc.stage, le_refl, if_true] at fits
      simp [fits.2] at closed

private theorem Owned.attempt (owned : loop.Owned) (move : AttemptMove env loop next) :
    next.Owned := by
  cases move with
  | created at_ stepped => exact owned.created at_ stepped
  | notCreated at_ =>
      refine owned.leaves rfl rfl ?_
      intro status fits
      simp [Fits, at_] at fits
  | configured at_ stepped =>
      apply owned.calls (by rw [at_]; rfl) stepped
      intro ffi outcome move fits _
      simp only [Fits, at_] at fits
      exact .inl ⟨rfl, move.status_configured fits.1, fits.2⟩
  | dialed at_ | notDialed at_ | refused at_ =>
      refine owned.keeps rfl (fun _ => rfl) ?_ ?_
      · rw [at_]
        rfl
      · intro status fits
        simpa only [Fits, at_] using fits
  | called at_ _ _ marked stepped =>
      apply owned.calls (by rw [at_]; rfl) stepped
      intro ffi outcome move fits found
      simp only [Fits, at_] at fits
      have status := move.status_connecting fits.1
      have call := congrArg Status.call status
      simp only [FFIConnection.status] at call
      rw [if_pos (by simp [inCall_eq found, call])]
      exact .inl ⟨rfl, (ConnLifecycle.markConnected_ok marked).2, _, status⟩
  | marking at_ stepped inside =>
      apply owned.calls (by rw [at_]; rfl) stepped
      intro ffi outcome move fits found
      simp only [Fits, at_] at fits
      obtain ⟨_, endpointHostname, before⟩ := fits
      have call := congrArg Status.call (move.status_published before)
      simp only [FFIConnection.status] at call
      simp [inCall_eq found, call] at inside
  | established at_ stepped =>
      apply owned.calls (by rw [at_]; rfl) stepped
      intro ffi outcome move fits _
      simp only [Fits, at_] at fits
      obtain ⟨lifecycle, endpointHostname, before⟩ := fits
      refine .inl ⟨rfl, ?_⟩
      simp only [Fits, RunSession.init, RunSessionPc.stage, Nat.zero_le, if_true]
      exact ⟨move.status_published before, lifecycle⟩
  | wsClosed at_ =>
      refine owned.leaves rfl rfl ?_
      intro status fits
      simp [Fits, at_] at fits

private theorem Owned.closing (owned : loop.Owned) (move : ClosingMove env loop next) :
    next.Owned := by
  cases move with
  | closing closes marked =>
      obtain ⟨before, _⟩ := ConnLifecycle.markClosed_ok marked
      cases closes with
      | attempt at_ =>
          refine owned.keeps rfl (fun _ => rfl) (by rw [at_]; rfl) ?_
          intro status fits
          simp only [Fits, at_] at fits
          cases before.symm.trans fits.2
          exact ⟨fits.1, by simp⟩
      | session at_ cleanup =>
          refine owned.keeps rfl (fun _ => rfl) (by rw [at_]; rfl) ?_
          intro status fits
          simp only [Fits, at_, cleanup, RunSessionPc.stage, le_refl, if_true] at fits
          cases before.symm.trans fits.2
          exact ⟨fits.1, fun _ _ => by rw [cleanup]; rfl⟩
  | closedBefore closes marked => exact absurd marked (owned.closes_first closes _)
  | shutDown at_ =>
      refine owned.keeps rfl (fun _ => rfl) ?_ ?_
      · rw [at_]
        rfl
      · intro status fits
        simpa only [Fits, at_, ClosingPc.Fits] using fits
  | disconnecting at_ stepped =>
      apply owned.calls (by rw [at_]; rfl) stepped
      intro ffi outcome move fits found
      simp only [Fits, at_, ClosingPc.Fits, if_true] at fits
      have status := move.status_disconnecting fits.1
      have call := congrArg Status.call status
      simp only [FFIConnection.status] at call
      rw [if_pos (by simp [inCall_eq found, call])]
      refine .inl ⟨rfl, ?_, fits.2⟩
      rw [status]
      exact ⟨rfl, rfl, .inl rfl⟩
  | neverConnected at_ =>
      refine owned.keeps rfl (fun _ => rfl) ?_ ?_
      · rw [at_]
        rfl
      · intro status fits
        simp only [Fits, at_, ClosingPc.Fits] at fits ⊢
        obtain ⟨rfl, cleanup⟩ := fits
        exact ⟨⟨by simp, rfl⟩, cleanup⟩
  | disconnected at_ stepped =>
      apply owned.calls (by rw [at_]; rfl) stepped
      intro ffi outcome move fits found
      simp only [Fits, at_, ClosingPc.Fits] at fits
      rcases move.status_leaving fits.1 with leaving | left
      · have inside : ¬ outcome.next.call = .idle := by
          rcases leaving.2.2 with call | call <;> simp [FFIConnection.status] at call <;>
            simp [call]
        rw [if_pos (by simp [inCall_eq found, inside])]
        exact .inl ⟨rfl, leaving, fits.2⟩
      · have call := congrArg Status.call left
        simp only [FFIConnection.status] at call
        rw [if_neg (by simp [inCall_eq found, call])]
        refine .inl ⟨rfl, ?_, fits.2⟩
        rw [left]
        exact ⟨by simp, rfl⟩
  | @freed conn wasConnected closer inst _ at_ stepped went =>
      obtain ⟨_, _, fits⟩ := owned.held conn (by rw [at_]; rfl)
      simp only [Fits, at_] at fits
      obtain ⟨same, after⟩ := closed_fits went fits.2
      have stepped : loop.inst.step env.ffi (.ffi conn .free) = some next.inst := by
        rw [same]
        exact stepped
      apply owned.calls (by rw [at_]; rfl) stepped
      intro ffi outcome move fits _
      simp only [Fits, at_, ClosingPc.Fits] at fits
      have released := move.status_freed fits.1.1 fits.1.2
      rcases after with ⟨still, holds⟩ | gone
      · exact .inl ⟨still, holds _ released⟩
      · exact .inr ⟨gone, released⟩

private theorem Owned.serving (owned : loop.Owned) (move : ServingMove env loop next) :
    next.Owned := by
  cases move with
  | session at_ notClose _ stepped =>
      refine owned.keeps rfl (fun _ => rfl) rfl ?_
      intro status fits
      simpa only [Fits, at_, RunSession.step_early notClose stepped] using fits
  | background at_ notMain stepped =>
      refine owned.keeps rfl (fun _ => rfl) rfl ?_
      intro status fits
      simpa only [Fits, at_, (RunSession.step_background notMain stepped).1] using fits
  | delivered at_ _ _ stepped returned =>
      apply owned.calls (by rw [at_]; rfl) stepped
      intro ffi outcome move fits _
      rw [move.status_kept (.inr (.inl ⟨_, rfl⟩))]
      refine .inl ⟨by rw [at_]; rfl, ?_⟩
      simpa only [Fits, at_, RunSession.step_early (by simp) returned] using fits
  | hungUp at_ stepped =>
      refine owned.keeps rfl (fun _ => rfl) rfl ?_
      intro status fits
      simpa only [Fits, at_, RunSession.step_early (by simp) stepped] using fits
  | ended at_ returned =>
      refine owned.leaves rfl rfl ?_
      intro status fits
      simpa [Fits, at_, returned, RunSessionPc.stage] using fits

private theorem Owned.pausing (owned : loop.Owned) (move : PauseMove loop next) :
    next.Owned := by
  cases move with
  | stopped at_ | waiting at_ | woken at_ | interrupted at_ =>
      refine owned.leaves rfl rfl ?_
      intro status fits
      simp [Fits, at_] at fits

theorem Owned.go (owned : loop.Owned) (move : RunMove env loop next) : next.Owned := by
  cases move with
  | reported pool stepped =>
      apply owned.calls (poolConn_held pool) stepped
      intro ffi outcome move fits _
      rw [move.status_kept (.inr (.inr ⟨_, _, rfl⟩))]
      exact .inl ⟨poolConn_held pool, fits⟩
  | attempt moved => exact owned.attempt moved
  | close moved => exact owned.closing moved
  | serve moved => exact owned.serving moved
  | pause moved => exact owned.pausing moved

end Owned

end RunLoop

/-! ## Websockets -/

def Closer.ws? : Closer → Option ℕ
  | .attempt ws => ws
  | .session ws => some ws

def Closer.isSession : Closer → Bool
  | .attempt _ => false
  | .session _ => true

/-- The websocket that the loop has in its hands. -/
def LoopPc.ws? : LoopPc → Option ℕ
  | .connecting _ ws | .marking _ ws | .serving _ ws | .closingWs _ ws => some ws
  | .abandoning _ ws => ws
  | .closing _ _ _ closer => closer.ws?
  | .creating | .configuring _ | .dialing _ | .ended _ | .sleeping _ | .returned => none

/-- A session has the websocket, and closes it itself. -/
def LoopPc.inSession : LoopPc → Bool
  | .serving _ _ => true
  | .closing _ _ _ closer => closer.isSession
  | _ => false

namespace RunLoop

/-- Every websocket but the one at hand was closed once. -/
structure Hung (loop : RunLoop) : Prop where
  known : ∀ ws ∈ loop.closeNows, ws < loop.dialed
  once : loop.closeNows.Nodup
  closed : ∀ ws < loop.dialed, loop.pc.ws? ≠ some ws → ws ∈ loop.closeNows
  held : ∀ ws, loop.pc.ws? = some ws → ws < loop.dialed ∧
    (ws ∈ loop.closeNows ↔ loop.pc.inSession = true ∧ loop.session.wsClosed = true)

section Hung

variable {env : LoopEnv} {loop next : RunLoop}

theorem hung_init : RunLoop.init.Hung :=
  ⟨by simp [init], by simp [init], by simp [init], by simp [init, LoopPc.ws?]⟩

private theorem Hung.keeps (hung : loop.Hung) (dialed : next.dialed = loop.dialed)
    (closeNows : next.closeNows = loop.closeNows) (ws : next.pc.ws? = loop.pc.ws?)
    (same : ∀ ws, loop.pc.ws? = some ws →
      ((next.pc.inSession = true ∧ next.session.wsClosed = true) ↔
        (loop.pc.inSession = true ∧ loop.session.wsClosed = true))) : next.Hung := by
  refine ⟨?_, ?_, ?_, ?_⟩
  · rw [closeNows, dialed]
    exact hung.known
  · rw [closeNows]
    exact hung.once
  · rw [closeNows, dialed, ws]
    exact hung.closed
  · intro socket held
    rw [ws] at held
    rw [closeNows, dialed, same socket held]
    exact hung.held socket held

/-- The websocket at hand is closed. -/
private theorem Hung.hangs {ws : ℕ} (hung : loop.Hung) (held : loop.pc.ws? = some ws)
    (alive : ¬ (loop.pc.inSession = true ∧ loop.session.wsClosed = true))
    (dialed : next.dialed = loop.dialed) (closeNows : next.closeNows = loop.closeNows ++ [ws])
    (after : next.pc.ws? = none ∨
      (next.pc.ws? = some ws ∧ next.pc.inSession = true ∧ next.session.wsClosed = true)) :
    next.Hung := by
  obtain ⟨bound, closes⟩ := hung.held ws held
  refine ⟨?_, ?_, ?_, ?_⟩
  · intro socket member
    rw [closeNows, List.mem_append, List.mem_singleton] at member
    rw [dialed]
    rcases member with earlier | rfl
    · exact hung.known socket earlier
    · exact bound
  · rw [closeNows, List.nodup_append]
    refine ⟨hung.once, List.nodup_singleton _, ?_⟩
    rintro socket earlier _ single rfl
    rw [List.mem_singleton.mp single] at earlier
    exact alive (closes.mp earlier)
  · intro socket known _
    rw [dialed] at known
    rw [closeNows, List.mem_append, List.mem_singleton]
    by_cases same : socket = ws
    · exact .inr same
    · refine .inl (hung.closed socket known ?_)
      rw [held]
      rintro ⟨⟩
      exact same rfl
  · intro socket now
    rcases after with gone | ⟨still, inside, shut⟩
    · simp [gone] at now
    · rw [still] at now
      cases now
      rw [dialed, closeNows]
      exact ⟨bound, iff_of_true (by simp) ⟨inside, shut⟩⟩

private theorem closed_ws {conn : ℕ} {closer : Closer} (went : loop.Closed conn closer next) :
    next.dialed = loop.dialed ∧ next.closeNows = loop.closeNows ∧
      next.pc.ws? = closer.ws? ∧
      next.pc.inSession = closer.isSession ∧
      next.session.wsClosed = loop.session.wsClosed := by
  cases went with
  | undialed | dialed => exact ⟨rfl, rfl, rfl, rfl, rfl⟩
  | session stepped => exact ⟨rfl, rfl, rfl, rfl, RunSession.step_wsClosed (by simp) stepped⟩

private theorem closes_ws {conn : ℕ} {closer : Closer} (closes : loop.Closes conn closer) :
    closer.ws? = loop.pc.ws? ∧
      closer.isSession = loop.pc.inSession := by
  cases closes with
  | attempt at_ | session at_ => exact ⟨by rw [at_]; rfl, by rw [at_]; rfl⟩

private theorem Hung.attempt (hung : loop.Hung) (move : AttemptMove env loop next) :
    next.Hung := by
  cases move with
  | created at_ | notCreated at_ | configured at_ | notDialed at_ =>
      refine hung.keeps rfl rfl (by rw [at_]; rfl) ?_
      intro ws held
      simp [at_, LoopPc.ws?] at held
  | dialed at_ =>
      refine ⟨?_, hung.once, ?_, ?_⟩
      · intro ws member
        exact Nat.lt_succ_of_lt (hung.known ws member)
      · intro ws known other
        have other : ws ≠ loop.dialed := by
          rintro rfl
          exact other rfl
        refine hung.closed ws (by have : ws < loop.dialed + 1 := known; omega) ?_
        simp [at_, LoopPc.ws?]
      · rintro ws ⟨⟩
        refine ⟨Nat.lt_succ_self _, iff_of_false ?_ (by simp [LoopPc.inSession])⟩
        intro member
        exact Nat.lt_irrefl _ (hung.known _ member)
  | refused at_ =>
      refine hung.keeps rfl rfl (by rw [at_]; rfl) ?_
      intro ws held
      simp [at_, LoopPc.inSession]
  | called at_ =>
      refine hung.keeps rfl rfl ?_ ?_
      · rw [at_]
        split <;> rfl
      · intro ws held
        rw [at_]
        split <;> simp [LoopPc.inSession]
  | marking at_ => exact hung.keeps rfl rfl rfl (fun _ _ => Iff.rfl)
  | established at_ =>
      refine hung.keeps rfl rfl (by rw [at_]; rfl) ?_
      intro ws held
      simp [at_, LoopPc.inSession, RunSession.init]
  | wsClosed at_ =>
      refine hung.hangs (by rw [at_]; rfl) ?_ rfl rfl (.inl rfl)
      simp [at_, LoopPc.inSession]

private theorem Hung.closing (hung : loop.Hung) (move : ClosingMove env loop next) :
    next.Hung := by
  cases move with
  | closing closes =>
      obtain ⟨ws, inside⟩ := closes_ws closes
      refine hung.keeps rfl rfl ?_ ?_
      · rw [← ws]
        rfl
      · intro _ _
        rw [← inside]
        rfl
  | closedBefore closes _ went =>
      obtain ⟨ws, inside⟩ := closes_ws closes
      obtain ⟨dialed, closeNows, after, still, shut⟩ := closed_ws went
      refine hung.keeps dialed closeNows (after.trans ws) ?_
      intro _ _
      rw [still, inside, shut]
  | shutDown at_ | disconnecting at_ | neverConnected at_ | disconnected at_ =>
      refine hung.keeps rfl rfl ?_ ?_
      · rw [at_]
        rfl
      · intro _ _
        rw [at_]
        rfl
  | freed at_ _ went =>
      obtain ⟨dialed, closeNows, after, still, shut⟩ := closed_ws went
      refine hung.keeps dialed closeNows ?_ ?_
      · rw [after, at_]
        rfl
      · intro _ _
        rw [still, shut, at_]
        rfl

private theorem Hung.serving (hung : loop.Hung) (flagged : loop.session.Flagged)
    (move : ServingMove env loop next) : next.Hung := by
  cases move with
  | session _ _ notCloseNow stepped =>
      refine hung.keeps rfl rfl rfl ?_
      intro _ _
      rw [RunSession.step_wsClosed notCloseNow stepped]
  | background _ notMain stepped =>
      refine hung.keeps rfl rfl rfl ?_
      intro _ _
      rw [(RunSession.step_background notMain stepped).2]
  | delivered _ _ _ _ returned =>
      refine hung.keeps rfl rfl rfl ?_
      intro _ _
      rw [RunSession.step_wsClosed (by simp) returned]
  | hungUp at_ stepped =>
      obtain ⟨before, _, shut⟩ := RunSession.step_closeNow stepped
      refine hung.hangs (by rw [at_]; rfl) ?_ rfl rfl
        (.inr ⟨by rw [at_]; rfl, by rw [at_]; rfl, shut⟩)
      rintro ⟨_, already⟩
      have late := flagged.wsClosed.mp already
      omega
  | @ended conn ws _ _ at_ returned =>
      have shut : loop.session.wsClosed = true :=
        flagged.wsClosed.mpr (by simp [returned, RunSessionPc.stage])
      refine ⟨hung.known, hung.once, ?_, by simp [LoopPc.ws?]⟩
      intro socket known _
      by_cases held : loop.pc.ws? = some socket
      · exact (hung.held socket held).2.mpr ⟨by rw [at_]; rfl, shut⟩
      · exact hung.closed socket known held

private theorem Hung.pausing (hung : loop.Hung) (move : PauseMove loop next) : next.Hung := by
  cases move with
  | stopped at_ | waiting at_ | woken at_ | interrupted at_ =>
      refine hung.keeps rfl rfl (by rw [at_]; rfl) ?_
      intro ws held
      simp [at_, LoopPc.ws?] at held

theorem Hung.go (hung : loop.Hung) (flagged : loop.session.Flagged)
    (move : RunMove env loop next) : next.Hung := by
  cases move with
  | reported => exact hung.keeps rfl rfl rfl (fun _ _ => Iff.rfl)
  | attempt moved => exact hung.attempt moved
  | close moved => exact hung.closing moved
  | serve moved => exact hung.serving flagged moved
  | pause moved => exact hung.pausing moved

end Hung

/-! ## Every run -/

/-- A session is one of those that `runSession` is known to go through. -/
theorem session_go {env : LoopEnv} {loop next : RunLoop}
    (reached : RunSession.system.Reachable loop.session) (move : RunMove env loop next) :
    RunSession.system.Reachable next.session := by
  have moved : ∀ {before after : RunSession} {action : RunSessionAct},
      RunSession.system.Reachable before → before.step action = some after →
        RunSession.system.Reachable after := by
    intro before after action reached stepped
    exact reached.step (show RunSession.system.step before action = some after from stepped)
  cases move with
  | reported => exact reached
  | attempt move =>
      cases move with
      | established =>
          have start : RunSession.system.Reachable .init := ⟨.init, rfl, .refl⟩
          cases done : loop.ctxDone with
          | false => exact start
          | true =>
              have stepped : RunSession.system.step .init (.env .cancelCtx) =
                some { RunSession.init with ctxDone := true } := rfl
              exact start.step stepped
      | created | notCreated | configured | dialed | notDialed | refused | called | marking
      | wsClosed => exact reached
  | close move =>
      cases move with
      | closedBefore _ _ went | freed _ _ went =>
          cases went with
          | undialed | dialed => exact reached
          | session stepped => exact moved reached stepped
      | closing | shutDown | disconnecting | neverConnected | disconnected => exact reached
  | serve move =>
      cases move with
      | session _ _ _ stepped | background _ _ stepped | delivered _ _ _ _ stepped
      | hungUp _ stepped => exact moved reached stepped
      | ended => exact reached
  | pause move => cases move <;> exact reached

structure Sound (loop : RunLoop) : Prop where
  owned : loop.Owned
  hung : loop.Hung
  session : RunSession.system.Reachable loop.session
  stopped : loop.pc = .returned → loop.ctxDone = true

private theorem stopped_go {env : LoopEnv} {loop next : RunLoop} (move : RunMove env loop next)
    (stopped : loop.pc = .returned → loop.ctxDone = true) (returned : next.pc = .returned) :
    next.ctxDone = true := by
  cases move with
  | reported => exact stopped returned
  | attempt move =>
      cases move with
      | marking => exact stopped returned
      | called =>
          simp only at returned
          split at returned <;> cases returned
      | created | notCreated | configured | dialed | notDialed | refused | established
      | wsClosed => cases returned
  | close move =>
      cases move with
      | closedBefore _ _ went | freed _ _ went => cases went <;> cases returned
      | closing | shutDown | disconnecting | neverConnected | disconnected => cases returned
  | serve move =>
      cases move with
      | session | background | delivered | hungUp => exact stopped returned
      | ended => cases returned
  | pause move =>
      cases move with
      | stopped _ done | interrupted _ done => exact done
      | waiting | woken => cases returned

theorem sound {env : LoopEnv} {loop : RunLoop} (reached : (runLoop env).Reachable loop) :
    loop.Sound := by
  refine reached.invariant Sound ?_ ?_
  · rintro _ rfl
    exact ⟨owned_init, hung_init, ⟨.init, rfl, .refl⟩, by simp [init]⟩
  · intro before action after _ sound stepped
    cases step_move stepped with
    | cancelled =>
        have told : RunSession.system.step before.session (.env .cancelCtx) =
          some { before.session with ctxDone := true } := rfl
        exact ⟨sound.owned.keeps rfl (fun _ => rfl) rfl fun _ => id,
          sound.hung.keeps rfl rfl rfl fun _ _ => Iff.rfl, sound.session.step told, fun _ => rfl⟩
    | go moved =>
        have flagged := (RunSession.sound sound.session).flagged
        exact ⟨sound.owned.go moved, sound.hung.go flagged moved, session_go sound.session moved,
          stopped_go moved sound.stopped⟩
    | tasks own moved =>
        obtain ⟨count, same⟩ := Instance.step_tasks own moved
        exact ⟨sound.owned.keeps count same rfl fun _ => id,
          sound.hung.keeps rfl rfl rfl fun _ _ => Iff.rfl, sound.session, sound.stopped⟩

end RunLoop

/-! ## Resources -/

theorem RunLoop.Owned.freed {loop : RunLoop} (owned : loop.Owned) {index : ℕ}
    (known : index < loop.inst.count) (other : loop.pc.conn? ≠ some index) :
    ∃ ffi, loop.inst.conns index = some ffi ∧ ffi.freed = true ∧ ffi.state ≠ .connected := by
  cases found : loop.inst.conns index with
  | none =>
      have absent : loop.inst.statuses index = none := by rw [Instance.statuses, found]; rfl
      have late := (owned.fresh index).mpr absent
      omega
  | some ffi =>
      have status : loop.inst.statuses index = some ffi.status := by
        rw [Instance.statuses, found]
        rfl
      obtain ⟨freed, state, _⟩ := owned.released index ffi.status status other
      exact ⟨ffi, rfl, freed, state⟩

theorem RunLoop.Hung.closedOnce {loop : RunLoop} (hung : loop.Hung) {ws : ℕ}
    (known : ws < loop.dialed) (other : loop.pc.ws? ≠ some ws) : loop.closeNows.count ws = 1 :=
  List.count_eq_one_of_mem hung.once (hung.closed ws known other)

/-- Every connection that was made and every websocket that was dialed is let go
of, but for the one at hand. The loop has nothing left when it returns, which it
does only after it was told to. -/
theorem run_releases (env : LoopEnv) (loop : RunLoop) (reached : (runLoop env).Reachable loop) :
    (∀ index < loop.inst.count, loop.pc.conn? ≠ some index →
      ∃ ffi, loop.inst.conns index = some ffi ∧ ffi.freed = true ∧ ffi.state ≠ .connected) ∧
    (∀ ws < loop.dialed, loop.pc.ws? ≠ some ws → loop.closeNows.count ws = 1) ∧
    (∀ ws, loop.closeNows.count ws ≤ 1 ∧ (ws ∈ loop.closeNows → ws < loop.dialed)) ∧
    (loop.pc = .returned → loop.ctxDone = true ∧
      (∀ index < loop.inst.count, ∃ ffi, loop.inst.conns index = some ffi ∧ ffi.freed = true) ∧
      ∀ ws < loop.dialed, loop.closeNows.count ws = 1) := by
  obtain ⟨owned, hung, _, stopped⟩ := RunLoop.sound reached
  refine ⟨fun index => owned.freed, fun ws => hung.closedOnce, ?_, ?_⟩
  · exact fun ws => ⟨List.nodup_iff_count_le_one.mp hung.once ws, hung.known ws⟩
  · intro returned
    refine ⟨stopped returned, ?_, ?_⟩
    · intro index known
      obtain ⟨ffi, found, freed, _⟩ := owned.freed known (by simp [returned, LoopPc.conn?])
      exact ⟨ffi, found, freed⟩
    · exact fun ws known => hung.closedOnce known (by simp [returned, LoopPc.ws?])

/-- Create a connection, dial, and connect it. -/
def establish : List LoopAct := List.replicate 5 (.loop .ok)

/-- The backend hangs up, and the session closes the connection and returns. -/
def hangUp : List LoopAct := List.flatten [
  [.session (.worker (.read .failed)), .session (.worker .closeMessages),
    .session (.main .takeIncoming), .session (.main .close)],
  List.replicate 4 (.loop .ok),
  [.library (.ffi 0 (.native .ioTask)), .library (.ffi 0 (.native .dispatchTask))],
  List.replicate 4 (.loop .ok),
  [.session (.main .drainNext), .session (.main .closeNow), .session (.main .cancelRead),
    .session (.worker .done), .session (.main .wait), .loop (.took 1)]]

theorem run_releases_hangUp : ∃ loop,
    (runLoop fixtureLoopEnv).run .init (establish ++ hangUp ++ [.cancel, .loop .ok]) = some loop ∧
      loop.pc = .returned ∧ loop.dialed = 1 ∧ loop.closeNows.count 0 = 1 := by
  obtain ⟨loop, ran, returned, dialed⟩ : ∃ loop,
      (runLoop fixtureLoopEnv).run .init (establish ++ hangUp ++ [.cancel, .loop .ok]) =
        some loop ∧ loop.pc = .returned ∧ loop.dialed = 1 := ⟨_, rfl, rfl, rfl⟩
  have reached := System.reachable_of_run rfl ran
  obtain ⟨_, _, _, ended⟩ := run_releases fixtureLoopEnv loop reached
  exact ⟨loop, ran, returned, dialed, (ended returned).2.2 0 (by omega)⟩

end LibddRc.Go
