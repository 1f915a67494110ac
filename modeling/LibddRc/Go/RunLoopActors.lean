import LibddRc.Go.RunLoopSafety

/-! The connection loop is a host that connects one connection at a time, which is
what the event handler of the client library needs to keep the actors of two
connections apart. -/

set_option autoImplicit false

namespace LibddRc.Go

open Foundation Ffi

namespace RunLoop

/-- The actors meet no panic. -/
def Unhindered (env : LoopEnv) (loop : RunLoop) : LoopAct → Prop
  | .library (.ffi index action) =>
      ∀ ffi ∈ loop.inst.conns index, action.Unhindered env.ffi ffi
  | .library .create | .library .update | .library .joined | .cancel | .report _ _ | .loop _
  | .session _ => True

instance (env : LoopEnv) (loop : RunLoop) (action : LoopAct) :
    Decidable (loop.Unhindered env action) :=
  match action with
  | .library (.ffi index action) => inferInstanceAs (Decidable (
      ∀ ffi ∈ loop.inst.conns index, action.Unhindered env.ffi ffi))
  | .library .create | .library .update | .library .joined | .cancel | .report _ _ | .loop _
  | .session _ => isTrue trivial

section OneAtATime

variable {env : LoopEnv} {loop next : RunLoop}

/-- A connection is at hand when it is connected or still in use. -/
theorem Owned.at_hand (owned : loop.Owned) {index : ℕ} {ffi : FFIConnection}
    (found : loop.inst.conns index = some ffi) (opened : ffi.Open) :
    loop.pc.conn? = some index := by
  by_contra other
  have status : loop.inst.statuses index = some ffi.status := by
    rw [Instance.statuses, found]
    rfl
  exact (owned.released index ffi.status status other).not_open opened

private theorem Closed.inst {conn : ℕ} {closer : Closer} (went : loop.Closed conn closer next) :
    next.inst = loop.inst := by
  cases went <;> rfl

/-- What `conn.Close` does to the instance is allowed to any host. -/
private theorem inst_closing (move : ClosingMove env loop next) :
    next.inst = loop.inst ∨ ∃ action, loop.inst.OneAtATime env.ffi action ∧
      loop.inst.step env.ffi action = some next.inst := by
  cases move with
  | disconnecting _ stepped | disconnected _ stepped =>
      refine .inr ⟨_, ?_, stepped⟩
      exact fun _ _ => trivial
  | freed _ stepped went =>
      refine .inr ⟨_, ?_, stepped.trans (congrArg some went.inst.symm)⟩
      exact fun _ _ => trivial
  | closedBefore _ _ went => exact .inl went.inst
  | closing | shutDown | neverConnected => exact .inl rfl

/-- What a goroutine does to the instance is allowed to a host that connects one
connection at a time. -/
private theorem inst_go (owned : loop.Owned) (move : RunMove env loop next) :
    next.inst = loop.inst ∨ ∃ action, loop.inst.OneAtATime env.ffi action ∧
      loop.inst.step env.ffi action = some next.inst := by
  cases move with
  | reported _ stepped =>
      refine .inr ⟨_, ?_, stepped⟩
      exact fun _ _ => trivial
  | attempt move =>
      cases move with
      | configured _ stepped | marking _ stepped | established _ stepped =>
          refine .inr ⟨_, ?_, stepped⟩
          exact fun _ _ => trivial
      | created _ stepped =>
          refine .inr ⟨_, ?_, stepped⟩
          trivial
      | called at_ _ _ _ stepped =>
          refine .inr ⟨_, ?_, stepped⟩
          intro other _ elsewhere peer found opened
          have held := owned.at_hand found opened
          rw [at_] at held
          cases held
          exact elsewhere rfl
      | notCreated | dialed | notDialed | refused | wsClosed => exact .inl rfl
  | close move => exact inst_closing move
  | serve move =>
      cases move with
      | delivered _ _ _ stepped =>
          refine .inr ⟨_, ?_, stepped⟩
          exact fun _ _ => trivial
      | session | background | hungUp | ended => exact .inl rfl
  | pause move =>
      cases move with
      | stopped | waiting | woken | interrupted => exact .inl rfl

private theorem tasks_oneAtATime {action : InstanceAct} (own : action.byTasks = true)
    (unhindered : loop.Unhindered env (.library action)) :
    loop.inst.OneAtATime env.ffi action := by
  cases action with
  | create | update | joined => trivial
  | ffi index action =>
      cases action with
      | native action => exact unhindered
      | sendCallback | connected | recv | disconnected | report | free | resume => cases own

theorem inst_reachable (reached : (runLoop env).Reachable loop) :
    (ctx env.ffi).Reachable loop.inst := by
  refine System.ReachableBy.project RunLoop.inst (fun _ => True) ?_ ?_ reached trivial
  · rintro _ rfl
    rfl
  · intro before action after earlier _ stepped _
    refine ⟨trivial, ?_⟩
    cases step_move stepped with
    | cancelled => exact .inl rfl
    | go moved =>
        rcases inst_go (sound earlier).owned moved with same | ⟨act, _, called⟩
        · exact .inl same
        · exact .inr ⟨act, trivial, called⟩
    | tasks _ moved => exact .inr ⟨_, trivial, moved⟩

theorem inst_oneAtATime (reached : (runLoop env).ReachableBy (Unhindered env) loop) :
    (ctx env.ffi).ReachableBy (Instance.OneAtATime env.ffi) loop.inst := by
  refine reached.project RunLoop.inst (fun _ => True) ?_ ?_ trivial
  · rintro _ rfl
    rfl
  · intro before action after earlier unhindered stepped _
    refine ⟨trivial, ?_⟩
    cases step_move stepped with
    | cancelled => exact .inl rfl
    | go moved => exact inst_go (sound earlier.reachable).owned moved
    | tasks own moved => exact .inr ⟨_, tasks_oneAtATime own unhindered, moved⟩

end OneAtATime

/-- The connection of a session is connected until the session closes it. -/
theorem Owned.connected {loop : RunLoop} {conn ws : ℕ} (owned : loop.Owned)
    (serving : loop.pc = .serving conn ws) (inLoop : loop.session.pc.inLoop = true) :
    ∃ ffi, loop.inst.conns conn = some ffi ∧ ffi.state = .connected ∧ ffi.call = .idle := by
  obtain ⟨status, found, fits⟩ := owned.held conn (by rw [serving]; rfl)
  have early : loop.session.pc.stage ≤ 1 := by
    have first := (RunSessionPc.inLoop_iff _).mp inLoop
    omega
  simp only [Fits, serving, early, if_true] at fits
  obtain ⟨ffi, known, rfl⟩ := Option.map_eq_some_iff.mp found
  exact ⟨ffi, known, congrArg Status.state fits.1, congrArg Status.call fits.1⟩

end RunLoop

/-- While a session exchanges messages, the actor of its connection is neither
told to stop nor ended, and it is the active one as soon as the updates are
processed. The event handler never has an active connection that the loop has
let go of. -/
theorem session_owns_actor (env : LoopEnv) (loop : RunLoop)
    (reached : (runLoop env).ReachableBy (RunLoop.Unhindered env) loop) :
    (∀ conn ws, loop.pc = .serving conn ws → loop.session.pc.inLoop = true →
      (∀ ffi native, loop.inst.conns conn = some ffi → ffi.conn = some native →
        native.stop = false ∧ ¬ native.actor.Ended) ∧
      (loop.inst.updates = [] →
        loop.inst.handler.activeConn = some conn ∧ loop.inst.spawned conn = true)) ∧
    (loop.inst.updates = [] → ∀ index, loop.inst.handler.activeConn = some index →
      loop.pc.conn? = some index) := by
  have owned := (RunLoop.sound reached.reachable).owned
  have isolated := isolated_of_reachable (RunLoop.inst_oneAtATime reached)
  constructor
  · intro conn ws serving inLoop
    obtain ⟨ffi, found, state, idle⟩ := owned.connected serving inLoop
    constructor
    · intro other native same held
      rw [found] at same
      cases same
      have going : ¬ (native.stop = true ∨ native.actor.Ended) := by
        intro finished
        have gone := isolated.disconnected found held finished
        simp [state] at gone
      obtain ⟨unstopped, running⟩ := not_or.mp going
      exact ⟨Bool.eq_false_iff.mpr unstopped, running⟩
    · intro processed
      have active := isolated.activeConn processed found (.inl ⟨state, idle⟩)
      exact ⟨active, isolated.active conn active⟩
  · intro processed index active
    obtain ⟨current, agrees, shown⟩ := isolated.agrees
    rw [processed, active] at agrees
    cases agrees
    obtain ⟨ffi, found, announced⟩ := (shown index).mp rfl
    exact owned.at_hand found announced.open_

/-- The event handler takes the two updates of a new connection. -/
def established : List LoopAct := establish ++ [.library .update, .library .update]

theorem session_owns_actor_established : ∃ loop,
    (runLoop fixtureLoopEnv).run .init established = some loop ∧ loop.pc = .serving 0 0 ∧
      loop.inst.handler.activeConn = some 0 := by
  obtain ⟨loop, ran, serving, inLoop, processed⟩ : ∃ loop,
      (runLoop fixtureLoopEnv).run .init established = some loop ∧ loop.pc = .serving 0 0 ∧
        loop.session.pc.inLoop = true ∧ loop.inst.updates = [] := ⟨_, rfl, rfl, rfl, rfl⟩
  have conforms : (runLoop fixtureLoopEnv).Conforms (RunLoop.Unhindered fixtureLoopEnv) .init
      established := by decide
  have reached := System.reachableBy_of_run rfl conforms ran
  obtain ⟨owns, _⟩ := session_owns_actor fixtureLoopEnv loop reached
  exact ⟨loop, ran, serving, ((owns 0 0 serving inLoop).2 processed).1⟩

end LibddRc.Go
