import LibddRc.Ffi.Connection

/-! The lifecycle of one `FFIConnection` over every sequence of calls: the
events it publishes, and what becomes of calls that its state does not allow. -/

set_option autoImplicit false

namespace LibddRc.Ffi

open Foundation

/-- An `FFIConnection` with the events it has published. -/
structure Tracked where
  ffi : FFIConnection
  published : List ConnectionEvent

def Tracked.step (env : FfiEnv) (tracked : Tracked) (action : FfiAct) : Option Tracked :=
  (tracked.ffi.step env action).map fun outcome =>
    ⟨outcome.next, tracked.published ++ outcome.events⟩

/-- Every sequence of calls on one `FFIConnection`, with its tasks, its actor and
the callbacks running at any time in between and meanwhile. -/
def lifecycle (env : FfiEnv) : System Tracked FfiAct where
  initial tracked := tracked = ⟨.new, [.init]⟩
  step := Tracked.step env

/-! ## Stages -/

/-- The stages of a connection's life, by its state, the call under way and
whether it was freed, each with the events published by then. -/
inductive Stage : State → CallPc → Bool → List ConnectionEvent → Prop
  | init : Stage .init .idle false [.init]
  | configured {send : SendCallback} : Stage (.configured send) .idle false [.init]
  | connecting {endpointHostname : String} :
      Stage .connected (.publishing endpointHostname) false [.init]
  | connected {endpointHostname : String} :
      Stage .connected .idle false [.init, .connected endpointHostname]
  | disconnecting {endpointHostname : String} :
      Stage .disconnected .disconnecting false [.init, .connected endpointHostname]
  | disconnected {call : CallPc} {endpointHostname : String} :
      call = .idle ∨ call = .returning →
      Stage .disconnected call false [.init, .connected endpointHostname, .disconnected]
  | released {state : State} : state ≠ .connected → state ≠ .disconnected →
      Stage state .idle true [.init, .release]
  | releasedLate {endpointHostname : String} :
      Stage .disconnected .idle true
        [.init, .connected endpointHostname, .disconnected, .release]

def Tracked.AtStage (tracked : Tracked) : Prop :=
  Stage tracked.ffi.state tracked.ffi.call tracked.ffi.freed tracked.published

section Stages

variable {env : FfiEnv} {ffi : FFIConnection} {published : List ConnectionEvent}

/-- A call starts in one of the stages in which none is under way. -/
private theorem stage_freed (stage : Stage ffi.state .idle false published)
    (shut : ffi.state ≠ .connected) :
    Stage ffi.state .idle true (published ++ [.release]) := by
  cases state : ffi.state with
  | connected => exact absurd state shut
  | init =>
      rw [state] at stage
      cases stage
      exact .released (by simp) (by simp)
  | configured send =>
      rw [state] at stage
      cases stage
      exact .released (by simp) (by simp)
  | disconnected =>
      rw [state] at stage
      cases stage
      exact .releasedLate

theorem FfiMove.stage {action : FfiAct} {outcome : Outcome} (move : FfiMove env ffi action outcome)
    (stage : Stage ffi.state ffi.call ffi.freed published) :
    Stage outcome.next.state outcome.next.call outcome.next.freed
      (published ++ outcome.events) := by
  cases move with
  | refused | received | receivedNothing | reported | reportDropped | unlinked | native =>
      simpa using stage
  | configured idle held before =>
      rw [idle, held] at stage ⊢
      rcases before with state | ⟨old, state⟩
      · rw [state] at stage
        cases stage
        exact .configured
      · rw [state] at stage
        cases stage
        exact .configured
  | connecting idle held state =>
      rw [idle, held, state] at stage
      cases stage
      rw [held]
      exact .connecting
  | disconnecting idle held state =>
      rw [idle, held, state] at stage
      cases stage
      rw [held]
      exact .disconnecting
  | freed idle held shut =>
      rw [idle, held] at stage
      rw [idle]
      exact stage_freed stage shut
  | published call held =>
      rw [call, held] at stage
      rw [held]
      generalize ffi.state = state at stage ⊢
      cases stage with
      | connecting => exact .connected
      | disconnected other => simp at other
  | announced call held =>
      rw [call, held] at stage
      rw [held]
      generalize ffi.state = state at stage ⊢
      cases stage with
      | disconnecting => exact .disconnected (.inr rfl)
      | disconnected other => simp at other
  | returned call held =>
      rw [call, held] at stage
      rw [held]
      generalize ffi.state = state at stage ⊢
      cases stage with
      | disconnected => simpa using Stage.disconnected (.inl rfl)

theorem Stage.ordered {state : State} {call : CallPc} {freed : Bool}
    (stage : Stage state call freed published) :
    (∃ endpointHostname, published <+:
      [.init, .connected endpointHostname, .disconnected, .release]) ∨
    published <+: [.init, .release] := by
  cases stage with
  | init | configured | connecting | released => exact .inr (by decide)
  | @connected endpointHostname | @disconnecting endpointHostname
  | @disconnected _ endpointHostname | @releasedLate endpointHostname =>
      exact .inl ⟨endpointHostname, by simp [List.cons_prefix_cons]⟩

end Stages

/-! ## Calls the state does not allow -/

section Calls

variable {env : FfiEnv} {ffi : FFIConnection}

private theorem start_refused {action : FfiAct} (release : env.build = .release)
    (invalid : action.validIn ffi.state = false) :
    ffi.start env action = some ⟨ffi, [], some action.refusal⟩ := by
  have refuses : ∀ message ret, env.invalidState message ret = ret := by
    intro message ret
    simp [FfiEnv.invalidState, release]
  obtain ⟨state, conn, call, freed⟩ := ffi
  cases action with
  | sendCallback send =>
      cases state <;> simp_all [FfiAct.validIn, State.isConfigured, FFIConnection.start,
        FFIConnection.setSendCallback, FfiAct.refusal]
  | connected endpointHostname =>
      cases state <;> simp_all [FfiAct.validIn, State.isConfigured, FFIConnection.start,
        FFIConnection.setConnected, FfiAct.refusal]
  | recv data =>
      cases state <;> simp_all [FfiAct.validIn, FFIConnection.start, FFIConnection.rcConnRecv,
        FFIConnection.recvIncoming, FfiAct.refusal]
  | disconnected =>
      cases state <;> simp_all [FfiAct.validIn, FFIConnection.start,
        FFIConnection.setDisconnected, FfiAct.refusal]
  | free =>
      cases state <;> simp_all [FfiAct.validIn, FFIConnection.start, FFIConnection.free,
        FfiAct.refusal]
  | report | resume | native => cases invalid

/-- An `FFIConnection` that a call can be made on steps by starting the call. -/
private theorem step_start {action : FfiAct} (idle : ffi.call = .idle) (held : ffi.freed = false)
    (call : action ≠ .resume) (other : ∀ act, action ≠ .native act) :
    ffi.step env action = ffi.start env action := by
  cases action with
  | resume => exact absurd rfl call
  | native act => exact absurd rfl (other act)
  | sendCallback | connected | recv | disconnected | report | free =>
      simp [FFIConnection.step, idle, held]

private theorem step_refused {action : FfiAct} (release : env.build = .release)
    (idle : ffi.call = .idle) (held : ffi.freed = false)
    (invalid : action.validIn ffi.state = false) :
    ffi.step env action = some ⟨ffi, [], some action.refusal⟩ := by
  have started := start_refused release invalid
  rw [← started]
  refine step_start idle held ?_ ?_
  · rintro rfl
    cases invalid
  · rintro act rfl
    cases invalid

/-- A call that the state allows is not refused. -/
private theorem step_allowed {action : FfiAct} {outcome : Outcome}
    (valid : action.validIn ffi.state = true) (stepped : ffi.step env action = some outcome) :
    outcome.result ≠ some action.refusal := by
  cases FFIConnection.step_move stepped with
  | refused invalid => simp [invalid] at valid
  | configured | connecting | received | receivedNothing | disconnecting | reported
  | reportDropped | freed | published | unlinked | announced | returned | native =>
      simp [FfiAct.refusal]

private theorem free_succeeds (idle : ffi.call = .idle) (held : ffi.freed = false)
    (shut : ffi.state ≠ .connected) :
    ffi.step env .free = some ⟨{ ffi with freed := true }, [.release], some (.conn .success)⟩ := by
  rw [step_start idle held (by simp) (by simp), FFIConnection.start, FFIConnection.free,
    if_neg shut]

theorem FfiMove.stays_disconnected {action : FfiAct} {outcome : Outcome}
    (move : FfiMove env ffi action outcome) (state : ffi.state = .disconnected) :
    outcome.next.state = .disconnected := by
  cases move with
  | configured _ _ before => simp [state] at before
  | connecting _ _ before => simp [state] at before
  | disconnecting => rfl
  | refused | received | receivedNothing | reported | reportDropped | freed | published
  | unlinked | announced | returned | native => exact state

end Calls

private theorem stage_of_reachable {env : FfiEnv} {tracked : Tracked}
    (reached : (lifecycle env).Reachable tracked) : tracked.AtStage := by
  refine reached.invariant Tracked.AtStage ?_ ?_
  · rintro _ rfl
    exact .init
  · intro before action after _ stage stepped
    obtain ⟨outcome, moved, rfl⟩ := Option.map_eq_some_iff.mp stepped
    exact (FFIConnection.step_move moved).stage stage

private theorem disconnected_stays {env : FfiEnv} {tracked later : Tracked}
    (path : (lifecycle env).Steps (fun _ _ => True) tracked later)
    (state : tracked.ffi.state = .disconnected) : later.ffi.state = .disconnected := by
  refine path.preserves (fun tracked => tracked.ffi.state = .disconnected) ?_ state
  intro before action after holds _ stepped
  obtain ⟨outcome, moved, rfl⟩ := Option.map_eq_some_iff.mp stepped
  exact (FFIConnection.step_move moved).stays_disconnected holds

/-- In a release build the published events follow the lifecycle; between two
calls, one that the state does not allow is refused and changes nothing, and no
other is refused; a disconnected connection stays so, and one is freed exactly
when it is not connected. -/
theorem lifecycle_ordered (env : FfiEnv) (release : env.build = .release) (tracked : Tracked)
    (reached : (lifecycle env).Reachable tracked) :
    ((∃ endpointHostname, tracked.published <+:
        [.init, .connected endpointHostname, .disconnected, .release]) ∨
      tracked.published <+: [.init, .release]) ∧
    (tracked.ffi.call = .idle → tracked.ffi.freed = false → ∀ action : FfiAct,
      (action.validIn tracked.ffi.state = false →
        tracked.ffi.step env action = some ⟨tracked.ffi, [], some action.refusal⟩) ∧
      (action.validIn tracked.ffi.state = true → ∀ outcome,
        tracked.ffi.step env action = some outcome → outcome.result ≠ some action.refusal)) ∧
    (tracked.ffi.state = .disconnected → ∀ later,
      (lifecycle env).Steps (fun _ _ => True) tracked later →
        later.ffi.state = .disconnected) ∧
    (tracked.ffi.call = .idle → tracked.ffi.freed = false →
      ((∃ outcome, tracked.ffi.step env .free = some outcome ∧
        outcome.result = some (.conn .success) ∧ outcome.next.freed = true) ↔
          tracked.ffi.state ≠ .connected)) := by
  refine ⟨(stage_of_reachable reached).ordered, ?_, ?_, ?_⟩
  · intro idle held action
    exact ⟨step_refused release idle held, fun valid _ stepped => step_allowed valid stepped⟩
  · intro state later path
    exact disconnected_stays path state
  · intro idle held
    constructor
    · rintro ⟨outcome, stepped, success, _⟩ connected
      rw [step_refused release idle held (by simp [FfiAct.validIn, connected])] at stepped
      cases stepped
      cases success
    · intro shut
      exact ⟨_, free_succeeds idle held shut, rfl, rfl⟩

def fixtureFfiEnv : FfiEnv where
  native := fixtureEnv Ctx.runtime
  appInfo := Actor.fixtureApp
  build := .release
  parse _ := .error .noMessage

/-- Configure, connect and disconnect. -/
def connectOnce : List FfiAct :=
  [.sendCallback ⟨1, 2⟩, .connected "config.datadoghq.com", .resume, .disconnected, .resume,
    .resume, .native .ioTask, .native .dispatchTask, .resume, .resume, .resume]

theorem lifecycle_ordered_connectOnce : ∃ tracked,
    (lifecycle fixtureFfiEnv).run ⟨.new, [.init]⟩ connectOnce = some tracked ∧
      tracked.published = [.init, .connected "config.datadoghq.com", .disconnected] ∧
      tracked.ffi.step fixtureFfiEnv (.connected "config.datadoghq.com") =
        some ⟨tracked.ffi, [], some (.conn .invalidState)⟩ ∧
      ∃ outcome, tracked.ffi.step fixtureFfiEnv .free = some outcome ∧
        outcome.result = some (.conn .success) ∧ outcome.next.freed = true := by
  obtain ⟨tracked, ran, published, idle, held, state⟩ : ∃ tracked,
      (lifecycle fixtureFfiEnv).run ⟨.new, [.init]⟩ connectOnce = some tracked ∧
        tracked.published = [.init, .connected "config.datadoghq.com", .disconnected] ∧
        tracked.ffi.call = .idle ∧ tracked.ffi.freed = false ∧
        tracked.ffi.state = .disconnected := ⟨_, rfl, rfl, rfl, rfl, rfl⟩
  have reached : (lifecycle fixtureFfiEnv).Reachable tracked := System.reachable_of_run rfl ran
  obtain ⟨_, calls, _, freed⟩ := lifecycle_ordered fixtureFfiEnv rfl tracked reached
  refine ⟨tracked, ran, published, ?_, (freed idle held).mpr (by simp [state])⟩
  exact (calls idle held (.connected "config.datadoghq.com")).1
    (by simp [FfiAct.validIn, State.isConfigured, state])

end LibddRc.Ffi
