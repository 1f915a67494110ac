import LibddRc.Ffi.Isolation

/-! The status of an `FFIConnection` is what the calls of a host depend on and
change. Each call is described by what it makes of the status, and everything
else that happens in an instance leaves it as it is. -/

set_option autoImplicit false

namespace LibddRc.Ffi

open Foundation

/-- What the calls of a host depend on and change. -/
structure Status where
  state : State
  call : CallPc
  freed : Bool
  deriving DecidableEq

def FFIConnection.status (ffi : FFIConnection) : Status := ⟨ffi.state, ffi.call, ffi.freed⟩

def Status.Released (status : Status) : Prop :=
  status.freed = true ∧ status.state ≠ .connected ∧ status.call = .idle

def Instance.statuses (inst : Instance) (index : ℕ) : Option Status :=
  (inst.conns index).map FFIConnection.status

theorem Status.Released.not_open {ffi : FFIConnection} (released : ffi.status.Released) :
    ¬ ffi.Open := by
  rintro (connected | disconnecting)
  · exact released.2.1 connected
  · have idle : ffi.call = .idle := released.2.2
    simp [disconnecting] at idle

section Calls

variable {env : FfiEnv} {ffi : FFIConnection} {outcome : Outcome}

/-- Tasks, messages and results pass through a connection as it is. -/
theorem FfiMove.status_kept {action : FfiAct} (move : FfiMove env ffi action outcome)
    (passes : (∃ act, action = .native act) ∨ (∃ data, action = .recv data) ∨
      ∃ correlationId answer, action = .report correlationId answer) :
    outcome.next.status = ffi.status := by
  cases move with
  | refused | receivedNothing | reportDropped | received | reported | native => rfl
  | configured | connecting | disconnecting | freed | published | unlinked | announced
  | returned => simp at passes

theorem FfiMove.status_configured {send : SendCallback}
    (move : FfiMove env ffi (.sendCallback send) outcome)
    (before : ffi.status = ⟨.init, .idle, false⟩) :
    outcome.next.status = ⟨.configured send, .idle, false⟩ := by
  obtain ⟨state, call, freed⟩ := Status.mk.inj before
  cases move with
  | configured => simp [FFIConnection.status, call, freed]
  | refused invalid => simp [FfiAct.validIn, state] at invalid

theorem FfiMove.status_connecting {endpointHostname : String} {send : SendCallback}
    (move : FfiMove env ffi (.connected endpointHostname) outcome)
    (before : ffi.status = ⟨.configured send, .idle, false⟩) :
    outcome.next.status = ⟨.connected, .publishing endpointHostname, false⟩ := by
  obtain ⟨state, call, freed⟩ := Status.mk.inj before
  cases move with
  | connecting => simp [FFIConnection.status, freed]
  | refused invalid => simp [FfiAct.validIn, State.isConfigured, state] at invalid

theorem FfiMove.status_published {endpointHostname : String}
    (move : FfiMove env ffi .resume outcome)
    (before : ffi.status = ⟨.connected, .publishing endpointHostname, false⟩) :
    outcome.next.status = ⟨.connected, .idle, false⟩ := by
  obtain ⟨state, call, freed⟩ := Status.mk.inj before
  cases move with
  | published => simp [FFIConnection.status, state, freed]
  | refused invalid => simp [FfiAct.validIn] at invalid
  | unlinked other | announced other | returned other => simp [call] at other

theorem FfiMove.status_disconnecting (move : FfiMove env ffi .disconnected outcome)
    (before : ffi.status = ⟨.connected, .idle, false⟩) :
    outcome.next.status = ⟨.disconnected, .disconnecting, false⟩ := by
  obtain ⟨state, call, freed⟩ := Status.mk.inj before
  cases move with
  | disconnecting => simp [FFIConnection.status, freed]
  | refused invalid => simp [FfiAct.validIn, state] at invalid

/-- Inside `rc_conn_disconnected`. -/
def Status.Leaving (status : Status) : Prop :=
  status.state = .disconnected ∧ status.freed = false ∧
    (status.call = .disconnecting ∨ status.call = .returning)

theorem FfiMove.status_leaving (move : FfiMove env ffi .resume outcome)
    (before : ffi.status.Leaving) :
    outcome.next.status.Leaving ∨ outcome.next.status = ⟨.disconnected, .idle, false⟩ := by
  obtain ⟨state, freed, call⟩ := before
  have held : ffi.freed = false := freed
  have left : ffi.state = .disconnected := state
  cases move with
  | published other =>
      have inside : ffi.call = .disconnecting ∨ ffi.call = .returning := call
      simp [other] at inside
  | refused invalid => simp [FfiAct.validIn] at invalid
  | unlinked => exact .inl ⟨state, freed, call⟩
  | announced => exact .inl ⟨state, freed, .inr rfl⟩
  | returned =>
      right
      simp [FFIConnection.status, held, left]

theorem FfiMove.status_freed (move : FfiMove env ffi .free outcome)
    (before : ffi.status.state ≠ .connected) (idle : ffi.status.call = .idle) :
    outcome.next.status.Released := by
  cases move with
  | freed _ _ state => exact ⟨rfl, before, idle⟩
  | refused invalid =>
      have connected : ffi.state = .connected := by simpa [FfiAct.validIn] using invalid
      exact absurd connected before

end Calls

/-- The steps of the library's own tasks. -/
def InstanceAct.byTasks : InstanceAct → Bool
  | .update | .joined | .ffi _ (.native _) => true
  | _ => false

section Instances

variable {env : FfiEnv} {inst next : Instance}

theorem Instance.step_call {index : ℕ} {action : FfiAct}
    (stepped : inst.step env (.ffi index action) = some next) :
    ∃ ffi outcome, inst.conns index = some ffi ∧ FfiMove env ffi action outcome ∧
      next.count = inst.count ∧
        next.conns = Function.update inst.conns index (some outcome.next) := by
  cases Instance.step_move stepped with
  | called _ found move => exact ⟨_, _, found, move, rfl, rfl⟩

theorem Instance.step_call_count {index : ℕ} {action : FfiAct}
    (stepped : inst.step env (.ffi index action) = some next) : next.count = inst.count := by
  obtain ⟨_, _, _, _, count, _⟩ := Instance.step_call stepped
  exact count

theorem Instance.step_create (stepped : inst.step env .create = some next) :
    next.count = inst.count + 1 ∧
      next.conns = Function.update inst.conns inst.count (some .new) := by
  cases stepped
  exact ⟨rfl, rfl⟩

private theorem statuses_update {index : ℕ} {ffi : FFIConnection} {conns : ℕ → Option FFIConnection}
    (found : conns index = some ffi) (after : FFIConnection) (same : after.status = ffi.status)
    (other : ℕ) :
    (Function.update conns index (some after) other).map FFIConnection.status =
      (conns other).map FFIConnection.status := by
  by_cases here : other = index
  · subst here
    simp [found, same]
  · rw [Function.update_of_ne here]

private theorem statuses_cancelStop (index other : ℕ) (conns : ℕ → Option FFIConnection) :
    (Function.update conns index ((conns index).map .cancelStop) other).map
        FFIConnection.status = (conns other).map FFIConnection.status := by
  by_cases here : other = index
  · subst here
    rw [Function.update_self, Option.map_map]
    rfl
  · rw [Function.update_of_ne here]

/-- The library's own steps leave every status as it is. -/
theorem Instance.step_tasks {action : InstanceAct} (own : action.byTasks = true)
    (stepped : inst.step env action = some next) :
    next.count = inst.count ∧ ∀ index, next.statuses index = inst.statuses index := by
  cases Instance.step_move stepped with
  | created => cases own
  | @called index action ffi outcome _ found move =>
      cases action with
      | native act =>
          exact ⟨rfl, statuses_update found _ (move.status_kept (.inl ⟨act, rfl⟩))⟩
      | sendCallback | connected | recv | disconnected | report | free | resume => cases own
  | ignored | started | unmatched | joined => exact ⟨rfl, fun _ => rfl⟩
  | @replaced _ old | @stopped old =>
      exact ⟨rfl, fun index => statuses_cancelStop old index inst.conns⟩

end Instances

end LibddRc.Ffi
