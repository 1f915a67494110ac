import LibddRc.Client.EventHandler
import LibddRc.Ffi.Connection

/-! An instance of the library: any number of `FFIConnection`s created from one
`Ctx`, the channel their updates go through, and the handler at its other end.
An actor runs from the time the handler has spawned it. -/

set_option autoImplicit false

namespace LibddRc.Ffi

open Foundation

structure Instance where
  conns : Nat → Option FFIConnection
  count : Nat
  spawned : Nat → Bool
  updates : List Update
  handler : EventHandler

def Instance.init : Instance where
  conns _ := none
  count := 0
  spawned _ := false
  updates := []
  handler := .init

/-- A published event as an update. -/
def ConnectionEvent.toUpdate (index : Nat) : ConnectionEvent → Update
  | .init => .init
  | .connected _ => .connected index
  | .disconnected => .disconnected
  | .release => .release

def FFIConnection.cancelStop (ffi : FFIConnection) : FFIConnection :=
  { ffi with conn := ffi.conn.map fun conn => { conn with stop := true } }

/-- `create` is `Ctx::new_connection`, `ffi` a step on one connection, `update`
the handler taking an update and `joined` the end of the actor it waits for. -/
inductive InstanceAct
  | create
  | ffi (index : Nat) (action : FfiAct)
  | update
  | joined

namespace Instance

def effect (inst : Instance) : HandlerEffect → Instance
  | .spawn actor => { inst with spawned := Function.update inst.spawned actor true }
  | .cancel actor => { inst with
      conns := Function.update inst.conns actor ((inst.conns actor).map .cancelStop) }

/-- An actor steps once it is spawned, and only the handler cancels its token. -/
def admits (inst : Instance) (index : Nat) : FfiAct → Bool
  | .native (.actor _) => inst.spawned index
  | .native .cancelStop => false
  | _ => true

/-- The task of a connection's actor is over. -/
def ended (inst : Instance) (index : Nat) : Bool :=
  match inst.conns index with
  | some ⟨_, some conn, _, _⟩ => decide conn.actor.Ended
  | _ => false

def step (env : FfiEnv) (inst : Instance) : InstanceAct → Option Instance
  | .create => some { inst with
      conns := Function.update inst.conns inst.count (some .new)
      count := inst.count + 1
      updates := inst.updates ++ [.init] }
  | .ffi index action =>
      if inst.admits index action then
        (inst.conns index).bind fun ffi => (ffi.step env action).map fun outcome => { inst with
          conns := Function.update inst.conns index (some outcome.next)
          updates := inst.updates ++ outcome.events.map (ConnectionEvent.toUpdate index) }
      else none
  | .update =>
      match inst.handler.pc, inst.updates with
      | .waiting, update :: rest =>
          let (handler, effects) := inst.handler.onUpdate update
          some (effects.foldl effect { inst with updates := rest, handler })
      | _, _ => none
  | .joined =>
      match inst.handler.pc with
      | .stopping actor last =>
          if inst.ended actor then some { inst with handler := inst.handler.onStopped last }
          else none
      | _ => none

end Instance

/-- All interleavings of the calls on the connections of one `Ctx`, their tasks
and actors, and the handler. -/
def ctx (env : FfiEnv) : System Instance InstanceAct where
  initial inst := inst = .init
  step := Instance.step env

/-! ## Moves -/

inductive InstanceMove (env : FfiEnv) (inst : Instance) : InstanceAct → Instance → Prop
  | created : InstanceMove env inst .create { inst with
      conns := Function.update inst.conns inst.count (some .new)
      count := inst.count + 1
      updates := inst.updates ++ [.init] }
  | called {index : Nat} {action : FfiAct} {ffi : FFIConnection} {outcome : Outcome} :
      inst.admits index action = true → inst.conns index = some ffi →
      FfiMove env ffi action outcome →
      InstanceMove env inst (.ffi index action) { inst with
        conns := Function.update inst.conns index (some outcome.next)
        updates := inst.updates ++ outcome.events.map (ConnectionEvent.toUpdate index) }
  | ignored {update : Update} {rest : List Update} : inst.updates = update :: rest →
      update = .init ∨ update = .release →
      InstanceMove env inst .update { inst with updates := rest }
  | started {io : Nat} {rest : List Update} : inst.updates = .connected io :: rest →
      inst.handler.activeConn = none →
      InstanceMove env inst .update { inst with
        updates := rest
        handler := { inst.handler with activeConn := some io }
        spawned := Function.update inst.spawned io true }
  | replaced {io old : Nat} {rest : List Update} : inst.updates = .connected io :: rest →
      inst.handler.activeConn = some old →
      InstanceMove env inst .update { inst with
        updates := rest
        handler := ⟨.stopping old false, some io⟩
        spawned := Function.update inst.spawned io true
        conns := Function.update inst.conns old ((inst.conns old).map .cancelStop) }
  | unmatched {rest : List Update} : inst.updates = .disconnected :: rest →
      inst.handler.activeConn = none →
      InstanceMove env inst .update { inst with updates := rest }
  | stopped {old : Nat} {rest : List Update} : inst.updates = .disconnected :: rest →
      inst.handler.activeConn = some old →
      InstanceMove env inst .update { inst with
        updates := rest
        handler := ⟨.stopping old false, none⟩
        conns := Function.update inst.conns old ((inst.conns old).map .cancelStop) }
  | joined {last : Bool} : InstanceMove env inst .joined { inst with
      handler := inst.handler.onStopped last }

theorem Instance.step_move {env : FfiEnv} {inst next : Instance} {action : InstanceAct}
    (stepped : inst.step env action = some next) : InstanceMove env inst action next := by
  cases action with
  | create =>
      cases stepped
      exact .created
  | ffi index action =>
      obtain ⟨admitted, stepped⟩ := Option.ite_none_right_eq_some.mp stepped
      obtain ⟨ffi, found, stepped⟩ := Option.bind_eq_some_iff.mp stepped
      obtain ⟨outcome, moved, rfl⟩ := Option.map_eq_some_iff.mp stepped
      exact .called admitted found (FFIConnection.step_move moved)
  | joined =>
      simp only [Instance.step] at stepped
      split at stepped
      · obtain ⟨_, same⟩ := Option.ite_none_right_eq_some.mp stepped
        cases same
        exact .joined
      · cases stepped
  | update =>
      simp only [Instance.step] at stepped
      split at stepped
      · next update rest _ queued =>
        cases update with
        | init =>
            cases stepped
            exact .ignored queued (.inl rfl)
        | release =>
            cases stepped
            exact .ignored queued (.inr rfl)
        | connected io =>
            cases active : inst.handler.activeConn with
            | none =>
                simp only [EventHandler.onUpdate, active] at stepped
                cases stepped
                exact .started queued active
            | some old =>
                simp only [EventHandler.onUpdate, active] at stepped
                cases stepped
                exact .replaced queued active
        | disconnected =>
            cases active : inst.handler.activeConn with
            | none =>
                simp only [EventHandler.onUpdate, active] at stepped
                cases stepped
                exact .unmatched queued active
            | some old =>
                simp only [EventHandler.onUpdate, active] at stepped
                cases stepped
                exact .stopped queued active
      · cases stepped

end LibddRc.Ffi
