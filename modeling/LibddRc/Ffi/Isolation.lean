import LibddRc.Foundation.Table
import LibddRc.Ffi.Instance
import LibddRc.Ffi.Lifecycle

/-! Connections of one `Ctx` and their actors. The updates of all connections go
through one channel and the handler keeps one active connection, so the actor
of a connected connection runs as long as connections follow one another. -/

set_option autoImplicit false

namespace LibddRc.Ffi

open Foundation

/-! ## Why an actor ends -/

/-- An actor that has not panicked ends by its stop token or because its
connection is gone. -/
structure Well (conn : Conn) : Prop where
  hello : conn.HelloDue
  unpanicked : conn.actor ≠ .panicked
  ended : conn.actor.Ended → conn.stop = true ∨ conn.link = .disconnected

section Conns

variable {env : Env} {conn next : Conn} {action : Act}

theorem well_init (appInfo : AppInfo) : Well (Conn.init appInfo) :=
  ⟨fun _ => ⟨appInfo, rfl⟩, by simp [Conn.init], False.elim⟩

private theorem ended_actor {draw : Draw} (move : ActorMove env conn draw next)
    (unpanicked : next.actor ≠ .panicked) (ended : next.actor.Ended) :
    next.stop = true ∨ next.link = .disconnected := by
  cases move with
  | helloPanicked | sendPanicked | serverPanicked => exact absurd rfl unpanicked
  | stopSeen _ stop => exact .inl stop
  | serverClosed _ _ gone => exact .inr gone
  | repliesClosed _ _ gone =>
      by_contra both
      have alive : conn.responderAlive = true :=
        Conn.responderAlive_iff.mpr (.inl fun link => both (.inr link))
      simp [gone] at alive
  | sendClosed turn | sendEnqueued turn | published turn | publishLost turn =>
      have still : conn.actor.Ended := ended
      exact (turn ▸ still : ActorPc.turn.Ended).elim
  | helloBuilt | turnOver | sendFull | publishFailed | backoffStopped | backoffElapsed | reported
  | stopUnset | replyTaken | repliesEmpty | serverTaken | serverEmpty => exact ended.elim

theorem Well.step (well : Well conn) (unhindered : conn.Unhindered env action)
    (stepped : conn.step env action = some next) : Well next := by
  have move := Conn.step_move stepped
  have unpanicked := unhindered_alive move well.hello unhindered well.unpanicked
  refine ⟨move.helloDue well.hello, unpanicked, ?_⟩
  intro ended
  cases move with
  | actor moved => exact ended_actor moved unpanicked ended
  | dispatchTask moved => cases moved <;> exact well.ended ended
  | ioTask moved => cases moved <;> exact well.ended ended
  | host moved =>
      cases moved with
      | stopCancelled => exact .inl rfl
      | accepted | refused | answered | answerDropped | received | receivedLate | sendReturned =>
          exact well.ended ended
  | link moved =>
      have before := well.ended (by cases moved <;> exact ended)
      cases moved with
      | disconnect at_ | cancelDispatch at_ | joinIo at_ _ | joinDispatch at_ _ =>
          exact .inl (before.resolve_right (by simp [at_]))

theorem Well.report {correlationId : CorrelationId} {answer : HostAnswer} (well : Well conn)
    (reported : conn.report env correlationId answer = some next) :
    Well next ∧ next.link = conn.link ∧ next.stop = conn.stop := by
  have stepped : conn.freeStep env (.report correlationId answer) = some next := reported
  cases Conn.freeStep_move stepped with
  | delivered => exact ⟨⟨well.hello, well.unpanicked, well.ended⟩, rfl, rfl⟩
  | dropped => exact ⟨well, rfl, rfl⟩

/-- Only the handler cancels the stop token of an actor. -/
private theorem stop_kept (other : action ≠ .cancelStop)
    (stepped : conn.step env action = some next) : next.stop = conn.stop := by
  cases Conn.step_move stepped with
  | actor moved => cases moved <;> rfl
  | dispatchTask moved => cases moved <;> rfl
  | ioTask moved => cases moved <;> rfl
  | host moved =>
      cases moved with
      | stopCancelled => exact absurd rfl other
      | accepted | refused | answered | answerDropped | received | receivedLate | sendReturned =>
          rfl
  | link moved => cases moved <;> rfl

end Conns

/-! ## One connection -/

namespace FFIConnection

/-- The call under way and the channels fit the state. -/
structure Sound (ffi : FFIConnection) : Prop where
  unlinked : ffi.conn = none → ffi.state ≠ .connected ∧ ffi.state ≠ .disconnected
  linked : ∀ conn, ffi.conn = some conn →
    (ffi.state = .connected ∧ conn.link = .connected) ∨ ffi.state = .disconnected
  publishing : ∀ endpointHostname, ffi.call = .publishing endpointHostname →
    ffi.state = .connected
  closing : ffi.call = .disconnecting ∨ ffi.call = .returning → ffi.state = .disconnected
  well : ∀ conn, ffi.conn = some conn → Well conn

/-- Connected, or inside the `set_disconnected` call that ends it. -/
def Open (ffi : FFIConnection) : Prop := ffi.state = .connected ∨ ffi.call = .disconnecting

instance (ffi : FFIConnection) : Decidable ffi.Open := inferInstanceAs (Decidable (_ ∨ _))

/-- `Connected` is published and `Disconnected` is not. -/
def Announced (ffi : FFIConnection) : Prop :=
  (ffi.state = .connected ∧ ffi.call = .idle) ∨ ffi.call = .disconnecting

def Published (ffi : FFIConnection) : Prop :=
  ffi.conn ≠ none ∧ ∀ endpointHostname, ffi.call ≠ .publishing endpointHostname

theorem sound_new : FFIConnection.new.Sound := by
  refine ⟨?_, ?_, ?_, ?_, ?_⟩ <;> simp [FFIConnection.new]

theorem Announced.open_ {ffi : FFIConnection} (announced : ffi.Announced) : ffi.Open :=
  announced.imp_left And.left

theorem Announced.published {ffi : FFIConnection} (announced : ffi.Announced)
    (sound : ffi.Sound) : ffi.Published := by
  rcases announced with ⟨state, idle⟩ | disconnecting
  · refine ⟨fun none => (sound.unlinked none).1 state, ?_⟩
    simp [idle]
  · refine ⟨fun none => (sound.unlinked none).2 (sound.closing (.inl disconnecting)), ?_⟩
    simp [disconnecting]

/-- A connection that was announced once and no longer is has been
disconnected. -/
theorem Published.disconnected {ffi : FFIConnection} (published : ffi.Published)
    (sound : ffi.Sound) (unannounced : ¬ ffi.Announced) :
    ffi.state = .disconnected ∧ ffi.call ≠ .disconnecting := by
  obtain ⟨present, past⟩ := published
  obtain ⟨conn, found⟩ := Option.ne_none_iff_exists'.mp present
  refine ⟨?_, fun disconnecting => unannounced (.inr disconnecting)⟩
  rcases sound.linked conn found with ⟨connected, _⟩ | disconnected
  · cases call : ffi.call with
    | idle => exact absurd (.inl ⟨connected, call⟩) unannounced
    | publishing endpointHostname => exact absurd call (past endpointHostname)
    | disconnecting => exact absurd (.inr call) unannounced
    | returning => exact sound.closing (.inr call)
  · exact disconnected

end FFIConnection

/-- The actor's steps do not panic. -/
def FfiAct.Unhindered (env : FfiEnv) (ffi : FFIConnection) : FfiAct → Prop
  | .native action => ∀ conn ∈ ffi.conn, conn.Unhindered env.native action
  | _ => True

section Connections

variable {env : FfiEnv} {ffi : FFIConnection} {action : FfiAct} {outcome : Outcome}

/-- A move of the channels and tasks while the state stays as it is. -/
private theorem FFIConnection.Sound.withConn {conn next : Conn} (sound : ffi.Sound)
    (found : ffi.conn = some conn) (link : next.link = conn.link ∨ ffi.state = .disconnected)
    (well : Well next) : ({ ffi with conn := some next } : FFIConnection).Sound := by
  refine { sound with unlinked := by simp, linked := ?_, well := ?_ }
  · rintro _ ⟨⟩
    rcases link with same | disconnected
    · exact same ▸ sound.linked conn found
    · exact .inr disconnected
  · rintro _ ⟨⟩
    exact well

theorem FfiMove.sound (move : FfiMove env ffi action outcome)
    (unhindered : action.Unhindered env ffi) (sound : ffi.Sound) : outcome.next.Sound := by
  cases move with
  | refused | receivedNothing | reportDropped | freed => exact { sound with }
  | configured _ _ before =>
      have absent : ∀ conn, ffi.conn ≠ some conn := by
        intro conn found
        rcases before with state | ⟨old, state⟩ <;> simpa [state] using sound.linked conn found
      refine ⟨by simp, fun conn found => absurd found (absent conn), ?_, ?_, sound.well⟩
      · intro endpointHostname publishing
        have state := sound.publishing endpointHostname publishing
        rcases before with other | ⟨old, other⟩ <;> simp [other] at state
      · intro closing
        have state := sound.closing closing
        rcases before with other | ⟨old, other⟩ <;> simp [other] at state
  | connecting =>
      refine ⟨by simp, ?_, fun _ _ => rfl, by simp, ?_⟩
      · rintro _ ⟨⟩
        exact .inl ⟨rfl, rfl⟩
      · rintro _ ⟨⟩
        exact well_init _
  | received _ found stepped =>
      exact sound.withConn found (.inl ((Conn.step_move stepped).link_kept rfl))
        ((sound.well _ found).step (by trivial) stepped)
  | disconnecting _ _ state =>
      refine ⟨?_, fun _ _ => .inr rfl, by simp, by simp, sound.well⟩
      intro none
      exact absurd state (sound.unlinked none).1
  | reported _ found reported =>
      obtain ⟨well, link, _⟩ := (sound.well _ found).report reported
      exact sound.withConn found (.inl link) well
  | published call =>
      exact { sound with publishing := by simp, closing := by simp }
  | @unlinked act conn _ call _ found kept stepped =>
      have allowed : conn.Unhindered env.native act := by
        cases act <;> trivial
      exact sound.withConn found (.inr (sound.closing (.inl call)))
        ((sound.well _ found).step allowed stepped)
  | announced call =>
      exact { sound with publishing := by simp, closing := fun _ => sound.closing (.inl call) }
  | returned call _ found stepped =>
      have next := sound.withConn found (.inr (sound.closing (.inr call)))
        ((sound.well _ found).step (by trivial) stepped)
      exact { next with publishing := by simp, closing := by simp }
  | native allowed found stepped =>
      have kept := (Conn.step_move stepped).link_kept (unlinks_of_byLibrary allowed)
      exact sound.withConn found (.inl kept)
        ((sound.well _ found).step (unhindered _ found) stepped)

/-- No step on a connection cancels its stop token. -/
theorem FfiMove.unstopped (move : FfiMove env ffi action outcome)
    (other : action ≠ .native .cancelStop) {conn : Conn} (found : outcome.next.conn = some conn)
    (stop : conn.stop = true) : ∃ before, ffi.conn = some before ∧ before.stop = true := by
  cases move with
  | configured | refused | receivedNothing | disconnecting | reportDropped | freed | published
  | announced => exact ⟨conn, found, stop⟩
  | connecting =>
      cases found
      cases stop
  | received _ before stepped =>
      cases found
      exact ⟨_, before, stop_kept (by simp) stepped ▸ stop⟩
  | reported _ before reported =>
      cases found
      have stepped : Conn.freeStep env.native _ (.report _ _) = some _ := reported
      cases Conn.freeStep_move stepped with
      | delivered => exact ⟨_, before, stop⟩
      | dropped => exact ⟨_, before, stop⟩
  | unlinked _ _ before kept stepped =>
      cases found
      refine ⟨_, before, stop_kept ?_ stepped ▸ stop⟩
      rintro rfl
      cases kept
  | returned _ _ before stepped =>
      cases found
      exact ⟨_, before, stop_kept (by simp) stepped ▸ stop⟩
  | native _ before stepped =>
      cases found
      refine ⟨_, before, stop_kept ?_ stepped ▸ stop⟩
      rintro rfl
      exact other rfl

end Connections

/-! ## Updates and the handler -/

/-- The connections whose `Connected` is still to be processed. -/
def pending : List Update → List Nat
  | [] => []
  | .connected io :: rest => io :: pending rest
  | .init :: rest | .disconnected :: rest | .release :: rest => pending rest

theorem pending_append (first second : List Update) :
    pending (first ++ second) = pending first ++ pending second := by
  induction first with
  | nil => rfl
  | cons update rest ih => cases update <;> simp [pending, ih]

/-- Processing the updates one by one from an active connection on, each
`Connected` finds none active and each `Disconnected` finds one, and `current`
is active in the end. -/
inductive Agrees : Option Nat → List Update → Option Nat → Prop
  | nil {active : Option Nat} : Agrees active [] active
  | init {active current : Option Nat} {rest : List Update} :
      Agrees active rest current → Agrees active (.init :: rest) current
  | release {active current : Option Nat} {rest : List Update} :
      Agrees active rest current → Agrees active (.release :: rest) current
  | connected {io : Nat} {current : Option Nat} {rest : List Update} :
      Agrees (some io) rest current → Agrees none (.connected io :: rest) current
  | disconnected {io : Nat} {current : Option Nat} {rest : List Update} :
      Agrees none rest current → Agrees (some io) (.disconnected :: rest) current

namespace Agrees

variable {active current : Option Nat} {updates : List Update}

theorem trans {middle : Option Nat} {later : List Update}
    (first : Agrees active updates middle) (second : Agrees middle later current) :
    Agrees active (updates ++ later) current := by
  induction first with
  | nil => exact second
  | init _ ih => exact .init (ih second)
  | release _ ih => exact .release (ih second)
  | connected _ ih => exact .connected (ih second)
  | disconnected _ ih => exact .disconnected (ih second)

theorem tail {update : Update} (agrees : Agrees active (update :: updates) current)
    (quiet : update = .init ∨ update = .release) : Agrees active updates current := by
  cases agrees with
  | init rest | release rest => exact rest
  | connected | disconnected => simp at quiet

/-- What is active in the end is active now or will be started. -/
theorem current_known (agrees : Agrees active updates current) {index : Nat}
    (now : current = some index) : active = some index ∨ index ∈ pending updates := by
  induction agrees with
  | nil => exact .inl now
  | init _ ih | release _ ih => exact ih now
  | connected _ ih =>
      right
      rcases ih now with same | pending
      · cases same
        exact List.mem_cons_self
      · exact List.mem_cons_of_mem _ pending
  | disconnected _ ih =>
      right
      rcases ih now with impossible | pending
      · cases impossible
      · exact pending

end Agrees

/-! ## The instance -/

namespace Instance

/-- What holds while connections follow one another: at most one is open, the
updates agree with the one that is announced, each actor is spawned once, and
only the actors of connections that were disconnected are stopped. -/
structure Isolated (inst : Instance) : Prop where
  fresh : ∀ index, inst.count ≤ index → inst.conns index = none
  sound : ∀ index ffi, inst.conns index = some ffi → ffi.Sound
  exclusive : ∀ index other ffi peer, inst.conns index = some ffi →
    inst.conns other = some peer → ffi.Open → peer.Open → index = other
  agrees : ∃ current, Agrees inst.handler.activeConn inst.updates current ∧
    ∀ index, current = some index ↔ ∃ ffi, inst.conns index = some ffi ∧ ffi.Announced
  active : ∀ index, inst.handler.activeConn = some index → inst.spawned index = true
  known : ∀ index, inst.spawned index = true ∨ index ∈ pending inst.updates →
    ∃ ffi, inst.conns index = some ffi ∧ ffi.Published
  unique : (pending inst.updates).Nodup
  once : ∀ index, inst.spawned index = true → index ∉ pending inst.updates
  stopped : ∀ index ffi conn, inst.conns index = some ffi → ffi.conn = some conn →
    conn.stop = true → inst.spawned index = true ∧ inst.handler.activeConn ≠ some index ∧
      ¬ ffi.Announced ∧ ffi.Published

theorem isolated_init : Instance.init.Isolated := by
  refine ⟨?_, ?_, ?_, ⟨none, .nil, ?_⟩, ?_, ?_, ?_, ?_, ?_⟩ <;>
    simp [Instance.init, EventHandler.init, pending]

end Instance

section Instances

variable {env : FfiEnv} {inst next : Instance} {index : Nat} {ffi after : FFIConnection}

/-- A step on one connection, which opens only if no other is open. -/
private theorem Instance.Isolated.withFfi {updates : List Update} {handler : EventHandler}
    (isolated : inst.Isolated)
    (found : inst.conns index = some ffi) (sound : after.Sound)
    (alone : after.Open → ∀ other peer, other ≠ index → inst.conns other = some peer →
      ¬ peer.Open)
    (published : ffi.Published → after.Published)
    (stopped : ∀ conn, after.conn = some conn → conn.stop = true → inst.spawned index = true ∧
      handler.activeConn ≠ some index ∧ ¬ after.Announced ∧ after.Published)
    (active : ∀ other, handler.activeConn = some other → inst.handler.activeConn = some other)
    (agrees : ∃ current, Agrees handler.activeConn updates current ∧
      ∀ other, current = some other ↔
        ∃ peer, Function.update inst.conns index (some after) other = some peer ∧ peer.Announced)
    (queued : ∀ other ∈ pending updates,
      other ∈ pending inst.updates ∨ (other = index ∧ after.Published))
    (unique : (pending updates).Nodup)
    (once : ∀ other, inst.spawned other = true → other ∉ pending updates) :
    ({ inst with conns := Function.update inst.conns index (some after), updates, handler } :
      Instance).Isolated := by
  refine ⟨?_, ?_, ?_, agrees, fun other now => isolated.active other (active other now), ?_,
    unique, once, ?_⟩
  · intro other late
    exact absent_update found (isolated.fresh other late)
  · intro other peer lookup
    rcases lookup_update lookup with ⟨_, rfl⟩ | ⟨_, lookup⟩
    · exact sound
    · exact isolated.sound other peer lookup
  · intro first second left right leftFound rightFound leftOpen rightOpen
    rcases lookup_update leftFound with ⟨rfl, rfl⟩ | ⟨elsewhere, leftBefore⟩
    · rcases lookup_update rightFound with ⟨rfl, rfl⟩ | ⟨elsewhere, rightBefore⟩
      · rfl
      · exact absurd rightOpen (alone leftOpen second right elsewhere rightBefore)
    · rcases lookup_update rightFound with ⟨rfl, rfl⟩ | ⟨_, rightBefore⟩
      · exact absurd leftOpen (alone rightOpen first left elsewhere leftBefore)
      · exact isolated.exclusive _ _ _ _ leftBefore rightBefore leftOpen rightOpen
  · rintro other (spawned | waiting)
    · exact exists_update_of found published (isolated.known other (.inl spawned))
    · rcases queued other waiting with earlier | ⟨rfl, shown⟩
      · exact exists_update_of found published (isolated.known other (.inr earlier))
      · exact ⟨after, by simp, shown⟩
  · intro other peer conn lookup held stop
    rcases lookup_update lookup with ⟨rfl, rfl⟩ | ⟨_, lookup⟩
    · exact stopped conn held stop
    · obtain ⟨spawned, inactive, rest⟩ := isolated.stopped other peer conn lookup held stop
      exact ⟨spawned, fun now => inactive (active other now), rest⟩

/-- A step that publishes and announces nothing. -/
private theorem Instance.Isolated.quiet (isolated : inst.Isolated)
    (found : inst.conns index = some ffi) (sound : after.Sound)
    (alone : after.Open → ∀ other peer, other ≠ index → inst.conns other = some peer →
      ¬ peer.Open)
    (announced : after.Announced ↔ ffi.Announced) (published : ffi.Published → after.Published)
    (unstopped : ∀ conn, after.conn = some conn → conn.stop = true →
      ∃ before, ffi.conn = some before ∧ before.stop = true) :
    ({ inst with conns := Function.update inst.conns index (some after) } : Instance).Isolated := by
  obtain ⟨current, agrees, shown⟩ := isolated.agrees
  refine isolated.withFfi found sound alone published ?_ (fun _ => id) ⟨current, agrees, ?_⟩
    (fun other => .inl) isolated.unique isolated.once
  · intro conn held stop
    obtain ⟨before, was, wasStopped⟩ := unstopped conn held stop
    obtain ⟨spawned, inactive, unannounced, shown⟩ :=
      isolated.stopped index ffi before found was wasStopped
    exact ⟨spawned, inactive, fun now => unannounced (announced.mp now), published shown⟩
  · intro other
    exact (shown other).trans (exists_update found announced).symm

/-- While one connection is open, no other is. -/
private theorem Instance.Isolated.alone (isolated : inst.Isolated)
    (found : inst.conns index = some ffi) (isOpen : ffi.Open) :
    ∀ other peer, other ≠ index → inst.conns other = some peer → ¬ peer.Open := by
  intro other peer elsewhere lookup peerOpen
  exact elsewhere (isolated.exclusive _ _ _ _ lookup found peerOpen isOpen)

private theorem Instance.Isolated.append {update : Update} (isolated : inst.Isolated)
    (quiet : update = .init ∨ update = .release) :
    ({ inst with updates := inst.updates ++ [update] } : Instance).Isolated := by
  have same : pending (inst.updates ++ [update]) = pending inst.updates := by
    rcases quiet with rfl | rfl <;> simp [pending_append, pending]
  obtain ⟨current, agrees, shown⟩ := isolated.agrees
  refine { isolated with
    agrees := ⟨current, agrees.trans ?_, shown⟩, known := ?_, unique := ?_, once := ?_ }
  · rcases quiet with rfl | rfl
    · exact .init .nil
    · exact .release .nil
  · rw [same]
    exact isolated.known
  · rw [same]
    exact isolated.unique
  · rw [same]
    exact isolated.once

/-- No connection is announced while the one that is open is not. -/
private theorem Instance.Isolated.unannounced (isolated : inst.Isolated)
    (found : inst.conns index = some ffi) (isOpen : ffi.Open) (before : ¬ ffi.Announced)
    {current : Option Nat}
    (shown : ∀ index, current = some index ↔ ∃ ffi, inst.conns index = some ffi ∧ ffi.Announced) :
    current = none := by
  cases now : current with
  | none => rfl
  | some other =>
      obtain ⟨peer, lookup, announced⟩ := (shown other).mp now
      have same := isolated.exclusive _ _ _ _ lookup found announced.open_ isOpen
      subst same
      rw [found] at lookup
      cases lookup
      exact absurd announced before

/-- `set_connected` publishes its event. -/
private theorem isolated_published {endpointHostname : String} (isolated : inst.Isolated)
    (found : inst.conns index = some ffi) (call : ffi.call = .publishing endpointHostname) :
    ({ inst with
      conns := Function.update inst.conns index (some { ffi with call := .idle })
      updates := inst.updates ++ [.connected index] } : Instance).Isolated := by
  have sound := isolated.sound index ffi found
  have state := sound.publishing endpointHostname call
  have hidden : ¬ ffi.Published := fun shown => shown.2 _ call
  have before : ¬ ffi.Announced := fun now => hidden (now.published sound)
  obtain ⟨current, agrees, shown⟩ := isolated.agrees
  have none := isolated.unannounced found (.inl state) before shown
  subst none
  have unknown : ¬ (inst.spawned index = true ∨ index ∈ pending inst.updates) := by
    intro present
    obtain ⟨peer, lookup, published⟩ := isolated.known index present
    rw [found] at lookup
    cases lookup
    exact hidden published
  have after : ({ ffi with call := .idle } : FFIConnection).Sound :=
    { sound with publishing := by simp, closing := by simp }
  have announced : ({ ffi with call := .idle } : FFIConnection).Announced := .inl ⟨state, rfl⟩
  refine isolated.withFfi found after (fun _ => isolated.alone found (.inl state))
    (fun _ => announced.published after) ?_ (fun _ => id) ⟨some index, ?_, ?_⟩ ?_ ?_ ?_
  · intro conn held stop
    obtain ⟨_, _, _, published⟩ := isolated.stopped index ffi conn found held stop
    exact absurd published hidden
  · exact agrees.trans (.connected .nil)
  · intro other
    constructor
    · rintro ⟨⟩
      exact ⟨_, by simp, announced⟩
    · rintro ⟨peer, lookup, now⟩
      rcases lookup_update lookup with ⟨rfl, _⟩ | ⟨_, lookup⟩
      · rfl
      · cases (shown other).mpr ⟨peer, lookup, now⟩
  · intro other waiting
    rw [pending_append, List.mem_append] at waiting
    rcases waiting with earlier | single
    · exact .inl earlier
    · exact .inr ⟨List.mem_singleton.mp single, announced.published after⟩
  · rw [pending_append, List.nodup_append]
    refine ⟨isolated.unique, List.nodup_singleton _, ?_⟩
    rintro other earlier _ single rfl
    exact unknown (.inr (List.mem_singleton.mp single ▸ earlier))
  · intro other spawned waiting
    rw [pending_append, List.mem_append] at waiting
    rcases waiting with earlier | single
    · exact isolated.once other spawned earlier
    · exact unknown (.inl (List.mem_singleton.mp single ▸ spawned))

/-- `set_disconnected` publishes its event. -/
private theorem isolated_announced (isolated : inst.Isolated)
    (found : inst.conns index = some ffi) (call : ffi.call = .disconnecting) :
    ({ inst with
      conns := Function.update inst.conns index (some { ffi with call := .returning })
      updates := inst.updates ++ [.disconnected] } : Instance).Isolated := by
  have sound := isolated.sound index ffi found
  have state := sound.closing (.inl call)
  have before : ffi.Announced := .inr call
  obtain ⟨current, agrees, shown⟩ := isolated.agrees
  have now : current = some index := (shown index).mpr ⟨ffi, found, before⟩
  subst now
  have after : ({ ffi with call := .returning } : FFIConnection).Sound :=
    { sound with publishing := by simp, closing := fun _ => state }
  have unannounced : ¬ ({ ffi with call := .returning } : FFIConnection).Announced := by
    simp [FFIConnection.Announced]
  have same : pending (inst.updates ++ [.disconnected]) = pending inst.updates := by
    simp [pending_append, pending]
  refine isolated.withFfi found after (fun _ => isolated.alone found before.open_)
    (fun published => ⟨published.1, by simp⟩) ?_ (fun _ => id)
    ⟨none, agrees.trans (.disconnected .nil), ?_⟩ ?_ ?_ ?_
  · intro conn held stop
    obtain ⟨_, _, never, _⟩ := isolated.stopped index ffi conn found held stop
    exact absurd before never
  · intro other
    refine iff_of_false (by simp) ?_
    rintro ⟨peer, lookup, announced⟩
    rcases lookup_update lookup with ⟨_, rfl⟩ | ⟨elsewhere, lookup⟩
    · exact unannounced announced
    · cases (shown other).mpr ⟨peer, lookup, announced⟩
      exact elsewhere rfl
  · rw [same]
    exact fun other => .inl
  · rw [same]
    exact isolated.unique
  · rw [same]
    exact isolated.once

/-- A step on one connection by a host or by its tasks. -/
private theorem isolated_called {action : FfiAct} {outcome : Outcome} (isolated : inst.Isolated)
    (admitted : inst.admits index action = true) (found : inst.conns index = some ffi)
    (move : FfiMove env ffi action outcome) (unhindered : action.Unhindered env ffi)
    (alone : ∀ endpointHostname, action = .connected endpointHostname →
      ∀ other peer, other ≠ index → inst.conns other = some peer → ¬ peer.Open) :
    ({ inst with
      conns := Function.update inst.conns index (some outcome.next)
      updates := inst.updates ++ outcome.events.map (ConnectionEvent.toUpdate index) } :
      Instance).Isolated := by
  have sound := isolated.sound index ffi found
  have next := move.sound unhindered sound
  have stopped : ∀ conn, outcome.next.conn = some conn → conn.stop = true →
      ∃ before, ffi.conn = some before ∧ before.stop = true := by
    intro conn held stop
    refine move.unstopped ?_ held stop
    rintro rfl
    cases admitted
  have frame (opens : outcome.next.Open → ffi.Open)
      (announced : outcome.next.Announced ↔ ffi.Announced)
      (published : ffi.Published → outcome.next.Published) :=
    isolated.quiet found next (fun now => isolated.alone found (opens now)) announced published
      stopped
  cases move with
  | published call => exact isolated_published isolated found call
  | announced call => exact isolated_announced isolated found call
  | freed => exact (frame id Iff.rfl id).append (.inr rfl)
  | connecting _ _ state =>
      have closed : ffi.conn = none := by
        cases conn : ffi.conn with
        | none => rfl
        | some conn' => simpa [state] using sound.linked conn' conn
      have silent : ¬ ffi.Published := fun shown => shown.1 closed
      simp only [List.map_nil, List.append_nil]
      refine isolated.quiet found next (fun _ => alone _ rfl) (iff_of_false ?_ ?_)
        (fun shown => absurd shown silent) stopped
      · simp [FFIConnection.Announced]
      · exact fun announced => silent (announced.published sound)
  | configured idle _ before =>
      simp only [List.map_nil, List.append_nil]
      refine frame ?_ (iff_of_false ?_ ?_) id
      · simp [FFIConnection.Open, idle]
      · simp [FFIConnection.Announced, idle]
      · rcases before with state | ⟨old, state⟩ <;> simp [FFIConnection.Announced, idle, state]
  | disconnecting idle _ state =>
      simp only [List.map_nil, List.append_nil]
      refine frame (fun _ => .inl state) (iff_of_true (.inr rfl) (.inl ⟨state, idle⟩)) ?_
      exact fun shown => ⟨shown.1, by simp⟩
  | returned call =>
      have state := sound.closing (.inr call)
      simp only [List.map_nil, List.append_nil]
      refine frame ?_ (iff_of_false ?_ ?_) fun _ => ⟨by simp, by simp⟩
      · simp [FFIConnection.Open, state]
      · simp [FFIConnection.Announced, state]
      · simp [FFIConnection.Announced, call]
  | refused | receivedNothing | reportDropped =>
      simp only [List.map_nil, List.append_nil]
      exact frame id Iff.rfl id
  | received | reported | unlinked | native =>
      simp only [List.map_nil, List.append_nil]
      exact frame id Iff.rfl fun shown => ⟨by simp, shown.2⟩

private theorem isolated_created (isolated : inst.Isolated) :
    ({ inst with
      conns := Function.update inst.conns inst.count (some .new)
      count := inst.count + 1
      updates := inst.updates ++ [.init] } : Instance).Isolated := by
  have vacant := isolated.fresh inst.count le_rfl
  have closed : ¬ FFIConnection.new.Open := by decide
  obtain ⟨current, agrees, shown⟩ := isolated.agrees
  have added : ({ inst with
      conns := Function.update inst.conns inst.count (some .new)
      count := inst.count + 1 } : Instance).Isolated := by
    refine { isolated with
      fresh := ?_, sound := ?_, exclusive := ?_, agrees := ⟨current, agrees, ?_⟩, known := ?_
      stopped := ?_ }
    · intro other late
      have late : inst.count < other := late
      exact (Function.update_of_ne late.ne' _ _).trans (isolated.fresh other late.le)
    · intro other peer lookup
      rcases lookup_update lookup with ⟨_, rfl⟩ | ⟨_, lookup⟩
      · exact FFIConnection.sound_new
      · exact isolated.sound other peer lookup
    · intro first second left right leftFound rightFound leftOpen rightOpen
      rcases lookup_update leftFound with ⟨_, rfl⟩ | ⟨_, leftBefore⟩
      · exact absurd leftOpen closed
      · rcases lookup_update rightFound with ⟨_, rfl⟩ | ⟨_, rightBefore⟩
        · exact absurd rightOpen closed
        · exact isolated.exclusive _ _ _ _ leftBefore rightBefore leftOpen rightOpen
    · intro other
      exact (shown other).trans (exists_insert vacant fun now => closed now.open_).symm
    · intro other present
      have hidden : ¬ FFIConnection.new.Published := by
        simp [FFIConnection.Published, FFIConnection.new]
      exact (exists_insert vacant hidden).mpr (isolated.known other present)
    · intro other peer conn lookup held stop
      rcases lookup_update lookup with ⟨_, rfl⟩ | ⟨_, lookup⟩
      · cases held
      · exact isolated.stopped other peer conn lookup held stop
  exact added.append (.inl rfl)

/-! ### The handler's moves -/

private theorem isolated_ignored {update : Update} {rest : List Update} (isolated : inst.Isolated)
    (queued : inst.updates = update :: rest) (quiet : update = .init ∨ update = .release) :
    ({ inst with updates := rest } : Instance).Isolated := by
  have same : pending inst.updates = pending rest := by
    rw [queued]
    rcases quiet with rfl | rfl <;> rfl
  obtain ⟨current, agrees, shown⟩ := isolated.agrees
  rw [queued] at agrees
  refine { isolated with
    agrees := ⟨current, agrees.tail quiet, shown⟩
    known := same ▸ isolated.known, unique := same ▸ isolated.unique
    once := same ▸ isolated.once }

private theorem isolated_started {io : Nat} {rest : List Update} (isolated : inst.Isolated)
    (queued : inst.updates = .connected io :: rest) (idle : inst.handler.activeConn = none) :
    ({ inst with
      updates := rest
      handler := { inst.handler with activeConn := some io }
      spawned := Function.update inst.spawned io true } : Instance).Isolated := by
  have waiting : pending inst.updates = io :: pending rest := by rw [queued, pending]
  have unique := isolated.unique
  rw [waiting, List.nodup_cons] at unique
  have fresh : ¬ inst.spawned io = true := by
    intro spawned
    exact isolated.once io spawned (waiting ▸ List.mem_cons_self)
  obtain ⟨current, agrees, shown⟩ := isolated.agrees
  rw [queued, idle] at agrees
  refine { isolated with
    agrees := ⟨current, ?_, shown⟩, active := ?_, known := ?_, unique := unique.2, once := ?_
    stopped := ?_ }
  · cases agrees with
    | connected tail => exact tail
  · rintro other ⟨⟩
    simp
  · rintro other (spawned | later)
    · rcases read_update spawned with ⟨rfl, _⟩ | ⟨_, before⟩
      · exact isolated.known other (.inr (waiting ▸ List.mem_cons_self))
      · exact isolated.known other (.inl before)
    · exact isolated.known other (.inr (waiting ▸ List.mem_cons_of_mem _ later))
  · intro other spawned later
    rcases read_update spawned with ⟨rfl, _⟩ | ⟨_, before⟩
    · exact unique.1 later
    · exact isolated.once other before (waiting ▸ List.mem_cons_of_mem _ later)
  · intro other peer conn lookup held stop
    obtain ⟨spawned, _, rest⟩ := isolated.stopped other peer conn lookup held stop
    have apart : io ≠ other := by
      rintro rfl
      exact fresh spawned
    exact ⟨by simp [Function.update_of_ne apart.symm, spawned], by simpa using apart, rest⟩

private theorem sound_cancelStop (sound : ffi.Sound) : ffi.cancelStop.Sound := by
  refine { sound with unlinked := ?_, linked := ?_, well := ?_ }
  · intro none
    exact sound.unlinked (Option.map_eq_none_iff.mp none)
  · intro conn held
    obtain ⟨before, was, rfl⟩ := Option.map_eq_some_iff.mp held
    exact sound.linked before was
  · intro conn held
    obtain ⟨before, was, rfl⟩ := Option.map_eq_some_iff.mp held
    have well := sound.well before was
    exact ⟨well.hello, well.unpanicked, fun _ => .inl rfl⟩

/-- The handler cancels the actor of the connection it has as active, which is
no longer announced when `Disconnected` is processed. -/
private theorem isolated_stopped {old : Nat} {rest : List Update} (isolated : inst.Isolated)
    (queued : inst.updates = .disconnected :: rest) (active : inst.handler.activeConn = some old) :
    ({ inst with
      updates := rest
      handler := ⟨.stopping old false, none⟩
      conns := Function.update inst.conns old ((inst.conns old).map .cancelStop) } :
      Instance).Isolated := by
  have waiting : pending inst.updates = pending rest := by rw [queued, pending]
  have spawned := isolated.active old active
  obtain ⟨ffi, found, published⟩ := isolated.known old (.inl spawned)
  have sound := isolated.sound old ffi found
  obtain ⟨current, agrees, shown⟩ := isolated.agrees
  rw [queued, active] at agrees
  have tail : Agrees none rest current := by
    cases agrees with
    | disconnected tail => exact tail
  have withdrawn : ¬ ffi.Announced := by
    intro announced
    rcases tail.current_known ((shown old).mpr ⟨ffi, found, announced⟩) with none | later
    · cases none
    · exact isolated.once old spawned (waiting ▸ later)
  have still : ffi.cancelStop.Published :=
    ⟨fun none => published.1 (Option.map_eq_none_iff.mp none), published.2⟩
  rw [found]
  refine isolated.withFfi found (sound_cancelStop sound)
    (fun opened => isolated.alone found opened) (fun _ => still)
    (fun _ _ _ => ⟨spawned, by simp, withdrawn, still⟩) (by simp) ⟨current, tail, ?_⟩
    ?_ ?_ ?_
  · intro other
    have same : ffi.cancelStop.Announced ↔ ffi.Announced := Iff.rfl
    exact (shown other).trans (exists_update found same).symm
  · exact fun other later => .inl (waiting ▸ later)
  · exact waiting ▸ isolated.unique
  · exact waiting ▸ isolated.once

end Instances

/-! ## Connections one after another -/

namespace Instance

/-- A connection is connected only when no other one of the `Ctx` is, and the
actors meet no panic. -/
def OneAtATime (env : FfiEnv) (inst : Instance) : InstanceAct → Prop
  | .ffi index (.connected _) => ∀ other < inst.count, other ≠ index →
      ∀ peer ∈ inst.conns other, ¬ peer.Open
  | .ffi index action => ∀ ffi ∈ inst.conns index, action.Unhindered env ffi
  | .create | .update | .joined => True

/-- The actor of a connection is spawned, was not told to stop and has not
ended. -/
def RunsActor (inst : Instance) (index : Nat) : Prop :=
  inst.spawned index = true ∧ ∃ ffi conn, inst.conns index = some ffi ∧ ffi.conn = some conn ∧
    conn.stop = false ∧ ¬ conn.actor.Ended

end Instance

instance (env : FfiEnv) (ffi : FFIConnection) (action : FfiAct) :
    Decidable (action.Unhindered env ffi) :=
  match action with
  | .native action => inferInstanceAs (Decidable (∀ conn ∈ ffi.conn, conn.Unhindered _ action))
  | .sendCallback _ | .connected _ | .recv _ | .disconnected | .report _ _ | .free | .resume =>
      isTrue trivial

instance (env : FfiEnv) (inst : Instance) (action : InstanceAct) :
    Decidable (inst.OneAtATime env action) :=
  match action with
  | .ffi index (.connected _) => inferInstanceAs (Decidable (∀ other < inst.count,
      other ≠ index → ∀ peer ∈ inst.conns other, ¬ peer.Open))
  | .ffi index (.native action) => inferInstanceAs (Decidable (∀ ffi ∈ inst.conns index,
      FfiAct.Unhindered env ffi (.native action)))
  | .ffi _ (.sendCallback _) | .ffi _ (.recv _) | .ffi _ .disconnected | .ffi _ (.report _ _)
  | .ffi _ .free | .ffi _ .resume => isTrue fun _ _ => trivial
  | .create | .update | .joined => isTrue trivial

section OneAtATime

variable {env : FfiEnv} {inst next : Instance} {action : InstanceAct}

theorem Instance.Isolated.step (isolated : inst.Isolated) (meets : inst.OneAtATime env action)
    (stepped : inst.step env action = some next) : next.Isolated := by
  cases Instance.step_move stepped with
  | created => exact isolated_created isolated
  | @called index action ffi outcome admitted found move =>
      refine isolated_called isolated admitted found move ?_ ?_
      · cases action with
        | native => exact meets ffi found
        | sendCallback | connected | recv | disconnected | report | free | resume => trivial
      · rintro endpointHostname rfl other peer elsewhere lookup
        have created : other < inst.count := by
          by_contra late
          simp [isolated.fresh other (not_lt.mp late)] at lookup
        exact meets other created elsewhere peer lookup
  | ignored queued quiet => exact isolated_ignored isolated queued quiet
  | started queued idle => exact isolated_started isolated queued idle
  | stopped queued active => exact isolated_stopped isolated queued active
  | joined => exact { isolated with }
  | replaced queued active =>
      -- a second `Connected` never follows the first without a `Disconnected`
      obtain ⟨current, agrees, _⟩ := isolated.agrees
      rw [queued, active] at agrees
      cases agrees
  | unmatched queued idle =>
      obtain ⟨current, agrees, _⟩ := isolated.agrees
      rw [queued, idle] at agrees
      cases agrees

theorem isolated_of_reachable
    (reached : (ctx env).ReachableBy (Instance.OneAtATime env) inst) : inst.Isolated := by
  refine reached.invariant Instance.Isolated ?_ ?_
  · rintro _ rfl
    exact Instance.isolated_init
  · intro before action after _ isolated meets stepped
    exact isolated.step meets stepped

/-- An actor stops, whether it is told to or by itself, only once its own
connection was taken down. -/
theorem Instance.Isolated.disconnected (isolated : inst.Isolated) {index : Nat}
    {ffi : FFIConnection} {conn : Conn} (found : inst.conns index = some ffi)
    (held : ffi.conn = some conn) (finished : conn.stop = true ∨ conn.actor.Ended) :
    ffi.state = .disconnected := by
  have sound := isolated.sound index ffi found
  rcases finished.elim .inl (sound.well conn held).ended with stop | link
  · obtain ⟨_, _, unannounced, published⟩ := isolated.stopped index ffi conn found held stop
    exact (published.disconnected sound unannounced).1
  · rcases sound.linked conn held with ⟨_, connected⟩ | disconnected
    · simp [link] at connected
    · exact disconnected

/-- Once every update is processed, the announced connection is the active one. -/
theorem Instance.Isolated.activeConn (isolated : inst.Isolated) (processed : inst.updates = [])
    {index : Nat} {ffi : FFIConnection} (found : inst.conns index = some ffi)
    (announced : ffi.Announced) : inst.handler.activeConn = some index := by
  obtain ⟨current, agrees, shown⟩ := isolated.agrees
  have now := (shown index).mpr ⟨ffi, found, announced⟩
  rcases agrees.current_known now with active | waiting
  · exact active
  · simp [processed, pending] at waiting

end OneAtATime

/-- While the connections of a `Ctx` follow one another, each connected one has
a running actor once the updates are processed, and an actor stops only after
its own connection was disconnected. -/
theorem actors_isolated (env : FfiEnv) (inst : Instance)
    (reached : (ctx env).ReachableBy (Instance.OneAtATime env) inst) :
    (inst.updates = [] → ∀ index ffi, inst.conns index = some ffi → ffi.state = .connected →
      ffi.call = .idle → inst.handler.activeConn = some index ∧ inst.RunsActor index) ∧
    ∀ index ffi conn, inst.conns index = some ffi → ffi.conn = some conn →
      conn.stop = true ∨ conn.actor.Ended → ffi.state = .disconnected := by
  have isolated := isolated_of_reachable reached
  refine ⟨?_, fun _ _ _ found held => isolated.disconnected found held⟩
  intro processed index ffi found state idle
  have active := isolated.activeConn processed found (.inl ⟨state, idle⟩)
  obtain ⟨conn, held⟩ : ∃ conn, ffi.conn = some conn := by
    refine Option.ne_none_iff_exists'.mp fun none => ?_
    exact ((isolated.sound index ffi found).unlinked none).1 state
  have running : ¬ (conn.stop = true ∨ conn.actor.Ended) := by
    intro stopped
    have gone := isolated.disconnected found held stopped
    simp [state] at gone
  obtain ⟨unstopped, going⟩ := not_or.mp running
  exact ⟨active, isolated.active index active, ffi, conn, found, held,
    Bool.not_eq_true _ ▸ unstopped, going⟩

/-- Create a connection, configure it and connect it. -/
def openConn (index : Nat) : List InstanceAct :=
  [.create, .ffi index (.sendCallback ⟨1, 2⟩), .ffi index (.connected "config.datadoghq.com"),
    .ffi index .resume]

/-- Take a connection down, until its handle is freed and its actor has ended. -/
def closeConn (index : Nat) : List InstanceAct :=
  [.ffi index .disconnected, .ffi index .resume, .ffi index .resume,
    .ffi index (.native .ioTask), .ffi index .resume, .ffi index (.native .dispatchTask),
    .ffi index .resume, .ffi index .resume, .ffi index .free, .update] ++
    List.replicate 4 (.ffi index (.native (.actor Actor.fixtureDraw))) ++ [.joined, .update]

/-- Two connections, the second one after the first. -/
def openInTurn : List InstanceAct :=
  openConn 0 ++ [.update, .update] ++ closeConn 0 ++ openConn 1 ++ [.update, .update]

theorem actors_isolated_openInTurn : ∃ inst first conn second,
    (ctx fixtureFfiEnv).run .init openInTurn = some inst ∧
      inst.conns 0 = some first ∧ first.conn = some conn ∧ conn.stop = true ∧
      first.state = .disconnected ∧ inst.conns 1 = some second ∧ second.state = .connected ∧
      inst.RunsActor 1 := by
  obtain ⟨inst, first, conn, second, ran, processed, foundFirst, held, stopped, foundSecond,
      connected, idle⟩ : ∃ inst first conn second,
      (ctx fixtureFfiEnv).run .init openInTurn = some inst ∧ inst.updates = [] ∧
        inst.conns 0 = some first ∧ first.conn = some conn ∧ conn.stop = true ∧
        inst.conns 1 = some second ∧ second.state = .connected ∧ second.call = .idle :=
    ⟨_, _, _, _, rfl, rfl, rfl, rfl, rfl, rfl, rfl, rfl⟩
  have conforms : (ctx fixtureFfiEnv).Conforms (Instance.OneAtATime fixtureFfiEnv) .init
      openInTurn := by decide
  have reached : (ctx fixtureFfiEnv).ReachableBy (Instance.OneAtATime fixtureFfiEnv) inst :=
    System.reachableBy_of_run rfl conforms ran
  obtain ⟨runs, ends⟩ := actors_isolated fixtureFfiEnv inst reached
  have down := ends 0 first conn foundFirst held (.inl stopped)
  obtain ⟨_, running⟩ := runs processed 1 second foundSecond connected idle
  exact ⟨inst, first, conn, second, ran, foundFirst, held, stopped, down, foundSecond, connected,
    running⟩

/-- A second connection of the `Ctx` is connected beside the first one, and the
handler stops the first one's actor. -/
def openTwo : List InstanceAct :=
  openConn 0 ++ openConn 1 ++ List.replicate 4 InstanceAct.update ++
    List.replicate 4 (InstanceAct.ffi 0 (.native (.actor Actor.fixtureDraw))) ++
    [InstanceAct.joined]

theorem connecting_stops_other_actor : ∃ inst first second conn,
    (ctx fixtureFfiEnv).run .init openTwo = some inst ∧ inst.updates = [] ∧
      inst.handler.pc = .waiting ∧ inst.conns 0 = some first ∧ inst.conns 1 = some second ∧
      first.state = .connected ∧ first.call = .idle ∧ second.state = .connected ∧
      first.conn = some conn ∧ conn.stop = true ∧ conn.actor = .returned :=
  ⟨_, _, _, _, rfl, rfl, rfl, rfl, rfl, rfl, rfl, rfl, rfl, rfl, rfl⟩

end LibddRc.Ffi
