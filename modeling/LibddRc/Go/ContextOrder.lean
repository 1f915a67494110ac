import LibddRc.Go.ContextSafety

/-! Every run of a context: the proof outline holds, so each connection's native
calls are in order and `rc_free` comes after the last connection is freed. -/

set_option autoImplicit false

namespace LibddRc.Go

open Foundation

section Moves

variable {id index : Nat} {ctx next : X509Context} {conn changed : Connection}
  {point after : ContextPc}

private theorem held_set {property : Connection → Prop} (started : changed.started = true)
    (mu : changed.mu = some id) (holds : property changed) :
    (ctx.setConn index changed).Held id index property :=
  ⟨changed, setConn_self, started, mu, holds⟩

private theorem phase_of_settled {lifecycle : ConnLifecycle} (settled : conn.Settled)
    (same : conn.lifecycle = lifecycle) : conn.phase = some lifecycle.phase :=
  same ▸ settled

private theorem settled_of_phase {lifecycle : ConnLifecycle} (same : conn.lifecycle = lifecycle)
    (phase : conn.phase = some lifecycle.phase) : conn.Settled := by
  rw [Connection.Settled, same]
  exact phase

theorem ConnMove.knows (move : ConnMove id index conn point changed after)
    (found : ctx.connections index = some conn) (consistent : ctx.Consistent)
    (knows : ctx.Knows id point) : (ctx.setConn index changed).Knows id after := by
  have change := move.change found consistent knows
  have sound := consistent.sound index conn found
  obtain ⟨mutex, known⟩ := knows
  cases move with
  | configured =>
      obtain ⟨creating, unclosed⟩ := known
      obtain ⟨unstarted, phase⟩ := creating.of found
      refine ⟨fun _ => mutex rfl,
        ⟨⟨_, setConn_self, unstarted, Connection.phase_call phase rfl⟩, ?_⟩, unclosed⟩
      intro other peer elsewhere lookup
      rw [setConn_of_ne elsewhere] at lookup
      exact creating.2 other peer elsewhere lookup
  | connectedLocked free | recvLocked free =>
      have started := known.of found
      exact ⟨nofun, held_set started rfl (sound.settled started free)⟩
  | closeLocked free =>
      have started := known.2.of found
      exact ⟨nofun, change.owed found known.1,
        held_set started rfl (sound.settled started free)⟩
  | connectedRefused | recvRefused =>
      obtain ⟨started, mu, settled⟩ := known.of found
      exact ⟨nofun, held_set started mu settled⟩
  | connectedMarked init =>
      obtain ⟨started, mu, settled⟩ := known.of found
      exact ⟨nofun, held_set started mu ⟨rfl, phase_of_settled settled init⟩⟩
  | connected =>
      obtain ⟨started, mu, lifecycle, phase⟩ := known.of found
      exact ⟨nofun,
        held_set started mu (settled_of_phase lifecycle (Connection.phase_call phase rfl))⟩
  | recvAllowed lifecycle =>
      obtain ⟨started, mu, settled⟩ := known.of found
      exact ⟨nofun, held_set started mu ⟨lifecycle, phase_of_settled settled lifecycle⟩⟩
  | received =>
      obtain ⟨started, mu, lifecycle, phase⟩ := known.of found
      exact ⟨nofun,
        held_set started mu (settled_of_phase lifecycle (Connection.phase_call phase rfl))⟩
  | closeRefused closed =>
      obtain ⟨started, mu, settled⟩ := known.2.of found
      have freed : conn.phase = some .freed := ConnLifecycle.phase_closed closed ▸ settled
      exact ⟨nofun, change.owed found known.1, held_set started mu ⟨closed, freed⟩⟩
  | closeMarked lifecycle =>
      obtain ⟨started, mu, settled⟩ := known.2.of found
      have phase := phase_of_settled settled lifecycle
      exact ⟨nofun, change.owed found known.1, held_set started mu ⟨rfl, phase⟩⟩
  | shutdownStepped =>
      obtain ⟨started, mu, closed, phase⟩ := known.2.of found
      exact ⟨nofun, change.owed found known.1, held_set started mu ⟨closed, phase⟩⟩
  | shutdownReturned returned =>
      obtain ⟨started, mu, closed, phase⟩ := known.2.of found
      exact ⟨nofun, change.owed found known.1, held_set started mu ⟨closed, phase, returned⟩⟩
  | disconnected =>
      obtain ⟨started, mu, closed, phase, returned⟩ := known.2.of found
      exact ⟨nofun, change.owed found known.1,
        held_set started mu ⟨closed, .inl (Connection.phase_call phase rfl), returned⟩⟩
  | neverConnected =>
      obtain ⟨started, mu, closed, phase, returned⟩ := known.2.of found
      exact ⟨nofun, change.owed found known.1,
        held_set started mu ⟨closed, .inr phase, returned⟩⟩
  | freed =>
      obtain ⟨started, mu, closed, phase, returned⟩ := known.2.of found
      exact ⟨nofun, change.owed found known.1,
        held_set started mu ⟨closed, Connection.phase_free phase⟩⟩
  | unlocked =>
      obtain ⟨_, _, _, phase⟩ := known.2.of found
      exact ⟨nofun, change.owed found known.1, _, setConn_self, phase⟩

/-! ## Moves of the context -/

/-- A goroutine leaves a connection that it has settled. -/
private theorem change_unlock (sound : conn.Sound) (started : conn.started = true)
    (mu : conn.mu = some id) (settled : conn.Settled) :
    OwnChange id ctx conn { conn with mu := none } :=
  change_held (sound.unlock started settled) started mu rfl (.inr rfl)

private theorem change_refusing {err : LifecycleError} {caller : CloseCaller}
    (found : ctx.connections index = some conn) (consistent : ctx.Consistent)
    (known : ctx.At id (.closing index (.refusing err) caller)) :
    OwnChange id ctx conn { conn with mu := none } ∧ conn.phase = some .freed := by
  obtain ⟨started, mu, closed, phase⟩ := known.2.of found
  exact ⟨change_unlock (consistent.sound index conn found) started mu
    (Connection.settled_freed closed phase), phase⟩

private theorem change_connUnlock {result : ApiResult}
    (found : ctx.connections index = some conn) (consistent : ctx.Consistent)
    (known : ctx.At id (.connUnlocking index result)) :
    OwnChange id ctx conn { conn with mu := none } := by
  obtain ⟨started, mu, settled⟩ := known.of found
  exact change_unlock (consistent.sound index conn found) started mu settled

private theorem sound_new : Connection.new.Sound := by
  refine ⟨⟨Pool.init, rfl, .refl⟩, ?_, ?_, ?_⟩
  · intro started
    cases started
  · exact fun _ => ⟨.inl rfl, rfl, rfl⟩
  · intro started
    cases started

private theorem consistent_created (consistent : ctx.Consistent) (held : ctx.mu = some id)
    (unclosed : ctx.closed = false) :
    ({ ctx.setConn ctx.count .new with count := ctx.count + 1 } : X509Context).Consistent := by
  have vacant := consistent.fresh ctx.count (Nat.le_refl _)
  refine { consistent with
    fresh := ?_, sound := ?_, listed := ?_, started := ?_, unlocked := ?_, freed := ?_ }
  · intro other late
    have late : ctx.count < other := late
    have elsewhere : other ≠ ctx.count := by omega
    exact (setConn_of_ne elsewhere).trans (consistent.fresh other (by omega))
  · intro other peer lookup
    exact consistent.sound_set sound_new lookup
  · intro other peer lookup started
    rcases lookup_conn lookup with ⟨_, rfl⟩ | ⟨_, lookup⟩
    · cases started
    · exact consistent.listed other peer lookup started
  · intro other known
    obtain ⟨peer, lookup, started⟩ := consistent.started other known
    exact ⟨peer, lookup_insert vacant lookup, started⟩
  · intro free
    simp [X509Context.setConn, held] at free
  · intro released
    have none := consistent.unfreed unclosed
    simp [X509Context.setConn, none] at released

private theorem consistent_registered (consistent : ctx.Consistent) (held : ctx.mu = some id)
    (found : ctx.connections index = some conn) (unstarted : conn.started = false)
    (phase : conn.phase = some .configured) (unclosed : ctx.closed = false) :
    ({ ctx.setConn index { conn with started := true } with
      conns := ctx.conns ++ [index] } : X509Context).Consistent := by
  have sound := consistent.sound index conn found
  obtain ⟨_, lifecycle, mu⟩ := sound.unstarted unstarted
  have settled : conn.Settled := settled_of_phase lifecycle phase
  have registered : ({ conn with started := true } : Connection).Sound := by
    refine ⟨sound.reachable, fun _ => .inl phase, ?_, fun _ _ => settled⟩
    intro never
    cases never
  refine { consistent with
    fresh := ?_, sound := ?_, listed := ?_, started := ?_, unlocked := ?_, freed := ?_ }
  · intro other late
    exact setConn_absent found (consistent.fresh other late)
  · intro other peer lookup
    exact consistent.sound_set registered lookup
  · intro other peer lookup started
    rcases lookup_conn lookup with ⟨rfl, _⟩ | ⟨_, lookup⟩
    · exact .inl (List.mem_append_right _ (List.mem_singleton_self _))
    · exact (consistent.listed other peer lookup started).imp_left (List.mem_append_left _)
  · intro other known
    by_cases here : other = index
    · subst here
      exact ⟨_, setConn_self, rfl⟩
    · have before : other ∈ ctx.handed ∨ other ∈ ctx.conns := by
        simpa [X509Context.setConn, here] using known
      obtain ⟨peer, lookup, started⟩ := consistent.started other before
      exact ⟨peer, (setConn_of_ne here).trans lookup, started⟩
  · intro free
    simp [X509Context.setConn, held] at free
  · intro released
    have none := consistent.unfreed unclosed
    simp [X509Context.setConn, none] at released

theorem ContextMove.consistent (move : ContextMove id ctx point next after)
    (consistent : ctx.Consistent) (knows : ctx.Knows id point) : next.Consistent := by
  have mutex := knows.mutex
  have known := knows.at_
  cases move with
  | newCalled | contextCloseCalled | connectedCalled | recvCalled | closeCalled | newClosed
  | newOpen | newFailed | contextAgain | snapshot | allClosed | nextClosed => exact consistent
  | rejected => exact { consistent with }
  | conn found moved => exact (moved.change found consistent knows).consistent found consistent
  | newLocked | forgetLocked | contextLocked | freeLocked =>
      exact { consistent with unlocked := nofun }
  | created =>
      exact consistent_created consistent (mutex rfl) known.2
  | registered found =>
      obtain ⟨creating, unclosed⟩ := known
      obtain ⟨unstarted, phase⟩ := creating.of found
      exact consistent_registered consistent (mutex rfl) found unstarted phase unclosed
  | newReturned =>
      refine { consistent with started := ?_, unlocked := fun _ => known.1 }
      rintro other (handed | listed)
      · rcases List.mem_append.mp handed with before | single
        · exact consistent.started other (.inl before)
        · cases List.mem_singleton.mp single
          exact known.2
      · exact consistent.started other (.inr listed)
  | newRefused | contextRefused | contextReturned =>
      exact { consistent with unlocked := fun _ => known }
  | connUnlocked found =>
      have changed := (change_connUnlock found consistent known).consistent found consistent
      exact { changed with }
  | closeRefusedUser found | closeFailed found =>
      have changed := (change_refusing found consistent known).1.consistent found consistent
      exact { changed with }
  | closeRefusedContext found =>
      exact (change_refusing found consistent known).1.consistent found consistent
  | @forgotten index =>
      have freed := known.2.2
      refine { consistent with listed := ?_, started := ?_ }
      · intro other peer found started
        rcases consistent.listed other peer found started with listed | gone
        · by_cases here : other = index
          · subst here
            exact .inr (freed.of found)
          · exact .inl (List.mem_filter.mpr ⟨listed, by simpa using here⟩)
        · exact .inr gone
      · intro other listed
        exact consistent.started other (listed.imp_right List.mem_of_mem_filter)
  | closeReturnedUser | closeReturnedContext =>
      exact { consistent with unlocked := fun _ => known.2.1 }
  | contextFirst unclosed =>
      exact { consistent with closer := by simp, unfreed := nofun }
  | contextUnlocked => exact { consistent with unlocked := fun _ => known.1 }
  | rcFreed =>
      obtain ⟨_, closedBy, covered⟩ := known
      have closed := consistent.closed_of closedBy
      refine { consistent with unfreed := ?_, rcFrees := ?_, freed := fun _ => covered }
      · intro unclosed
        simp [closed] at unclosed
      · simp [closedBy.2]

private theorem X509Context.Remaining.tail {rest : List Nat}
    (remaining : ctx.Remaining (index :: rest)) (freed : ctx.Freed index) :
    ctx.Remaining rest := by
  refine ⟨?_, fun other member => remaining.2 other (List.mem_cons_of_mem _ member)⟩
  intro other peer found
  rcases remaining.1 other peer found with gone | member
  · exact .inl gone
  · rcases List.mem_cons.mp member with rfl | later
    · exact .inl (freed.of found)
    · exact .inr later

theorem ContextMove.knows (move : ContextMove id ctx point next after)
    (consistent : ctx.Consistent) (knows : ctx.Knows id point) : next.Knows id after := by
  have mutex := knows.mutex
  have known := knows.at_
  cases move with
  | newCalled | contextCloseCalled | rejected => exact ⟨nofun, trivial⟩
  | connectedCalled handed | recvCalled handed =>
      exact ⟨nofun, consistent.started _ (.inl handed)⟩
  | closeCalled handed => exact ⟨nofun, trivial, consistent.started _ (.inl handed)⟩
  | conn found moved => exact moved.knows found consistent knows
  | newLocked free | contextLocked free => exact ⟨fun _ => rfl, consistent.unlocked free⟩
  | newClosed | contextAgain => exact ⟨mutex, known⟩
  | newOpen unclosed => exact ⟨mutex, known, unclosed⟩
  | newFailed => exact ⟨mutex, known.1⟩
  | created =>
      refine ⟨mutex, ⟨⟨.new, setConn_self, rfl, rfl⟩, ?_⟩, known.2⟩
      intro other peer elsewhere lookup
      rw [setConn_of_ne elsewhere] at lookup
      exact known.1 other peer lookup
  | registered found =>
      refine ⟨mutex, ?_, _, setConn_self, rfl⟩
      intro other peer lookup
      rcases lookup_conn lookup with ⟨_, rfl⟩ | ⟨elsewhere, lookup⟩
      · rfl
      · exact known.1.2 other peer elsewhere lookup
  | newReturned | newRefused | connUnlocked | closeRefusedUser | closeFailed | closeReturnedUser
  | contextRefused | contextReturned => exact ⟨nofun, trivial⟩
  | closeRefusedContext found =>
      obtain ⟨change, freed⟩ := change_refusing found consistent known
      exact ⟨nofun, known.1.1, (change.remaining found known.1.2).tail ⟨_, setConn_self, freed⟩⟩
  | forgetLocked free => exact ⟨fun _ => rfl, known.1, consistent.unlocked free, known.2⟩
  | forgotten => exact ⟨mutex, known⟩
  | closeReturnedContext => exact ⟨nofun, known.1.1, known.1.2.tail known.2.2⟩
  | contextFirst unclosed => exact ⟨mutex, known, rfl, consistent.unfreed unclosed⟩
  | snapshot permuted =>
      obtain ⟨all, closedBy⟩ := known
      refine ⟨mutex, all, closedBy, ?_, ?_⟩
      · intro other peer found
        exact (consistent.listed other peer found (all other peer found)).symm.imp_right
          permuted.mem_iff.mpr
      · intro other member
        exact consistent.started other (.inr (permuted.mem_iff.mp member))
  | contextUnlocked => exact ⟨nofun, known.2⟩
  | allClosed => exact ⟨nofun, known.1, known.2.1⟩
  | nextClosed => exact ⟨nofun, known, known.2.2 _ List.mem_cons_self⟩
  | freeLocked free => exact ⟨fun _ => rfl, consistent.unlocked free, known⟩
  | rcFreed => exact ⟨mutex, known.1⟩

/-- A connection that is as it was disturbs nobody. -/
private theorem conns_of_kept {other : Nat}
    (kept : ∀ position peer, ctx.connections position = some peer →
      next.connections position = some peer) (position : Nat) (peer : Connection)
    (found : ctx.connections position = some peer) :
    ∃ same, next.connections position = some same ∧
      (peer.started = true → same.started = true) ∧
      (peer.phase = some .freed → same.phase = some .freed) ∧
      (peer.started = true → peer.mu = some other → peer.Alike same) ∧
      (ctx.mu = some other → peer.started = false → peer.Alike same) :=
  ⟨peer, kept position peer found, fun started => started, fun freed => freed,
    fun _ _ => .refl peer, fun _ _ => .refl peer⟩

private theorem undisturbed_frame {other : Nat} (same : next.connections = ctx.connections)
    (mu : ctx.mu = some other → next.mu = some other)
    (closed : ctx.mu = some other → next.closed = ctx.closed)
    (closer : ctx.closer = some other → next.closer = some other ∧ next.rcFrees = ctx.rcFrees) :
    Undisturbed other ctx next := by
  refine ⟨mu, conns_of_kept fun _ _ found => same ▸ found, ?_, closed, closer⟩
  intro _ position absent
  exact same ▸ absent

theorem ContextMove.undisturbed {other : Nat} (move : ContextMove id ctx point next after)
    (apart : other ≠ id) (consistent : ctx.Consistent) (knows : ctx.Knows id point) :
    Undisturbed other ctx next := by
  have mutex := knows.mutex
  have known := knows.at_
  have unshared {owner : Option Nat} (isMine : owner = some id) : owner ≠ some other := by
    rintro isTheirs
    exact apart (Option.some.inj (isTheirs.symm.trans isMine))
  cases move with
  | newCalled | contextCloseCalled | rejected | connectedCalled | recvCalled | closeCalled
  | newClosed | newOpen | newFailed | contextAgain | snapshot | allClosed | nextClosed
  | forgotten =>
      exact undisturbed_frame rfl (fun held => held) (fun _ => rfl) fun closer => ⟨closer, rfl⟩
  | conn found moved =>
      exact (moved.change found consistent knows).undisturbed apart found
  | newLocked free | forgetLocked free | contextLocked free | freeLocked free =>
      exact undisturbed_frame rfl (fun held => by simp [free] at held) (fun _ => rfl)
        fun closer => ⟨closer, rfl⟩
  | newReturned | newRefused | closeReturnedUser | closeReturnedContext | contextRefused
  | contextUnlocked | contextReturned =>
      exact undisturbed_frame rfl (fun held => absurd held (unshared (mutex rfl)))
        (fun _ => rfl) fun closer => ⟨closer, rfl⟩
  | connUnlocked found =>
      have changed := (change_connUnlock found consistent known).undisturbed apart found
      exact { changed with }
  | closeRefusedUser found | closeFailed found =>
      have changed := (change_refusing found consistent known).1.undisturbed apart found
      exact { changed with }
  | closeRefusedContext found =>
      exact (change_refusing found consistent known).1.undisturbed apart found
  | contextFirst unclosed =>
      refine undisturbed_frame rfl (fun held => held) ?_ ?_
      · intro held
        exact absurd held (unshared (mutex rfl))
      · simp [consistent.closer.mpr unclosed]
  | rcFreed =>
      refine undisturbed_frame rfl (fun held => held) (fun _ => rfl) ?_
      intro closer
      exact absurd closer (unshared known.2.1.1)
  | created =>
      have held := mutex rfl
      have vacant := consistent.fresh ctx.count (Nat.le_refl _)
      refine ⟨fun mu => mu, conns_of_kept ?_, ?_, fun _ => rfl, fun closer => ⟨closer, rfl⟩⟩
      · exact fun position peer found => lookup_insert vacant found
      · rintro (mu | closed)
        · exact absurd mu (unshared held)
        · simp [known.2] at closed
  | @registered index conn found =>
      have held := mutex rfl
      obtain ⟨unstarted, _⟩ := known.1.of found
      have changed : Undisturbed other ctx (ctx.setConn index { conn with started := true }) := by
        refine undisturbed_setConn found (fun _ => rfl) (fun freed => freed) ?_ ?_
        · intro started
          simp [unstarted] at started
        · intro mu
          exact absurd mu (unshared held)
      exact { changed with }

end Moves

/-! ## Every run -/

/-- The pools leave every goroutine undisturbed. -/
theorem poolStep_keeps {env : HostEnv} {ctx after : X509Context} {event : ContextEvent}
    (consistent : ctx.Consistent) (stepped : ctx.poolStep env event = some after) :
    after.Consistent ∧ ∀ id, Undisturbed id ctx after := by
  obtain ⟨index, action⟩ := event
  obtain ⟨other, stepped⟩ := Option.ite_none_left_eq_some.mp stepped
  obtain ⟨conn, found, stepped⟩ := Option.bind_eq_some_iff.mp stepped
  obtain ⟨started, stepped⟩ := Option.ite_none_right_eq_some.mp stepped
  obtain ⟨pool, moved, rfl⟩ := Option.map_eq_some_iff.mp stepped
  have sound := consistent.sound index conn found
  have alike : conn.Alike { conn with pool, native := conn.native ++ conn.dispatches env action } :=
    Connection.alike_pool sound started other moved
  have freed (gone : conn.phase = some .freed) := alike.phase.trans gone
  have change : Change conn _ := ⟨sound.alike alike (sound.reachable.step moved), rfl, freed⟩
  refine ⟨change.consistent found consistent, fun id => ?_⟩
  exact undisturbed_setConn found (fun _ => started) freed (fun _ _ => alike) fun _ _ => alike

/-- The proof outline of the package's calls on a context. -/
def contextOutline (env : HostEnv) : (libddrcffi env).Outline where
  invariant := X509Context.Consistent
  assertion id ctx := ctx.Knows id
  start := by
    rintro _ rfl
    refine ⟨?_, fun id => ⟨nofun, trivial⟩⟩
    refine ⟨?_, ?_, ?_, ?_, ?_, ?_, ?_, ?_, ?_⟩ <;>
      simp [X509Context.init, X509Context.AllStarted]
  own consistent knows stepped :=
    have move := X509Context.step_move stepped
    ⟨move.consistent consistent knows, move.knows consistent knows⟩
  others apart consistent knows known stepped :=
    known.undisturbed consistent
      ((X509Context.step_move stepped).undisturbed apart consistent knows)
  environment := by
    intro ctx event after consistent stepped
    obtain ⟨still, undisturbed⟩ := poolStep_keeps consistent stepped
    exact ⟨still, fun id _ knows => knows.undisturbed consistent (undisturbed id)⟩

theorem Connection.Sound.ordered {conn : Connection} (sound : conn.Sound) :
    Ordered conn.native := by
  cases started : conn.started with
  | true =>
      rcases sound.started started with phase | phase | ⟨phase | phase, _⟩ <;>
        exact ordered_of_phase phase
  | false =>
      rcases (sound.unstarted started).1 with phase | phase <;> exact ordered_of_phase phase

/-- However the goroutines interleave, the native calls of each connection are
in order, and `rc_free` is called at most once, when every connection of the
context is freed. -/
theorem native_calls_ordered (env : HostEnv) (state : Threads X509Context ContextPc)
    (reached : (libddrcffi env).threads.Reachable state) :
    (∀ index conn, state.shared.connections index = some conn → Ordered conn.native) ∧
    state.shared.rcFrees ≤ 1 ∧
    ((∃ id, state.points id = .contextFreeing) ∨ 0 < state.shared.rcFrees →
      ∀ index conn, state.shared.connections index = some conn → .free ∈ conn.native) := by
  obtain ⟨consistent, knows⟩ := (contextOutline env).holds reached
  refine ⟨fun index conn found => (consistent.sound index conn found).ordered,
    consistent.rcFrees, ?_⟩
  intro freeing index conn found
  have covered : state.shared.Covered [] := by
    rcases freeing with ⟨id, here⟩ | called
    · have known := (knows id).at_
      rw [here] at known
      exact known.2.2
    · exact consistent.freed called
  rcases covered index conn found with freed | member
  · exact free_mem freed
  · cases member

/-- Goroutine 0 creates a connection and connects it, a job is answered, and
goroutine 1 closes the context. -/
def connectAndClose : List (ThreadAct ContextChoice ContextEvent) :=
  ThreadAct.thread 0 ContextChoice.newConnection :: List.replicate 6 (.thread 0 .ok) ++
    ThreadAct.thread 0 (ContextChoice.connected 0 "config.datadoghq.com") ::
      List.replicate 4 (.thread 0 .ok) ++
    (PoolAct.lock 7 :: .offer :: .add :: serve).map
      (ThreadAct.environment ∘ ContextEvent.pool 0) ++
    ThreadAct.thread 1 ContextChoice.contextClose :: List.replicate 2 (.thread 1 .ok) ++
    ThreadAct.thread 1 (ContextChoice.range [0]) :: List.replicate 19 (.thread 1 .ok)

theorem native_calls_ordered_connectAndClose : ∃ state conn,
    (libddrcffi fixtureHostEnv).threads.run ⟨.init, fun _ => .idle⟩ connectAndClose =
        some state ∧
      state.shared.rcFrees = 1 ∧ state.shared.connections 0 = some conn ∧
      lifecycleCalls conn.native = [.new, .sendCallback, .connected "config.datadoghq.com" true,
        .disconnected, .free] ∧ conn.native.length = 6 ∧ Ordered conn.native := by
  obtain ⟨state, conn, ran, rcFrees, found, calls, length⟩ : ∃ state conn,
      (libddrcffi fixtureHostEnv).threads.run ⟨.init, fun _ => .idle⟩ connectAndClose =
          some state ∧
        state.shared.rcFrees = 1 ∧ state.shared.connections 0 = some conn ∧
        lifecycleCalls conn.native = [.new, .sendCallback,
          .connected "config.datadoghq.com" true, .disconnected, .free] ∧
        conn.native.length = 6 := ⟨_, _, rfl, rfl, rfl, rfl, rfl⟩
  have initial : (libddrcffi fixtureHostEnv).threads.initial ⟨.init, fun _ => .idle⟩ :=
    ⟨rfl, fun _ => rfl⟩
  obtain ⟨ordered, _⟩ := native_calls_ordered fixtureHostEnv state
    (System.reachable_of_run initial ran)
  exact ⟨state, conn, ran, rcFrees, found, calls, length, ordered 0 conn found⟩

end LibddRc.Go
