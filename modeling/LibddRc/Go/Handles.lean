import LibddRc.Ffi.Callbacks
import LibddRc.Go.RunLoopActors

/-! The `cgo.Handle`s by which the callbacks find the Go side of a connection. A
callback that used a deleted handle would panic. -/

set_option autoImplicit false

namespace LibddRc.Go

open Foundation Ffi

namespace RunLoop

/-- The connection at hand is not closed yet. -/
def unclosed (loop : RunLoop) : Bool :=
  match loop.pc with
  | .serving _ _ => loop.session.pc.stage ≤ 1
  | _ => true

structure Handled (loop : RunLoop) : Prop where
  once : loop.handles.Nodup
  live : ∀ index, index ∈ loop.handles ↔ loop.pc.conn? = some index ∧ loop.unclosed = true

section Handled

variable {env : LoopEnv} {loop next : RunLoop}

theorem handled_init : RunLoop.init.Handled :=
  ⟨List.nodup_nil, by simp [init, LoopPc.conn?]⟩

private theorem Handled.keeps (handled : loop.Handled) (handles : next.handles = loop.handles)
    (conn : next.pc.conn? = loop.pc.conn?) (same : next.unclosed = loop.unclosed) :
    next.Handled := by
  refine ⟨handles ▸ handled.once, ?_⟩
  intro index
  rw [handles, conn, same]
  exact handled.live index

/-- Without a connection at hand there is no handle. -/
theorem Handled.empty (handled : loop.Handled) (gone : loop.pc.conn? = none) :
    loop.handles = [] := by
  refine List.eq_nil_iff_forall_not_mem.mpr ?_
  intro index member
  have held := ((handled.live index).mp member).1
  simp [gone] at held

private theorem Handled.created (handled : loop.Handled) {inst : Instance}
    (start : loop.pc = .creating) : ({ loop with
      inst
      native := loop.calling loop.inst.count .new
      handles := loop.handles ++ [loop.inst.count]
      pc := .configuring loop.inst.count
      lifecycle := .init } : RunLoop).Handled := by
  rw [handled.empty (by rw [start]; rfl)]
  refine ⟨List.nodup_singleton _, ?_⟩
  intro index
  simp only [List.nil_append, List.mem_singleton, LoopPc.conn?, unclosed, Option.some.injEq,
    and_true]
  exact eq_comm

/-- The handle of a closed connection is deleted. -/
private theorem Handled.released {conn : ℕ} (handled : loop.Handled)
    (held : loop.pc.conn? = some conn) (handles : next.handles = loop.handles.erase conn)
    (closed : next.pc.conn? = none ∨ next.unclosed = false) : next.Handled := by
  have none : next.handles = [] := by
    refine List.eq_nil_iff_forall_not_mem.mpr ?_
    intro index member
    rw [handles, handled.once.mem_erase_iff] at member
    have at_ := ((handled.live index).mp member.2).1
    rw [held] at at_
    exact member.1 (Option.some.inj at_).symm
  refine ⟨none ▸ List.nodup_nil, ?_⟩
  intro index
  rw [none]
  refine iff_of_false (by simp) ?_
  rintro ⟨at_, open_⟩
  rcases closed with gone | closed
  · simp [gone] at at_
  · simp [closed] at open_

private theorem closed_unclosed {conn : ℕ} {closer : Closer} (went : loop.Closed conn closer next)
    (cleanup : ∀ ws, closer = .session ws → loop.session.pc.stage = 1) :
    next.handles = loop.handles ∧ (next.pc.conn? = none ∨ next.unclosed = false) := by
  cases went with
  | undialed | dialed => exact ⟨rfl, .inl rfl⟩
  | session stepped =>
      obtain ⟨stage, _⟩ := RunSession.step_close (cleanup _ rfl) stepped
      exact ⟨rfl, .inr (by simp [unclosed, stage])⟩

private theorem Handled.attempt (handled : loop.Handled) (move : AttemptMove env loop next) :
    next.Handled := by
  cases move with
  | created at_ => exact handled.created at_
  | notCreated at_ | configured at_ | dialed at_ | notDialed at_ | refused at_ | wsClosed at_ =>
      refine handled.keeps rfl ?_ ?_
      · rw [at_]
        rfl
      · simp [unclosed, at_]
  | @called conn _ _ inst at_ =>
      cases inside : inCall inst conn <;> refine handled.keeps rfl ?_ ?_ <;>
        simp [at_, LoopPc.conn?, unclosed]
  | marking at_ => exact handled.keeps rfl rfl (by simp [unclosed, at_])
  | established at_ =>
      refine handled.keeps rfl ?_ ?_
      · rw [at_]
        rfl
      · simp [unclosed, at_, RunSession.init, RunSessionPc.stage]

private theorem Handled.closing (handled : loop.Handled) (owned : loop.Owned)
    (move : ClosingMove env loop next) : next.Handled := by
  cases move with
  | shutDown at_ | disconnecting at_ | neverConnected at_ | disconnected at_ =>
      refine handled.keeps rfl ?_ ?_
      · rw [at_]
        rfl
      · simp [unclosed, at_]
  | closing closes =>
      cases closes with
      | attempt at_ => exact handled.keeps rfl (by rw [at_]; rfl) (by simp [unclosed, at_])
      | session at_ cleanup =>
          refine handled.keeps rfl (by rw [at_]; rfl) ?_
          simp [unclosed, at_, cleanup, RunSessionPc.stage]
  | closedBefore closes marked => exact absurd marked (owned.closes_first closes _)
  | @freed conn _ closer _ _ at_ _ went =>
      obtain ⟨_, _, fits⟩ := owned.held conn (by rw [at_]; rfl)
      simp only [Fits, at_] at fits
      obtain ⟨handles, closed⟩ := closed_unclosed went fits.2
      exact handled.released (by rw [at_]; rfl) handles closed

private theorem Handled.serving (handled : loop.Handled) (move : ServingMove env loop next) :
    next.Handled := by
  cases move with
  | session at_ notClose _ stepped =>
      refine handled.keeps rfl rfl ?_
      simp only [unclosed, at_, RunSession.step_early notClose stepped]
  | background at_ notMain stepped =>
      exact handled.keeps rfl rfl (by simp [unclosed, at_])
  | delivered at_ _ _ _ returned =>
      refine handled.keeps rfl rfl ?_
      simp only [unclosed, at_, RunSession.step_early (by simp) returned]
  | hungUp at_ stepped =>
      refine handled.keeps rfl rfl ?_
      simp only [unclosed, at_, RunSession.step_early (by simp) stepped]
  | ended at_ returned =>
      refine ⟨handled.once, ?_⟩
      intro index
      refine iff_of_false ?_ (by simp [LoopPc.conn?])
      intro member
      have open_ := ((handled.live index).mp member).2
      simp [unclosed, at_, returned, RunSessionPc.stage] at open_

theorem Handled.go (handled : loop.Handled) (owned : loop.Owned) (move : RunMove env loop next) :
    next.Handled := by
  cases move with
  | reported => exact handled.keeps rfl rfl rfl
  | attempt moved => exact handled.attempt moved
  | close moved => exact handled.closing owned moved
  | serve moved => exact handled.serving moved
  | pause moved =>
      cases moved with
      | stopped at_ | waiting at_ | woken at_ | interrupted at_ =>
          refine handled.keeps rfl ?_ ?_
          · rw [at_]
            rfl
          · simp [unclosed, at_]

theorem handled (reached : (runLoop env).Reachable loop) : loop.Handled := by
  refine reached.invariant Handled ?_ ?_
  · rintro _ rfl
    exact handled_init
  · intro before action after earlier handled stepped
    cases step_move stepped with
    | go moved => exact handled.go (sound earlier).owned moved
    | cancelled | tasks => exact handled.keeps rfl rfl rfl

end Handled

/-- A connection that is connected or inside a call has its handle. -/
theorem Owned.unclosed {loop : RunLoop} (owned : loop.Owned) {index : ℕ} {ffi : FFIConnection}
    (found : loop.inst.conns index = some ffi) (inUse : ¬ ffi.status.Released) :
    loop.pc.conn? = some index ∧ loop.unclosed = true := by
  have status : loop.inst.statuses index = some ffi.status := by
    rw [Instance.statuses, found]
    rfl
  by_cases held : loop.pc.conn? = some index
  · refine ⟨held, ?_⟩
    obtain ⟨_, known, fits⟩ := owned.held index held
    rw [status] at known
    cases known
    unfold RunLoop.unclosed
    split
    · next at_ =>
      simp only [Fits, at_] at fits
      by_contra late
      rw [if_neg (by simpa using late)] at fits
      exact inUse fits
    · rfl
  · exact absurd (owned.released index ffi.status status held) inUse

end RunLoop

/-- Whenever a callback runs, the handle of its connection is there, and so it is
when `Close` deletes it. The loop keeps no other handle than that of the
connection at hand, and none when it returns. -/
theorem callbacks_find_handle (env : LoopEnv) (loop : RunLoop)
    (reached : (runLoop env).Reachable loop) :
    (∀ index ffi conn, loop.inst.conns index = some ffi → ffi.conn = some conn →
      conn.inCallback = true → index ∈ loop.handles) ∧
    (∀ conn wasConnected closer, loop.pc = .closing conn wasConnected .freeing closer →
      conn ∈ loop.handles) ∧
    loop.handles.Nodup ∧ (∀ index ∈ loop.handles, loop.pc.conn? = some index) ∧
    (loop.pc = .returned → loop.handles = []) := by
  have owned := (RunLoop.sound reached).owned
  have handled := RunLoop.handled reached
  have joins := Instance.joins (RunLoop.inst_reachable reached)
  refine ⟨?_, ?_, handled.once, fun index member => ((handled.live index).mp member).1, ?_⟩
  · intro index ffi conn found held inside
    refine (handled.live index).mpr (owned.unclosed found ?_)
    rintro ⟨_, state, idle⟩
    rcases (joins index ffi found).in_use held inside with connected | busy
    · exact state connected
    · exact busy idle
  · intro conn wasConnected closer at_
    refine (handled.live conn).mpr ⟨by rw [at_]; rfl, by simp [RunLoop.unclosed, at_]⟩
  · intro returned
    exact handled.empty (by rw [returned]; rfl)

/-- The first message of the actor is on its way through `SendCb`. -/
def helloUnderWay : List LoopAct := List.flatten [
  establish, [.library .update, .library .update],
  List.replicate 3 (.library (.ffi 0 (.native (.actor Actor.fixtureDraw)))),
  [.library (.ffi 0 (.native .ioTask))]]

theorem callbacks_find_handle_helloUnderWay : ∃ loop ffi conn,
    (runLoop fixtureLoopEnv).run .init helloUnderWay = some loop ∧
      loop.inst.conns 0 = some ffi ∧ ffi.conn = some conn ∧ conn.inCallback = true ∧
      0 ∈ loop.handles := by
  obtain ⟨loop, ffi, conn, ran, found, held, inside⟩ : ∃ loop ffi conn,
      (runLoop fixtureLoopEnv).run .init helloUnderWay = some loop ∧
        loop.inst.conns 0 = some ffi ∧ ffi.conn = some conn ∧ conn.inCallback = true :=
    ⟨_, _, _, rfl, rfl, rfl, rfl⟩
  have reached := System.reachable_of_run rfl ran
  obtain ⟨finds, _⟩ := callbacks_find_handle fixtureLoopEnv loop reached
  exact ⟨loop, ffi, conn, ran, found, held, inside, finds 0 ffi conn found held inside⟩

end LibddRc.Go
