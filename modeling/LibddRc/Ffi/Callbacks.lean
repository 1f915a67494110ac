import LibddRc.Connection.Callbacks
import LibddRc.Foundation.Table
import LibddRc.Ffi.Instance

/-! The callbacks of an `FFIConnection`. They run only while it is connected or
inside the `rc_conn_disconnected` call that joins the tasks which make them. -/

set_option autoImplicit false

namespace LibddRc

/-- The host is inside `SendCb`. -/
def IoTaskPc.inCallback : IoTaskPc → Bool
  | .calling _ => true
  | .waiting | .exited => false

/-- The host is inside `DispatchCb`. -/
def DispatchTaskPc.inCallback : DispatchTaskPc → Bool
  | .calling _ | .accepted _ => true
  | .idle | .replying _ | .exited => false

def Conn.inCallback (conn : Conn) : Bool :=
  conn.ioTask.inCallback || conn.dispatchTask.inCallback

theorem Conn.Joined.callbacks_over {conn : Conn} (joined : conn.Joined)
    (disconnected : conn.link = .disconnected) : conn.inCallback = false := by
  rw [inCallback, joined.io (.inr disconnected), joined.dispatch disconnected]
  rfl

namespace Ffi

open Foundation

/-- A connection that is neither connected nor inside a call has no task left. -/
structure FFIConnection.Joins (ffi : FFIConnection) : Prop where
  present : ∀ conn, ffi.conn = some conn → ffi.state = .connected ∨ ffi.state = .disconnected
  publishing : ∀ endpointHostname, ffi.call = .publishing endpointHostname →
    ffi.state = .connected
  joined : ∀ conn, ffi.conn = some conn → conn.Joined
  ended : ∀ conn, ffi.conn = some conn → ffi.state ≠ .connected → ffi.call = .idle →
    conn.link = .disconnected

section Joins

variable {env : FfiEnv} {ffi : FFIConnection} {action : FfiAct} {outcome : Outcome}

theorem FFIConnection.joins_new : FFIConnection.new.Joins := by
  refine ⟨?_, ?_, ?_, ?_⟩ <;> simp [FFIConnection.new]

/-- A move of the tasks and channels while the state and the call stay as they
are. -/
private theorem FFIConnection.Joins.withConn {conn next : Conn} (joins : ffi.Joins)
    (found : ffi.conn = some conn) (joined : next.Joined)
    (ended : ffi.state ≠ .connected → ffi.call = .idle → next.link = .disconnected) :
    ({ ffi with conn := some next } : FFIConnection).Joins := by
  refine ⟨?_, joins.publishing, ?_, ?_⟩
  · rintro _ ⟨⟩
    exact joins.present conn found
  · rintro _ ⟨⟩
    exact joined
  · rintro _ ⟨⟩
    exact ended

theorem FfiMove.joins (move : FfiMove env ffi action outcome) (joins : ffi.Joins) :
    outcome.next.Joins := by
  cases move with
  | refused | receivedNothing | reportDropped | freed => exact { joins with }
  | configured idle _ before =>
      have absent : ∀ conn, ffi.conn ≠ some conn := by
        intro conn found
        rcases before with state | ⟨old, state⟩ <;> simpa [state] using joins.present conn found
      refine ⟨fun conn found => absurd found (absent conn), ?_, joins.joined,
        fun conn found => absurd found (absent conn)⟩
      intro endpointHostname publishing
      simp [idle] at publishing
  | connecting =>
      refine ⟨fun _ _ => .inl rfl, fun _ _ => rfl, ?_, fun _ _ other => absurd rfl other⟩
      rintro _ ⟨⟩
      exact ⟨by rintro (⟨⟨⟩⟩ | ⟨⟨⟩⟩), by rintro ⟨⟩⟩
  | received state found stepped =>
      have joined := (Conn.step_move stepped).joined (joins.joined _ found)
      exact joins.withConn found joined fun other => absurd state other
  | reported state found reported =>
      have stepped : Conn.freeStep env.native _ (.report _ _) = some _ := reported
      refine joins.withConn found ?_ fun other => absurd state other
      cases Conn.freeStep_move stepped with
      | delivered | dropped =>
          exact ⟨(joins.joined _ found).io, (joins.joined _ found).dispatch⟩
  | disconnecting =>
      exact ⟨fun _ _ => .inr rfl, by simp, joins.joined, by simp⟩
  | published call =>
      have state := joins.publishing _ call
      exact ⟨joins.present, by simp, joins.joined, fun _ _ other => absurd state other⟩
  | unlinked call _ found _ stepped =>
      have joined := (Conn.step_move stepped).joined (joins.joined _ found)
      refine joins.withConn found joined ?_
      intro _ idle
      simp [call] at idle
  | announced => exact ⟨joins.present, by simp, joins.joined, by simp⟩
  | returned _ _ found stepped =>
      have joined := (Conn.step_move stepped).joined (joins.joined _ found)
      simp only [Conn.step] at stepped
      obtain ⟨_, same⟩ := Option.ite_none_right_eq_some.mp stepped
      cases same
      refine ⟨?_, by simp, ?_, ?_⟩
      · rintro _ ⟨⟩
        exact joins.present _ found
      · rintro _ ⟨⟩
        exact joined
      · rintro _ ⟨⟩ _ _
        rfl
  | native own found stepped =>
      have joined := (Conn.step_move stepped).joined (joins.joined _ found)
      refine joins.withConn found joined ?_
      intro other idle
      rw [(Conn.step_move stepped).link_kept (unlinks_of_byLibrary own)]
      exact joins.ended _ found other idle

end Joins

/-- Cancelling the stop token of an actor touches no task. -/
theorem FFIConnection.Joins.cancelStop {ffi : FFIConnection} (joins : ffi.Joins) :
    ffi.cancelStop.Joins := by
  obtain ⟨present, publishing, joined, ended⟩ := joins
  refine ⟨?_, publishing, ?_, ?_⟩
  · intro conn held
    obtain ⟨earlier, same, rfl⟩ := Option.map_eq_some_iff.mp held
    exact present earlier same
  · intro conn held
    obtain ⟨earlier, same, rfl⟩ := Option.map_eq_some_iff.mp held
    exact ⟨(joined earlier same).io, (joined earlier same).dispatch⟩
  · intro conn held
    obtain ⟨earlier, same, rfl⟩ := Option.map_eq_some_iff.mp held
    exact ended earlier same

def Instance.Joins (inst : Instance) : Prop :=
  ∀ index ffi, inst.conns index = some ffi → ffi.Joins

theorem InstanceMove.joins {env : FfiEnv} {inst next : Instance} {action : InstanceAct}
    (move : InstanceMove env inst action next) (joins : inst.Joins) : next.Joins := by
  intro index ffi found
  cases move with
  | created =>
      rcases lookup_update found with ⟨_, rfl⟩ | ⟨_, before⟩
      · exact FFIConnection.joins_new
      · exact joins index ffi before
  | called _ known moved =>
      rcases lookup_update found with ⟨_, rfl⟩ | ⟨_, before⟩
      · exact moved.joins (joins _ _ known)
      · exact joins index ffi before
  | replaced | stopped =>
      rcases read_update found with ⟨_, cancelled⟩ | ⟨_, before⟩
      · obtain ⟨earlier, known, rfl⟩ := Option.map_eq_some_iff.mp cancelled
        exact (joins _ earlier known).cancelStop
      · exact joins index ffi before
  | ignored | started | unmatched | joined => exact joins index ffi found

theorem Instance.joins {env : FfiEnv} {inst : Instance} (reached : (ctx env).Reachable inst) :
    inst.Joins := by
  refine reached.invariant Instance.Joins ?_ ?_
  · rintro _ rfl index ffi ⟨⟩
  · intro before action after _ joins stepped
    exact (Instance.step_move stepped).joins joins

/-- A callback runs only while its connection is connected or inside a call. -/
theorem FFIConnection.Joins.in_use {ffi : FFIConnection} {conn : Conn} (joins : ffi.Joins)
    (found : ffi.conn = some conn) (inside : conn.inCallback = true) :
    ffi.state = .connected ∨ ffi.call ≠ .idle := by
  by_contra unused
  obtain ⟨state, idle⟩ := not_or.mp unused
  have ended := (joins.joined conn found).callbacks_over
    (joins.ended conn found state (not_not.mp idle))
  simp [ended] at inside

end Ffi

end LibddRc
