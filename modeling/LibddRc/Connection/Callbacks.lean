import LibddRc.Connection.Reports

/-! The callbacks of a connection: what `SendCb` is given, in which order, and
when neither it nor `DispatchCb` is called any more. -/

set_option autoImplicit false

namespace LibddRc

open Foundation

section Callbacks

variable {env : Env} {conn next later : Conn}

/-! ## What was accepted -/

theorem free_sendLog (reached : (freeConnection env).Reachable conn) : conn.SendLog := by
  refine freeConnection_invariant Conn.SendLog ?_ Move.sendLog ?_ reached
  · intro appInfo
    exact ⟨rfl, by simp [Conn.init], by simp [Conn.init]⟩
  · intro conn replies log
    exact ⟨log.enqueued, log.closed, log.stopped⟩

theorem free_sent (reached : (freeConnection env).Reachable conn) :
    conn.sent = conn.offered ++ conn.outgoing.items :=
  freeConnection_invariant (fun conn => conn.sent = conn.offered ++ conn.outgoing.items)
    (fun _ => rfl) Move.sent (fun _ same => same) reached

/-- The accepted messages are those of the calls that ended by enqueuing, in
the order of the calls. -/
private theorem sent_sublist (reached : (freeConnection env).Reachable conn) :
    conn.sent.Sublist conn.retrySends := by
  have accepted := (free_sent reached).trans (free_sendLog reached).enqueued.symm
  rw [accepted, Conn.retrySends]
  exact (List.filter_sublist.map Prod.fst).trans (List.sublist_append_left _ _)

private theorem retrySends_prefix (reached : (freeConnection env).Reachable conn)
    (path : conn.Leads env later) : conn.retrySends <+: later.retrySends := by
  obtain ⟨_, grown⟩ := path.preserves
    (fun state => (freeConnection env).Reachable state ∧ conn.retrySends <+: state.retrySends)
    (fun state action after holds _ stepped =>
      ⟨holds.1.step stepped,
        holds.2.trans ((Conn.freeStep_move stepped).retrySends (free_orderly holds.1))⟩)
    ⟨reached, List.prefix_rfl⟩
  exact grown

/-! ## When the callbacks are over -/

theorem FreeMove.io_exited {action : FreeAct} (move : FreeMove env conn action next)
    (exited : conn.ioTask = .exited) : next.ioTask = .exited ∧ next.offered = conn.offered := by
  cases move with
  | native moved => exact moved.io_exited exited
  | delivered | dropped => exact ⟨exited, rfl⟩

theorem FreeMove.dispatch_exited {action : FreeAct} (move : FreeMove env conn action next)
    (exited : conn.dispatchTask = .exited) : next.dispatchTask = .exited := by
  cases move with
  | native moved => exact moved.dispatch_exited exited
  | delivered | dropped => exact exited

private theorem io_over (path : conn.Leads env later) (exited : conn.ioTask = .exited) :
    later.ioTask = .exited ∧ later.offered = conn.offered := by
  refine path.preserves (fun state => state.ioTask = .exited ∧ state.offered = conn.offered) ?_
    ⟨exited, rfl⟩
  intro state action after holds _ stepped
  obtain ⟨still, offered⟩ := (Conn.freeStep_move stepped).io_exited holds.1
  exact ⟨still, offered.trans holds.2⟩

private theorem dispatch_over (path : conn.Leads env later)
    (exited : conn.dispatchTask = .exited) : later.dispatchTask = .exited :=
  path.preserves (fun state => state.dispatchTask = .exited)
    (fun _ _ _ holds _ stepped => (Conn.freeStep_move stepped).dispatch_exited holds) exited

/-- `set_disconnected` returns after it has joined both tasks. -/
structure Conn.Joined (conn : Conn) : Prop where
  io : conn.link = .ioJoined ∨ conn.link = .disconnected → conn.ioTask = .exited
  dispatch : conn.link = .disconnected → conn.dispatchTask = .exited

private theorem joined_link {action : Act} (move : LinkMove conn action next)
    (joined : conn.Joined) : next.Joined := by
  cases move with
  | disconnect | cancelDispatch => exact ⟨by rintro (⟨⟨⟩⟩ | ⟨⟨⟩⟩), by rintro ⟨⟩⟩
  | joinIo _ exited => exact ⟨fun _ => exited, by rintro ⟨⟩⟩
  | joinDispatch at_ exited => exact ⟨fun _ => joined.io (.inl at_), fun _ => exited⟩

theorem Move.joined {action : Act} (move : Move env conn action next) (joined : conn.Joined) :
    next.Joined := by
  have frame : next.link = conn.link → next.Joined := by
    intro same
    refine ⟨?_, ?_⟩
    · intro at_
      exact (move.io_exited (joined.io (same ▸ at_))).1
    · intro at_
      exact move.dispatch_exited (joined.dispatch (same ▸ at_))
  cases move with
  | actor moved => cases moved <;> exact frame rfl
  | dispatchTask moved => cases moved <;> exact frame rfl
  | ioTask moved => cases moved <;> exact frame rfl
  | host moved => cases moved <;> exact frame rfl
  | link moved => exact joined_link moved joined

theorem free_joined (reached : (freeConnection env).Reachable conn) : conn.Joined := by
  refine freeConnection_invariant Conn.Joined ?_ Move.joined ?_ reached
  · intro appInfo
    exact ⟨by rintro (⟨⟨⟩⟩ | ⟨⟨⟩⟩), by rintro ⟨⟩⟩
  · intro conn replies joined
    exact ⟨joined.io, joined.dispatch⟩

/-- With the I/O task over, an attempt to send finds the queue closed. -/
private theorem send_closed {draw : Draw} {message : ClientToServer} {rest : List Effect}
    (exited : conn.ioTask = .exited) (turn : conn.actor = .turn)
    (todo : conn.todo = .send message :: rest) :
    conn.step env (.actor draw) = some { conn with
      todo := rest, endings := conn.endings ++ [(message, .closed)] } := by
  simp [Conn.step, Conn.actorStep, Conn.trySend, exited, turn, todo]

private theorem failed_send_exits {ret : SendRet} (failed : ret ≠ .success)
    (returned : conn.step env (.sendReturn ret) = some next) :
    next.ioTask = .exited ∧ next.offered = conn.offered := by
  cases Conn.step_move returned with
  | host moved =>
      cases moved with
      | sendReturned => exact ⟨if_neg failed, rfl⟩
  | link moved => cases moved

end Callbacks

/-- `SendCb` gets a prefix of the accepted messages in their order, each of them
whole if it takes less than 4 GiB. Of the `retry_send` calls those that are
accepted are so in theirs. A failed `SendCb` call is the last. Once the I/O task is
over every attempt to send ends closed, and once `set_disconnected` has returned
both tasks are over for good. -/
structure Conn.CallbacksInOrder (env : Env) (encode : ClientToServer → Bytes) (conn : Conn) :
    Prop where
  payloads : conn.offered.map encode <+: conn.sent.map encode
  data : (∀ message ∈ conn.offered, (encode message).length < 2 ^ 32) →
    conn.offered.map (sendCbData encode) <+: conn.sent.map encode
  accepted : conn.sent.Sublist conn.retrySends
  calls : ∀ later, conn.Leads env later → conn.retrySends <+: later.retrySends
  failed : ∀ ret next later, ret ≠ .success → conn.step env (.sendReturn ret) = some next →
    next.Leads env later → later.offered = conn.offered
  closed : conn.ioTask = .exited → ∀ later, conn.Leads env later → later.ioTask = .exited ∧
    ∀ draw message rest, later.actor = .turn → later.todo = .send message :: rest →
      later.step env (.actor draw) = some { later with
        todo := rest, endings := later.endings ++ [(message, .closed)] }
  disconnected : conn.link = .disconnected → ∀ later, conn.Leads env later →
    later.ioTask = .exited ∧ later.offered = conn.offered ∧ later.dispatchTask = .exited

theorem callbacks_in_order (env : Env) (encode : ClientToServer → Bytes) (conn : Conn)
    (reached : (freeConnection env).Reachable conn) : conn.CallbacksInOrder env encode := by
  have payloads : conn.offered.map encode <+: conn.sent.map encode := by
    rw [free_sent reached, List.map_append]
    exact List.prefix_append _ _
  refine ⟨payloads, ?_, sent_sublist reached, fun _ path => retrySends_prefix reached path, ?_,
    ?_, ?_⟩
  · intro short
    have whole : conn.offered.map (sendCbData encode) = conn.offered.map encode :=
      List.map_congr_left fun message member => handed_eq (short message member)
    rw [whole]
    exact payloads
  · intro ret next later failed returned path
    obtain ⟨exited, offered⟩ := failed_send_exits failed returned
    exact (io_over path exited).2.trans offered
  · intro exited later path
    have still := (io_over path exited).1
    exact ⟨still, fun _ _ _ turn todo => send_closed still turn todo⟩
  · intro disconnected later path
    have joined := free_joined reached
    obtain ⟨io, offered⟩ := io_over path (joined.io (.inr disconnected))
    exact ⟨io, offered, dispatch_over path (joined.dispatch disconnected)⟩

/-- The host sends the hello and refuses a pong, and then the connection is taken
down. -/
def refusedPong : List FreeAct :=
  List.replicate 3 (FreeAct.native (.actor Actor.fixtureDraw)) ++
    [FreeAct.native .ioTask, .native (.sendReturn .success), .native (.recv (.ok .ping))] ++
    List.replicate 5 (FreeAct.native (.actor Actor.fixtureDraw)) ++
    [FreeAct.native .ioTask, .native (.sendReturn .closed), .native .disconnect,
      .native .cancelDispatch, .native .joinIo, .native .dispatchTask, .native .joinDispatch]

theorem callbacks_in_order_refusedPong : ∃ conn,
    (freeConnection (fixtureEnv Ctx.runtime)).run (Conn.init Actor.fixtureApp) refusedPong =
        some conn ∧
      conn.link = .disconnected ∧ conn.offered = [.clientHello Actor.fixtureHello, .pong] ∧
      conn.offered.map (sendCbData fixtureEncode) =
        [[0x12, 0x24, 0x0a, 0x10, 0x0d, 0x0d, 0x0d, 0x0d, 0x0d, 0x0d, 0x0d, 0x0d, 0x0d, 0x0d, 0x0d,
          0x0d, 0x0d, 0x0d, 0x0d, 0x0d, 0x30, 0x01, 0x52, 0x07, 0x62, 0x61, 0x6e, 0x61, 0x6e, 0x61,
          0x73, 0x62, 0x05, 0x31, 0x2e, 0x30, 0x2e, 0x30], [0x0a, 0x00]] ∧
      conn.CallbacksInOrder (fixtureEnv Ctx.runtime) fixtureEncode := by
  obtain ⟨conn, ran, disconnected, offered, data⟩ : ∃ conn,
      (freeConnection (fixtureEnv Ctx.runtime)).run (Conn.init Actor.fixtureApp) refusedPong =
        some conn ∧ conn.link = .disconnected ∧
        conn.offered = [.clientHello Actor.fixtureHello, .pong] ∧
        conn.offered.map (sendCbData fixtureEncode) =
          [[0x12, 0x24, 0x0a, 0x10, 0x0d, 0x0d, 0x0d, 0x0d, 0x0d, 0x0d, 0x0d, 0x0d, 0x0d, 0x0d,
            0x0d, 0x0d, 0x0d, 0x0d, 0x0d, 0x0d, 0x30, 0x01, 0x52, 0x07, 0x62, 0x61, 0x6e, 0x61,
            0x6e, 0x61, 0x73, 0x62, 0x05, 0x31, 0x2e, 0x30, 0x2e, 0x30], [0x0a, 0x00]] :=
    ⟨_, rfl, rfl, rfl, rfl⟩
  have reached : (freeConnection (fixtureEnv Ctx.runtime)).Reachable conn :=
    System.reachable_of_run ⟨Actor.fixtureApp, rfl⟩ ran
  exact ⟨conn, ran, disconnected, offered, data, callbacks_in_order _ _ conn reached⟩

end LibddRc
