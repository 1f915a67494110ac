import LibddRc.Connection.Moves

/-! How `retry_send` calls end, and when the actor's own steps can panic. The
runtime that `Ctx::new` builds has no timers, so a call that finds the outgoing
queue full ends the actor instead of waiting. -/

set_option autoImplicit false

namespace LibddRc

open Foundation

/-- The actor's next step is an attempt of `retry_send`. -/
def Conn.attemptsSend (conn : Conn) : Bool :=
  match conn.actor, conn.todo with
  | .turn, .send _ :: _ => true
  | _, _ => false

/-- The outgoing queue takes a message now or is closed, or there is a timer to
wait with. -/
def Conn.SendReady (env : Env) (conn : Conn) : Prop :=
  env.runtime.timeEnabled = true ∨ conn.ioTask = .exited ∨ conn.outgoing.length < queueBufferLen

instance (env : Env) (conn : Conn) : Decidable (conn.SendReady env) :=
  inferInstanceAs (Decidable (_ ∨ _ ∨ _))

def Act.Usable : Act → Prop
  | .actor draw => draw.Usable
  | _ => True

instance (action : Act) : Decidable action.Usable :=
  match action with
  | .actor draw => inferInstanceAs (Decidable draw.Usable)
  | .dispatchTask | .accept | .refuse _ | .answer _ _ | .recv _ | .ioTask | .sendReturn _
  | .disconnect | .cancelDispatch | .joinIo | .joinDispatch | .cancelStop => isTrue trivial

/-- A nonce can be drawn, and an attempt to send is ready. -/
def Conn.Unhindered (env : Env) (conn : Conn) : Act → Prop
  | .actor draw => draw.Usable ∧ (conn.attemptsSend = true → conn.SendReady env)
  | _ => True

instance (env : Env) (conn : Conn) (action : Act) : Decidable (conn.Unhindered env action) :=
  match action with
  | .actor draw => inferInstanceAs (Decidable (draw.Usable ∧ (_ → conn.SendReady env)))
  | .dispatchTask | .accept | .refuse _ | .answer _ _ | .recv _ | .ioTask | .sendReturn _
  | .disconnect | .cancelDispatch | .joinIo | .joinDispatch | .cancelStop => isTrue trivial

/-! ## No panic -/

/-- A hello is only due while the connection is before its handshake. -/
def Conn.HelloDue (conn : Conn) : Prop :=
  conn.actor = .hello → ∃ appInfo, conn.phase = .preHandshake appInfo

theorem Phase.sendHello_total (metrics : InstanceMetrics) (appInfo : AppInfo) {draw : Draw}
    (usable : draw.Usable) :
    ∃ turn, (Phase.preHandshake appInfo).sendHello metrics draw = .ok turn := by
  obtain ⟨nonce, drawn⟩ := IdNonce.default_ok_iff.mpr usable
  simp only [Phase.sendHello, buildHello, drawn, bind, Except.bind, pure, Except.pure]
  exact ⟨_, rfl⟩

theorem Move.helloDue {env : Env} {conn next : Conn} {action : Act}
    (move : Move env conn action next) (due : conn.HelloDue) : next.HelloDue := by
  cases move with
  | actor moved =>
      intro hello
      cases moved <;> simp_all
  | dispatchTask moved => cases moved <;> exact due
  | ioTask moved => cases moved <;> exact due
  | host moved => cases moved <;> exact due
  | link moved => cases moved <;> exact due

theorem unhindered_alive {env : Env} {conn next : Conn} {action : Act}
    (move : Move env conn action next) (due : conn.HelloDue)
    (unhindered : conn.Unhindered env action) (alive : conn.actor ≠ .panicked) :
    next.actor ≠ .panicked := by
  cases move with
  | @actor draw _ moved =>
      obtain ⟨usable, ready⟩ : draw.Usable ∧ _ := unhindered
      cases moved with
      | helloPanicked hello panicked =>
          obtain ⟨appInfo, phase⟩ := due hello
          obtain ⟨turn, sent⟩ := Phase.sendHello_total env.metrics appInfo usable
          rw [phase, sent] at panicked
          cases panicked
      | serverPanicked _ _ panicked =>
          obtain ⟨turn, processed⟩ := Phase.processImpl_total env.prim usable conn.phase _
          rw [processed] at panicked
          cases panicked
      | sendPanicked turn todo open_ full disabled =>
          have attempt : conn.attemptsSend = true := by simp [Conn.attemptsSend, turn, todo]
          rcases ready attempt with enabled | exited | free
          · simp [disabled] at enabled
          · exact absurd exited open_
          · omega
      | helloBuilt | turnOver | sendFull | publishFailed | backoffStopped | backoffElapsed
      | reported | stopSeen | stopUnset | replyTaken | repliesEmpty | repliesClosed | serverTaken
      | serverEmpty | serverClosed => simp
      | sendClosed | sendEnqueued | published | publishLost => exact alive
  | dispatchTask moved => cases moved <;> exact alive
  | ioTask moved => cases moved <;> exact alive
  | host moved => cases moved <;> exact alive
  | link moved => cases moved <;> exact alive

/-! ## How calls end -/

/-- The log of ended `retry_send` calls agrees with what happened: the messages
logged as enqueued are those put on the outgoing queue, once each and in order;
a call ended by a closed queue or by the stop token saw just that. -/
structure Conn.SendLog (conn : Conn) : Prop where
  enqueued : (conn.endings.filter fun ending => ending.2 = .enqueued).map Prod.fst =
    conn.offered ++ conn.outgoing.items
  closed : ∀ message, (message, .closed) ∈ conn.endings → conn.ioTask = .exited
  stopped : ∀ message, (message, .stopped) ∈ conn.endings → conn.stop = true

/-- Frame rule: a move that logs nothing keeps the log true when it only moves
messages along and never reopens the queue or takes back the stop. -/
private theorem Conn.SendLog.frame {conn next : Conn} (log : conn.SendLog)
    (endings : next.endings = conn.endings)
    (moved : next.offered ++ next.outgoing.items = conn.offered ++ conn.outgoing.items)
    (closed : conn.ioTask = .exited → next.ioTask = .exited)
    (stopped : conn.stop = true → next.stop = true) : next.SendLog := by
  refine ⟨?_, ?_, ?_⟩
  · rw [endings, moved]
    exact log.enqueued
  · intro message member
    exact closed (log.closed message (endings ▸ member))
  · intro message member
    exact stopped (log.stopped message (endings ▸ member))

private theorem sendLog_actor {env : Env} {conn next : Conn} {draw : Draw}
    (move : ActorMove env conn draw next) (log : conn.SendLog) : next.SendLog := by
  cases move with
  | sendClosed _ _ exited =>
      refine ⟨?_, fun _ _ => exited, ?_⟩
      · simpa [List.filter_append] using log.enqueued
      · intro other member
        exact log.stopped other (by simpa using member)
  | sendEnqueued _ _ _ items =>
      refine ⟨?_, ?_, ?_⟩
      · simp [List.filter_append, items, log.enqueued]
      · intro other member
        exact log.closed other (by simpa using member)
      · intro other member
        exact log.stopped other (by simpa using member)
  | backoffStopped _ _ stop =>
      refine ⟨?_, ?_, fun _ _ => stop⟩
      · simpa [List.filter_append] using log.enqueued
      · intro other member
        exact log.closed other (by simpa using member)
  | helloPanicked | helloBuilt | turnOver | sendFull | sendPanicked | published | publishFailed
  | publishLost | backoffElapsed | reported | stopSeen | stopUnset | replyTaken | repliesEmpty
  | repliesClosed | serverTaken | serverPanicked | serverEmpty | serverClosed =>
      exact log.frame rfl rfl id id

theorem Move.sendLog {env : Env} {conn next : Conn} {action : Act}
    (move : Move env conn action next) (log : conn.SendLog) : next.SendLog := by
  cases move with
  | actor moved => exact sendLog_actor moved log
  | dispatchTask moved => cases moved <;> exact log.frame rfl rfl id id
  | ioTask moved =>
      cases moved with
      | stopped => exact log.frame rfl rfl (fun _ => rfl) id
      | closed => exact log.frame rfl rfl (fun _ => rfl) id
      | took waiting _ items =>
          exact log.frame rfl (by simp [items]) (fun exited => by simp [waiting] at exited) id
  | host moved =>
      cases moved with
      | sendReturned calling =>
          exact log.frame rfl rfl (fun exited => by simp [calling] at exited) id
      | stopCancelled => exact log.frame rfl rfl id fun _ => rfl
      | accepted | refused | answered | answerDropped | received | receivedLate =>
          exact log.frame rfl rfl id id
  | link moved => cases moved <;> exact log.frame rfl rfl id id

/-- A call in progress goes on, or ends by enqueuing its message once, by seeing
the queue closed or by seeing the stop token. -/
inductive SendProgress (conn next : Conn) (message : ClientToServer) (rest : List Effect) : Prop
  | waits : ¬ next.actor.Ended → next.todo = conn.todo → next.endings = conn.endings →
      next.outgoing = conn.outgoing → SendProgress conn next message rest
  | enqueued : next.todo = rest → next.endings = conn.endings ++ [(message, .enqueued)] →
      next.outgoing.items = conn.outgoing.items ++ [message] →
      SendProgress conn next message rest
  | closed : next.todo = rest → next.endings = conn.endings ++ [(message, .closed)] →
      next.outgoing = conn.outgoing → conn.ioTask = .exited →
      SendProgress conn next message rest
  | stopped : next.todo = rest → next.endings = conn.endings ++ [(message, .stopped)] →
      next.outgoing = conn.outgoing → conn.stop = true →
      SendProgress conn next message rest

theorem ActorMove.sendProgress {env : Env} {conn next : Conn} {draw : Draw}
    (move : ActorMove env conn draw next) (orderly : conn.Orderly)
    (alive : next.actor ≠ .panicked) {message : ClientToServer} {rest : List Effect}
    (todo : conn.todo = .send message :: rest) : SendProgress conn next message rest := by
  cases move with
  | sendClosed _ sending exited =>
      obtain ⟨⟨⟩, rfl⟩ := List.cons.inj (todo.symm.trans sending)
      exact .closed rfl rfl rfl exited
  | sendEnqueued _ sending _ items =>
      obtain ⟨⟨⟩, rfl⟩ := List.cons.inj (todo.symm.trans sending)
      exact .enqueued rfl rfl items
  | backoffStopped _ sending stop =>
      obtain ⟨⟨⟩, rfl⟩ := List.cons.inj (todo.symm.trans sending)
      exact .stopped rfl rfl rfl stop
  | sendFull => exact .waits id rfl rfl rfl
  | backoffElapsed => exact .waits id rfl rfl rfl
  | sendPanicked => exact absurd rfl alive
  | turnOver _ done => simp [todo] at done
  | published _ publishing _ _ => simp [todo] at publishing
  | publishFailed _ publishing _ _ => simp [todo] at publishing
  | publishLost _ publishing _ => simp [todo] at publishing
  -- outside a turn nothing is left to send
  | helloPanicked pc | helloBuilt pc | reported pc | stopSeen pc | stopUnset pc | replyTaken pc
  | repliesEmpty pc | repliesClosed pc | serverTaken pc | serverPanicked pc | serverEmpty pc
  | serverClosed pc => simp [Conn.Orderly, pc, todo] at orderly

theorem helloDue_of_reachable {env : Env} {conn : Conn}
    (reached : (connection env).Reachable conn) : conn.HelloDue := by
  refine reached.invariant Conn.HelloDue ?_ fun _ _ _ _ due stepped =>
    (Conn.step_move stepped).helloDue due
  rintro _ ⟨appInfo, rfl⟩ _
  exact ⟨appInfo, rfl⟩

private theorem sendLog_of_reachable {env : Env} {conn : Conn}
    (reached : (connection env).Reachable conn) : conn.SendLog := by
  refine reached.invariant Conn.SendLog ?_ fun _ _ _ _ log stepped =>
    (Conn.step_move stepped).sendLog log
  rintro _ ⟨appInfo, rfl⟩
  exact ⟨rfl, by simp [Conn.init], by simp [Conn.init]⟩

theorem alive_of_unhindered {env : Env} {conn : Conn}
    (reached : (connection env).ReachableBy (Conn.Unhindered env) conn) :
    conn.actor ≠ .panicked := by
  refine reached.invariant (fun conn => conn.actor ≠ .panicked) ?_ ?_
  · rintro _ ⟨appInfo, rfl⟩
    simp [Conn.init]
  · intro before action after earlier alive unhindered stepped
    exact unhindered_alive (Conn.step_move stepped) (helloDue_of_reachable earlier.reachable)
      unhindered alive

/-- In every run in which each send of the actor finds a free slot, a closed
queue or a timer, and each nonce it draws is usable, the actor does not panic,
and every `retry_send` call ends by enqueuing its message exactly once, by
seeing the queue closed or by seeing the stop token. -/
theorem retry_send_ends (env : Env) (conn : Conn)
    (reached : (connection env).ReachableBy (Conn.Unhindered env) conn) :
    conn.actor ≠ .panicked ∧ conn.SendLog ∧
      ∀ draw next message rest, conn.todo = .send message :: rest →
        conn.Unhindered env (.actor draw) → conn.step env (.actor draw) = some next →
        SendProgress conn next message rest := by
  refine ⟨alive_of_unhindered reached, sendLog_of_reachable reached.reachable, ?_⟩
  intro draw next message rest todo unhindered stepped
  have alive := alive_of_unhindered (reached.step unhindered stepped)
  have orderly := orderly_of_reachable reached.reachable
  cases Conn.step_move stepped with
  | actor moved => exact moved.sendProgress orderly alive todo
  | host moved => cases moved
  | link moved => cases moved

/-- Send the hello, receive and answer a ping, and let the I/O task pass both
messages to the host. -/
def pingPong : List Act :=
  [.actor Actor.fixtureDraw, .actor Actor.fixtureDraw, .actor Actor.fixtureDraw, .ioTask,
   .sendReturn .success, .recv (.ok .ping), .actor Actor.fixtureDraw, .actor Actor.fixtureDraw,
   .actor Actor.fixtureDraw, .actor Actor.fixtureDraw, .ioTask, .sendReturn .success]

theorem retry_send_ends_pingPong :
    ∃ conn, (connection (fixtureEnv Ctx.runtime)).run (Conn.init Actor.fixtureApp) pingPong =
        some conn ∧
      conn.endings.map Prod.snd = [.enqueued, .enqueued] ∧
      conn.actor ≠ .panicked ∧ conn.SendLog ∧
      ∀ draw next message rest, conn.todo = .send message :: rest →
        conn.Unhindered (fixtureEnv Ctx.runtime) (.actor draw) →
        conn.step (fixtureEnv Ctx.runtime) (.actor draw) = some next →
        SendProgress conn next message rest := by
  have conforms : (connection (fixtureEnv Ctx.runtime)).Conforms
      (Conn.Unhindered (fixtureEnv Ctx.runtime)) (Conn.init Actor.fixtureApp) pingPong := by
    decide
  refine ⟨_, rfl, rfl, retry_send_ends (fixtureEnv Ctx.runtime) _ ?_⟩
  exact System.reachableBy_of_run ⟨Actor.fixtureApp, rfl⟩ conforms rfl

/-! ## A full queue ends the actor -/

/-- After the hello and `count` pongs, none of which the I/O task has taken. -/
def unread (count : Nat) : List ClientToServer :=
  .clientHello Actor.fixtureHello :: List.replicate count .pong

def pinged (count : Nat) : Conn where
  actor := .pollStop
  todo := []
  phase := .handshaking Actor.fixtureNonce
  stop := false
  incoming := .empty
  outgoing := .ofList (unread count)
  requests := .empty
  replies := .empty
  dispatchTask := .idle
  ioTask := .waiting
  host := []
  link := .connected
  dispatched := []
  sent := unread count
  endings := (unread count).map fun message => (message, .enqueued)
  offered := []

/-- A ping has been received and its pong is about to be sent. -/
def ponging (count : Nat) : Conn :=
  { pinged count with actor := .turn, todo := [.send .pong] }

def receivePing : List Act :=
  .recv (.ok .ping) :: List.replicate 3 (.actor Actor.fixtureDraw)

def sendPong : List Act := List.replicate 2 (.actor Actor.fixtureDraw)

theorem unread_succ (count : Nat) : unread count ++ [.pong] = unread (count + 1) := by
  simp [unread, List.replicate_succ']

private theorem run_receivePing (count : Nat) :
    (connection (fixtureEnv Ctx.runtime)).run (pinged count) receivePing =
      some (ponging count) := rfl

private theorem run_sendPong (count : Nat) (room : count < 99) :
    (connection (fixtureEnv Ctx.runtime)).run (ponging count) sendPong =
      some (pinged (count + 1)) := by
  have pushed : (Channel.ofList (unread count) : Channel _ queueBufferLen).push? .pong =
      some (.ofList (unread (count + 1))) := by
    rw [← unread_succ]
    exact Channel.push?_ofList (by simp [unread, queueBufferLen]; omega) _
  simp [sendPong, connection, Conn.step, Conn.actorStep, ponging, pinged, Conn.trySend, pushed,
    ← unread_succ]

/-- The hello, ninety-nine answered pings and one ping more, while the I/O task
is not scheduled. -/
def hundredPings : List Act :=
  List.replicate 3 (Act.actor Actor.fixtureDraw) ++
    ((List.replicate 99 (receivePing ++ sendPong)).flatten ++
      (receivePing ++ [Act.actor Actor.fixtureDraw]))

theorem hundredth_ping_panics :
    (∀ action ∈ hundredPings, action.Usable) ∧
    ∃ conn, (connection (fixtureEnv Ctx.runtime)).run (Conn.init Actor.fixtureApp) hundredPings =
        some conn ∧
      conn.actor = .panicked ∧ conn.stop = false ∧ conn.ioTask = .waiting ∧
      conn.outgoing.length = queueBufferLen := by
  constructor
  · simp only [hundredPings, List.forall_mem_append]
    exact ⟨by decide, System.forall_mem_rounds 99 (by decide), by decide, by decide⟩
  have answered := (connection (fixtureEnv Ctx.runtime)).run_rounds pinged
    (receivePing ++ sendPong) 99 fun count room => by
      rw [System.run_append_of_eq _ (run_receivePing count)]
      exact run_sendPong count room
  have full : (unread 99).length = queueBufferLen := by simp [unread, queueBufferLen]
  refine ⟨{ ponging 99 with actor := .panicked }, ?_, rfl, rfl, rfl, ?_⟩
  · have greeted : (connection (fixtureEnv Ctx.runtime)).run (Conn.init Actor.fixtureApp)
        (List.replicate 3 (.actor Actor.fixtureDraw)) = some (pinged 0) := rfl
    have refused := Channel.push?_ofList_full full .pong
    refine System.run_trans _ greeted (System.run_trans _ answered ?_)
    refine System.run_trans _ (run_receivePing 99) (System.run_single _ ?_)
    simp [connection, Conn.step, Conn.actorStep, ponging, pinged, Conn.trySend, refused,
      fixtureEnv, Ctx.runtime, RuntimeBuilder.build, RuntimeBuilder.newCurrentThread]
  · exact (congrArg List.length (Channel.items_ofList full.le)).trans full

end LibddRc
