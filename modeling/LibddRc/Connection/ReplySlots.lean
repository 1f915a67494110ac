import Mathlib.Algebra.Ring.Nat
import LibddRc.Connection.Conservation

/-! The actor both fills and drains the reply queue. When the publisher cannot
queue a request it waits for a reply slot, and only the actor that is waiting
could free one. -/

set_option autoImplicit false

namespace LibddRc

open Foundation

/-- Requests on their way: queued, held by `dispatch_task`, at the host, or
answered and not yet read. -/
def Conn.inFlight (conn : Conn) : Nat :=
  conn.requests.length + conn.dispatchTask.held.length + conn.host.length + conn.replies.length

/-- The actor's next step is a `dispatch` call that will have to report. -/
def Conn.attemptsReport (conn : Conn) : Bool :=
  match conn.actor, conn.todo with
  | .turn, .dispatch _ :: _ =>
      conn.dispatchTask.isExited || conn.requests.length == dispatchQueueLen
  | _, _ => false

/-- A `dispatch` call that has to report finds no more requests on their way
than the request queue holds. -/
def Conn.Bounded (conn : Conn) : Act → Prop
  | .actor _ => conn.attemptsReport = true → conn.inFlight ≤ dispatchQueueLen
  | _ => True

instance (conn : Conn) (action : Act) : Decidable (conn.Bounded action) :=
  match action with
  | .actor _ => inferInstanceAs (Decidable (_ → conn.inFlight ≤ dispatchQueueLen))
  | .dispatchTask | .accept | .refuse _ | .answer _ _ | .recv _ | .ioTask | .sendReturn _
  | .disconnect | .cancelDispatch | .joinIo | .joinDispatch | .cancelStop => isTrue trivial

/-! ## A slot for every report -/

/-- While the publisher reports, the requests on their way leave a reply slot. -/
def Conn.SlotKept (conn : Conn) : Prop :=
  ∀ result, conn.actor = .reporting result → conn.inFlight ≤ dispatchQueueLen

private theorem inFlight_le {env : Env} {conn next : Conn} {action : Act}
    (move : Move env conn action next) (other : ∀ draw, action ≠ .actor draw) :
    next.inFlight ≤ conn.inFlight ∧ next.actor = conn.actor := by
  simp only [Conn.inFlight, Channel.length]
  cases move with
  | actor => exact absurd rfl (other _)
  | dispatchTask moved =>
      cases moved with
      | stopped idle _ => simp [idle, DispatchTaskPc.held]
      | took idle _ items =>
          simp [idle, items, DispatchTaskPc.held]
      | closed idle _ _ => simp [idle, DispatchTaskPc.held]
      | calledBack accepted => simp [accepted, DispatchTaskPc.held]
      | replied replying _ items =>
          simp [replying, items, DispatchTaskPc.held]
          omega
      | orphaned replying _ => simp [replying, DispatchTaskPc.held]
  | ioTask moved => cases moved <;> exact ⟨le_refl _, rfl⟩
  | host moved =>
      cases moved with
      | accepted calling =>
          simp [calling, DispatchTaskPc.held]
          omega
      | refused calling _ => simp [calling, DispatchTaskPc.held]
      | answered found _ _ _ items =>
          have bound := (List.getElem?_eq_some_iff.mp found).1
          simp [items, List.length_eraseIdx, bound]
          omega
      | answerDropped found _ =>
          have bound := (List.getElem?_eq_some_iff.mp found).1
          simp [List.length_eraseIdx, bound]
      | received | receivedLate | sendReturned | stopCancelled => exact ⟨le_refl _, rfl⟩
  | link moved => cases moved <;> exact ⟨le_refl _, rfl⟩

private theorem attemptsReport_of_failure {conn : Conn} {request : Dispatch} {rest : List Effect}
    {error : DispatchError} (turn : conn.actor = .turn)
    (todo : conn.todo = .dispatch request :: rest) (failure : PublishFailure conn error) :
    conn.attemptsReport = true := by
  cases failure with
  | closed exited => simp [Conn.attemptsReport, turn, todo, exited, DispatchTaskPc.isExited]
  | full _ filled => simp [Conn.attemptsReport, turn, todo, filled]

private theorem slotKept_actor {env : Env} {conn next : Conn} {draw : Draw}
    (move : ActorMove env conn draw next) (bounded : conn.Bounded (.actor draw)) :
    next.SlotKept := by
  intro result reporting
  cases move with
  | publishFailed turn todo failure _ =>
      exact bounded (attemptsReport_of_failure turn todo failure)
  | sendClosed turn | sendEnqueued turn | published turn | publishLost turn =>
      simp [turn] at reporting
  | helloPanicked | helloBuilt | turnOver | sendFull | sendPanicked | backoffStopped
  | backoffElapsed | reported | stopSeen | stopUnset | replyTaken | repliesEmpty | repliesClosed
  | serverTaken | serverPanicked | serverEmpty | serverClosed => cases reporting

private theorem slotKept_step {env : Env} {conn next : Conn} {action : Act}
    (move : Move env conn action next) (bounded : conn.Bounded action) (kept : conn.SlotKept) :
    next.SlotKept := by
  by_cases byActor : ∃ draw, action = .actor draw
  · obtain ⟨draw, rfl⟩ := byActor
    cases move with
    | actor moved => exact slotKept_actor moved bounded
    | host moved => cases moved
    | link moved => cases moved
  · intro result reporting
    obtain ⟨fewer, same⟩ := inFlight_le move fun draw byDraw => byActor ⟨draw, byDraw⟩
    exact fewer.trans (kept result (same ▸ reporting))

/-! ## How far the actor is from its stop token -/

def Effect.cost : Effect → Nat
  | .send _ => 1
  | .dispatch _ => 2

/-- The steps the actor takes at most before it reads the stop token or has
ended. Both a poll and the wait inside `retry_send` read the token. -/
def Conn.untilStop (conn : Conn) : Nat :=
  match conn.actor with
  | .pollReplies => 5
  | .pollServer => 4
  | .hello => 3
  | .reporting _ => 2
  | .turn => 1 + (conn.todo.map Effect.cost).sum
  | .backoff => 0
  | .pollStop => 0
  | .returned => 0
  | .panicked => 0

theorem Reaction.cost_le {prim : Primitives} {phase : Phase} {input : ServerInput} {turn : Turn}
    (reaction : Reaction prim phase input turn) : (turn.effects.map Effect.cost).sum ≤ 2 := by
  cases reaction <;> simp [protocolError, Effect.cost]

theorem ActorMove.untilStop_lt {env : Env} {conn next : Conn} {draw : Draw}
    (move : ActorMove env conn draw next) (orderly : conn.Orderly) (away : 0 < conn.untilStop) :
    next.untilStop < conn.untilStop := by
  cases move with
  | helloPanicked | turnOver | sendFull | sendPanicked | stopSeen | repliesClosed | serverPanicked
  | serverEmpty | serverClosed => exact away
  | stopUnset pc | backoffStopped pc | backoffElapsed pc => simp [Conn.untilStop, pc] at away
  | repliesEmpty pc => simp [Conn.untilStop, pc]
  | helloBuilt hello sent =>
      obtain ⟨_, effects⟩ := Phase.sendHello_effects sent
      simp [Conn.untilStop, hello, effects, Effect.cost]
  | serverTaken poll _ processed =>
      have cheap := (Phase.processImpl_reaction processed).cost_le
      simp only [Conn.untilStop, poll]
      omega
  | sendClosed turn todo _ | sendEnqueued turn todo _ _ | published turn todo _ _
  | publishLost turn todo _ => simp [Conn.untilStop, turn, todo, Effect.cost]
  | publishFailed turn todo _ _ =>
      simp only [Conn.untilStop, turn, todo, List.map_cons, List.sum_cons, Effect.cost]
      omega
  | reported reporting _ =>
      simp only [Conn.Orderly, reporting] at orderly
      simp [Conn.untilStop, reporting, orderly]
  | replyTaken poll _ => simp [Conn.untilStop, poll, Effect.cost]

theorem Move.untilStop_eq {env : Env} {conn next : Conn} {action : Act}
    (move : Move env conn action next) (other : ∀ draw, action ≠ .actor draw) :
    next.untilStop = conn.untilStop := by
  cases move with
  | actor => exact absurd rfl (other _)
  | dispatchTask moved => cases moved <;> rfl
  | ioTask moved => cases moved <;> rfl
  | host moved => cases moved <;> rfl
  | link moved => cases moved <;> rfl

private theorem cost_le_of_length {effects : List Effect} (short : effects.length ≤ 1) :
    (effects.map Effect.cost).sum ≤ 2 := by
  cases effects with
  | nil => simp
  | cons effect rest =>
      have last : rest = [] := by simpa using short
      cases effect with
      | send | dispatch => simp [last, Effect.cost]

theorem Conn.Orderly.untilStop_le {conn : Conn} (orderly : conn.Orderly) : conn.untilStop ≤ 5 := by
  cases pc : conn.actor with
  | turn =>
      simp only [Conn.Orderly, pc] at orderly
      have cheap := cost_le_of_length orderly
      simp only [Conn.untilStop, pc]
      omega
  | hello | backoff | reporting | pollStop | pollReplies | pollServer | returned | panicked =>
      simp [Conn.untilStop, pc]

/-- A step that reads a cancelled token ends the actor, or ends the wait inside
`retry_send` and is one step from reading the token again. -/
theorem ActorMove.reads_stop {env : Env} {conn next : Conn} {draw : Draw}
    (move : ActorMove env conn draw next) (orderly : conn.Orderly) (near : conn.untilStop = 0)
    (stop : conn.stop = true) : next.actor = .returned ∨ next.untilStop = 1 := by
  cases move with
  | stopSeen => exact .inl rfl
  | backoffStopped backoff todo _ =>
      simp only [Conn.Orderly, backoff, todo] at orderly
      obtain ⟨message, same⟩ := orderly
      have done := (List.cons.inj same).2
      exact .inr (by simp [Conn.untilStop, done])
  | stopUnset _ unset => simp [stop] at unset
  | backoffElapsed _ _ unset => simp [stop] at unset
  | helloPanicked pc | helloBuilt pc | turnOver pc | sendClosed pc | sendEnqueued pc | sendFull pc
  | sendPanicked pc | published pc | publishFailed pc | publishLost pc | reported pc
  | replyTaken pc | repliesEmpty pc | repliesClosed pc | serverTaken pc | serverPanicked pc
  | serverEmpty pc | serverClosed pc => simp [Conn.untilStop, pc] at near

/-- Outside `DispatchPublisher::dispatch` the actor never waits for anyone. -/
private theorem actorStep_enabled (env : Env) {conn : Conn} (orderly : conn.Orderly)
    (alive : ¬ conn.actor.Ended)
    (slot : ∀ result, conn.actor = .reporting result → conn.replies.length < dispatchQueueLen + 1)
    (draw : Draw) : ∃ next, conn.step env (.actor draw) = some next := by
  simp only [Conn.step, Conn.actorStep]
  cases pc : conn.actor with
  | hello => dsimp only; split <;> exact ⟨_, rfl⟩
  | turn => dsimp only; split <;> exact ⟨_, rfl⟩
  | backoff =>
      simp only [Conn.Orderly, pc] at orderly
      obtain ⟨message, todo⟩ := orderly
      simp only [todo]
      split <;> exact ⟨_, rfl⟩
  | reporting result =>
      have free := slot result pc
      have pushed : conn.replies.push? result ≠ none := by
        intro refused
        have full := Channel.push?_eq_none_iff.mp refused
        omega
      obtain ⟨replies, taken⟩ := Option.ne_none_iff_exists'.mp pushed
      exact ⟨_, congrArg (Option.map _) taken⟩
  | pollStop => dsimp only; split <;> exact ⟨_, rfl⟩
  | pollReplies =>
      dsimp only
      split
      · exact ⟨_, rfl⟩
      · split <;> exact ⟨_, rfl⟩
  | pollServer =>
      dsimp only
      split
      · split <;> exact ⟨_, rfl⟩
      · split <;> exact ⟨_, rfl⟩
  | returned => simp [pc, ActorPc.Ended] at alive
  | panicked => simp [pc, ActorPc.Ended] at alive

/-! ## Runs that fill the host and the queues -/

def helloOf (env : Env) : ClientToServer := .clientHello {
  clientNonce := Actor.fixtureNonce.asBytes
  graceful := env.metrics.gracefulDisconnect
  ungraceful := env.metrics.ungracefulDisconnect
  lastClosedConnectionDuration := env.metrics.lastConnDuration
  reconnectionData := none
  versionInfo := env.metrics.version
  appName := Actor.fixtureApp.name
  appVersion := Actor.fixtureApp.version }

def proposalOf (env : Env) : UntrustedConnectionId where
  serverNonce := List.replicate 16 42
  id := uuidV8Digest env.prim (List.replicate 16 42) Actor.fixtureNonce.asBytes

/-- The hello is sent and the actor is about to read an acknowledgement. -/
def greet (env : Env) : List Act :=
  List.replicate 3 (Act.actor Actor.fixtureDraw) ++
    Act.recv (.ok (.clientHelloAck (proposalOf env))) ::
      List.replicate 2 (Act.actor Actor.fixtureDraw)

def handshake (env : Env) : List Act := greet env ++ List.replicate 2 (Act.actor Actor.fixtureDraw)

/-- A connection past its hello whose actor is about to poll. -/
def serving (env : Env) (phase : Phase) (requests : List Dispatch)
    (host dispatched : List CorrelationId) : Conn where
  actor := .pollStop
  todo := []
  phase := phase
  stop := false
  incoming := .empty
  outgoing := .ofList [helloOf env]
  requests := .ofList requests
  replies := .empty
  dispatchTask := .idle
  ioTask := .waiting
  host := host
  link := .connected
  dispatched := dispatched
  sent := [helloOf env]
  endings := [(helloOf env, .enqueued)]
  offered := []

private theorem run_greet (env : Env) :
    (connection env).run (Conn.init Actor.fixtureApp) (greet env) = some
      { serving env (.handshaking Actor.fixtureNonce) [] [] [] with
        actor := .pollServer
        incoming := .ofList [.ok (.clientHelloAck (proposalOf env))] } := rfl

/-- The acknowledgement is accepted whatever the primitives compute. -/
private theorem accepts_proposal (env : Env) : ∃ connectionId,
    (connection env).step { serving env (.handshaking Actor.fixtureNonce) [] [] [] with
        actor := .pollServer
        incoming := .ofList [.ok (.clientHelloAck (proposalOf env))] }
      (.actor Actor.fixtureDraw) = some { serving env (.active connectionId) [] [] [] with
        actor := .turn } := by
  obtain ⟨connectionId, verified⟩ :
      ∃ connectionId, (proposalOf env).verify env.prim Actor.fixtureNonce = .ok connectionId :=
    UntrustedConnectionId.verify_ok_iff.mpr rfl
  have drawn : IdNonce.default Actor.fixtureDraw = .ok Actor.fixtureNonce := rfl
  have processed : (Phase.handshaking Actor.fixtureNonce).processImpl env.prim Actor.fixtureDraw
      (.ok (.clientHelloAck (proposalOf env))) = .ok ⟨[], .active connectionId⟩ := by
    simp only [Phase.processImpl, Phase.process, Handshaking.process, drawn, verified, bind,
      Except.bind, pure, Except.pure]
  have popped : (Channel.ofList [.ok (.clientHelloAck (proposalOf env))] :
      Channel ServerInput queueBufferLen).pop? = some (_, .ofList []) :=
    Channel.pop?_ofList (by simp [queueBufferLen])
  refine ⟨connectionId, ?_⟩
  simp only [connection, Conn.step, Conn.actorStep, popped, serving, processed]
  rfl

private theorem run_handshake (env : Env) : ∃ connectionId,
    (connection env).run (Conn.init Actor.fixtureApp) (handshake env) =
        some (serving env (.active connectionId) [] [] []) ∧
      (connection env).Conforms Conn.Bounded (Conn.init Actor.fixtureApp) (handshake env) := by
  obtain ⟨connectionId, accepted⟩ := accepts_proposal env
  refine ⟨connectionId, ?_, ?_⟩
  · rw [handshake, System.run_append_of_eq _ (run_greet env)]
    simp only [List.replicate, System.run_cons, accepted, Option.bind_some]
    rfl
  · refine System.Conforms.append (of_decide_eq_true rfl) (run_greet env) ⟨?_, ?_⟩
    · exact fun attempt => by cases attempt
    · rw [accepted]
      exact of_decide_eq_true rfl

def sameRequest : Dispatch := ⟨⟨0⟩, ⟨[1]⟩⟩

/-- The server sends the request again and the actor reads it. -/
def readRequest : List Act := .recv (fixtureRequest 0) :: List.replicate 3 (.actor none)

def publishRound : List Act := readRequest ++ List.replicate 2 (.actor none)

/-- `dispatch_task` hands the oldest request to the host, which accepts it. -/
def forwardRound : List Act := [.dispatchTask, .accept, .dispatchTask]

section Rounds

variable (env : Env) (connectionId : ConnectionId) (requests : List Dispatch)
variable (host dispatched : List CorrelationId)

/-- The actor has read the request and is about to publish it. -/
def publishing : Conn :=
  { serving env (.active connectionId) requests host dispatched with
    actor := .turn, todo := [.dispatch sameRequest] }

private theorem run_readRequest :
    (connection env).run (serving env (.active connectionId) requests host dispatched)
      readRequest = some (publishing env connectionId requests host dispatched) := rfl

private theorem conforms_readRequest :
    (connection env).Conforms Conn.Bounded
      (serving env (.active connectionId) requests host dispatched) readRequest :=
  of_decide_eq_true rfl

private theorem length_ofList (fits : requests.length ≤ dispatchQueueLen) :
    (publishing env connectionId requests host dispatched).requests.length = requests.length :=
  congrArg List.length (Channel.items_ofList fits)

private theorem step_publish (room : requests.length < dispatchQueueLen) :
    (connection env).step (publishing env connectionId requests host dispatched) (.actor none) =
      some { serving env (.active connectionId) (requests ++ [sameRequest]) host
        (dispatched ++ [⟨0⟩]) with actor := .turn } := by
  have pushed := Channel.push?_ofList room sameRequest
  simp only [connection, Conn.step, Conn.actorStep, Conn.tryDispatch, publishing, serving, pushed]
  rfl

private theorem step_report (full : requests.length = dispatchQueueLen) :
    (connection env).step (publishing env connectionId requests host dispatched) (.actor none) =
      some { serving env (.active connectionId) requests host (dispatched ++ [⟨0⟩]) with
        actor := .reporting ⟨⟨0⟩, .error .dispatchRequestQueueFull⟩ } := by
  have refused := Channel.push?_ofList_full full sameRequest
  simp only [connection, Conn.step, Conn.actorStep, Conn.tryDispatch, publishing, serving, refused]
  rfl

private theorem run_publishRound (room : requests.length < dispatchQueueLen) :
    (connection env).run (serving env (.active connectionId) requests host dispatched)
      publishRound = some (serving env (.active connectionId) (requests ++ [sameRequest]) host
        (dispatched ++ [⟨0⟩])) := by
  have published := step_publish env connectionId requests host dispatched room
  refine System.run_trans _ (run_readRequest env connectionId requests host dispatched) ?_
  exact System.run_trans _ (System.run_single _ published) rfl

private theorem conforms_publishRound (room : requests.length < dispatchQueueLen) :
    (connection env).Conforms Conn.Bounded
      (serving env (.active connectionId) requests host dispatched) publishRound := by
  refine System.Conforms.append (conforms_readRequest ..) (run_readRequest ..) ⟨?_, ?_⟩
  · intro attempt
    have full : (publishing env connectionId requests host dispatched).requests.length =
        dispatchQueueLen := by
      simpa [Conn.attemptsReport, publishing, serving, DispatchTaskPc.isExited] using attempt
    rw [length_ofList _ _ _ _ _ room.le] at full
    omega
  · rw [step_publish _ _ _ _ _ room]
    exact of_decide_eq_true rfl

private theorem run_forwardRound (conn : Conn) (idle : conn.dispatchTask = .idle)
    (connected : conn.link = .connected) {request : Dispatch}
    (queued : conn.requests = .ofList (request :: requests))
    (room : requests.length < dispatchQueueLen) :
    (connection env).run conn forwardRound = some { conn with
      requests := .ofList requests, host := conn.host ++ [request.correlationId] } := by
  have popped : conn.requests.pop? = some (request, .ofList requests) := by
    rw [queued]
    exact Channel.pop?_ofList room
  simp [forwardRound, connection, Conn.step, Conn.dispatchTaskStep, idle, connected,
    Link.dispatchStop, popped]

end Rounds

/-- The host can be given any number of requests that it has not answered, in
runs that never have to report. -/
private theorem host_unbounded (env : Env) (count : Nat) :
    ∃ conn, (connection env).ReachableBy Conn.Bounded conn ∧ conn.host.length = count := by
  obtain ⟨connectionId, ran, conforms⟩ := run_handshake env
  let given (number : Nat) : Conn := serving env (.active connectionId) []
    (List.replicate number ⟨0⟩) (List.replicate number ⟨0⟩)
  have advance : ∀ position < count, (connection env).run (given position)
      (publishRound ++ forwardRound) = some (given (position + 1)) := by
    intro position _
    rw [System.run_append_of_eq _
      (run_publishRound env connectionId [] _ _ (by simp [dispatchQueueLen]))]
    rw [run_forwardRound env [] _ rfl rfl rfl (by simp [dispatchQueueLen])]
    simp [given, serving, List.replicate_succ', sameRequest]
  have conforming : ∀ position < count, (connection env).Conforms Conn.Bounded (given position)
      (publishRound ++ forwardRound) := fun _ _ => of_decide_eq_true rfl
  have path := System.steps_rounds given _ count conforming advance
  refine ⟨given count, ⟨Conn.init Actor.fixtureApp, ⟨_, rfl⟩, ?_⟩, by simp [given, serving]⟩
  exact (System.steps_of_run conforms ran).trans path

private theorem slotKept_of_bounded {env : Env} {conn : Conn}
    (reached : (connection env).ReachableBy Conn.Bounded conn) : conn.SlotKept := by
  refine reached.invariant Conn.SlotKept ?_ fun _ _ _ _ kept bounded stepped =>
    slotKept_step (Conn.step_move stepped) bounded kept
  rintro _ ⟨appInfo, rfl⟩ _ reporting
  cases reporting

/-- In every run in which each `dispatch` call that has to report finds at most
as many requests on their way as the request queue holds, a reply slot is free
whenever the publisher reports; the actor is never blocked, and within five of
its own steps it reads its stop token, which ends it or its wait. Such runs
still put no bound on what is outstanding at the host. -/
theorem report_finds_slot (env : Env) :
    (∀ conn, (connection env).ReachableBy Conn.Bounded conn →
      (∀ result, conn.actor = .reporting result → conn.replies.length < dispatchQueueLen + 1) ∧
      (¬ conn.actor.Ended → ∀ draw, ∃ next, conn.step env (.actor draw) = some next ∧
        (0 < conn.untilStop → next.untilStop < conn.untilStop) ∧
        (conn.untilStop = 0 → conn.stop = true → next.actor = .returned ∨ next.untilStop = 1)) ∧
      (∀ action next, (∀ draw, action ≠ .actor draw) → conn.step env action = some next →
        next.untilStop = conn.untilStop) ∧
      conn.untilStop ≤ 5) ∧
    ∀ count, ∃ conn, (connection env).ReachableBy Conn.Bounded conn ∧ conn.host.length = count := by
  refine ⟨?_, host_unbounded env⟩
  intro conn reached
  have orderly := orderly_of_reachable reached.reachable
  have slot : ∀ result, conn.actor = .reporting result →
      conn.replies.length < dispatchQueueLen + 1 := by
    intro result reporting
    have kept := slotKept_of_bounded reached result reporting
    unfold Conn.inFlight at kept
    omega
  refine ⟨slot, ?_, ?_, orderly.untilStop_le⟩
  · intro alive draw
    obtain ⟨next, stepped⟩ := actorStep_enabled env orderly alive slot draw
    cases Conn.step_move stepped with
    | actor moved =>
        exact ⟨next, stepped, moved.untilStop_lt orderly, moved.reads_stop orderly⟩
    | host moved => cases moved
    | link moved => cases moved
  · intro action next other stepped
    exact (Conn.step_move stepped).untilStop_eq other

/-! ## Reports in a saturated connection -/

private theorem step_answer (env : Env) (conn : Conn) {id : CorrelationId}
    {replies : Channel DispatchResult (dispatchQueueLen + 1)} (host : conn.host = [id])
    (connected : conn.link = .connected) (alive : ¬ conn.actor.Ended)
    (pushed : conn.replies.push? ⟨id, .error .handlerExecTimeout⟩ = some replies) :
    (connection env).step conn (.answer 0 .handlerExecTimeout) =
      some { conn with host := [], replies } := by
  simp [connection, Conn.step, Conn.answer, HostAnswer.toResult?, Conn.deliverAnswer, host,
    connected, alive, pushed]

private theorem run_fill (env : Env) (connectionId : ConnectionId)
    (host dispatched : List CorrelationId) :
    (connection env).run (serving env (.active connectionId) [] host dispatched)
      (List.replicate dispatchQueueLen publishRound).flatten =
      some (serving env (.active connectionId) (List.replicate dispatchQueueLen sameRequest) host
        (dispatched ++ List.replicate dispatchQueueLen ⟨0⟩)) := by
  have filled := (connection env).run_rounds
    (fun number => serving env (.active connectionId) (List.replicate number sameRequest) host
      (dispatched ++ List.replicate number ⟨0⟩)) publishRound dispatchQueueLen
  simp only [List.replicate_zero, List.append_nil] at filled
  apply filled
  intro number bound
  rw [run_publishRound env connectionId _ _ _ (by simpa using bound)]
  simp only [List.replicate_succ', List.append_assoc]

def timedOut : DispatchResult := ⟨⟨0⟩, .error .handlerExecTimeout⟩

/-- The actor waits for a reply slot. Of the requests that were queued, `answered`
have been answered, and so has the one accepted before. -/
def reporting (env : Env) (connectionId : ConnectionId) (dispatched : List CorrelationId)
    (answered : Nat) : Conn :=
  { serving env (.active connectionId)
      (List.replicate (dispatchQueueLen - answered) sameRequest) [] dispatched with
    actor := .reporting ⟨⟨0⟩, .error .dispatchRequestQueueFull⟩
    replies := .ofList (List.replicate (answered + 1) timedOut) }

def answerRound : List Act := forwardRound ++ [Act.answer 0 .handlerExecTimeout]

private theorem run_answerRound (env : Env) (connectionId : ConnectionId)
    (dispatched : List CorrelationId) (answered : Nat) (more : answered < dispatchQueueLen) :
    (connection env).run (reporting env connectionId dispatched answered) answerRound =
      some (reporting env connectionId dispatched (answered + 1)) := by
  have queued : (reporting env connectionId dispatched answered).requests =
      .ofList (sameRequest :: List.replicate (dispatchQueueLen - (answered + 1)) sameRequest) := by
    rw [← List.replicate_succ, show dispatchQueueLen - (answered + 1) + 1 =
      dispatchQueueLen - answered by omega]
    rfl
  have room : (List.replicate (answered + 1) timedOut).length < dispatchQueueLen + 1 := by
    simpa using more
  have pushed := Channel.push?_ofList room timedOut
  rw [← List.replicate_succ'] at pushed
  refine System.run_trans _ (run_forwardRound env _ _ rfl rfl queued (by simp; omega)) ?_
  exact System.run_single _ (step_answer env _ rfl rfl id pushed)

/-- One request is at the host when the request queue fills up, so that one more
has to be reported. Before the actor gets to report it, the host accepts and
answers everything. -/
def saturate (env : Env) : List Act :=
  handshake env ++ (publishRound ++ (forwardRound ++
    ((List.replicate dispatchQueueLen publishRound).flatten ++ (readRequest ++ ([Act.actor none] ++
      ([Act.answer 0 .handlerExecTimeout] ++
        (List.replicate dispatchQueueLen answerRound).flatten))))))

private theorem run_saturate (env : Env) : ∃ connectionId dispatched,
    (connection env).run (Conn.init Actor.fixtureApp) (saturate env) =
      some (reporting env connectionId dispatched dispatchQueueLen) := by
  obtain ⟨connectionId, shaken, _⟩ := run_handshake env
  have room : ([] : List Dispatch).length < dispatchQueueLen := by simp [dispatchQueueLen]
  have full : (List.replicate dispatchQueueLen sameRequest).length = dispatchQueueLen :=
    List.length_replicate
  have answered := (connection env).run_rounds (reporting env connectionId
    ([⟨0⟩] ++ List.replicate dispatchQueueLen ⟨0⟩ ++ [⟨0⟩])) answerRound dispatchQueueLen
    (run_answerRound env connectionId _)
  refine ⟨connectionId, [⟨0⟩] ++ List.replicate dispatchQueueLen ⟨0⟩ ++ [⟨0⟩], ?_⟩
  refine System.run_trans _ shaken ?_
  refine System.run_trans _ (run_publishRound env connectionId [] [] [] room) ?_
  refine System.run_trans _ (run_forwardRound env [] _ rfl rfl rfl room) ?_
  refine System.run_trans _ (run_fill env connectionId [⟨0⟩] [⟨0⟩]) ?_
  refine System.run_trans _ (run_readRequest env connectionId _ _ _) ?_
  refine System.run_trans _ (System.run_single _ (step_report env connectionId _ _ _ full)) ?_
  refine System.run_trans _ (System.run_single _ (step_answer env _ rfl rfl id rfl)) answered

private theorem items_full {conn : Conn} (full : conn.replies.length = dispatchQueueLen + 1)
    {replies : Channel DispatchResult (dispatchQueueLen + 1)} {result : DispatchResult}
    (items : replies.items = conn.replies.items ++ [result]) : False := by
  have bounded := replies.bounded
  rw [items, List.length_append, List.length_singleton] at bounded
  unfold Channel.length at full
  omega

/-- A report that finds the reply queue full is never finished. -/
private theorem stays_reporting {env : Env} {conn next : Conn} {action : Act}
    {result : DispatchResult} (move : Move env conn action next)
    (waiting : conn.actor = .reporting result) (full : conn.replies.length = dispatchQueueLen + 1) :
    next.actor = .reporting result ∧ next.replies.length = dispatchQueueLen + 1 := by
  cases move with
  | actor moved =>
      cases moved with
      | reported _ items => exact (items_full full items).elim
      | helloPanicked pc | helloBuilt pc | turnOver pc | sendClosed pc | sendEnqueued pc
      | sendFull pc | sendPanicked pc | published pc | publishFailed pc | publishLost pc
      | backoffStopped pc | backoffElapsed pc | stopSeen pc | stopUnset pc | replyTaken pc
      | repliesEmpty pc | repliesClosed pc | serverTaken pc | serverPanicked pc | serverEmpty pc
      | serverClosed pc => simp [waiting] at pc
  | dispatchTask moved =>
      cases moved with
      | replied _ _ items => exact (items_full full items).elim
      | stopped | took | closed | calledBack | orphaned => exact ⟨waiting, full⟩
  | ioTask moved => cases moved <;> exact ⟨waiting, full⟩
  | host moved =>
      cases moved with
      | answered _ _ _ _ items => exact (items_full full items).elim
      | accepted | refused | answerDropped | received | receivedLate | sendReturned
      | stopCancelled => exact ⟨waiting, full⟩
  | link moved => cases moved <;> exact ⟨waiting, full⟩

/-- With `dispatch_task` not scheduled the request queue fills up with nothing
else on its way, and a further request is reported into a free slot. -/
theorem report_finds_slot_fullQueue : ∃ conn result,
    (connection (fixtureEnv Ctx.runtime)).ReachableBy Conn.Bounded conn ∧
      conn.actor = .reporting result ∧ conn.replies.length < dispatchQueueLen + 1 := by
  obtain ⟨connectionId, shaken, conforms⟩ := run_handshake (fixtureEnv Ctx.runtime)
  let filled (number : Nat) : Conn := serving (fixtureEnv Ctx.runtime) (.active connectionId)
    (List.replicate number sameRequest) [] (List.replicate number ⟨0⟩)
  have advance : ∀ number < dispatchQueueLen, (connection (fixtureEnv Ctx.runtime)).run
      (filled number) publishRound = some (filled (number + 1)) := by
    intro number bound
    rw [run_publishRound _ connectionId _ _ _ (by simpa using bound)]
    simp only [filled, List.replicate_succ']
  have fill := System.steps_rounds filled publishRound dispatchQueueLen
    (fun number bound => conforms_publishRound _ connectionId _ _ _ (by simpa using bound)) advance
  have full : (List.replicate dispatchQueueLen sameRequest).length = dispatchQueueLen :=
    List.length_replicate
  have read := System.steps_of_run (conforms_readRequest (fixtureEnv Ctx.runtime) connectionId
    (List.replicate dispatchQueueLen sameRequest) [] (List.replicate dispatchQueueLen ⟨0⟩))
    (run_readRequest ..)
  have report := step_report (fixtureEnv Ctx.runtime) connectionId
    (List.replicate dispatchQueueLen sameRequest) [] (List.replicate dispatchQueueLen ⟨0⟩) full
  have within : (publishing (fixtureEnv Ctx.runtime) connectionId
      (List.replicate dispatchQueueLen sameRequest) []
      (List.replicate dispatchQueueLen ⟨0⟩)).Bounded (.actor none) := by
    intro _
    rw [Conn.inFlight, length_ofList _ _ _ _ _ full.le, full]
    exact le_refl _
  have reached : (connection (fixtureEnv Ctx.runtime)).ReachableBy Conn.Bounded _ :=
    ⟨Conn.init Actor.fixtureApp, ⟨_, rfl⟩, ((System.steps_of_run conforms shaken).trans
      (fill.trans read)).tail within report⟩
  exact ⟨_, _, reached, rfl, ((report_finds_slot _).1 _ reached).1 _ rfl⟩

/-- The publisher reports a full request queue onto a full reply queue. Whatever
happens next, a cancelled stop token included, the actor has no step left. -/
theorem saturate_deadlocks :
    (∀ action ∈ saturate (fixtureEnv Ctx.runtime), action.Answering) ∧
    ∃ conn, (connection (fixtureEnv Ctx.runtime)).run (Conn.init Actor.fixtureApp)
        (saturate (fixtureEnv Ctx.runtime)) = some conn ∧
      conn.actor = .reporting ⟨⟨0⟩, .error .dispatchRequestQueueFull⟩ ∧ conn.host = [] ∧
      ∀ later, (connection (fixtureEnv Ctx.runtime)).Steps (fun _ _ => True) conn later →
        ∀ draw, later.step (fixtureEnv Ctx.runtime) (.actor draw) = none := by
  constructor
  · simp only [saturate, List.forall_mem_append]
    refine ⟨by decide, by decide, by decide, System.forall_mem_rounds _ (by decide), by decide,
      by decide, by decide, System.forall_mem_rounds _ (by decide)⟩
  obtain ⟨connectionId, dispatched, ran⟩ := run_saturate (fixtureEnv Ctx.runtime)
  refine ⟨_, ran, rfl, rfl, ?_⟩
  intro later path draw
  have full : (reporting (fixtureEnv Ctx.runtime) connectionId dispatched
      dispatchQueueLen).replies.length = dispatchQueueLen + 1 := by
    show (Channel.ofList _ : Channel DispatchResult (dispatchQueueLen + 1)).items.length = _
    rw [Channel.items_ofList (by simp), List.length_replicate]
  obtain ⟨waiting, full⟩ := path.preserves
    (fun conn => conn.actor = .reporting ⟨⟨0⟩, .error .dispatchRequestQueueFull⟩ ∧
      conn.replies.length = dispatchQueueLen + 1)
    (fun _ _ _ holds _ stepped => stays_reporting (Conn.step_move stepped) holds.1 holds.2)
    ⟨rfl, full⟩
  simp [Conn.step, Conn.actorStep, waiting, Channel.push?_eq_none_iff.mpr full]

end LibddRc
