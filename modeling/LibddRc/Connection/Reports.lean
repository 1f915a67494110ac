import LibddRc.Connection.Steady

/-! A host that reports results as it likes. `rc_conn_dispatch_result` and
`rc_conn_dispatch_error` check no correlation id, so a report may name any
request or none, any number of times. -/

set_option autoImplicit false

namespace LibddRc

open Foundation

/-- `rc_conn_dispatch_result` and `rc_conn_dispatch_error` with any id. -/
def Conn.report (env : Env) (conn : Conn) (correlationId : CorrelationId) (answer : HostAnswer) :
    Option Conn :=
  match answer.toResult? env correlationId with
  | none => some conn
  | some result => conn.deliverAnswer conn.host result

inductive FreeAct
  | native (action : Act)
  | report (correlationId : CorrelationId) (answer : HostAnswer)

def Conn.freeStep (env : Env) (conn : Conn) : FreeAct → Option Conn
  | .native action => conn.step env action
  | .report correlationId answer => conn.report env correlationId answer

/-- All interleavings of one connection with a host that may also report
results nobody asked for. -/
def freeConnection (env : Env) : System Conn FreeAct where
  initial conn := ∃ appInfo, conn = Conn.init appInfo
  step := Conn.freeStep env

inductive FreeMove (env : Env) (conn : Conn) : FreeAct → Conn → Prop
  | native {action : Act} {next : Conn} :
      Move env conn action next → FreeMove env conn (.native action) next
  | delivered {correlationId : CorrelationId} {answer : HostAnswer} {result : DispatchResult}
      {replies : Channel DispatchResult (dispatchQueueLen + 1)} :
      conn.link = .connected → ¬ conn.actor.Ended →
      answer.toResult? env correlationId = some result →
      replies.items = conn.replies.items ++ [result] →
      FreeMove env conn (.report correlationId answer) { conn with replies }
  | dropped {correlationId : CorrelationId} {answer : HostAnswer} :
      answer.toResult? env correlationId = none ∨ conn.link ≠ .connected ∨ conn.actor.Ended →
      FreeMove env conn (.report correlationId answer) conn

section Moves

variable {env : Env} {conn next : Conn}

theorem Conn.freeStep_move {action : FreeAct} (stepped : conn.freeStep env action = some next) :
    FreeMove env conn action next := by
  cases action with
  | native action => exact .native (Conn.step_move stepped)
  | report correlationId answer =>
      simp only [Conn.freeStep, Conn.report] at stepped
      split at stepped
      · next empty =>
        cases stepped
        exact .dropped (.inl empty)
      · next result converted =>
        simp only [Conn.deliverAnswer] at stepped
        split at stepped
        · next open_ =>
          obtain ⟨replies, pushed, rfl⟩ := Option.map_eq_some_iff.mp stepped
          exact .delivered open_.1 open_.2 converted (Channel.push?_eq_some pushed).2
        · next shut =>
          cases stepped
          exact .dropped (.inr (by tauto))

/-- What every move keeps, and a longer or shorter reply queue does not change,
holds throughout. -/
theorem freeConnection_invariant (invariant : Conn → Prop)
    (start : ∀ appInfo, invariant (Conn.init appInfo))
    (move : ∀ {conn next action}, Move env conn action next → invariant conn → invariant next)
    (report : ∀ {conn : Conn} replies, invariant conn → invariant { conn with replies })
    (reached : (freeConnection env).Reachable conn) : invariant conn := by
  refine reached.invariant invariant ?_ ?_
  · rintro _ ⟨appInfo, rfl⟩
    exact start appInfo
  · intro before action after _ holds stepped
    cases Conn.freeStep_move stepped with
    | native moved => exact move moved holds
    | delivered => exact report _ holds
    | dropped => exact holds

theorem free_orderly (reached : (freeConnection env).Reachable conn) : conn.Orderly :=
  freeConnection_invariant Conn.Orderly (fun _ => rfl) Move.orderly (fun _ orderly => orderly)
    reached

/-! ## Calls of `retry_send` -/

def Effect.message? : Effect → Option ClientToServer
  | .send message => some message
  | .dispatch _ => none

/-- The messages passed to `retry_send`, in the order of the calls: those of the
calls that ended, then that of a call under way. -/
def Conn.retrySends (conn : Conn) : List ClientToServer :=
  conn.endings.map Prod.fst ++ conn.todo.filterMap Effect.message?

/-- Outside its turns the actor has no call under way. -/
private theorem todo_outside (orderly : conn.Orderly)
    (outside : conn.actor = .hello ∨ conn.actor = .pollReplies ∨ conn.actor = .pollServer) :
    conn.todo = [] := by
  rcases outside with pc | pc | pc <;> simpa [Conn.Orderly, pc] using orderly

private theorem retrySends_actor {draw : Draw} (move : ActorMove env conn draw next)
    (orderly : conn.Orderly) : conn.retrySends <+: next.retrySends := by
  cases move with
  | helloBuilt hello _ => simp [Conn.retrySends, todo_outside orderly (.inl hello)]
  | replyTaken poll _ => simp [Conn.retrySends, todo_outside orderly (.inr (.inl poll))]
  | serverTaken poll _ _ => simp [Conn.retrySends, todo_outside orderly (.inr (.inr poll))]
  | sendClosed _ todo _ | sendEnqueued _ todo _ _ | backoffStopped _ todo _ =>
      simp [Conn.retrySends, todo, Effect.message?]
  | published _ todo _ _ | publishFailed _ todo _ _ | publishLost _ todo _ =>
      simp [Conn.retrySends, todo, List.filterMap_cons, Effect.message?]
  | helloPanicked | turnOver | sendFull | sendPanicked | backoffElapsed | reported | stopSeen
  | stopUnset | repliesEmpty | repliesClosed | serverPanicked | serverEmpty | serverClosed =>
      exact List.prefix_rfl

theorem FreeMove.retrySends {action : FreeAct} (move : FreeMove env conn action next)
    (orderly : conn.Orderly) : conn.retrySends <+: next.retrySends := by
  cases move with
  | delivered | dropped => exact List.prefix_rfl
  | native moved =>
      cases moved with
      | actor moved => exact retrySends_actor moved orderly
      | dispatchTask moved => cases moved <;> exact List.prefix_rfl
      | ioTask moved => cases moved <;> exact List.prefix_rfl
      | host moved => cases moved <;> exact List.prefix_rfl
      | link moved => cases moved <;> exact List.prefix_rfl

/-! ## Responses -/

/-- The responses passed to `retry_send`, in the order of the calls. -/
def Conn.responses (conn : Conn) : List ClientToServer :=
  conn.retrySends.filter fun message => message.respondsTo?.isSome

/-- The responses passed on, then those the queued replies stand for. -/
def Conn.answers (conn : Conn) : List ClientToServer :=
  conn.responses ++ conn.replies.items.map DispatchResult.toResponse

theorem Reaction.unresponsive {prim : Primitives} {phase : Phase} {input : ServerInput}
    {turn : Turn} (reaction : Reaction prim phase input turn) :
    (turn.effects.filterMap Effect.message?).filter
      (fun message => message.respondsTo?.isSome) = [] := by
  cases reaction <;> simp [protocolError, Effect.message?, ClientToServer.respondsTo?]

private theorem answers_actor {draw : Draw} (move : ActorMove env conn draw next)
    (orderly : conn.Orderly) : conn.answers <+: next.answers := by
  cases move with
  | helloBuilt hello sent =>
      obtain ⟨_, effects⟩ := Phase.sendHello_effects sent
      simp [Conn.answers, Conn.responses, Conn.retrySends, todo_outside orderly (.inl hello),
        effects, Effect.message?, ClientToServer.respondsTo?]
  | serverTaken poll _ processed =>
      have quiet := (Phase.processImpl_reaction processed).unresponsive
      simp [Conn.answers, Conn.responses, Conn.retrySends,
        todo_outside orderly (.inr (.inr poll)), quiet]
  | replyTaken poll items =>
      simp [Conn.answers, Conn.responses, Conn.retrySends,
        todo_outside orderly (.inr (.inl poll)), items, Effect.message?, List.filter_cons]
  | reported _ items =>
      simp [Conn.answers, Conn.responses, Conn.retrySends, items]
  | sendClosed _ todo _ | sendEnqueued _ todo _ _ | backoffStopped _ todo _ =>
      simp [Conn.answers, Conn.responses, Conn.retrySends, todo, Effect.message?]
  | published _ todo _ _ | publishFailed _ todo _ _ | publishLost _ todo _ =>
      simp [Conn.answers, Conn.responses, Conn.retrySends, todo, List.filterMap_cons,
        Effect.message?]
  | helloPanicked | turnOver | sendFull | sendPanicked | backoffElapsed | stopSeen | stopUnset
  | repliesEmpty | repliesClosed | serverPanicked | serverEmpty | serverClosed =>
      exact List.prefix_rfl

/-- A reply is passed on once, in its turn, and never overtaken or lost. -/
theorem FreeMove.answers {action : FreeAct} (move : FreeMove env conn action next)
    (orderly : conn.Orderly) : conn.answers <+: next.answers := by
  have grown : ∀ {after : Conn} {result : DispatchResult}, after.retrySends = conn.retrySends →
      after.replies.items = conn.replies.items ++ [result] → conn.answers <+: after.answers := by
    intro after result same items
    simp [Conn.answers, Conn.responses, same, items]
  cases move with
  | dropped => exact List.prefix_rfl
  | delivered _ _ _ items => exact grown rfl items
  | native moved =>
      cases moved with
      | actor moved => exact answers_actor moved orderly
      | dispatchTask moved =>
          cases moved with
          | replied _ _ items => exact grown rfl items
          | stopped | took | closed | calledBack | orphaned => exact List.prefix_rfl
      | ioTask moved => cases moved <;> exact List.prefix_rfl
      | host moved =>
          cases moved with
          | answered _ _ _ _ items => exact grown rfl items
          | accepted | refused | answerDropped | received | receivedLate | sendReturned
          | stopCancelled => exact List.prefix_rfl
      | link moved => cases moved <;> exact List.prefix_rfl

theorem answers_prefix {later : Conn} (reached : (freeConnection env).Reachable conn)
    (path : (freeConnection env).Steps (fun _ _ => True) conn later) :
    conn.answers <+: later.answers := by
  obtain ⟨_, grown⟩ := path.preserves
    (fun state => (freeConnection env).Reachable state ∧ conn.answers <+: state.answers)
    (fun state action after holds _ stepped =>
      ⟨holds.1.step stepped,
        holds.2.trans ((Conn.freeStep_move stepped).answers (free_orderly holds.1))⟩)
    ⟨reached, List.prefix_rfl⟩
  exact grown

/-! ## Queued replies are sent -/

/-- Between turns, with nothing on its way to the host. -/
structure Conn.Resting (conn : Conn) : Prop where
  connected : conn.link = .connected
  running : conn.stop = false
  between : conn.actor = .pollStop
  todo : conn.todo = []
  waiting : conn.ioTask = .waiting
  flushed : conn.outgoing.items = []

/-- Some schedule of the connection's parties leads from one state to another. -/
def Conn.Leads (env : Env) (conn final : Conn) : Prop :=
  (freeConnection env).Steps (fun _ _ => True) conn final

private theorem leads_of_run (actions : List FreeAct)
    (ran : (freeConnection env).run conn actions = some next) : conn.Leads env next :=
  System.steps_of_run (System.conforms_of_forall fun _ _ _ => trivial) ran

private theorem flush_one {message : ClientToServer} {others : List ClientToServer}
    (connected : conn.link = .connected) (waiting : conn.ioTask = .waiting)
    (items : conn.outgoing.items = message :: others) :
    conn.Leads env { conn with
      outgoing := conn.outgoing.rest, offered := conn.offered ++ [message] } := by
  obtain ⟨popped, _⟩ := Channel.pop?_of_items items
  refine leads_of_run [.native .ioTask, .native (.sendReturn .success)] ?_
  simp [freeConnection, Conn.freeStep, Conn.step, Conn.ioTaskStep, waiting, connected, Link.ioStop,
    popped]

private theorem flush_all (conn : Conn) {items : List ClientToServer}
    (connected : conn.link = .connected) (waiting : conn.ioTask = .waiting)
    (held : conn.outgoing.items = items) :
    ∃ outgoing offered, outgoing.items = [] ∧
      conn.Leads env { conn with outgoing, offered } := by
  induction items generalizing conn with
  | nil => exact ⟨conn.outgoing, conn.offered, held, .refl⟩
  | cons message others ih =>
      obtain ⟨_, rest⟩ := Channel.pop?_of_items held
      have first : conn.Leads env _ := flush_one connected waiting held
      obtain ⟨outgoing, offered, empty, later⟩ := ih { conn with
        outgoing := conn.outgoing.rest, offered := conn.offered ++ [message] }
        connected waiting rest
      exact ⟨outgoing, offered, empty, first.trans later⟩

/-- The host takes what is on its way to it. -/
private theorem flush (live : conn.Live) (between : conn.actor = .pollStop)
    (todo : conn.todo = []) : ∃ final, conn.Leads env final ∧ final.Resting ∧
      final.replies = conn.replies ∧ final.sent = conn.sent := by
  cases pc : conn.ioTask with
  | exited => exact absurd pc live.sending
  | waiting =>
      obtain ⟨outgoing, offered, empty, path⟩ := flush_all conn live.connected pc rfl
      exact ⟨_, path, ⟨live.connected, live.running, between, todo, pc, empty⟩, rfl, rfl⟩
  | calling message =>
      have returned : conn.Leads env { conn with ioTask := .waiting } := by
        refine leads_of_run [.native (.sendReturn .success)] ?_
        simp [freeConnection, Conn.freeStep, Conn.step, pc]
      obtain ⟨outgoing, offered, empty, path⟩ :=
        flush_all { conn with ioTask := .waiting } live.connected rfl rfl
      exact ⟨_, returned.trans path, ⟨live.connected, live.running, between, todo, rfl, empty⟩,
        rfl, rfl⟩

private theorem reply_sent (draw : Draw) {result : DispatchResult} {others : List DispatchResult}
    (resting : conn.Resting) (held : conn.replies.items = result :: others) :
    ∃ final, conn.Leads env final ∧ final.Resting ∧ final.replies.items = others ∧
      final.sent = conn.sent ++ [result.toResponse] := by
  obtain ⟨popped, rest⟩ := Channel.pop?_of_items held
  have pushed := Channel.push?_of_items resting.flushed (by decide) result.toResponse
  let sent : Conn := { conn with
    actor := .pollStop
    todo := []
    replies := conn.replies.rest
    outgoing := ⟨[result.toResponse], by simp [queueBufferLen]⟩
    sent := conn.sent ++ [result.toResponse]
    endings := conn.endings ++ [(result.toResponse, .enqueued)] }
  have turn : conn.Leads env sent := by
    refine leads_of_run (List.replicate 4 (.native (.actor draw))) ?_
    simp [List.replicate, freeConnection, Conn.freeStep, Conn.step, Conn.actorStep, Conn.trySend,
      resting.between, resting.running, resting.waiting, popped, pushed, sent]
  have queued : sent.outgoing.items = [result.toResponse] := rfl
  have taken : sent.Leads env _ := flush_one resting.connected resting.waiting queued
  exact ⟨_, turn.trans taken, ⟨resting.connected, resting.running, rfl, rfl, resting.waiting, rfl⟩,
    rest, rfl⟩

private theorem replies_sent (draw : Draw) (results : List DispatchResult)
    (resting : conn.Resting) (held : conn.replies.items = results) :
    ∃ final, conn.Leads env final ∧ final.replies.items = [] ∧
      final.sent = conn.sent ++ results.map DispatchResult.toResponse := by
  induction results generalizing conn with
  | nil => exact ⟨conn, .refl, held, by simp⟩
  | cons result others ih =>
      obtain ⟨middle, first, still, rest, sent⟩ := reply_sent draw resting held
      obtain ⟨final, later, empty, all⟩ := ih still rest
      refine ⟨final, first.trans later, empty, ?_⟩
      rw [all, sent]
      simp

/-- From between two turns of a live actor, its own steps and those of the I/O
task lead to a state in which every queued reply has been sent. -/
theorem queued_replies_sent (draw : Draw) (orderly : conn.Orderly) (live : conn.Live)
    (between : conn.actor = .pollStop) : ∃ final, conn.Leads env final ∧
      final.replies.items = [] ∧
      final.sent = conn.sent ++ conn.replies.items.map DispatchResult.toResponse := by
  have todo : conn.todo = [] := by simpa [Conn.Orderly, between] using orderly
  obtain ⟨middle, first, resting, replies, sent⟩ := flush live between todo
  obtain ⟨final, later, empty, all⟩ := replies_sent draw _ resting rfl
  refine ⟨final, first.trans later, empty, ?_⟩
  rw [all, sent, replies]

end Moves

/-! ## From the report to the response -/

/-- How protobuf encodes response payloads, as far as the host relies on it. -/
structure WireFormat (env : Env) where
  encode : DispatchResponsePayload → Bytes
  decode_encode : ∀ payload, env.decode (encode payload) = .ok payload
  encode_unset : encode ⟨none⟩ = []

/-- The report of a result is enabled when the reply queue has a free slot. It
puts the result on the queue and does nothing else; in every continuation the
response follows the earlier ones, once, as passed to `retry_send` or as still
queued, and from between two turns of a live actor it can always be sent. -/
structure Conn.Answered (env : Env) (conn : Conn) (correlationId : CorrelationId)
    (answer : HostAnswer) (result : DispatchResult) (response : ClientToServer) : Prop where
  enabled : (∃ next, conn.report env correlationId answer = some next) ↔
    conn.replies.length < dispatchQueueLen + 1
  queued : ∀ next, conn.report env correlationId answer = some next →
    next = { conn with replies := next.replies } ∧
      next.replies.items = conn.replies.items ++ [result]
  once : ∀ next later, conn.report env correlationId answer = some next → next.Leads env later →
    ∃ added, later.answers = conn.answers ++ response :: added
  sent : ∀ next later, conn.report env correlationId answer = some next → next.Leads env later →
    later.Live → later.actor = .pollStop → ∃ final, later.Leads env final ∧
      final.replies.items = [] ∧
      final.sent = later.sent ++ later.replies.items.map DispatchResult.toResponse

section Reports

variable {env : Env} {conn : Conn} {correlationId : CorrelationId} {answer : HostAnswer}
  {result : DispatchResult}

private theorem answered_of_result (reached : (freeConnection env).Reachable conn)
    (connected : conn.link = .connected) (alive : ¬ conn.actor.Ended)
    (converted : answer.toResult? env correlationId = some result) :
    conn.Answered env correlationId answer result result.toResponse := by
  have reports : conn.report env correlationId answer =
      (conn.replies.push? result).map fun replies => { conn with replies } := by
    simp [Conn.report, converted, Conn.deliverAnswer, connected, alive]
  have queued : ∀ next, conn.report env correlationId answer = some next →
      next = { conn with replies := next.replies } ∧
        next.replies.items = conn.replies.items ++ [result] := by
    intro next reported
    rw [reports] at reported
    obtain ⟨replies, pushed, rfl⟩ := Option.map_eq_some_iff.mp reported
    exact ⟨rfl, (Channel.push?_eq_some pushed).2⟩
  have arrives : ∀ next, conn.report env correlationId answer = some next →
      (freeConnection env).Reachable next := by
    intro next reported
    have stepped : (freeConnection env).step conn (.report correlationId answer) = some next :=
      reported
    exact reached.step stepped
  refine ⟨?_, queued, ?_, ?_⟩
  · have bounded := conn.replies.length_le
    have full := @Channel.push?_eq_none_iff _ _ conn.replies result
    rw [reports]
    cases pushed : conn.replies.push? result with
    | none => simp [full.mp pushed]
    | some replies => simpa using (Channel.push?_eq_some pushed).1
  · intro next later reported path
    obtain ⟨same, items⟩ := queued next reported
    have before : next.answers = conn.answers ++ [result.toResponse] := by
      rw [same]
      simp [Conn.answers, Conn.responses, Conn.retrySends, items]
    obtain ⟨added, grown⟩ := answers_prefix (arrives next reported) path
    refine ⟨added, ?_⟩
    rw [before, List.append_assoc] at grown
    exact grown.symm
  · intro next later reported path live between
    obtain ⟨start, initial, earlier⟩ := arrives next reported
    exact queued_replies_sent Actor.fixtureDraw (free_orderly ⟨start, initial, earlier.trans path⟩)
      live between

end Reports

/-- A payload with its member set is answered with a response that carries it,
and bytes that do not decode with a `ReplyDeserialisation` error. The payload
with no member set encodes to nothing, and reporting it does nothing. -/
theorem report_answered (env : Env) (format : WireFormat env) (conn : Conn)
    (reached : (freeConnection env).Reachable conn) (connected : conn.link = .connected)
    (alive : ¬ conn.actor.Ended) (correlationId : CorrelationId) :
    (∀ payload : DispatchResponsePayload, payload ≠ ⟨none⟩ →
      conn.Answered env correlationId (.result (format.encode payload))
        ⟨correlationId, .ok payload⟩ (.dispatchResponse correlationId (.payload payload))) ∧
    (∀ data error, env.decode data = .error error →
      conn.Answered env correlationId (.result data)
        ⟨correlationId, .error (.replyDeserialisation error)⟩
        (.dispatchResponse correlationId (.error WireDispatchError.replyDeserialisation.toI32))) ∧
    conn.report env correlationId (.result (format.encode ⟨none⟩)) = some conn := by
  refine ⟨?_, ?_, ?_⟩
  · intro payload set
    have nonempty : format.encode payload ≠ [] := by
      intro empty
      have decoded := format.decode_encode payload
      rw [empty, ← format.encode_unset, format.decode_encode] at decoded
      exact set (Except.ok.inj decoded).symm
    refine answered_of_result reached connected alive ?_
    simp [HostAnswer.toResult?, nonempty, format.decode_encode, Except.mapError]
  · intro data error failed
    have nonempty : data ≠ [] := by
      rintro rfl
      rw [← format.encode_unset, format.decode_encode] at failed
      cases failed
    refine answered_of_result reached connected alive ?_
    simp [HostAnswer.toResult?, nonempty, failed, Except.mapError]
  · simp [Conn.report, HostAnswer.toResult?, format.encode_unset]

def fixtureFormat : WireFormat (fixtureEnv Ctx.runtime) :=
  ⟨responseBook.write, decodeResponse_write, rfl⟩

/-- The handshake, and a request that the host accepts. -/
def acceptRequest : List FreeAct :=
  List.replicate 3 (FreeAct.native (.actor Actor.fixtureDraw)) ++
    [FreeAct.native .ioTask, .native (.sendReturn .success), .native (.recv fixtureAckInput),
      .native (.recv (fixtureRequest 7))] ++
    List.replicate 9 (FreeAct.native (.actor Actor.fixtureDraw)) ++
    [FreeAct.native .dispatchTask, .native .accept, .native .dispatchTask]

theorem report_answered_handlerError : ∃ conn connectionId,
    (freeConnection (fixtureEnv Ctx.runtime)).run (Conn.init Actor.fixtureApp) acceptRequest =
        some conn ∧
      conn.phase = .active connectionId ∧ conn.host = [⟨7⟩] ∧
      fixtureFormat.encode ⟨some ⟨some (.handlerError "boom")⟩⟩ =
        [0x0a, 0x06, 0x12, 0x04, 0x62, 0x6f, 0x6f, 0x6d] ∧
      conn.Answered (fixtureEnv Ctx.runtime) ⟨7⟩
        (.result (fixtureFormat.encode ⟨some ⟨some (.handlerError "boom")⟩⟩))
        ⟨⟨7⟩, .ok ⟨some ⟨some (.handlerError "boom")⟩⟩⟩
        (.dispatchResponse ⟨7⟩ (.payload ⟨some ⟨some (.handlerError "boom")⟩⟩)) := by
  obtain ⟨conn, connectionId, ran, active, asked, connected, polling⟩ : ∃ conn connectionId,
      (freeConnection (fixtureEnv Ctx.runtime)).run (Conn.init Actor.fixtureApp) acceptRequest =
        some conn ∧ conn.phase = .active connectionId ∧ conn.host = [⟨7⟩] ∧
        conn.link = .connected ∧ conn.actor = .pollStop := ⟨_, _, rfl, rfl, rfl, rfl, rfl⟩
  have reached : (freeConnection (fixtureEnv Ctx.runtime)).Reachable conn :=
    System.reachable_of_run ⟨Actor.fixtureApp, rfl⟩ ran
  have alive : ¬ conn.actor.Ended := by simp [polling, ActorPc.Ended]
  have answered := (report_answered _ fixtureFormat conn reached connected alive ⟨7⟩).1
  exact ⟨conn, connectionId, ran, active, asked, rfl, answered _ (by simp)⟩

/-- The report of a payload with no member set, for a request that the host has
accepted: the connection is connected, its actor alive, and nothing is put on the
reply queue. -/
theorem unset_payload_unanswered : ∃ conn connectionId,
    (freeConnection (fixtureEnv Ctx.runtime)).run (Conn.init Actor.fixtureApp) acceptRequest =
        some conn ∧
      conn.phase = .active connectionId ∧ conn.host = [⟨7⟩] ∧ conn.link = .connected ∧
      ¬ conn.actor.Ended ∧
      ∃ next, conn.report (fixtureEnv Ctx.runtime) ⟨7⟩
          (.result (fixtureFormat.encode ⟨none⟩)) = some next ∧ next.replies.items = [] :=
  ⟨_, _, rfl, rfl, rfl, rfl, id, _, rfl, rfl⟩

end LibddRc
