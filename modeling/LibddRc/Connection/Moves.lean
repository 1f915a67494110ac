import LibddRc.Connection.Model

/-! Inversion of the connection's step function: every move any party can
make, with the guards it was made under. Invariants are proved by cases on a
move and never unfold the step function. -/

set_option autoImplicit false

namespace LibddRc

open Foundation

@[simp] theorem DispatchTaskPc.isExited_iff {pc : DispatchTaskPc} :
    pc.isExited = true ↔ pc = .exited := by
  cases pc <;> simp [DispatchTaskPc.isExited]

theorem Conn.responderAlive_iff {conn : Conn} :
    conn.responderAlive = true ↔ conn.link ≠ .disconnected ∨ conn.dispatchTask ≠ .exited := by
  simp only [Conn.responderAlive, Bool.or_eq_true, bne_iff_ne, Bool.not_eq_true', ne_eq,
    ← Bool.not_eq_true, DispatchTaskPc.isExited_iff]

/-- The queue failure that `DispatchPublisher::dispatch` ran into. -/
inductive PublishFailure (conn : Conn) : DispatchError → Prop
  | closed : conn.dispatchTask = .exited → PublishFailure conn .dispatchClosed
  | full : conn.dispatchTask ≠ .exited → conn.requests.length = dispatchQueueLen →
      PublishFailure conn .dispatchRequestQueueFull

/-- The moves of the actor. -/
inductive ActorMove (env : Env) (conn : Conn) (draw : Draw) : Conn → Prop
  | helloPanicked {panic : Panic} :
      conn.actor = .hello → conn.phase.sendHello env.metrics draw = .error panic →
      ActorMove env conn draw { conn with actor := .panicked }
  | helloBuilt {turn : Turn} :
      conn.actor = .hello → conn.phase.sendHello env.metrics draw = .ok turn →
      ActorMove env conn draw { conn with actor := .turn, todo := turn.effects, phase := turn.next }
  | turnOver : conn.actor = .turn → conn.todo = [] →
      ActorMove env conn draw { conn with actor := .pollStop }
  | sendClosed {message : ClientToServer} {rest : List Effect} :
      conn.actor = .turn → conn.todo = .send message :: rest → conn.ioTask = .exited →
      ActorMove env conn draw { conn with
        todo := rest, endings := conn.endings ++ [(message, .closed)] }
  | sendEnqueued {message : ClientToServer} {rest : List Effect}
      {outgoing : Channel ClientToServer queueBufferLen} :
      conn.actor = .turn → conn.todo = .send message :: rest → conn.ioTask ≠ .exited →
      outgoing.items = conn.outgoing.items ++ [message] →
      ActorMove env conn draw { conn with
        outgoing
        todo := rest
        sent := conn.sent ++ [message]
        endings := conn.endings ++ [(message, .enqueued)] }
  | sendFull {message : ClientToServer} {rest : List Effect} :
      conn.actor = .turn → conn.todo = .send message :: rest → conn.ioTask ≠ .exited →
      conn.outgoing.length = queueBufferLen → env.runtime.timeEnabled = true →
      ActorMove env conn draw { conn with actor := .backoff }
  | sendPanicked {message : ClientToServer} {rest : List Effect} :
      conn.actor = .turn → conn.todo = .send message :: rest → conn.ioTask ≠ .exited →
      conn.outgoing.length = queueBufferLen → env.runtime.timeEnabled = false →
      ActorMove env conn draw { conn with actor := .panicked }
  | published {request : Dispatch} {rest : List Effect}
      {requests : Channel Dispatch dispatchQueueLen} :
      conn.actor = .turn → conn.todo = .dispatch request :: rest → conn.dispatchTask ≠ .exited →
      requests.items = conn.requests.items ++ [request] →
      ActorMove env conn draw { conn with
        requests
        todo := rest
        dispatched := conn.dispatched ++ [request.correlationId] }
  | publishFailed {request : Dispatch} {rest : List Effect} {error : DispatchError} :
      conn.actor = .turn → conn.todo = .dispatch request :: rest → PublishFailure conn error →
      conn.responderAlive = true →
      ActorMove env conn draw { conn with
        actor := .reporting ⟨request.correlationId, .error error⟩
        todo := rest
        dispatched := conn.dispatched ++ [request.correlationId] }
  | publishLost {request : Dispatch} {rest : List Effect} :
      conn.actor = .turn → conn.todo = .dispatch request :: rest → conn.responderAlive = false →
      ActorMove env conn draw { conn with
        todo := rest, dispatched := conn.dispatched ++ [request.correlationId] }
  | backoffStopped {message : ClientToServer} {rest : List Effect} :
      conn.actor = .backoff → conn.todo = .send message :: rest → conn.stop = true →
      ActorMove env conn draw { conn with
        actor := .turn, todo := rest, endings := conn.endings ++ [(message, .stopped)] }
  | backoffElapsed {message : ClientToServer} {rest : List Effect} :
      conn.actor = .backoff → conn.todo = .send message :: rest → conn.stop = false →
      ActorMove env conn draw { conn with actor := .turn }
  | reported {result : DispatchResult} {replies : Channel DispatchResult (dispatchQueueLen + 1)} :
      conn.actor = .reporting result → replies.items = conn.replies.items ++ [result] →
      ActorMove env conn draw { conn with actor := .turn, replies }
  | stopSeen : conn.actor = .pollStop → conn.stop = true →
      ActorMove env conn draw { conn with actor := .returned }
  | stopUnset : conn.actor = .pollStop → conn.stop = false →
      ActorMove env conn draw { conn with actor := .pollReplies }
  | replyTaken {result : DispatchResult} {replies : Channel DispatchResult (dispatchQueueLen + 1)} :
      conn.actor = .pollReplies → conn.replies.items = result :: replies.items →
      ActorMove env conn draw { conn with
        actor := .turn, todo := [.send result.toResponse], replies }
  | repliesEmpty : conn.actor = .pollReplies → conn.replies.items = [] →
      conn.responderAlive = true → ActorMove env conn draw { conn with actor := .pollServer }
  | repliesClosed : conn.actor = .pollReplies → conn.replies.items = [] →
      conn.responderAlive = false → ActorMove env conn draw { conn with actor := .returned }
  | serverTaken {input : ServerInput} {incoming : Channel ServerInput queueBufferLen}
      {turn : Turn} :
      conn.actor = .pollServer → conn.incoming.items = input :: incoming.items →
      conn.phase.processImpl env.prim draw input = .ok turn →
      ActorMove env conn draw { conn with
        actor := .turn, todo := turn.effects, phase := turn.next, incoming }
  | serverPanicked {input : ServerInput} {incoming : Channel ServerInput queueBufferLen}
      {panic : Panic} :
      conn.actor = .pollServer → conn.incoming.items = input :: incoming.items →
      conn.phase.processImpl env.prim draw input = .error panic →
      ActorMove env conn draw { conn with actor := .panicked, incoming }
  | serverEmpty : conn.actor = .pollServer → conn.incoming.items = [] →
      conn.link ≠ .disconnected → ActorMove env conn draw { conn with actor := .pollStop }
  | serverClosed : conn.actor = .pollServer → conn.incoming.items = [] →
      conn.link = .disconnected → ActorMove env conn draw { conn with actor := .returned }

inductive DispatchTaskMove (conn : Conn) : Conn → Prop
  | stopped : conn.dispatchTask = .idle → conn.link.dispatchStop = true →
      DispatchTaskMove conn { conn with dispatchTask := .exited }
  | took {request : Dispatch} {requests : Channel Dispatch dispatchQueueLen} :
      conn.dispatchTask = .idle → conn.link.dispatchStop = false →
      conn.requests.items = request :: requests.items →
      DispatchTaskMove conn { conn with dispatchTask := .calling request, requests }
  | closed : conn.dispatchTask = .idle → conn.requests.items = [] → conn.actor.Ended →
      DispatchTaskMove conn { conn with dispatchTask := .exited }
  | calledBack {request : Dispatch} : conn.dispatchTask = .accepted request →
      DispatchTaskMove conn { conn with dispatchTask := .idle }
  | replied {result : DispatchResult} {replies : Channel DispatchResult (dispatchQueueLen + 1)} :
      conn.dispatchTask = .replying result → ¬ conn.actor.Ended →
      replies.items = conn.replies.items ++ [result] →
      DispatchTaskMove conn { conn with dispatchTask := .idle, replies }
  | orphaned {result : DispatchResult} :
      conn.dispatchTask = .replying result → conn.actor.Ended →
      DispatchTaskMove conn { conn with dispatchTask := .exited }

inductive IoTaskMove (conn : Conn) : Conn → Prop
  | stopped : conn.ioTask = .waiting → conn.link.ioStop = true →
      IoTaskMove conn { conn with ioTask := .exited }
  | took {message : ClientToServer} {outgoing : Channel ClientToServer queueBufferLen} :
      conn.ioTask = .waiting → conn.link.ioStop = false →
      conn.outgoing.items = message :: outgoing.items →
      IoTaskMove conn { conn with
        ioTask := .calling message, outgoing, offered := conn.offered ++ [message] }
  | closed : conn.ioTask = .waiting → conn.outgoing.items = [] → conn.actor.Ended →
      IoTaskMove conn { conn with ioTask := .exited }

inductive HostMove (env : Env) (conn : Conn) : Act → Conn → Prop
  | accepted {request : Dispatch} : conn.dispatchTask = .calling request →
      HostMove env conn .accept { conn with
        dispatchTask := .accepted request, host := conn.host ++ [request.correlationId] }
  | refused {request : Dispatch} {ret : DispatchRet} {error : DispatchError} :
      conn.dispatchTask = .calling request → ret.toError? = some error →
      HostMove env conn (.refuse ret) { conn with
        dispatchTask := .replying ⟨request.correlationId, .error error⟩ }
  | answered {position : Nat} {answer : HostAnswer} {correlationId : CorrelationId}
      {result : DispatchResult} {replies : Channel DispatchResult (dispatchQueueLen + 1)} :
      conn.host[position]? = some correlationId → conn.link = .connected → ¬ conn.actor.Ended →
      answer.toResult? env correlationId = some result →
      replies.items = conn.replies.items ++ [result] →
      HostMove env conn (.answer position answer) { conn with
        host := conn.host.eraseIdx position, replies }
  | answerDropped {position : Nat} {answer : HostAnswer} {correlationId : CorrelationId} :
      conn.host[position]? = some correlationId →
      answer.toResult? env correlationId = none ∨ conn.link ≠ .connected ∨ conn.actor.Ended →
      HostMove env conn (.answer position answer) { conn with
        host := conn.host.eraseIdx position }
  | received {input : ServerInput} {incoming : Channel ServerInput queueBufferLen} :
      conn.link = .connected → ¬ conn.actor.Ended →
      incoming.items = conn.incoming.items ++ [input] →
      HostMove env conn (.recv input) { conn with incoming }
  | receivedLate {input : ServerInput} : conn.link ≠ .connected ∨ conn.actor.Ended →
      HostMove env conn (.recv input) conn
  | sendReturned {message : ClientToServer} {ret : SendRet} :
      conn.ioTask = .calling message →
      HostMove env conn (.sendReturn ret) { conn with
        ioTask := if ret = .success then .waiting else .exited }
  | stopCancelled : HostMove env conn .cancelStop { conn with stop := true }

inductive LinkMove (conn : Conn) : Act → Conn → Prop
  | disconnect : conn.link = .connected →
      LinkMove conn .disconnect { conn with link := .ioCancelled }
  | cancelDispatch : conn.link = .ioCancelled →
      LinkMove conn .cancelDispatch { conn with link := .cancelled }
  | joinIo : conn.link = .cancelled → conn.ioTask = .exited →
      LinkMove conn .joinIo { conn with link := .ioJoined }
  | joinDispatch : conn.link = .ioJoined → conn.dispatchTask = .exited →
      LinkMove conn .joinDispatch { conn with link := .disconnected }

/-- The moves of a connection, by the party that makes them. -/
inductive Move (env : Env) (conn : Conn) : Act → Conn → Prop
  | actor {draw : Draw} {next : Conn} :
      ActorMove env conn draw next → Move env conn (.actor draw) next
  | dispatchTask {next : Conn} : DispatchTaskMove conn next → Move env conn .dispatchTask next
  | ioTask {next : Conn} : IoTaskMove conn next → Move env conn .ioTask next
  | host {action : Act} {next : Conn} :
      HostMove env conn action next → Move env conn action next
  | link {action : Act} {next : Conn} : LinkMove conn action next → Move env conn action next

private theorem trySend_move {env : Env} {conn : Conn} {draw : Draw} {message : ClientToServer}
    {rest : List Effect} (turn : conn.actor = .turn) (todo : conn.todo = .send message :: rest) :
    ActorMove env conn draw (conn.trySend env message rest) := by
  unfold Conn.trySend
  split
  · next exited => exact .sendClosed turn todo exited
  · next open_ =>
    split
    · next outgoing pushed =>
      exact .sendEnqueued turn todo open_ (Channel.push?_eq_some pushed).2
    · next refused =>
      have full := Channel.push?_eq_none_iff.mp refused
      split
      · next enabled => exact .sendFull turn todo open_ full enabled
      · next disabled => exact .sendPanicked turn todo open_ full (by simpa using disabled)

private theorem reportFailure_move {env : Env} {conn : Conn} {draw : Draw} {request : Dispatch}
    {rest : List Effect} {error : DispatchError} (turn : conn.actor = .turn)
    (todo : conn.todo = .dispatch request :: rest) (failure : PublishFailure conn error) :
    ActorMove env conn draw (conn.reportFailure request rest error) := by
  unfold Conn.reportFailure
  split
  · next alive => exact .publishFailed turn todo failure alive
  · next gone => exact .publishLost turn todo (by simpa using gone)

private theorem tryDispatch_move {env : Env} {conn : Conn} {draw : Draw} {request : Dispatch}
    {rest : List Effect} (turn : conn.actor = .turn)
    (todo : conn.todo = .dispatch request :: rest) :
    ActorMove env conn draw (conn.tryDispatch request rest) := by
  unfold Conn.tryDispatch
  split
  · next exited => exact reportFailure_move turn todo (.closed exited)
  · next open_ =>
    split
    · next requests pushed => exact .published turn todo open_ (Channel.push?_eq_some pushed).2
    · next refused =>
      exact reportFailure_move turn todo (.full open_ (Channel.push?_eq_none_iff.mp refused))

private theorem actorStep_move {env : Env} {conn next : Conn} {draw : Draw}
    (stepped : conn.actorStep env draw = some next) : ActorMove env conn draw next := by
  unfold Conn.actorStep at stepped
  cases pc : conn.actor with
  | hello =>
      simp only [pc] at stepped
      cases sent : conn.phase.sendHello env.metrics draw with
      | error panic =>
          simp only [sent, Option.some.injEq] at stepped
          exact stepped ▸ .helloPanicked pc sent
      | ok turn =>
          simp only [sent, Option.some.injEq] at stepped
          exact stepped ▸ .helloBuilt pc sent
  | turn =>
      simp only [pc] at stepped
      split at stepped
      · next todo =>
        cases stepped
        exact .turnOver pc todo
      · next message rest todo =>
        cases stepped
        exact trySend_move pc todo
      · next request rest todo =>
        cases stepped
        exact tryDispatch_move pc todo
  | backoff =>
      simp only [pc] at stepped
      split at stepped
      · next message rest todo =>
        split at stepped
        · next stop =>
          cases stepped
          exact .backoffStopped pc todo stop
        · next running =>
          cases stepped
          exact .backoffElapsed pc todo (by simpa using running)
      · cases stepped
  | reporting result =>
      simp only [pc] at stepped
      obtain ⟨replies, pushed, rfl⟩ := Option.map_eq_some_iff.mp stepped
      exact .reported pc (Channel.push?_eq_some pushed).2
  | pollStop =>
      simp only [pc] at stepped
      split at stepped
      · next stop =>
        cases stepped
        exact .stopSeen pc stop
      · next running =>
        cases stepped
        exact .stopUnset pc (by simpa using running)
  | pollReplies =>
      simp only [pc] at stepped
      cases popped : conn.replies.pop? with
      | some taken =>
          simp only [popped, Option.some.injEq] at stepped
          exact stepped ▸ .replyTaken pc (Channel.pop?_eq_some popped)
      | none =>
          simp only [popped] at stepped
          have empty := Channel.pop?_eq_none popped
          cases alive : conn.responderAlive with
          | true =>
              simp only [alive, if_true, Option.some.injEq] at stepped
              exact stepped ▸ .repliesEmpty pc empty alive
          | false =>
              simp only [alive, Bool.false_eq_true, if_false, Option.some.injEq] at stepped
              exact stepped ▸ .repliesClosed pc empty alive
  | pollServer =>
      simp only [pc] at stepped
      cases popped : conn.incoming.pop? with
      | some taken =>
          obtain ⟨input, incoming⟩ := taken
          simp only [popped] at stepped
          have buffered := Channel.pop?_eq_some popped
          cases processed : conn.phase.processImpl env.prim draw input with
          | error panic =>
              simp only [processed, Option.some.injEq] at stepped
              exact stepped ▸ .serverPanicked pc buffered processed
          | ok turn =>
              simp only [processed, Option.some.injEq] at stepped
              exact stepped ▸ .serverTaken pc buffered processed
      | none =>
          simp only [popped] at stepped
          have empty := Channel.pop?_eq_none popped
          split at stepped
          · next gone =>
            cases stepped
            exact .serverClosed pc empty gone
          · next connected =>
            cases stepped
            exact .serverEmpty pc empty connected
  | returned => simp [pc] at stepped
  | panicked => simp [pc] at stepped

private theorem dispatchTaskStep_move {conn next : Conn}
    (stepped : conn.dispatchTaskStep = some next) : DispatchTaskMove conn next := by
  unfold Conn.dispatchTaskStep at stepped
  cases pc : conn.dispatchTask with
  | idle =>
      simp only [pc] at stepped
      cases stop : conn.link.dispatchStop with
      | true =>
          simp only [stop, if_true, Option.some.injEq] at stepped
          exact stepped ▸ .stopped pc stop
      | false =>
          simp only [stop, Bool.false_eq_true, if_false] at stepped
          cases popped : conn.requests.pop? with
          | some taken =>
              simp only [popped, Option.some.injEq] at stepped
              exact stepped ▸ .took pc stop (Channel.pop?_eq_some popped)
          | none =>
              simp only [popped, Option.ite_none_right_eq_some, Option.some.injEq] at stepped
              obtain ⟨ended, rfl⟩ := stepped
              exact .closed pc (Channel.pop?_eq_none popped) ended
  | calling request => simp [pc] at stepped
  | accepted request =>
      simp only [pc, Option.some.injEq] at stepped
      exact stepped ▸ .calledBack pc
  | replying result =>
      simp only [pc] at stepped
      split at stepped
      · next ended =>
        cases stepped
        exact .orphaned pc ended
      · next alive =>
        obtain ⟨replies, pushed, rfl⟩ := Option.map_eq_some_iff.mp stepped
        exact .replied pc alive (Channel.push?_eq_some pushed).2
  | exited => simp [pc] at stepped

private theorem ioTaskStep_move {conn next : Conn} (stepped : conn.ioTaskStep = some next) :
    IoTaskMove conn next := by
  unfold Conn.ioTaskStep at stepped
  cases pc : conn.ioTask with
  | waiting =>
      simp only [pc] at stepped
      cases stop : conn.link.ioStop with
      | true =>
          simp only [stop, if_true, Option.some.injEq] at stepped
          exact stepped ▸ .stopped pc stop
      | false =>
          simp only [stop, Bool.false_eq_true, if_false] at stepped
          cases popped : conn.outgoing.pop? with
          | some taken =>
              simp only [popped, Option.some.injEq] at stepped
              exact stepped ▸ .took pc stop (Channel.pop?_eq_some popped)
          | none =>
              simp only [popped, Option.ite_none_right_eq_some, Option.some.injEq] at stepped
              obtain ⟨ended, rfl⟩ := stepped
              exact .closed pc (Channel.pop?_eq_none popped) ended
  | calling message => simp [pc] at stepped
  | exited => simp [pc] at stepped

private theorem answer_move {env : Env} {conn next : Conn} {position : Nat} {answer : HostAnswer}
    (stepped : conn.answer env position answer = some next) :
    HostMove env conn (.answer position answer) next := by
  unfold Conn.answer at stepped
  cases found : conn.host[position]? with
  | none => simp [found] at stepped
  | some correlationId =>
      simp only [found] at stepped
      cases converted : answer.toResult? env correlationId with
      | none =>
          simp only [converted, Option.some.injEq] at stepped
          exact stepped ▸ .answerDropped found (.inl converted)
      | some result =>
          simp only [converted, Conn.deliverAnswer] at stepped
          split at stepped
          · next open_ =>
            obtain ⟨replies, pushed, rfl⟩ := Option.map_eq_some_iff.mp stepped
            exact .answered found open_.1 open_.2 converted (Channel.push?_eq_some pushed).2
          · next shut =>
            cases stepped
            exact .answerDropped found (.inr (by tauto))

theorem Conn.step_move {env : Env} {conn next : Conn} {action : Act}
    (stepped : conn.step env action = some next) : Move env conn action next := by
  cases action with
  | actor draw => exact .actor (actorStep_move stepped)
  | dispatchTask => exact .dispatchTask (dispatchTaskStep_move stepped)
  | ioTask => exact .ioTask (ioTaskStep_move stepped)
  | answer position answer => exact .host (answer_move stepped)
  | accept =>
      simp only [Conn.step] at stepped
      split at stepped
      · next request calling =>
        cases stepped
        exact .host (.accepted calling)
      · cases stepped
  | refuse ret =>
      simp only [Conn.step] at stepped
      split at stepped
      · next request calling =>
        obtain ⟨error, refused, rfl⟩ := Option.map_eq_some_iff.mp stepped
        exact .host (.refused calling refused)
      · cases stepped
  | recv input =>
      simp only [Conn.step] at stepped
      split at stepped
      · next open_ =>
        obtain ⟨incoming, pushed, rfl⟩ := Option.map_eq_some_iff.mp stepped
        exact .host (.received open_.1 open_.2 (Channel.push?_eq_some pushed).2)
      · next shut =>
        cases stepped
        exact .host (.receivedLate (by tauto))
  | sendReturn ret =>
      simp only [Conn.step] at stepped
      split at stepped
      · next message calling =>
        cases stepped
        exact .host (.sendReturned calling)
      · cases stepped
  | cancelStop =>
      cases stepped
      exact .host .stopCancelled
  | disconnect =>
      simp only [Conn.step, Option.ite_none_right_eq_some, Option.some.injEq] at stepped
      obtain ⟨connected, rfl⟩ := stepped
      exact .link (.disconnect connected)
  | cancelDispatch =>
      simp only [Conn.step, Option.ite_none_right_eq_some, Option.some.injEq] at stepped
      obtain ⟨cancelled, rfl⟩ := stepped
      exact .link (.cancelDispatch cancelled)
  | joinIo =>
      simp only [Conn.step, Option.ite_none_right_eq_some, Option.some.injEq] at stepped
      obtain ⟨⟨cancelled, exited⟩, rfl⟩ := stepped
      exact .link (.joinIo cancelled exited)
  | joinDispatch =>
      simp only [Conn.step, Option.ite_none_right_eq_some, Option.some.injEq] at stepped
      obtain ⟨⟨joined, exited⟩, rfl⟩ := stepped
      exact .link (.joinDispatch joined (DispatchTaskPc.isExited_iff.mp exited))

/-- A step of `set_disconnected`. -/
def Act.unlinks : Act → Bool
  | .disconnect | .cancelDispatch | .joinIo | .joinDispatch => true
  | _ => false

/-- Only `set_disconnected` takes a connection down. -/
theorem Move.link_kept {env : Env} {conn next : Conn} {action : Act}
    (move : Move env conn action next) (other : action.unlinks = false) :
    next.link = conn.link := by
  cases move with
  | actor moved => cases moved <;> rfl
  | dispatchTask moved => cases moved <;> rfl
  | ioTask moved => cases moved <;> rfl
  | host moved => cases moved <;> rfl
  | link moved => cases moved <;> cases other

/-! ## Messages being offered -/

def beingOffered : IoTaskPc → List ClientToServer
  | .calling message => [message]
  | _ => []

/-- Until the send callback returns, what is offered anew is being offered. -/
theorem Move.offers {env : Env} {conn next : Conn} {action : Act}
    (move : Move env conn action next) (unreturned : ∀ ret, action ≠ .sendReturn ret) :
    ∃ more, next.offered = conn.offered ++ more ∧
      beingOffered next.ioTask = beingOffered conn.ioTask ++ more := by
  have same : next.offered = conn.offered → next.ioTask = conn.ioTask →
      ∃ more, next.offered = conn.offered ++ more ∧
        beingOffered next.ioTask = beingOffered conn.ioTask ++ more := by
    intro offered ioTask
    exact ⟨[], by simp [offered], by simp [ioTask]⟩
  cases move with
  | actor moved => cases moved <;> exact same rfl rfl
  | dispatchTask moved => cases moved <;> exact same rfl rfl
  | ioTask moved =>
      cases moved with
      | stopped waiting | closed waiting => exact ⟨[], by simp, by simp [waiting, beingOffered]⟩
      | took waiting => exact ⟨_, rfl, by simp [waiting, beingOffered]⟩
  | host moved =>
      cases moved with
      | sendReturned => exact absurd rfl (unreturned _)
      | accepted | refused | answered | answerDropped | received | receivedLate | stopCancelled =>
          exact same rfl rfl
  | link moved => cases moved <;> exact same rfl rfl

/-! ## Tasks that are over -/

/-- An exited I/O task offers nothing more. -/
theorem Move.io_exited {env : Env} {conn next : Conn} {action : Act}
    (move : Move env conn action next) (exited : conn.ioTask = .exited) :
    next.ioTask = .exited ∧ next.offered = conn.offered := by
  cases move with
  | actor moved => cases moved <;> exact ⟨exited, rfl⟩
  | dispatchTask moved => cases moved <;> exact ⟨exited, rfl⟩
  | ioTask moved =>
      cases moved with
      | stopped | closed => exact ⟨rfl, rfl⟩
      | took waiting _ _ => simp [exited] at waiting
  | host moved =>
      cases moved with
      | sendReturned calling => simp [exited] at calling
      | accepted | refused | answered | answerDropped | received | receivedLate | stopCancelled =>
          exact ⟨exited, rfl⟩
  | link moved => cases moved <;> exact ⟨exited, rfl⟩

theorem Move.dispatch_exited {env : Env} {conn next : Conn} {action : Act}
    (move : Move env conn action next) (exited : conn.dispatchTask = .exited) :
    next.dispatchTask = .exited := by
  cases move with
  | actor moved => cases moved <;> exact exited
  | dispatchTask moved =>
      cases moved with
      | stopped pc | took pc | closed pc | calledBack pc | replied pc | orphaned pc =>
          simp [exited] at pc
  | ioTask moved => cases moved <;> exact exited
  | host moved =>
      cases moved with
      | accepted calling | refused calling => simp [exited] at calling
      | answered | answerDropped | received | receivedLate | sendReturned | stopCancelled =>
          exact exited
  | link moved => cases moved <;> exact exited

/-! ## What the actor has left to do -/

/-- The actor holds effects only inside a turn, one at most, and waits inside
`retry_send` only for a message. -/
def Conn.Orderly (conn : Conn) : Prop :=
  match conn.actor with
  | .turn => conn.todo.length ≤ 1
  | .backoff => ∃ message, conn.todo = [.send message]
  | .returned => True
  | .panicked => True
  | _ => conn.todo = []

theorem Reaction.effects_length {prim : Primitives} {phase : Phase} {input : ServerInput}
    {turn : Turn} (reaction : Reaction prim phase input turn) : turn.effects.length ≤ 1 := by
  cases reaction <;> simp [protocolError]

theorem Phase.sendHello_effects {phase : Phase} {metrics : InstanceMetrics} {draw : Draw}
    {turn : Turn} (sent : phase.sendHello metrics draw = .ok turn) :
    ∃ hello, turn.effects = [.send (.clientHello hello)] := by
  cases phase with
  | preHandshake appInfo =>
      cases drawn : IdNonce.default draw with
      | error panic =>
          simp [Phase.sendHello, buildHello, drawn, bind, Except.bind] at sent
      | ok nonce =>
          simp only [Phase.sendHello, buildHello, drawn, bind, Except.bind, pure, Except.pure,
            Except.ok.injEq] at sent
          exact ⟨_, congrArg Turn.effects sent.symm⟩
  | handshaking nonce => cases sent
  | active connectionId => cases sent
  | error => cases sent

private theorem orderly_rest {conn : Conn} {effect : Effect} {rest : List Effect}
    (orderly : conn.Orderly) (turn : conn.actor = .turn) (todo : conn.todo = effect :: rest) :
    rest = [] := by
  simp only [Conn.Orderly, turn, todo, List.length_cons] at orderly
  exact List.length_eq_zero_iff.mp (by omega)

theorem ActorMove.orderly {env : Env} {conn next : Conn} {draw : Draw}
    (move : ActorMove env conn draw next) (orderly : conn.Orderly) : next.Orderly := by
  cases move with
  | helloPanicked | sendPanicked | stopSeen | repliesClosed | serverPanicked | serverClosed =>
      trivial
  | helloBuilt _ sent =>
      obtain ⟨hello, effects⟩ := Phase.sendHello_effects sent
      simp [Conn.Orderly, effects]
  | serverTaken _ _ processed => exact (Phase.processImpl_reaction processed).effects_length
  | turnOver _ todo => exact todo
  | sendClosed turn todo _ =>
      have last := orderly_rest orderly turn todo
      simp [Conn.Orderly, turn, last]
  | sendEnqueued turn todo _ _ =>
      have last := orderly_rest orderly turn todo
      simp [Conn.Orderly, turn, last]
  | published turn todo _ _ =>
      have last := orderly_rest orderly turn todo
      simp [Conn.Orderly, turn, last]
  | publishLost turn todo _ =>
      have last := orderly_rest orderly turn todo
      simp [Conn.Orderly, turn, last]
  | publishFailed turn todo _ _ => exact orderly_rest orderly turn todo
  | sendFull turn todo _ _ _ =>
      exact ⟨_, by rw [todo, orderly_rest orderly turn todo]⟩
  | backoffStopped backoff todo _ =>
      simp only [Conn.Orderly, backoff, todo] at orderly ⊢
      obtain ⟨message, same⟩ := orderly
      simp [(List.cons.inj same).2]
  | backoffElapsed backoff todo _ =>
      simp only [Conn.Orderly, backoff] at orderly ⊢
      obtain ⟨message, same⟩ := orderly
      simp [same]
  | reported reporting _ =>
      simp only [Conn.Orderly, reporting] at orderly ⊢
      simp [orderly]
  | stopUnset poll _ => simpa [Conn.Orderly, poll] using orderly
  | replyTaken => simp [Conn.Orderly]
  | repliesEmpty poll _ _ => simpa [Conn.Orderly, poll] using orderly
  | serverEmpty poll _ _ => simpa [Conn.Orderly, poll] using orderly

theorem Move.orderly {env : Env} {conn next : Conn} {action : Act}
    (move : Move env conn action next) (orderly : conn.Orderly) : next.Orderly := by
  cases move with
  | actor moved => exact moved.orderly orderly
  | dispatchTask moved => cases moved <;> exact orderly
  | ioTask moved => cases moved <;> exact orderly
  | host moved => cases moved <;> exact orderly
  | link moved => cases moved <;> exact orderly

theorem orderly_of_reachable {env : Env} {conn : Conn} (reached : (connection env).Reachable conn) :
    conn.Orderly := by
  refine reached.invariant Conn.Orderly ?_ fun _ _ _ _ orderly stepped =>
    (Conn.step_move stepped).orderly orderly
  rintro _ ⟨appInfo, rfl⟩
  rfl

end LibddRc
