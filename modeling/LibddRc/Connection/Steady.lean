import LibddRc.Connection.Conservation
import LibddRc.Connection.Sending

/-! A connection whose host takes every message and answers every request in
full, before it is taken down: it stays live, and what the actor sends reaches
the send callback in order. -/

set_option autoImplicit false

namespace LibddRc

open Foundation

/-- Steps of a connection that is not being taken down, with a host that takes
every message and gives no empty result. -/
def Conn.Steady (env : Env) (conn : Conn) : Act → Prop
  | .actor draw => conn.Unhindered env (.actor draw)
  | .sendReturn ret => ret = .success
  | .answer _ (.result data) => data ≠ []
  | .disconnect | .cancelStop => False
  | _ => True

theorem Conn.Steady.unhindered {env : Env} {conn : Conn} {action : Act}
    (steady : conn.Steady env action) : conn.Unhindered env action := by
  cases action with
  | actor draw => exact steady
  | dispatchTask | accept | refuse | answer | recv | ioTask | sendReturn | disconnect
  | cancelDispatch | joinIo | joinDispatch | cancelStop => trivial

theorem Conn.Steady.answering {env : Env} {conn : Conn} {action : Act}
    (steady : conn.Steady env action) : action.Answering := by
  cases action with
  | answer position answer =>
      cases answer with
      | result data => exact steady
      | handlerExecTimeout => trivial
  | actor | dispatchTask | accept | refuse | recv | ioTask | sendReturn | disconnect
  | cancelDispatch | joinIo | joinDispatch | cancelStop => trivial

/-- A connection never becomes connected again. -/
theorem Move.connected_before {env : Env} {conn next : Conn} {action : Act}
    (move : Move env conn action next) (connected : next.link = .connected) :
    conn.link = .connected := by
  cases move with
  | actor moved => cases moved <;> exact connected
  | dispatchTask moved => cases moved <;> exact connected
  | ioTask moved => cases moved <;> exact connected
  | host moved => cases moved <;> exact connected
  | link moved => cases moved <;> cases connected

private theorem live_step {env : Env} {conn next : Conn} {action : Act}
    (move : Move env conn action next) (steady : conn.Steady env action) (live : conn.Live)
    (unpanicked : next.actor ≠ .panicked) : next.Live := by
  obtain ⟨connected, running, sending, alive⟩ := live
  cases move with
  | actor moved =>
      have still : ¬ next.actor.Ended := by
        cases moved with
        | helloPanicked | sendPanicked | serverPanicked => exact absurd rfl unpanicked
        | stopSeen _ stop => simp [running] at stop
        | repliesClosed _ _ gone => simp [Conn.responderAlive, connected] at gone
        | serverClosed _ _ gone => simp [connected] at gone
        | sendClosed | sendEnqueued | published | publishLost => exact alive
        | helloBuilt | turnOver | sendFull | publishFailed | backoffStopped | backoffElapsed
        | reported | stopUnset | replyTaken | repliesEmpty | serverTaken | serverEmpty => exact id
      cases moved <;> exact ⟨connected, running, sending, still⟩
  | dispatchTask moved => cases moved <;> exact ⟨connected, running, sending, alive⟩
  | ioTask moved =>
      cases moved with
      | stopped _ stop => simp [connected, Link.ioStop] at stop
      | closed _ _ ended => exact absurd ended alive
      | took => exact ⟨connected, running, by simp, alive⟩
  | host moved =>
      cases moved with
      | sendReturned =>
          have success : _ = SendRet.success := steady
          exact ⟨connected, running, by simp [success], alive⟩
      | stopCancelled => exact steady.elim
      | accepted | refused | answered | answerDropped | received | receivedLate =>
          exact ⟨connected, running, sending, alive⟩
  | link moved =>
      cases moved with
      | disconnect => exact steady.elim
      | cancelDispatch at_ | joinIo at_ _ | joinDispatch at_ _ => simp [connected] at at_

theorem live_of_steady {env : Env} {conn : Conn}
    (reached : (connection env).ReachableBy (Conn.Steady env) conn) : conn.Live := by
  refine reached.invariant Conn.Live ?_ ?_
  · rintro _ ⟨appInfo, rfl⟩
    exact ⟨rfl, rfl, by simp [Conn.init], id⟩
  · intro before action after earlier live steady stepped
    have unpanicked : after.actor ≠ .panicked :=
      alive_of_unhindered ((earlier.step steady stepped).weaken fun _ _ meets => meets.unhindered)
    exact live_step (Conn.step_move stepped) steady live unpanicked

theorem Move.sent {env : Env} {conn next : Conn} {action : Act} (move : Move env conn action next)
    (same : conn.sent = conn.offered ++ conn.outgoing.items) :
    next.sent = next.offered ++ next.outgoing.items := by
  cases move with
  | actor moved =>
      cases moved with
      | sendEnqueued _ _ _ items => simp [same, items]
      | helloPanicked | helloBuilt | turnOver | sendClosed | sendFull | sendPanicked | published
      | publishFailed | publishLost | backoffStopped | backoffElapsed | reported | stopSeen
      | stopUnset | replyTaken | repliesEmpty | repliesClosed | serverTaken | serverPanicked
      | serverEmpty | serverClosed => exact same
  | dispatchTask moved => cases moved <;> exact same
  | ioTask moved =>
      cases moved with
      | took _ _ items => simpa [items] using same
      | stopped | closed => exact same
  | host moved => cases moved <;> exact same
  | link moved => cases moved <;> exact same

/-- What was put on the outgoing queue has been offered to the host, in order,
or is still queued. -/
theorem sent_of_reachable {env : Env} {conn : Conn} (reached : (connection env).Reachable conn) :
    conn.sent = conn.offered ++ conn.outgoing.items := by
  refine reached.invariant (fun conn => conn.sent = conn.offered ++ conn.outgoing.items) ?_ ?_
  · rintro _ ⟨appInfo, rfl⟩
    rfl
  · intro before action after _ same stepped
    exact (Conn.step_move stepped).sent same

/-! ## What the host took -/

/-- The requests with an id that the host took or that have a result, wherever
it is by now. -/
def Conn.taken (conn : Conn) (id : CorrelationId) : Nat :=
  conn.host.count id + conn.replied.count id + conn.heldByActor.count id +
    conn.responded.count id

/-- Only an accepted request leaves the dispatch task without a result. -/
private theorem Move.intake {env : Env} {conn next : Conn} {action : Act}
    (move : Move env conn action next) (other : action ≠ .accept) (id : CorrelationId) :
    conn.dispatched.count id + next.requested.count id + next.dispatchTask.held.count id ≤
      next.dispatched.count id + conn.requested.count id + conn.dispatchTask.held.count id := by
  cases move with
  | actor moved =>
      cases moved with
      | published _ _ _ items =>
          simp only [Conn.requested, items, List.map_append, List.count_append, List.map_cons,
            List.map_nil]
          omega
      | publishFailed | publishLost =>
          simp only [Conn.requested, List.count_append]
          omega
      | helloPanicked | helloBuilt | turnOver | sendClosed | sendEnqueued | sendFull
      | sendPanicked | backoffStopped | backoffElapsed | reported | stopSeen | stopUnset
      | replyTaken | repliesEmpty | repliesClosed | serverTaken | serverPanicked | serverEmpty
      | serverClosed => exact Nat.le_refl _
  | dispatchTask moved =>
      cases moved with
      | took idle _ items =>
          simp [Conn.requested, items, idle, DispatchTaskPc.held, List.count_cons]
          omega
      | stopped idle | closed idle | calledBack idle | replied idle | orphaned idle =>
          simp [Conn.requested, idle, DispatchTaskPc.held]
  | ioTask moved => cases moved <;> exact Nat.le_refl _
  | host moved =>
      cases moved with
      | accepted => exact absurd rfl other
      | refused calling => simp [Conn.requested, calling, DispatchTaskPc.held]
      | answered | answerDropped | received | receivedLate | sendReturned | stopCancelled =>
          exact Nat.le_refl _
  | link moved => cases moved <;> exact Nat.le_refl _

theorem Move.taken_le {env : Env} {conn next : Conn} {action : Act}
    (move : Move env conn action next) (other : action ≠ .accept) (before : conn.Balanced)
    (after : next.Balanced) (id : CorrelationId) : conn.taken id ≤ next.taken id := by
  have intake := move.intake other id
  have first := before id
  have second := after id
  simp only [Conn.taken]
  omega

theorem Move.taken_accept {env : Env} {conn next : Conn} {request : Dispatch}
    (move : Move env conn .accept next) (calling : conn.dispatchTask = .calling request)
    (id : CorrelationId) :
    next.taken id = conn.taken id + [request.correlationId].count id ∧
      next.host = conn.host ++ [request.correlationId] := by
  cases move with
  | host moved =>
      cases moved with
      | accepted same =>
          rw [calling] at same
          cases same
          refine ⟨?_, rfl⟩
          simp only [Conn.taken, Conn.replied, Conn.heldByActor, Conn.responded, List.count_append]
          omega
  | link moved => cases moved

theorem Move.host_kept {env : Env} {conn next : Conn} {action : Act}
    (move : Move env conn action next) (unaccepted : action ≠ .accept)
    (unanswered : ∀ position answer, action ≠ .answer position answer) :
    next.host = conn.host := by
  cases move with
  | actor moved => cases moved <;> rfl
  | dispatchTask moved => cases moved <;> rfl
  | ioTask moved => cases moved <;> rfl
  | host moved =>
      cases moved with
      | accepted => exact absurd rfl unaccepted
      | answered | answerDropped => exact absurd rfl (unanswered _ _)
      | refused | received | receivedLate | sendReturned | stopCancelled => rfl
  | link moved => cases moved <;> rfl

theorem Move.host_answer {env : Env} {conn next : Conn} {position : Nat} {answer : HostAnswer}
    (move : Move env conn (.answer position answer) next) :
    ∃ id, conn.host[position]? = some id ∧ next.host = conn.host.eraseIdx position := by
  cases move with
  | host moved =>
      cases moved with
      | answered found | answerDropped found => exact ⟨_, found, rfl⟩
  | link moved => cases moved

/-- Inside its callback the dispatch task waits for the host. -/
theorem Move.calling_kept {env : Env} {conn next : Conn} {action : Act} {request : Dispatch}
    (move : Move env conn action next) (calling : conn.dispatchTask = .calling request)
    (unaccepted : action ≠ .accept) (unrefused : ∀ ret, action ≠ .refuse ret) :
    next.dispatchTask = .calling request := by
  cases move with
  | actor moved => cases moved <;> exact calling
  | dispatchTask moved =>
      cases moved with
      | stopped pc | took pc | closed pc | calledBack pc | replied pc | orphaned pc =>
          simp [calling] at pc
  | ioTask moved => cases moved <;> exact calling
  | host moved =>
      cases moved with
      | accepted => exact absurd rfl unaccepted
      | refused => exact absurd rfl (unrefused _)
      | answered | answerDropped | received | receivedLate | sendReturned | stopCancelled =>
          exact calling
  | link moved => cases moved <;> exact calling

end LibddRc
