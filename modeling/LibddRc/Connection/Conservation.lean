import Mathlib.Data.Multiset.AddSub
import Mathlib.Data.List.Perm.Basic
import LibddRc.Connection.Moves

/-! Dispatch conservation: while a connection is live, every request handed to
`DispatchPublisher::dispatch` is in exactly one place. -/

set_option autoImplicit false

namespace LibddRc

open Foundation

/-! ## Live connections -/

/-- Connected and not stopped, with an open outgoing queue and a running actor. -/
structure Conn.Live (conn : Conn) : Prop where
  connected : conn.link = .connected
  running : conn.stop = false
  sending : conn.ioTask ≠ .exited
  alive : ¬ conn.actor.Ended

/-- A connection never comes back to life. -/
theorem Move.live_before {env : Env} {conn next : Conn} {action : Act}
    (move : Move env conn action next) (live : next.Live) : conn.Live := by
  obtain ⟨connected, running, sending, alive⟩ := live
  cases move with
  | actor moved =>
      have before : ¬ conn.actor.Ended := by
        cases moved <;> simp_all [ActorPc.Ended]
      cases moved <;> exact ⟨connected, running, sending, before⟩
  | dispatchTask moved => cases moved <;> exact ⟨connected, running, sending, alive⟩
  | ioTask moved =>
      have before : conn.ioTask ≠ .exited := by
        cases moved <;> simp_all
      cases moved <;> exact ⟨connected, running, before, alive⟩
  | host moved =>
      cases moved with
      | sendReturned calling =>
          exact ⟨connected, running, by simp [calling], alive⟩
      | stopCancelled => cases running
      | accepted | refused | answered | answerDropped | received | receivedLate =>
          exact ⟨connected, running, sending, alive⟩
  | link moved => cases moved <;> cases connected

/-! ## The balance of requests -/

def Effect.responseTo? : Effect → Option CorrelationId
  | .send message => message.respondsTo?
  | .dispatch _ => none

/-- The request a task holds between taking it and handing it on. A request the
host accepted is the host's, even while the callback has yet to return. -/
def DispatchTaskPc.held : DispatchTaskPc → List CorrelationId
  | .calling request => [request.correlationId]
  | .replying result => [result.correlationId]
  | .idle | .accepted _ | .exited => []

def ActorPc.held : ActorPc → List CorrelationId
  | .reporting result => [result.correlationId]
  | _ => []

namespace Conn

def requested (conn : Conn) : List CorrelationId := conn.requests.items.map Dispatch.correlationId

def replied (conn : Conn) : List CorrelationId :=
  conn.replies.items.map DispatchResult.correlationId

/-- Held by the publisher while it reports a failure, or by the actor while it
sends a response. -/
def heldByActor (conn : Conn) : List CorrelationId :=
  conn.actor.held ++ conn.todo.filterMap Effect.responseTo?

def responded (conn : Conn) : List CorrelationId := conn.sent.filterMap ClientToServer.respondsTo?

/-- Every request passed to `dispatch` is in exactly one place. Correlation ids
may repeat, so they are counted. -/
def Balanced (conn : Conn) : Prop :=
  ∀ id, conn.dispatched.count id = conn.requested.count id + conn.dispatchTask.held.count id +
    conn.host.count id + conn.replied.count id + conn.heldByActor.count id +
    conn.responded.count id

end Conn

theorem Reaction.quiet {prim : Primitives} {phase : Phase} {input : ServerInput} {turn : Turn}
    (reaction : Reaction prim phase input turn) :
    turn.effects.filterMap Effect.responseTo? = [] := by
  cases reaction <;> simp [protocolError, Effect.responseTo?, ClientToServer.respondsTo?]

/-- The balance in terms of the fields, which moves update. -/
private theorem Conn.balanced_iff {conn : Conn} : conn.Balanced ↔ ∀ id,
    conn.dispatched.count id = (conn.requests.items.map Dispatch.correlationId).count id +
      conn.dispatchTask.held.count id + conn.host.count id +
      (conn.replies.items.map DispatchResult.correlationId).count id +
      (conn.actor.held.count id + (conn.todo.filterMap Effect.responseTo?).count id) +
      (conn.sent.filterMap ClientToServer.respondsTo?).count id := by
  simp only [Conn.Balanced, Conn.requested, Conn.replied, Conn.heldByActor, Conn.responded,
    List.count_append]

theorem count_eraseIdx {ids : List CorrelationId} {position : Nat} {found : CorrelationId}
    (lookup : ids[position]? = some found) (id : CorrelationId) :
    ids.count id = [found].count id + (ids.eraseIdx position).count id := by
  obtain ⟨bound, same⟩ := List.getElem?_eq_some_iff.mp lookup
  have permuted := (List.getElem_cons_eraseIdx_perm bound).count_eq id
  rw [same] at permuted
  rw [← permuted, ← List.singleton_append, List.count_append]

private theorem balanced_actor {env : Env} {conn next : Conn} {draw : Draw}
    (move : ActorMove env conn draw next) (orderly : conn.Orderly) (live : conn.Live)
    (balanced : conn.Balanced) (alive : ¬ next.actor.Ended) : next.Balanced := by
  have responder : conn.responderAlive = true :=
    Conn.responderAlive_iff.mpr (.inl (by simp [live.connected]))
  rw [Conn.balanced_iff] at balanced ⊢
  intro id
  have before := balanced id
  cases move with
  | helloPanicked | sendPanicked | stopSeen | repliesClosed | serverPanicked | serverClosed =>
      exact absurd trivial alive
  | helloBuilt hello sent =>
      obtain ⟨_, effects⟩ := Phase.sendHello_effects sent
      simp only [Conn.Orderly, hello] at orderly
      simp only [hello, orderly] at before
      simpa [ActorPc.held, effects, List.filterMap_cons, Effect.responseTo?,
        ClientToServer.respondsTo?] using before
  | serverTaken poll _ processed =>
      have quiet := (Phase.processImpl_reaction processed).quiet
      simp only [Conn.Orderly, poll] at orderly
      simp only [poll, orderly] at before
      simpa [ActorPc.held, quiet] using before
  | turnOver turn _ => simpa [turn, ActorPc.held] using before
  | sendClosed _ _ exited => exact absurd exited live.sending
  | @sendEnqueued message rest _ turn todo _ _ =>
      simp only [todo] at before ⊢
      cases answered : message.respondsTo? with
      | none => simpa [Effect.responseTo?, answered] using before
      | some answer =>
          simp [Effect.responseTo?, answered, List.count_cons] at before ⊢
          omega
  | sendFull turn _ _ _ _ => simpa [turn, ActorPc.held] using before
  | published turn todo _ items =>
      simp [todo, items, List.filterMap_cons, Effect.responseTo?, List.count_cons] at before ⊢
      omega
  | publishFailed turn todo _ _ =>
      simp [turn, todo, List.filterMap_cons, Effect.responseTo?, ActorPc.held,
        List.count_cons] at before ⊢
      omega
  | publishLost _ _ gone => simp [responder] at gone
  | backoffStopped _ _ stop => simp [live.running] at stop
  | backoffElapsed backoff _ _ => simpa [backoff, ActorPc.held] using before
  | reported reporting items =>
      simp [reporting, items, ActorPc.held,
        List.count_cons] at before ⊢
      omega
  | stopUnset poll _ => simpa [poll, ActorPc.held] using before
  | replyTaken poll items =>
      simp only [Conn.Orderly, poll] at orderly
      simp [poll, orderly, items, ActorPc.held,
        Effect.responseTo?, List.count_cons] at before ⊢
      omega
  | repliesEmpty poll _ _ => simpa [poll, ActorPc.held] using before
  | serverEmpty poll _ _ => simpa [poll, ActorPc.held] using before

private theorem balanced_dispatchTask {conn next : Conn} (move : DispatchTaskMove conn next)
    (live : conn.Live) (balanced : conn.Balanced) :
    next.dispatchTask ≠ .exited ∧ next.Balanced := by
  rw [Conn.balanced_iff] at balanced ⊢
  cases move with
  | stopped _ stop => simp [live.connected, Link.dispatchStop] at stop
  | closed _ _ ended => exact absurd ended live.alive
  | orphaned _ ended => exact absurd ended live.alive
  | took idle _ items =>
      refine ⟨by simp, fun id => ?_⟩
      have before := balanced id
      simp [idle, items, DispatchTaskPc.held, List.count_cons] at before ⊢
      omega
  | calledBack accepted =>
      refine ⟨by simp, fun id => ?_⟩
      simpa [accepted, DispatchTaskPc.held] using balanced id
  | replied replying _ items =>
      refine ⟨by simp, fun id => ?_⟩
      have before := balanced id
      simp [replying, items, DispatchTaskPc.held, List.count_cons] at before ⊢
      omega

/-- The host gives each request it accepted a non-empty result or an error. -/
def Act.Answering : Act → Prop
  | .answer _ (.result data) => data ≠ []
  | _ => True

instance (action : Act) : Decidable action.Answering :=
  match action with
  | .answer _ (.result data) => inferInstanceAs (Decidable (data ≠ []))
  | .answer _ .handlerExecTimeout | .actor _ | .dispatchTask | .accept | .refuse _ | .recv _
  | .ioTask | .sendReturn _ | .disconnect | .cancelDispatch | .joinIo | .joinDispatch
  | .cancelStop => isTrue trivial

private theorem answering_toResult? (env : Env) (correlationId : CorrelationId) {position : Nat}
    {answer : HostAnswer} (answering : (Act.answer position answer).Answering) :
    ∃ result, answer.toResult? env correlationId = some result := by
  cases answer with
  | result data =>
      have nonempty : data ≠ [] := answering
      exact ⟨_, if_neg nonempty⟩
  | handlerExecTimeout => exact ⟨_, rfl⟩

theorem toResult?_correlationId {env : Env} {correlationId : CorrelationId}
    {answer : HostAnswer} {result : DispatchResult}
    (converted : answer.toResult? env correlationId = some result) :
    result.correlationId = correlationId := by
  cases answer with
  | result data =>
      simp only [HostAnswer.toResult?, Option.ite_none_left_eq_some, Option.some.injEq] at converted
      rw [← converted.2]
  | handlerExecTimeout =>
      cases converted
      rfl

private theorem balanced_host {env : Env} {conn next : Conn} {action : Act}
    (move : HostMove env conn action next) (live : conn.Live) (answering : action.Answering)
    (serving : conn.dispatchTask ≠ .exited) (balanced : conn.Balanced) :
    next.dispatchTask ≠ .exited ∧ next.Balanced := by
  rw [Conn.balanced_iff] at balanced ⊢
  cases move with
  | accepted calling =>
      refine ⟨by simp, fun id => ?_⟩
      have before := balanced id
      simp [calling, DispatchTaskPc.held, List.count_cons] at before ⊢
      omega
  | refused calling _ =>
      refine ⟨by simp, fun id => ?_⟩
      simpa [calling, DispatchTaskPc.held] using balanced id
  | @answered position answer correlationId result replies found _ _ converted items =>
      refine ⟨serving, fun id => ?_⟩
      have before := balanced id
      have split := count_eraseIdx found id
      have same := toResult?_correlationId converted
      simp [items, same, List.count_cons] at before split ⊢
      omega
  | @answerDropped _ _ correlationId _ cause =>
      obtain ⟨result, converted⟩ := answering_toResult? env correlationId answering
      rcases cause with dropped | unlinked | ended
      · simp [converted] at dropped
      · exact absurd live.connected unlinked
      · exact absurd ended live.alive
  | received | receivedLate | sendReturned | stopCancelled => exact ⟨serving, balanced⟩

private theorem balanced_step {env : Env} {conn next : Conn} {action : Act}
    (move : Move env conn action next) (orderly : conn.Orderly) (answering : action.Answering)
    (live : next.Live) (serving : conn.dispatchTask ≠ .exited) (balanced : conn.Balanced) :
    next.dispatchTask ≠ .exited ∧ next.Balanced := by
  have before := move.live_before live
  cases move with
  | actor moved =>
      refine ⟨?_, balanced_actor moved orderly before balanced live.alive⟩
      cases moved <;> exact serving
  | dispatchTask moved => exact balanced_dispatchTask moved before balanced
  | ioTask moved => cases moved <;> exact ⟨serving, balanced⟩
  | host moved => exact balanced_host moved before answering serving balanced
  | link moved => cases moved <;> exact ⟨serving, balanced⟩

theorem balanced_of_reachable {env : Env} {conn : Conn}
    (reached : (connection env).ReachableBy (fun _ action => action.Answering) conn) :
    conn.Live → conn.dispatchTask ≠ .exited ∧ conn.Balanced := by
  refine reached.invariant (fun conn => conn.Live → conn.dispatchTask ≠ .exited ∧ conn.Balanced)
    ?_ ?_
  · rintro _ ⟨appInfo, rfl⟩ _
    refine ⟨by simp [Conn.init], fun id => ?_⟩
    simp [Conn.init, Conn.requested, Conn.replied, Conn.heldByActor, Conn.responded,
      DispatchTaskPc.held, ActorPc.held]
  · intro before action after earlier holds answering stepped live
    have move := Conn.step_move stepped
    obtain ⟨serving, balanced⟩ := holds (move.live_before live)
    exact balanced_step move (orderly_of_reachable earlier.reachable) answering live serving
      balanced

/-- While a connection is live, the requests passed to `dispatch` are exactly
those queued, held by a task, at the host, answered but not read, being
answered, or answered; so none is lost and none is answered twice. -/
theorem dispatch_conservation (env : Env) (conn : Conn)
    (reached : (connection env).ReachableBy (fun _ action => action.Answering) conn)
    (live : conn.Live) :
    (conn.dispatched : Multiset CorrelationId) =
      conn.requested + conn.dispatchTask.held + conn.host + conn.replied + conn.heldByActor +
        conn.responded ∧
    (conn.responded : Multiset CorrelationId) ≤ conn.dispatched := by
  obtain ⟨_, balanced⟩ := balanced_of_reachable reached live
  constructor
  · ext id
    simpa [Multiset.coe_count, add_assoc] using balanced id
  · rw [Multiset.le_iff_count]
    intro id
    have counted := balanced id
    simp only [Multiset.coe_count]
    omega

/-- The hello is sent, the acknowledgement and one request are received, and the
request is published. -/
def publishOne : List Act :=
  [.actor Actor.fixtureDraw, .actor none, .actor none, .recv fixtureAckInput,
   .recv (fixtureRequest 5), .actor none, .actor none, .actor Actor.fixtureDraw, .actor none,
   .actor none, .actor none, .actor none, .actor none]

/-- The request goes to the host, which answers before its callback returns,
and the response is sent. -/
def answerOne : List Act :=
  [.dispatchTask, .accept, .answer 0 (.result [0x0a, 0x00]), .dispatchTask, .actor none,
   .actor none, .actor none, .actor none]

theorem dispatch_conservation_answered :
    ∃ conn, (connection (fixtureEnv Ctx.runtime)).run (Conn.init Actor.fixtureApp)
        (publishOne ++ answerOne) = some conn ∧
      conn.Live ∧ conn.responded = [⟨5⟩] ∧
      (conn.dispatched : Multiset CorrelationId) =
        conn.requested + conn.dispatchTask.held + conn.host + conn.replied + conn.heldByActor +
          conn.responded ∧
      (conn.responded : Multiset CorrelationId) ≤ conn.dispatched := by
  have answering : ∀ action ∈ publishOne ++ answerOne, action.Answering := by decide
  refine ⟨_, rfl, ⟨rfl, rfl, by decide, by decide⟩, rfl, ?_⟩
  refine dispatch_conservation (fixtureEnv Ctx.runtime) _ ?_ ⟨rfl, rfl, by decide, by decide⟩
  exact System.reachableBy_of_run ⟨Actor.fixtureApp, rfl⟩
    (System.conforms_of_forall fun action member _ => answering action member) rfl

end LibddRc
