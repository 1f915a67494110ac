import Mathlib.Algebra.BigOperators.Group.List.Basic
import Mathlib.Algebra.Ring.Nat
import LibddRc.Connection.Moves

/-! What passes through a connection, counted. A request turns into a result and a
result into a response; a tally says what each counts for, and no step of a
connection makes more of it than came in. -/

set_option autoImplicit false

namespace LibddRc

open Foundation

/-- What the things on their way count for. Nothing counts for more than what it
was made of: the message a request came in, the request that the host accepted or
that failed, the answer the host gave for it, and the result that is sent. -/
structure Tally (env : Env) where
  input : ServerInput → ℕ
  request : Dispatch → ℕ
  accepted : CorrelationId → ℕ
  result : DispatchResult → ℕ
  message : ClientToServer → ℕ
  given : CorrelationId → HostAnswer → ℕ
  read : ∀ correlationId payload signature,
    request ⟨correlationId, payload⟩ ≤ input (.ok (.dispatch correlationId payload signature))
  accept : ∀ taken, accepted taken.correlationId ≤ request taken
  refuse : ∀ taken error, result ⟨taken.correlationId, .error error⟩ ≤ request taken
  answer : ∀ correlationId answer made, answer.toResult? env correlationId = some made →
    result made ≤ accepted correlationId + given correlationId answer
  respond : ∀ made, message made.toResponse ≤ result made
  unasked : ∀ sent, sent.respondsTo? = none → message sent = 0

namespace Tally

variable {env : Env} (tally : Tally env)

def effect : Effect → ℕ
  | .dispatch request => tally.request request
  | .send message => tally.message message

/-- A request the host accepted is the host's, even while the callback has yet to
return. -/
def dispatchTask : DispatchTaskPc → ℕ
  | .calling request => tally.request request
  | .replying result => tally.result result
  | .idle | .accepted _ | .exited => 0

def actor : ActorPc → ℕ
  | .reporting result => tally.result result
  | _ => 0

/-- Unread, for the actor to do, and then wherever it may be until it is sent. -/
def total (conn : Conn) : ℕ :=
  (conn.incoming.items.map tally.input).sum + (conn.todo.map tally.effect).sum +
    (conn.requests.items.map tally.request).sum + tally.dispatchTask conn.dispatchTask +
    (conn.host.map tally.accepted).sum + (conn.replies.items.map tally.result).sum +
    tally.actor conn.actor + (conn.sent.map tally.message).sum

/-- What comes in with a step. -/
def act (conn : Conn) : Act → ℕ
  | .recv input => tally.input input
  | .answer position answer =>
      match conn.host[position]? with
      | some correlationId => tally.given correlationId answer
      | none => 0
  | _ => 0

/-- What the actor does about a message of the server counts for no more than the
message. -/
theorem reaction {phase : Phase} {input : ServerInput} {turn : Turn}
    (reaction : Reaction env.prim phase input turn) :
    (turn.effects.map tally.effect).sum ≤ tally.input input := by
  cases reaction with
  | dispatched => exact tally.read _ _ _
  | ignored | certificates | reconnection | accepted => exact Nat.zero_le _
  | pong =>
      have nothing := tally.unasked .pong rfl
      simp [effect, nothing]
  | @violated _ _ reason =>
      have nothing := tally.unasked (.protocolError reason phase.isHandshakeComplete) rfl
      simp [protocolError, effect, nothing]

end Tally

section Moves

variable {env : Env} {conn next : Conn} (tally : Tally env)

private theorem tally_actor {draw : Draw} (move : ActorMove env conn draw next) :
    tally.total next ≤ tally.total conn := by
  unfold Tally.total
  cases move with
  | helloPanicked | sendPanicked | stopSeen | repliesClosed | serverClosed | turnOver | sendFull
  | backoffElapsed | stopUnset | repliesEmpty | serverEmpty =>
      simp only [Tally.actor]
      omega
  | @helloBuilt turn _ sent =>
      obtain ⟨hello, effects⟩ := Phase.sendHello_effects sent
      have quiet : (turn.effects.map tally.effect).sum = 0 := by
        rw [effects]
        exact tally.unasked _ rfl
      simp only [Tally.actor, quiet]
      omega
  | sendClosed _ todo | backoffStopped _ todo | publishLost _ todo =>
      simp only [todo, Tally.actor, List.map_cons, List.sum_cons]
      omega
  | sendEnqueued _ todo =>
      simp only [todo, Tally.effect, List.map_cons, List.map_append, List.map_nil, List.sum_cons,
        List.sum_append, List.sum_nil]
      omega
  | published _ todo _ items =>
      simp only [todo, items, Tally.effect, List.map_cons, List.map_append, List.map_nil,
        List.sum_cons, List.sum_append, List.sum_nil]
      omega
  | @publishFailed request _ error turn todo =>
      have failed := tally.refuse request error
      simp only [turn, todo, Tally.actor, Tally.effect, List.map_cons, List.sum_cons]
      omega
  | reported reporting items =>
      simp only [reporting, items, Tally.actor, List.map_append, List.map_cons, List.map_nil,
        List.sum_append, List.sum_cons, List.sum_nil]
      omega
  | @replyTaken result _ _ items =>
      have response := tally.respond result
      simp only [items, Tally.actor, Tally.effect, List.map_cons, List.map_nil, List.sum_cons,
        List.sum_nil]
      omega
  | serverTaken _ items processed =>
      have effects := tally.reaction (Phase.processImpl_reaction processed)
      simp only [items, Tally.actor, List.map_cons, List.sum_cons]
      omega
  | serverPanicked _ items =>
      simp only [items, Tally.actor, List.map_cons, List.sum_cons]
      omega

private theorem tally_dispatchTask (move : DispatchTaskMove conn next) :
    tally.total next ≤ tally.total conn := by
  unfold Tally.total
  cases move with
  | stopped | closed | calledBack | orphaned =>
      simp only [Tally.dispatchTask]
      omega
  | took _ _ items =>
      simp only [items, Tally.dispatchTask, List.map_cons, List.sum_cons]
      omega
  | replied replying _ items =>
      simp only [replying, items, Tally.dispatchTask, List.map_append, List.map_cons,
        List.map_nil, List.sum_append, List.sum_cons, List.sum_nil]
      omega

private theorem sum_eraseIdx {ids : List CorrelationId} {position : ℕ} {found : CorrelationId}
    (lookup : ids[position]? = some found) (weight : CorrelationId → ℕ) :
    (ids.map weight).sum = weight found + ((ids.eraseIdx position).map weight).sum := by
  obtain ⟨bound, same⟩ := List.getElem?_eq_some_iff.mp lookup
  have permuted := ((List.getElem_cons_eraseIdx_perm bound).map weight).sum_eq
  rw [same, List.map_cons, List.sum_cons] at permuted
  exact permuted.symm

private theorem tally_host {action : Act} (move : HostMove env conn action next) :
    tally.total next ≤ tally.total conn + tally.act conn action := by
  unfold Tally.total
  cases move with
  | @accepted request calling =>
      have taken := tally.accept request
      simp only [calling, Tally.dispatchTask, List.map_append, List.map_cons, List.map_nil,
        List.sum_append, List.sum_cons, List.sum_nil]
      omega
  | @refused request _ error calling =>
      have failed := tally.refuse request error
      simp only [calling, Tally.dispatchTask]
      omega
  | answered found _ _ converted items =>
      have split := sum_eraseIdx found tally.accepted
      have made := tally.answer _ _ _ converted
      simp only [items, Tally.act, found, List.map_append, List.map_cons, List.map_nil,
        List.sum_append, List.sum_cons, List.sum_nil]
      omega
  | answerDropped found =>
      have split := sum_eraseIdx found tally.accepted
      dsimp only
      omega
  | received _ _ items =>
      simp only [items, Tally.act, List.map_append, List.map_cons, List.map_nil, List.sum_append,
        List.sum_cons, List.sum_nil]
      omega
  | receivedLate | sendReturned | stopCancelled => exact Nat.le_add_right _ _

/-- The step lemma of every tally. -/
theorem Move.tally_le {action : Act} (move : Move env conn action next) :
    tally.total next ≤ tally.total conn + tally.act conn action := by
  cases move with
  | actor moved => exact Nat.le_add_right_of_le (tally_actor tally moved)
  | dispatchTask moved => exact Nat.le_add_right_of_le (tally_dispatchTask tally moved)
  | ioTask moved => cases moved <;> exact Nat.le_add_right _ _
  | host moved => exact tally_host tally moved
  | link moved => cases moved <;> exact Nat.le_add_right _ _

end Moves

end LibddRc
