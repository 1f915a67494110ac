import Mathlib.Data.List.Flatten
import LibddRc.Connection.Payloads
import LibddRc.Go.Responses

/-! What a response carries. A payload that is written to the websocket is what a
handler ended with, the handler of a job with the correlation id of the response,
and no invocation is written twice. -/

set_option autoImplicit false

namespace LibddRc.Go

open Foundation

/-! ## Results of the pool -/

/-- What `invokeJob` reports of a handler that ended. -/
def HandlerOutcome.result (correlationID : UInt64) : HandlerOutcome → DispatchResult
  | .returned response err => ⟨correlationID, response, err⟩
  | .panicked value => ⟨correlationID, none, some (panicText value)⟩

/-- What the worker holds is what its handler ended with. -/
def CallPc.Follows (ended : HandlerOutcome → Prop) (correlationID : UInt64) : CallPc → Prop
  | .running | .releasing | .finished => True
  | .returned response err => ended (.returned response err)
  | .unwinding value | .recovering value => ended (.panicked value)
  | .cancelling result | .delivering result | .sinking result =>
      ∃ outcome, ended outcome ∧ result = outcome.result correlationID

/-- Every result, in a worker's hands or handed over, is what the handler of its
ticket ended with. -/
structure Pool.Follows (ended : Nat → HandlerOutcome → Prop) (pool : Pool) : Prop where
  invoked : ∀ ticket inv, pool.invocations ticket = some inv →
    inv.call.Follows (ended ticket) inv.job.correlationID
  called : ∀ ticket result, (ticket, .sendDispatchResult result) ∈ pool.calls →
    ∃ inv outcome, pool.invocations ticket = some inv ∧ ended ticket outcome ∧
      result = outcome.result inv.job.correlationID
  sinking : ∀ ticket inv result, pool.invocations ticket = some inv →
    inv.call = .sinking result → (ticket, .sendDispatchResult result) ∈ pool.calls

section Pools

variable {ended later : Nat → HandlerOutcome → Prop} {pool next : Pool}

theorem CallPc.Follows.mono {before after : HandlerOutcome → Prop} {correlationID : UInt64}
    {call : CallPc} (follows : call.Follows before correlationID)
    (more : ∀ outcome, before outcome → after outcome) : call.Follows after correlationID := by
  cases call with
  | running | releasing | finished => trivial
  | returned response err => exact more _ follows
  | unwinding value | recovering value => exact more _ follows
  | cancelling result | delivering result | sinking result =>
      obtain ⟨outcome, earlier, same⟩ := follows
      exact ⟨outcome, more _ earlier, same⟩

theorem Pool.Follows.mono (follows : pool.Follows ended)
    (more : ∀ ticket outcome, ended ticket outcome → later ticket outcome) :
    pool.Follows later := by
  refine ⟨?_, ?_, follows.sinking⟩
  · intro ticket inv found
    exact (follows.invoked ticket inv found).mono (more ticket)
  · intro ticket result called
    obtain ⟨inv, outcome, found, earlier, same⟩ := follows.called ticket result called
    exact ⟨inv, outcome, found, more _ _ earlier, same⟩

theorem Pool.follows_init : Pool.init.Follows ended := by
  refine ⟨?_, ?_, ?_⟩
  · intro ticket inv found
    cases found
  · intro ticket result called
    cases called
  · intro ticket inv result found
    cases found

/-- A statement of `invokeJob` passes on what the worker holds. -/
private theorem callStep_follows {outcomes : HandlerOutcome → Prop} {inv after : Invocation}
    {event : InvocationEvent} (stepped : inv.callStep = some (after, event))
    (follows : inv.call.Follows outcomes inv.job.correlationID) :
    after.call.Follows outcomes inv.job.correlationID ∧
      (∀ result, event = .begins (.sendDispatchResult result) → inv.call = .delivering result) ∧
      ∀ result, after.call = .sinking result →
        event = .begins (.sendDispatchResult result) := by
  unfold Invocation.callStep at stepped
  cases held : inv.call with
  | running | sinking | finished => simp [held] at stepped
  | returned response err =>
      rw [held] at stepped follows
      dsimp only at stepped
      split at stepped
      · cases stepped
        exact ⟨trivial, by simp, by simp⟩
      · cases stepped
        exact ⟨⟨_, follows, rfl⟩, by simp, by simp⟩
  | unwinding value =>
      rw [held] at stepped follows
      cases stepped
      exact ⟨follows, by simp, by simp⟩
  | recovering value =>
      rw [held] at stepped follows
      dsimp only at stepped
      split at stepped
      · cases stepped
        exact ⟨trivial, by simp, by simp⟩
      · cases stepped
        exact ⟨⟨_, follows, rfl⟩, by simp, by simp⟩
  | cancelling result =>
      rw [held] at stepped follows
      cases stepped
      exact ⟨follows, by simp, by simp⟩
  | delivering result =>
      rw [held] at stepped follows
      cases stepped
      exact ⟨follows, by simp, by simp⟩
  | releasing =>
      rw [held] at stepped
      cases stepped
      exact ⟨trivial, by simp, by simp⟩

/-- The watcher reports no result and leaves the worker's alone. -/
private theorem watcherStep_call {inv after : Invocation} {event : InvocationEvent}
    (stepped : inv.watcherStep = some (after, event)) :
    after.call = inv.call ∧ ∀ result, event ≠ .begins (.sendDispatchResult result) := by
  unfold Invocation.watcherStep at stepped
  cases held : inv.watcher with
  | waiting =>
      rw [held] at stepped
      dsimp only at stepped
      split at stepped
      · split at stepped <;> cases stepped <;> exact ⟨rfl, by simp⟩
      · cases stepped
  | reporting | releasing =>
      rw [held] at stepped
      cases stepped
      exact ⟨rfl, by simp⟩
  | sinking | gone => simp [held] at stepped

/-- What one step of an invocation makes of the result that its worker holds. -/
structure Passes (outcomes : HandlerOutcome → Prop) (inv after : Invocation)
    (event : InvocationEvent) : Prop where
  job : after.job = inv.job
  follows : after.call.Follows outcomes inv.job.correlationID
  begins : ∀ result, event = .begins (.sendDispatchResult result) →
    ∃ outcome, outcomes outcome ∧ result = outcome.result inv.job.correlationID
  sinking : ∀ result, after.call = .sinking result →
    inv.call = .sinking result ∨ event = .begins (.sendDispatchResult result)

theorem Invocation.step_passes {outcomes : HandlerOutcome → Prop} {inv after : Invocation}
    {action : InvocationAct} {event : InvocationEvent}
    (stepped : inv.step action = some (after, event))
    (follows : inv.call.Follows outcomes inv.job.correlationID)
    (ends : ∀ outcome, action = .handler outcome → outcomes outcome) :
    Passes outcomes inv after event := by
  have job := (Invocation.step_frame stepped).1
  cases action with
  | handler outcome =>
      obtain ⟨_, stepped⟩ := Option.ite_none_right_eq_some.mp stepped
      have ended := ends outcome rfl
      cases outcome <;> cases stepped <;> exact ⟨job, ended, by simp, by simp⟩
  | call =>
      obtain ⟨passed, begins, sinking⟩ := callStep_follows stepped follows
      refine ⟨job, passed, ?_, fun result held => .inr (sinking result held)⟩
      intro result begun
      rw [begins result begun] at follows
      exact follows
  | callSink =>
      simp only [Invocation.step] at stepped
      split at stepped
      · cases stepped
        exact ⟨job, trivial, by simp, by simp⟩
      · cases stepped
  | timeout =>
      obtain ⟨_, same⟩ := Option.ite_none_left_eq_some.mp stepped
      cases same
      exact ⟨job, follows, by simp, fun result held => .inl held⟩
  | watcher =>
      obtain ⟨same, silent⟩ := watcherStep_call stepped
      rw [← same] at follows
      exact ⟨job, follows, fun result begun => absurd begun (silent result),
        fun result held => .inl (same ▸ held)⟩
  | watcherSink =>
      obtain ⟨_, same⟩ := Option.ite_none_right_eq_some.mp stepped
      cases same
      exact ⟨job, follows, by simp, fun result held => .inl held⟩

private theorem Pool.Follows.place {ticket : Nat} {inv after : Invocation}
    {event : InvocationEvent} (follows : pool.Follows ended)
    (found : pool.invocations ticket = some inv)
    (passes : Passes (ended ticket) inv after event) :
    (pool.place ticket after event).Follows ended := by
  refine ⟨?_, ?_, ?_⟩
  · intro other current lookup
    obtain ⟨rfl, rfl⟩ | ⟨_, old⟩ := lookup_update lookup
    · rw [passes.job]
      exact passes.follows
    · exact follows.invoked other current old
  · intro other result called
    obtain earlier | begun := List.mem_append.mp called
    · obtain ⟨current, outcome, lookup, before, same⟩ := follows.called other result earlier
      by_cases here : other = ticket
      · subst here
        cases lookup.symm.trans found
        exact ⟨after, outcome, Function.update_self _ _ _, before, passes.job ▸ same⟩
      · exact ⟨current, outcome, (Function.update_of_ne here _ _).trans lookup, before, same⟩
    · cases event with
      | begins call =>
          cases List.mem_singleton.mp begun
          obtain ⟨outcome, before, same⟩ := passes.begins result rfl
          exact ⟨after, outcome, Function.update_self _ _ _, before, passes.job ▸ same⟩
      | quiet | returns | releases => cases begun
  · intro other current result lookup held
    obtain ⟨rfl, rfl⟩ | ⟨_, old⟩ := lookup_update lookup
    · obtain earlier | begun := passes.sinking result held
      · exact List.mem_append_left _ (follows.sinking _ inv result found earlier)
      · rw [begun]
        exact List.mem_append_right _ (List.mem_singleton_self _)
    · exact List.mem_append_left _ (follows.sinking other current result old held)

private theorem Pool.Follows.resume {worker : Fin invokeWorkerCount} {after : Invocation}
    {drains : Bool} (follows : pool.Follows ended) :
    (pool.resume worker after drains).Follows ended := by
  unfold Pool.resume
  split
  · exact ⟨follows.invoked, follows.called, follows.sinking⟩
  · exact follows

private theorem follows_took {worker : Fin invokeWorkerCount} {drains : Bool} {job : DispatchJob}
    {dispatchQueue : Channel DispatchJob dispatchQueueCap} (follows : pool.Follows ended)
    (fresh : pool.invocations job.ticket = none) :
    ({ pool with
      dispatchQueue
      workers := Function.update pool.workers worker (.invoking job.ticket drains)
      invocations := Function.update pool.invocations job.ticket (some (.start job)) } :
      Pool).Follows ended := by
  refine ⟨?_, ?_, ?_⟩
  · intro other current lookup
    obtain ⟨rfl, rfl⟩ | ⟨_, old⟩ := lookup_update lookup
    · trivial
    · exact follows.invoked other current old
  · intro other result called
    obtain ⟨current, outcome, lookup, before, same⟩ := follows.called other result called
    have elsewhere : other ≠ job.ticket := by
      rintro rfl
      simp [fresh] at lookup
    exact ⟨current, outcome, (Function.update_of_ne elsewhere _ _).trans lookup, before, same⟩
  · intro other current result lookup held
    obtain ⟨rfl, rfl⟩ | ⟨_, old⟩ := lookup_update lookup
    · cases held
    · exact follows.sinking other current result old held

theorem PoolMove.follows {action : PoolAct} (move : PoolMove pool action next)
    (tickets : pool.Tickets) (follows : pool.Follows ended)
    (ends : ∀ worker outcome ticket drains, action = .worker worker (.handler outcome) →
      pool.workers worker = .invoking ticket drains → ended ticket outcome) :
    next.Follows ended := by
  cases move with
  | locked | refused | offered | added | shutdownLocked | shutdownCleared | shutdownClosed
  | shutdownReturned | sawStop | drained =>
      exact ⟨follows.invoked, follows.called, follows.sinking⟩
  | took _ items =>
      refine follows_took follows (tickets.fresh _ ?_)
      rw [Pool.queued, items]
      exact List.mem_cons_self
  | worked invoking found _ stepped =>
      refine (follows.place found ?_).resume
      refine Invocation.step_passes stepped (follows.invoked _ _ found) ?_
      intro outcome same
      exact ends _ outcome _ _ (same ▸ rfl) invoking
  | watched found other stepped =>
      refine follows.place found ?_
      refine Invocation.step_passes stepped (follows.invoked _ _ found) ?_
      intro outcome same
      rw [same] at other
      cases other

end Pools

/-! ## Payloads of the host -/

def SinkCall.correlationID : SinkCall → UInt64
  | .sendDispatchResult result => result.correlationID
  | .sendDispatchError correlationID => correlationID

/-- The payload that the library reads in what a sink call hands over. -/
def HostEnv.payloads (env : HostEnv) (call : SinkCall) : List PayloadResponse :=
  ((env.answerTo call).bind fun answer =>
    answer.toResult? env.native ⟨call.correlationID⟩).toList.flatMap DispatchResult.payloads

@[simp] theorem HostEnv.payloads_sendDispatchError (env : HostEnv) (correlationID : UInt64) :
    env.payloads (.sendDispatchError correlationID) = [] :=
  rfl

/-- The payloads in the sink calls that have returned. -/
def HostEnv.handedOver (env : HostEnv) (calls : List (Nat × SinkCall)) (answered : List Nat) :
    List PayloadResponse :=
  calls.flatMap fun (ticket, call) => if ticket ∈ answered then env.payloads call else []

section HandedOver

variable {env : HostEnv} {answered : List Nat}

theorem HostEnv.handedOver_append (calls more : List (Nat × SinkCall)) :
    env.handedOver (calls ++ more) answered =
      env.handedOver calls answered ++ env.handedOver more answered :=
  List.flatMap_append

theorem HostEnv.handedOver_cons (ticket : Nat) (call : SinkCall)
    (calls : List (Nat × SinkCall)) :
    env.handedOver ((ticket, call) :: calls) answered =
      (if ticket ∈ answered then env.payloads call else []) ++ env.handedOver calls answered :=
  List.flatMap_cons

theorem HostEnv.handedOver_mono (calls : List (Nat × SinkCall)) {later : List Nat}
    (grown : answered ⊆ later) (response : PayloadResponse) :
    (env.handedOver calls answered).count response ≤
      (env.handedOver calls later).count response := by
  induction calls with
  | nil => exact le_rfl
  | cons first calls ih =>
      obtain ⟨ticket, call⟩ := first
      rw [handedOver_cons, handedOver_cons, List.count_append, List.count_append]
      by_cases returned : ticket ∈ answered
      · rw [if_pos returned, if_pos (grown returned)]
        exact Nat.add_le_add_left ih _
      · rw [if_neg returned]
        exact Nat.add_le_add (Nat.zero_le _) ih

/-- A call that returns is handed over once more than before. -/
theorem HostEnv.handedOver_returned {calls : List (Nat × SinkCall)} {ticket : Nat}
    {call : SinkCall} (begun : (ticket, call) ∈ calls) (unanswered : ticket ∉ answered)
    (response : PayloadResponse) :
    (env.handedOver calls answered).count response + (env.payloads call).count response ≤
      (env.handedOver calls (answered ++ [ticket])).count response := by
  obtain ⟨before, after, rfl⟩ := List.append_of_mem begun
  have grown : answered ⊆ answered ++ [ticket] := List.subset_append_left _ _
  have earlier := env.handedOver_mono before grown response
  have later := env.handedOver_mono after grown response
  have returned : ticket ∈ answered ++ [ticket] := List.mem_append_right _ List.mem_cons_self
  simp only [handedOver_append, handedOver_cons, if_neg unanswered, if_pos returned,
    List.count_append, List.count_nil]
  omega

theorem HostEnv.handedOver_le (calls : List (Nat × SinkCall)) (answered : List Nat)
    (response : PayloadResponse) :
    (env.handedOver calls answered).count response ≤
      (calls.flatMap fun (_, call) => env.payloads call).count response := by
  induction calls with
  | nil => exact le_rfl
  | cons first calls ih =>
      obtain ⟨ticket, call⟩ := first
      rw [handedOver_cons, List.flatMap_cons, List.count_append, List.count_append]
      refine Nat.add_le_add ?_ ih
      split
      · exact le_rfl
      · exact Nat.zero_le _

end HandedOver

/-- Every payload that is on its way or was sent was handed over by a sink call. -/
def Host.Backed (env : HostEnv) (host : Host) : Prop :=
  ∀ response, (payloadTally env.native response).total host.conn ≤
    (env.handedOver host.pool.calls host.pool.answered).count response

section Backed

variable {env : HostEnv} {host next : Host}

theorem PoolMove.calls_grow {pool next : Pool} {action : PoolAct}
    (move : PoolMove pool action next) : ∃ more, next.calls = pool.calls ++ more := by
  cases move with
  | locked | refused | offered | added | shutdownLocked | shutdownCleared | shutdownClosed
  | shutdownReturned | took | sawStop | drained => exact ⟨[], (List.append_nil _).symm⟩
  | watched => exact ⟨_, rfl⟩
  | worked =>
      unfold Pool.resume
      split <;> exact ⟨_, rfl⟩

private theorem Host.Backed.withPool {action : PoolAct} {pool : Pool} (backed : host.Backed env)
    (stepped : host.pool.step action = some pool) :
    ({ host with pool } : Host).Backed env := by
  have move := (Pool.step_move stepped).2
  obtain ⟨more, calls⟩ := move.calls_grow
  intro response
  have grown := env.handedOver_mono host.pool.calls move.answered_grows.subset response
  have before := backed response
  dsimp only
  rw [calls, HostEnv.handedOver_append, List.count_append]
  omega

private theorem Host.Backed.withConn {action : Act} {conn : Conn} (backed : host.Backed env)
    (stepped : host.conn.step env.native action = some conn)
    (quiet : ∀ position answer, action ≠ .answer position answer) :
    ({ host with conn } : Host).Backed env := by
  intro response
  have moved := (Conn.step_move stepped).tally_le (payloadTally env.native response)
  have nothing : (payloadTally env.native response).act host.conn action = 0 := by
    cases action with
    | answer position answer => exact absurd rfl (quiet position answer)
    | _ => rfl
  rw [nothing, Nat.add_zero] at moved
  exact moved.trans (backed response)

/-- The sink call that returns hands over the result that the worker holds, or it
is the watcher's. -/
private theorem sinkCall?_cases {inv : Invocation} {action : InvocationAct} {call : SinkCall}
    (called : inv.sinkCall? action = some call) :
    (∃ result, inv.call = .sinking result ∧ call = .sendDispatchResult result) ∨
      call = .sendDispatchError inv.job.correlationID := by
  cases action with
  | callSink =>
      simp only [Invocation.sinkCall?] at called
      split at called
      · next result held =>
        cases called
        exact .inl ⟨result, held, rfl⟩
      · cases called
  | watcherSink =>
      simp only [Invocation.sinkCall?] at called
      split at called
      · cases called
        exact .inr rfl
      · cases called
  | handler | call | timeout | watcher => cases called

/-- The library reads a handed over payload as the answer to the job's own
request. -/
private theorem answer_payloads {inv : Invocation} {call : SinkCall} {answer : HostAnswer}
    {conn after : Conn} (answers : env.answerTo call = some answer)
    (same : call.correlationID = inv.job.correlationID)
    (stepped : conn.step env.native (.answer (conn.host.idxOf inv.job.id) answer) = some after)
    (response : PayloadResponse) :
    (payloadTally env.native response).act conn (.answer (conn.host.idxOf inv.job.id) answer) =
      (env.payloads call).count response := by
  obtain ⟨id, lookup, _⟩ := (Conn.step_move stepped).host_answer
  obtain ⟨bound, at_⟩ := List.getElem?_eq_some_iff.mp lookup
  have own : id = inv.job.id := at_.symm.trans (List.getElem_idxOf bound)
  simp only [Tally.act, lookup, own, HostEnv.payloads, answers, Option.bind_some, same]
  rfl

private theorem backed_sank {ended : Nat → HandlerOutcome → Prop} {hostAction : HostAct}
    {ticket : Nat} {action : InvocationAct} {step : PoolAct} {inv : Invocation} {call : SinkCall}
    {pool : Pool} {answer : HostAnswer} {conn : Conn} {answered : List DispatchJob}
    (sound : host.pool.Sound) (follows : host.pool.Follows ended) (backed : host.Backed env)
    (returning : host.returning hostAction = some (ticket, action, step))
    (found : host.pool.invocations ticket = some inv) (called : inv.sinkCall? action = some call)
    (pooled : host.pool.step step = some pool) (answers : env.answerTo call = some answer)
    (stepped : host.conn.step env.native (.answer (host.conn.host.idxOf inv.job.id) answer) =
      some conn) :
    ({ host with conn, pool, answered } : Host).Backed env := by
  have unanswered : ticket ∉ host.pool.answered := by
    rw [← List.count_eq_zero]
    exact (sound.ledger.settled ticket inv found).unreturned called
  obtain ⟨more, calls⟩ := (Pool.step_move pooled).2.calls_grow
  have returned := Host.returning_answered returning pooled
  intro response
  have moved := (Conn.step_move stepped).tally_le (payloadTally env.native response)
  have before := backed response
  have grown := env.handedOver_mono host.pool.calls
    (List.subset_append_left host.pool.answered [ticket]) response
  dsimp only
  rw [calls, returned, HostEnv.handedOver_append, List.count_append]
  obtain ⟨result, held, rfl⟩ | rfl := sinkCall?_cases called
  · have begun := follows.sinking ticket inv result found held
    have same : result.correlationID = inv.job.correlationID := by
      have outcome := follows.invoked ticket inv found
      rw [held] at outcome
      obtain ⟨outcome, _, rfl⟩ := outcome
      cases outcome <;> rfl
    have handed := env.handedOver_returned begun unanswered response
    rw [answer_payloads answers same stepped response] at moved
    omega
  · rw [answer_payloads answers rfl stepped response, HostEnv.payloads_sendDispatchError,
      List.count_nil] at moved
    omega

private theorem GoMove.backed {ended : Nat → HandlerOutcome → Prop} {action : HostAct}
    (move : GoMove env host action next) (sound : host.pool.Sound)
    (follows : host.pool.Follows ended) (backed : host.Backed env) : next.Backed env := by
  cases move with
  | native admitted stepped =>
      refine backed.withConn stepped ?_
      rintro position answer rfl
      cases admitted
  | refused _ pooled _ stepped | offered _ pooled _ stepped =>
      exact (backed.withPool pooled).withConn stepped (by simp)
  | enqueued _ pooled | pooled _ pooled | unsaid _ _ _ pooled | poolClosing _ pooled =>
      exact backed.withPool pooled
  | sank returning found called pooled answers stepped =>
      exact backed_sank sound follows backed returning found called pooled answers stepped
  | sent _ _ stepped | dropped _ _ stepped | delivered _ _ stepped =>
      exact backed.withConn stepped (by simp)
  | linkClosing _ _ stepped =>
      refine backed.withConn stepped ?_
      cases host.conn.link <;> simp [disconnectStep]
  | session moved => cases moved <;> exact backed
  | closeCalled | poolClosed | linkClosed => exact backed

end Backed

/-! ## Handlers of a run -/

/-- At some point of the run a worker was at the job of the ticket, and its
handler ended so. -/
def HandlerEnded (env : HostEnv) (start : Host) (actions : List HostAct) (ticket : Nat)
    (outcome : HandlerOutcome) : Prop :=
  ∃ before after worker host drains,
    actions = before ++ .pool (.worker worker (.handler outcome)) :: after ∧
      (goHost env).run start before = some host ∧
        host.pool.workers worker = .invoking ticket drains

section Runs

variable {env : HostEnv} {start host next : Host} {past : List HostAct}

theorem HandlerEnded.append {ticket : Nat} {outcome : HandlerOutcome}
    (ended : HandlerEnded env start past ticket outcome) (action : HostAct) :
    HandlerEnded env start (past ++ [action]) ticket outcome := by
  obtain ⟨before, after, worker, host, drains, rfl, ran, invoking⟩ := ended
  exact ⟨before, after ++ [action], worker, host, drains, by simp, ran, invoking⟩

private theorem returning_not_handler {hostAction : HostAct} {ticket : Nat}
    {action : InvocationAct} {step : PoolAct}
    (returning : host.returning hostAction = some (ticket, action, step))
    (worker : Fin invokeWorkerCount) (outcome : HandlerOutcome) :
    step ≠ .worker worker (.handler outcome) := by
  cases hostAction with
  | workerSink other =>
      simp only [Host.returning] at returning
      split at returning <;> cases returning
      simp
  | watcherSink other =>
      cases returning
      simp
  | native | enqueue | offer | pool | goSendCb | session | contextClose | close =>
      cases returning

/-- The steps of the host in which a handler ends are the pool's own. -/
private theorem GoMove.follows {action : HostAct} {ended : Nat → HandlerOutcome → Prop}
    (move : GoMove env host action next) (tickets : host.pool.Tickets)
    (follows : host.pool.Follows ended)
    (ends : ∀ worker outcome ticket drains, action = .pool (.worker worker (.handler outcome)) →
      host.pool.workers worker = .invoking ticket drains → ended ticket outcome) :
    next.pool.Follows ended := by
  have other : ∀ {step pool}, host.pool.step step = some pool →
      (∀ worker outcome, step ≠ .worker worker (.handler outcome)) → pool.Follows ended := by
    intro step pool stepped quiet
    refine (Pool.step_move stepped).2.follows tickets follows ?_
    intro worker outcome ticket drains same
    exact absurd same (quiet worker outcome)
  cases move with
  | pooled _ stepped =>
      refine (Pool.step_move stepped).2.follows tickets follows ?_
      intro worker outcome ticket drains same
      exact ends worker outcome ticket drains (same ▸ rfl)
  | enqueued _ stepped | refused _ stepped | offered _ stepped | poolClosing _ stepped =>
      exact other stepped (by simp)
  | sank returning _ _ stepped | unsaid returning _ _ stepped =>
      exact other stepped (returning_not_handler returning)
  | native | sent | dropped | delivered | closeCalled | poolClosed | linkClosing | linkClosed =>
      exact follows
  | session moved => cases moved <;> exact follows

/-- What holds along every run: results follow handlers, and payloads results. -/
theorem Host.follows_run {appInfo : AppInfo} {actions : List HostAct}
    (ran : (goHost env).run (Host.init appInfo) actions = some host) :
    host.pool.Follows (HandlerEnded env (Host.init appInfo) actions) ∧ host.Backed env := by
  refine System.run_invariant (fun past (host : Host) =>
    host.pool.Follows (HandlerEnded env (Host.init appInfo) past) ∧ host.Backed env)
    ⟨Pool.follows_init, fun response => le_rfl⟩ ?_ ran
  intro past before action after earlier invariant stepped
  obtain ⟨follows, backed⟩ := invariant
  have reached : (goHost env).Reachable before := System.reachable_of_run ⟨appInfo, rfl⟩ earlier
  have sound := Pool.sound_of_reachable (Host.pool_reachable reached)
  have move := Host.step_move stepped
  have longer := follows.mono fun ticket outcome ended => ended.append action
  refine ⟨move.follows sound.tickets longer ?_, move.backed sound follows backed⟩
  intro worker outcome ticket drains same invoking
  exact ⟨past, [], worker, before, drains, same ▸ rfl, earlier, invoking⟩

theorem Host.Backed.written_le (backed : host.Backed env) (reached : (goHost env).Reachable host)
    (response : PayloadResponse) :
    (host.written.flatMap ClientToServer.payloads).count response ≤
      (host.pool.calls.flatMap fun (_, call) => env.payloads call).count response := by
  have written :=
    ((Host.written_sublist reached).flatMap ClientToServer.payloads).count_le response
  have handed := env.handedOver_le host.pool.calls host.pool.answered response
  have sent := sent_le_total env.native response host.conn
  exact written.trans (sent.trans ((backed response).trans handed))

/-- The result of a sink call is what the handler of one of the jobs ended with. -/
theorem Pool.Follows.of_called {ended : Nat → HandlerOutcome → Prop}
    (follows : host.pool.Follows ended) (reached : (goHost env).Reachable host) {ticket : Nat}
    {result : DispatchResult} (called : (ticket, .sendDispatchResult result) ∈ host.pool.calls) :
    ∃ job ∈ host.jobs, ∃ outcome, job.ticket = ticket ∧
      result = outcome.result job.correlationID ∧ ended ticket outcome := by
  obtain ⟨inv, outcome, found, ended, same⟩ := follows.called ticket result called
  obtain ⟨job, own⟩ := (Host.tracked_of_reachable reached).known.invoked ticket inv found
  exact ⟨inv.job, job, outcome, own, same, ended⟩

end Runs

theorem Pool.Sound.calls_nodup {pool : Pool} (sound : pool.Sound) :
    (pool.calls.map Prod.fst).Nodup := by
  refine List.nodup_iff_count_le_one.mpr fun ticket => ?_
  cases lookup : pool.invocations ticket with
  | none => exact (sound.ledger.silent ticket lookup).1.trans_le (Nat.zero_le 1)
  | some inv => exact (sound.ledger.settled ticket inv lookup).begun_le.1

/-- In every run of a host, the payloads written to the websocket are among those
that sink calls handed over, with multiplicity and each under the correlation id
it was handed over for. No ticket begins two sink calls, and what it hands over is
what the handler of its job ended with. -/
theorem responses_carry_outcomes (env : HostEnv) (appInfo : AppInfo) (actions : List HostAct)
    (host : Host) (ran : (goHost env).run (Host.init appInfo) actions = some host) :
    (host.written.flatMap ClientToServer.payloads : Multiset PayloadResponse) ≤
      (host.pool.calls.flatMap fun (_, call) => env.payloads call : List PayloadResponse) ∧
    (host.pool.calls.map Prod.fst).Nodup ∧
    ∀ ticket result, (ticket, .sendDispatchResult result) ∈ host.pool.calls →
      ∃ job ∈ host.jobs, ∃ outcome, job.ticket = ticket ∧
        result = outcome.result job.correlationID ∧
          HandlerEnded env (Host.init appInfo) actions ticket outcome := by
  have reached : (goHost env).Reachable host := System.reachable_of_run ⟨appInfo, rfl⟩ ran
  have sound := Pool.sound_of_reachable (Host.pool_reachable reached)
  obtain ⟨follows, backed⟩ := Host.follows_run ran
  refine ⟨Multiset.le_iff_count.mpr ?_, sound.calls_nodup, ?_⟩
  · intro response
    rw [Multiset.coe_count, Multiset.coe_count]
    exact backed.written_le reached response
  · intro ticket result called
    exact follows.of_called reached called

theorem responses_carry_outcomes_one : ∃ host outcome,
    (goHost fixtureHostEnv).run (Host.init Actor.fixtureApp)
        (serveRequest ++ respond ++ tearDown 2) = some host ∧
      host.written.flatMap ClientToServer.payloads = [⟨⟨5⟩, ⟨some ⟨some (.response [1])⟩⟩⟩] ∧
      ⟨5, some [1], none⟩ = outcome.result 5 ∧
      HandlerEnded fixtureHostEnv (Host.init Actor.fixtureApp)
        (serveRequest ++ respond ++ tearDown 2) 0 outcome := by
  obtain ⟨host, ran, written, calls, jobs⟩ : ∃ host,
      (goHost fixtureHostEnv).run (Host.init Actor.fixtureApp)
          (serveRequest ++ respond ++ tearDown 2) = some host ∧
        host.written.flatMap ClientToServer.payloads = [⟨⟨5⟩, ⟨some ⟨some (.response [1])⟩⟩⟩] ∧
        host.pool.calls = [(0, .sendDispatchResult ⟨5, some [1], none⟩)] ∧ host.jobs = [⟨0, 5⟩] :=
    ⟨_, rfl, rfl, rfl, rfl⟩
  obtain ⟨_, _, explained⟩ := responses_carry_outcomes fixtureHostEnv Actor.fixtureApp _ host ran
  obtain ⟨job, mem, outcome, _, same, ended⟩ :=
    explained 0 ⟨5, some [1], none⟩ (calls ▸ List.mem_singleton_self _)
  rw [jobs] at mem
  cases List.mem_singleton.mp mem
  exact ⟨host, outcome, ran, written, same, ended⟩

end LibddRc.Go
