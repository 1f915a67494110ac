import Mathlib.Data.List.Perm.Subperm
import LibddRc.Go.Delivery
import LibddRc.Go.PoolAnswers

/-! The jobs of the Go host, followed through the pool and the client library:
each job put on the dispatch queue is outstanding at the host or was answered,
and the library still has every answer it was given, or has sent it. -/

set_option autoImplicit false

namespace LibddRc.Go

open Foundation

/-! ## Jobs in the pool -/

/-- A step never changes the job, and finishes a sink call just when it is the
return of one. -/
theorem Invocation.step_frame {inv next : Invocation} {action : InvocationAct}
    {event : InvocationEvent} (stepped : inv.step action = some (next, event)) :
    next.job = inv.job ∧
      event.returned = if action = .callSink ∨ action = .watcherSink then 1 else 0 := by
  cases action with
  | handler outcome =>
      obtain ⟨_, stepped⟩ := Option.ite_none_right_eq_some.mp stepped
      cases outcome <;> cases stepped <;> exact ⟨rfl, rfl⟩
  | call =>
      simp only [Invocation.step, Invocation.callStep] at stepped
      repeat' split at stepped
      all_goals first
        | cases stepped; exact ⟨rfl, rfl⟩
        | cases stepped
  | callSink =>
      simp only [Invocation.step] at stepped
      split at stepped
      · cases stepped
        exact ⟨rfl, rfl⟩
      · cases stepped
  | timeout =>
      obtain ⟨_, same⟩ := Option.ite_none_left_eq_some.mp stepped
      cases same
      exact ⟨rfl, rfl⟩
  | watcher =>
      simp only [Invocation.step, Invocation.watcherStep] at stepped
      repeat' split at stepped
      all_goals first
        | cases stepped; exact ⟨rfl, rfl⟩
        | cases stepped
  | watcherSink =>
      obtain ⟨_, same⟩ := Option.ite_none_right_eq_some.mp stepped
      cases same
      exact ⟨rfl, rfl⟩

/-- A sink call in progress has not been counted as an answer. -/
theorem Invocation.Settled.unreturned {inv : Invocation} {begun returned released : Nat}
    {action : InvocationAct} {call : SinkCall} (settled : inv.Settled begun returned released)
    (called : inv.sinkCall? action = some call) : returned = 0 := by
  have sinking : (∃ result, inv.call = .sinking result) ∨ inv.watcher = .sinking := by
    cases action with
    | callSink =>
        simp only [sinkCall?] at called
        split at called
        · next result at_ => exact .inl ⟨result, at_⟩
        · cases called
    | watcherSink =>
        simp only [sinkCall?] at called
        split at called
        · next at_ => exact .inr at_
        · cases called
    | handler | call | timeout | watcher => cases called
  have completed : inv.completed = true := by
    cases open_ : inv.completed with
    | true => rfl
    | false =>
        obtain ⟨silent, _, waiting, _⟩ := settled.open_ open_
        rcases sinking with ⟨result, at_⟩ | at_
        · simp [at_] at silent
        · simp [at_] at waiting
  have one := settled.claimed completed
  have returnedEq := settled.returned_eq
  have callBounds := inv.call.calls_le
  have watcherBounds := inv.watcher.calls_le
  rcases sinking with ⟨result, at_⟩ | at_
  · simp only [at_, CallPc.answers, CallPc.returns] at one returnedEq
    omega
  · simp only [at_, WatcherPc.answers, WatcherPc.returns] at one returnedEq
    omega

/-- The jobs put on the dispatch queue are those queued or invoked. -/
structure Pool.Knows (pool : Pool) (jobs : List DispatchJob) : Prop where
  unique : (jobs.map DispatchJob.ticket).Nodup
  queued : ∀ job ∈ pool.dispatchQueue.items, job ∈ jobs
  invoked : ∀ ticket inv, pool.invocations ticket = some inv →
    inv.job ∈ jobs ∧ inv.job.ticket = ticket
  sent : ∀ job ∈ jobs, pool.Sent job.ticket

section Pools

variable {pool next : Pool} {jobs : List DispatchJob}

private theorem Pool.Knows.place {ticket : Nat} {inv after : Invocation} {event : InvocationEvent}
    {action : InvocationAct} (knows : pool.Knows jobs)
    (found : pool.invocations ticket = some inv)
    (stepped : inv.step action = some (after, event)) :
    (pool.place ticket after event).Knows jobs := by
  refine ⟨knows.unique, knows.queued, ?_, ?_⟩
  · intro other current lookup
    rcases lookup_update lookup with ⟨rfl, rfl⟩ | ⟨_, old⟩
    · rw [(Invocation.step_frame stepped).1]
      exact knows.invoked other inv found
    · exact knows.invoked other current old
  · intro job member
    rcases knows.sent job member with queued | invoked
    · exact .inl queued
    · refine .inr ?_
      show (Function.update pool.invocations ticket _ job.ticket).isSome = true
      rw [isSome_update found]
      exact invoked

private theorem knows_took {worker : Fin invokeWorkerCount} {drains : Bool} {job : DispatchJob}
    {dispatchQueue : Channel DispatchJob dispatchQueueCap} (knows : pool.Knows jobs)
    (items : pool.dispatchQueue.items = job :: dispatchQueue.items) :
    ({ pool with
      dispatchQueue
      workers := Function.update pool.workers worker (.invoking job.ticket drains)
      invocations := Function.update pool.invocations job.ticket (some (.start job)) } :
      Pool).Knows jobs := by
  have known := knows.queued
  rw [items] at known
  refine ⟨knows.unique, fun other member => known other (List.mem_cons_of_mem _ member), ?_, ?_⟩
  · intro ticket inv lookup
    rcases lookup_update lookup with ⟨rfl, rfl⟩ | ⟨_, old⟩
    · exact ⟨known job List.mem_cons_self, rfl⟩
    · exact knows.invoked ticket inv old
  · intro other member
    by_cases same : other.ticket = job.ticket
    · exact .inr (by simp [same])
    · rcases knows.sent other member with queued | invoked
      · refine .inl ?_
        simpa [Pool.queued, items, same] using queued
      · exact .inr (by simpa [same] using invoked)

/-- Every step but a successful send on the queue keeps the jobs known. -/
theorem PoolMove.knows {action : PoolAct} (move : PoolMove pool action next)
    (knows : pool.Knows jobs) (unsent : action = .offer → next.mutex = .free) :
    next.Knows jobs := by
  cases move with
  | locked | refused | added | shutdownLocked | shutdownCleared | shutdownClosed
  | shutdownReturned | sawStop | drained => exact { knows with }
  | offered => cases unsent rfl
  | took _ items => exact knows_took knows items
  | watched found _ stepped => exact knows.place found stepped
  | worked _ found _ stepped =>
      have placed := knows.place found stepped
      unfold Pool.resume
      split
      · exact { placed with }
      · exact placed

theorem PoolMove.knows_offered {job : DispatchJob} (move : PoolMove pool .offer next)
    (tickets : pool.Tickets) (knows : pool.Knows jobs) (holding : pool.mutex = .enqueueing job)
    (held : next.mutex ≠ .free) : next.Knows (jobs ++ [job]) := by
  cases move with
  | refused => exact absurd rfl held
  | @offered other dispatchQueue same _ items =>
      rw [holding] at same
      cases same
      obtain ⟨_, fresh, _⟩ := tickets.enqueueing job holding
      refine ⟨?_, ?_, ?_, ?_⟩
      · rw [List.map_append, List.nodup_append]
        refine ⟨knows.unique, by simp, ?_⟩
        rintro ticket member other single rfl
        obtain ⟨earlier, known, rfl⟩ := List.mem_map.mp member
        have same : earlier.ticket = job.ticket := by simpa using single
        exact fresh (same ▸ knows.sent earlier known)
      · intro other member
        rw [items, List.mem_append] at member
        exact List.mem_append.mpr (member.imp (knows.queued other) id)
      · intro ticket inv lookup
        obtain ⟨known, same⟩ := knows.invoked ticket inv lookup
        exact ⟨List.mem_append_left _ known, same⟩
      · intro other member
        rcases List.mem_append.mp member with earlier | single
        · rcases knows.sent other earlier with queued | invoked
          · refine .inl ?_
            simp only [Pool.queued, items, List.map_append, List.mem_append]
            exact .inl queued
          · exact .inr invoked
        · cases List.mem_singleton.mp single
          exact .inl (by simp [Pool.queued, items])

theorem place_answered {ticket count : Nat} {after : Invocation} {event : InvocationEvent}
    (returned : event.returned = count) : (pool.place ticket after event).answered =
      pool.answered ++ List.replicate count ticket :=
  returned ▸ rfl

theorem resume_answered (worker : Fin invokeWorkerCount) (after : Invocation)
    (drains : Bool) : (pool.resume worker after drains).answered = pool.answered := by
  unfold Pool.resume
  split <;> rfl

theorem PoolMove.answered_grows {action : PoolAct} (move : PoolMove pool action next) :
    pool.answered.Sublist next.answered := by
  cases move with
  | locked | refused | offered | added | shutdownLocked | shutdownCleared | shutdownClosed
  | shutdownReturned | took | sawStop | drained => exact .refl _
  | watched => exact List.sublist_append_left _ _
  | worked =>
      rw [resume_answered]
      exact List.sublist_append_left _ _

theorem PoolMove.answered_kept {action : PoolAct} (move : PoolMove pool action next)
    (worker : ∀ worker, action ≠ .worker worker .callSink)
    (watcher : ∀ ticket, action ≠ .watcher ticket .watcherSink) :
    next.answered = pool.answered := by
  cases move with
  | locked | refused | offered | added | shutdownLocked | shutdownCleared | shutdownClosed
  | shutdownReturned | took | sawStop | drained => rfl
  | @watched ticket action inv after event _ other stepped =>
      have none : event.returned = 0 := by
        rw [(Invocation.step_frame stepped).2, if_neg]
        rintro (rfl | rfl)
        · cases other
        · exact watcher ticket rfl
      rw [place_answered none, List.replicate_zero, List.append_nil]
  | @worked peer ticket drains action inv after event _ _ byWorker stepped =>
      have none : event.returned = 0 := by
        rw [(Invocation.step_frame stepped).2, if_neg]
        rintro (rfl | rfl)
        · exact worker peer rfl
        · cases byWorker
      rw [resume_answered, place_answered none, List.replicate_zero, List.append_nil]

end Pools

theorem Host.returning_answered {host : Host} {hostAction : HostAct} {ticket : Nat}
    {action : InvocationAct} {step : PoolAct} {pool : Pool}
    (returning : host.returning hostAction = some (ticket, action, step))
    (stepped : host.pool.step step = some pool) :
    pool.answered = host.pool.answered ++ [ticket] := by
  cases hostAction with
  | workerSink worker =>
      simp only [Host.returning] at returning
      split at returning
      · next invoking =>
        cases returning
        cases (Pool.step_move stepped).2 with
        | worked invokes _ _ moved =>
            rw [invoking] at invokes
            cases invokes
            rw [resume_answered, place_answered (Invocation.step_frame moved).2]
            rfl
      · cases returning
  | watcherSink other =>
      cases returning
      cases (Pool.step_move stepped).2 with
      | watched _ _ moved =>
          rw [place_answered (Invocation.step_frame moved).2]
          rfl
  | native | enqueue | offer | pool | goSendCb | session | contextClose | close =>
      cases returning

theorem PoolMove.enqueueing_before {pool next : Pool} {action : PoolAct} {job : DispatchJob}
    (move : PoolMove pool action next) (unlocked : ∀ id, action ≠ .lock id)
    (holding : next.mutex = .enqueueing job) :
    pool.mutex = .enqueueing job ∧ action ≠ .offer := by
  cases move with
  | locked => exact absurd rfl (unlocked _)
  | refused | offered | added | shutdownLocked | shutdownCleared => cases holding
  | shutdownClosed | shutdownReturned | took | sawStop | drained | watched =>
      exact ⟨holding, by simp⟩
  | worked =>
      unfold Pool.resume at holding
      split at holding <;> exact ⟨holding, by simp⟩

/-! ## Jobs at the library -/

/-- The library's outstanding requests are the jobs not answered yet, and a
callback that holds the pool's mutex is about the request being enqueued. -/
structure Host.Tracked (host : Host) : Prop where
  known : host.pool.Knows host.jobs
  calling : ∀ job, host.pool.mutex = .enqueueing job → ∃ request,
    host.conn.dispatchTask = .calling request ∧ request.correlationId = job.id
  outstanding : ∀ id, host.conn.host.count id + (host.answered.map DispatchJob.id).count id =
    (host.jobs.map DispatchJob.id).count id
  answered : ∀ job ∈ host.answered, job ∈ host.jobs
  reported : (host.answered.map DispatchJob.ticket).Sublist host.pool.answered

section Tracked

variable {env : HostEnv} {host next : Host}

private theorem Host.Tracked.withConn {action : Act} {conn : Conn} (tracked : host.Tracked)
    (stepped : host.conn.step env.native action = some conn) (unaccepted : action ≠ .accept)
    (unanswered : ∀ position answer, action ≠ .answer position answer)
    (unrefused : ∀ ret job, host.pool.mutex = .enqueueing job → action ≠ .refuse ret) :
    ({ host with conn } : Host).Tracked := by
  have move := Conn.step_move stepped
  refine { tracked with calling := ?_, outstanding := ?_ }
  · intro job holding
    obtain ⟨request, calling, same⟩ := tracked.calling job holding
    exact ⟨request, move.calling_kept calling unaccepted (unrefused · job holding), same⟩
  · show ∀ id, conn.host.count id + _ = _
    rw [move.host_kept unaccepted unanswered]
    exact tracked.outstanding

private theorem Host.Tracked.withPool {action : PoolAct} {pool : Pool} (tracked : host.Tracked)
    (stepped : host.pool.step action = some pool) (unlocked : ∀ id, action ≠ .lock id)
    (unsent : action = .offer → pool.mutex = .free) : ({ host with pool } : Host).Tracked := by
  have move := (Pool.step_move stepped).2
  refine { tracked with known := move.knows tracked.known unsent, calling := ?_, reported := ?_ }
  · intro job holding
    exact tracked.calling job (move.enqueueing_before unlocked holding).1
  · exact tracked.reported.trans move.answered_grows

private theorem tracked_enqueued {request : Dispatch} {pool : Pool} (tracked : host.Tracked)
    (calling : host.conn.dispatchTask = .calling request)
    (stepped : host.pool.step (.lock request.correlationId.raw) = some pool) :
    ({ host with pool } : Host).Tracked := by
  have move := (Pool.step_move stepped).2
  refine { tracked with
    known := move.knows tracked.known (by simp), calling := ?_
    reported := tracked.reported.trans move.answered_grows }
  intro job holding
  cases move with
  | locked =>
      cases holding
      exact ⟨request, calling, rfl⟩

private theorem tracked_offered {job : DispatchJob} {pool : Pool} {conn : Conn}
    (tracked : host.Tracked) (tickets : host.pool.Tickets)
    (holding : host.pool.mutex = .enqueueing job) (pooled : host.pool.step .offer = some pool)
    (held : pool.mutex ≠ .free) (stepped : host.conn.step env.native .accept = some conn) :
    ({ host with conn, pool, jobs := host.jobs ++ [job] } : Host).Tracked := by
  have move := (Pool.step_move pooled).2
  obtain ⟨request, calling, same⟩ := tracked.calling job holding
  refine ⟨move.knows_offered tickets tracked.known holding held, ?_, ?_, ?_,
    tracked.reported.trans move.answered_grows⟩
  · intro other again
    exact absurd rfl (move.enqueueing_before (by simp) again).2
  · intro id
    have before := tracked.outstanding id
    have host_eq := ((Conn.step_move stepped).taken_accept calling id).2
    simp only [host_eq, List.count_append, List.map_append, List.map_cons, List.map_nil, same]
    omega
  · intro other member
    exact List.mem_append_left _ (tracked.answered other member)

private theorem returning_step {hostAction : HostAct} {ticket : Nat} {action : InvocationAct}
    {step : PoolAct} (returning : host.returning hostAction = some (ticket, action, step)) :
    (∀ id, step ≠ .lock id) ∧ step ≠ .offer := by
  cases hostAction with
  | workerSink worker =>
      simp only [Host.returning] at returning
      split at returning <;> cases returning
      exact ⟨by simp, by simp⟩
  | watcherSink other =>
      cases returning
      exact ⟨by simp, by simp⟩
  | native | enqueue | offer | pool | goSendCb | session | contextClose | close =>
      cases returning

private theorem tracked_sank {hostAction : HostAct} {ticket : Nat} {action : InvocationAct}
    {step : PoolAct} {inv : Invocation} {pool : Pool} {answer : HostAnswer} {conn : Conn}
    (tracked : host.Tracked) (returning : host.returning hostAction = some (ticket, action, step))
    (found : host.pool.invocations ticket = some inv) (pooled : host.pool.step step = some pool)
    (stepped : host.conn.step env.native (.answer (host.conn.host.idxOf inv.job.id) answer) =
      some conn) :
    ({ host with conn, pool, answered := host.answered ++ [inv.job] } : Host).Tracked := by
  obtain ⟨unlocked, unoffered⟩ := returning_step returning
  have poolTracked := tracked.withPool pooled unlocked fun offers => absurd offers unoffered
  have move := Conn.step_move stepped
  refine ⟨poolTracked.known, ?_, ?_, ?_, ?_⟩
  · intro job holding
    obtain ⟨request, calling, same⟩ := poolTracked.calling job holding
    exact ⟨request, move.calling_kept calling (by simp) (by simp), same⟩
  · intro id
    have before := tracked.outstanding id
    obtain ⟨other, lookup, erased⟩ := move.host_answer
    obtain ⟨bound, at_⟩ := List.getElem?_eq_some_iff.mp lookup
    have same : other = inv.job.id := at_.symm.trans (List.getElem_idxOf bound)
    have split := count_eraseIdx lookup id
    simp only [erased, List.map_append, List.count_append, List.map_cons, List.map_nil]
    rw [same] at split
    omega
  · intro job member
    rcases List.mem_append.mp member with earlier | single
    · exact tracked.answered job earlier
    · cases List.mem_singleton.mp single
      exact (tracked.known.invoked ticket inv found).1
  · show ((host.answered ++ [inv.job]).map DispatchJob.ticket).Sublist pool.answered
    rw [Host.returning_answered returning pooled, List.map_append, List.map_singleton,
      (tracked.known.invoked ticket inv found).2]
    exact tracked.reported.append_right _

theorem GoMove.tracked {action : HostAct} (move : GoMove env host action next)
    (tickets : host.pool.Tickets) (tracked : host.Tracked) : next.Tracked := by
  cases move with
  | @native act conn admitted stepped =>
      refine tracked.withConn stepped ?_ ?_ ?_
      · rintro rfl
        cases admitted
      · rintro position answer rfl
        cases admitted
      · rintro ret job holding rfl
        simp [Host.admits, holding] at admitted
  | enqueued calling stepped => exact tracked_enqueued tracked calling stepped
  | refused _ pooled free stepped =>
      refine (tracked.withPool pooled (by simp) fun _ => free).withConn stepped
        (by simp) (by simp) ?_
      intro ret job holding
      exact absurd (free.symm.trans holding) (by simp)
  | offered holding pooled held stepped =>
      exact tracked_offered tracked tickets holding pooled held stepped
  | pooled internal stepped =>
      refine tracked.withPool stepped ?_ ?_
      · rintro id rfl
        cases internal
      · rintro rfl
        cases internal
  | sank returning found _ pooled _ stepped =>
      exact tracked_sank tracked returning found pooled stepped
  | unsaid returning _ _ pooled _ =>
      obtain ⟨unlocked, unoffered⟩ := returning_step returning
      exact tracked.withPool pooled unlocked fun offers => absurd offers unoffered
  | sent _ _ stepped =>
      have still := tracked.withConn stepped (by simp) (by simp) (by simp)
      exact { still with }
  | dropped _ _ stepped => exact tracked.withConn stepped (by simp) (by simp) (by simp)
  | delivered _ _ stepped =>
      have still := tracked.withConn stepped (by simp) (by simp) (by simp)
      exact { still with }
  | session moved => cases moved <;> exact { tracked with }
  | poolClosing _ stepped => exact tracked.withPool stepped (by simp) (by simp)
  | closeCalled | poolClosed | linkClosed => exact { tracked with }
  | linkClosing _ _ stepped =>
      refine tracked.withConn stepped ?_ ?_ ?_ <;> cases host.conn.link <;> simp [disconnectStep]

theorem Host.tracked_of_reachable (reached : (goHost env).Reachable host) : host.Tracked := by
  refine reached.invariant Host.Tracked ?_ ?_
  · rintro _ ⟨appInfo, rfl⟩
    refine ⟨⟨?_, ?_, ?_, ?_⟩, ?_, ?_, ?_, ?_⟩ <;> simp [Host.init, Pool.init, Conn.init]
  · intro before action after earlier tracked stepped
    exact (Host.step_move stepped).tracked
      (Pool.sound_of_reachable (Host.pool_reachable earlier)).tickets tracked

end Tracked

end LibddRc.Go
