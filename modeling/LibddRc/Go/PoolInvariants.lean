import LibddRc.Foundation.Table
import LibddRc.Go.InvokePool

/-! What holds in every reachable state of the invoke pool: where each ticket
is, who answers it, which worker runs it, and how shutdown closes the queue. -/

set_option autoImplicit false

namespace LibddRc.Go

open Foundation

namespace Pool

def queued (pool : Pool) : List Nat := pool.dispatchQueue.items.map DispatchJob.ticket

/-- The job was put on the queue: it is still there or a worker has taken it. -/
def Sent (pool : Pool) (ticket : Nat) : Prop :=
  ticket ∈ pool.queued ∨ (pool.invocations ticket).isSome = true

def begun (pool : Pool) (ticket : Nat) : Nat := (pool.calls.map Prod.fst).count ticket

/-! ## Tickets -/

structure Tickets (pool : Pool) : Prop where
  unique : pool.queued.Nodup
  fresh : ∀ ticket ∈ pool.queued, pool.invocations ticket = none
  below : ∀ ticket, pool.Sent ticket → ticket < pool.nextTicket
  accepted_unique : pool.accepted.Nodup
  accepted_sent : ∀ ticket ∈ pool.accepted, pool.Sent ticket
  sent_accepted : ∀ ticket, pool.Sent ticket →
    ticket ∈ pool.accepted ∨ ∃ job, pool.mutex = .adding job ∧ job.ticket = ticket
  refused_unsent : ∀ ticket ∈ pool.refused, ticket < pool.nextTicket ∧ ¬ pool.Sent ticket
  enqueueing : ∀ job, pool.mutex = .enqueueing job →
    job.ticket < pool.nextTicket ∧ ¬ pool.Sent job.ticket ∧ job.ticket ∉ pool.refused
  adding : ∀ job, pool.mutex = .adding job → pool.Sent job.ticket ∧ job.ticket ∉ pool.accepted
  closing : pool.shutdown = .locked → pool.mutex = .closing

end Pool

section Tickets

variable {pool next : Pool}

theorem Pool.tickets_init : Pool.init.Tickets := by
  refine ⟨?_, ?_, ?_, ?_, ?_, ?_, ?_, ?_, ?_, ?_⟩ <;> simp [Pool.init, Pool.queued, Pool.Sent]

/-- Frame rule for moves that send nothing and leave the mutex alone. -/
private theorem Pool.Tickets.frame (tickets : pool.Tickets) (unique : next.queued.Nodup)
    (fresh : ∀ ticket ∈ next.queued, next.invocations ticket = none)
    (sent : ∀ ticket, next.Sent ticket ↔ pool.Sent ticket) (mutex : next.mutex = pool.mutex)
    (issued : next.nextTicket = pool.nextTicket) (accepted : next.accepted = pool.accepted)
    (refused : next.refused = pool.refused) (shutdown : next.shutdown = pool.shutdown) :
    next.Tickets := by
  refine ⟨unique, fresh, ?_, ?_, ?_, ?_, ?_, ?_, ?_, ?_⟩
  · simpa only [sent, issued] using tickets.below
  · exact accepted ▸ tickets.accepted_unique
  · simpa only [sent, accepted] using tickets.accepted_sent
  · simpa only [sent, accepted, mutex] using tickets.sent_accepted
  · simpa only [sent, refused, issued] using tickets.refused_unsent
  · simpa only [sent, refused, issued, mutex] using tickets.enqueueing
  · simpa only [sent, accepted, mutex] using tickets.adding
  · simpa only [shutdown, mutex] using tickets.closing

private theorem Pool.Tickets.accepted_of_sent (tickets : pool.Tickets)
    (unheld : ∀ job, pool.mutex ≠ .adding job) {ticket : Nat} (sent : pool.Sent ticket) :
    ticket ∈ pool.accepted := by
  rcases tickets.sent_accepted ticket sent with member | ⟨job, held, _⟩
  · exact member
  · exact absurd held (unheld job)

/-- The mutex goes from one holder that is not adding a job to one that has none. -/
private theorem Pool.Tickets.rehold (tickets : pool.Tickets)
    (settled : ∀ job, pool.mutex ≠ .adding job) {mutex : Holder} {shutdown : ShutdownPc}
    (free : mutex = .free ∨ mutex = .closing)
    (closing : shutdown = .locked → mutex = .closing) (accepting : Bool) :
    ({ pool with mutex, shutdown, accepting } : Pool).Tickets := by
  refine { tickets with sent_accepted := ?_, enqueueing := ?_, adding := ?_, closing := closing }
  · intro ticket sent
    exact .inl (tickets.accepted_of_sent settled sent)
  · intro job holding
    rcases free with rfl | rfl
    · cases holding
    · cases holding
  · intro job holding
    rcases free with rfl | rfl
    · cases holding
    · cases holding

private theorem tickets_offered {job : DispatchJob}
    {dispatchQueue : Channel DispatchJob dispatchQueueCap} (tickets : pool.Tickets)
    (holding : pool.mutex = .enqueueing job)
    (items : dispatchQueue.items = pool.dispatchQueue.items ++ [job]) :
    ({ pool with dispatchQueue, mutex := .adding job } : Pool).Tickets := by
  obtain ⟨known, unsent, _⟩ := tickets.enqueueing job holding
  have queued : ({ pool with dispatchQueue, mutex := .adding job } : Pool).queued =
      pool.queued ++ [job.ticket] := by
    simp [Pool.queued, items]
  have sent : ∀ ticket, ({ pool with dispatchQueue, mutex := .adding job } : Pool).Sent ticket ↔
      pool.Sent ticket ∨ ticket = job.ticket := by
    intro ticket
    rw [Pool.Sent, queued, Pool.Sent]
    simp only [List.mem_append, List.mem_singleton]
    tauto
  have absent : job.ticket ∉ pool.queued := fun member => unsent (.inl member)
  have accepted : ∀ ticket ∈ pool.accepted, ticket ≠ job.ticket := by
    rintro ticket member rfl
    exact unsent (tickets.accepted_sent _ member)
  refine ⟨?_, ?_, ?_, tickets.accepted_unique, ?_, ?_, ?_, ?_, ?_, ?_⟩
  · rw [queued, List.nodup_append]
    refine ⟨tickets.unique, by simp, ?_⟩
    rintro ticket member other single rfl
    exact absent (List.mem_singleton.mp single ▸ member)
  · intro ticket member
    rw [queued, List.mem_append, List.mem_singleton] at member
    rcases member with earlier | rfl
    · exact tickets.fresh ticket earlier
    · by_contra invoked
      exact unsent (.inr (Option.isSome_iff_ne_none.mpr invoked))
  · intro ticket isSent
    rcases (sent ticket).mp isSent with earlier | rfl
    · exact tickets.below ticket earlier
    · exact known
  · intro ticket member
    exact (sent ticket).mpr (.inl (tickets.accepted_sent ticket member))
  · intro ticket isSent
    rcases (sent ticket).mp isSent with earlier | rfl
    · exact .inl (tickets.accepted_of_sent (by simp [holding]) earlier)
    · exact .inr ⟨job, rfl, rfl⟩
  · intro ticket member
    obtain ⟨bound, before⟩ := tickets.refused_unsent ticket member
    refine ⟨bound, fun isSent => ?_⟩
    rcases (sent ticket).mp isSent with earlier | rfl
    · exact before earlier
    · exact (tickets.enqueueing job holding).2.2 member
  · rintro other ⟨⟩
  · rintro other ⟨⟩
    exact ⟨(sent _).mpr (.inr rfl), fun member => accepted _ member rfl⟩
  · intro locked
    have closing := tickets.closing locked
    simp [holding] at closing

private theorem tickets_took {worker : Fin invokeWorkerCount} {drains : Bool} {job : DispatchJob}
    {dispatchQueue : Channel DispatchJob dispatchQueueCap} (tickets : pool.Tickets)
    (items : pool.dispatchQueue.items = job :: dispatchQueue.items) :
    ({ pool with
      dispatchQueue
      workers := Function.update pool.workers worker (.invoking job.ticket drains)
      invocations := Function.update pool.invocations job.ticket (some (.start job)) } :
      Pool).Tickets := by
  have queued : pool.queued = job.ticket :: dispatchQueue.items.map DispatchJob.ticket := by
    simp [Pool.queued, items]
  have unique := tickets.unique
  have fresh := tickets.fresh
  rw [queued, List.nodup_cons] at unique
  rw [queued] at fresh
  refine tickets.frame unique.2 ?_ ?_ rfl rfl rfl rfl rfl
  · intro ticket member
    have different : ticket ≠ job.ticket := fun same => unique.1 (same ▸ member)
    show Function.update pool.invocations job.ticket _ ticket = none
    rw [Function.update_of_ne different]
    exact fresh ticket (List.mem_cons_of_mem _ member)
  · intro ticket
    show ticket ∈ dispatchQueue.items.map DispatchJob.ticket ∨
      (Function.update pool.invocations job.ticket _ ticket).isSome = true ↔ _
    rw [Pool.Sent, queued, List.mem_cons]
    by_cases same : ticket = job.ticket
    · simp [same]
    · simp [same, Function.update_of_ne]

private theorem Pool.Tickets.place {ticket : Nat} {inv : Invocation} (tickets : pool.Tickets)
    (found : pool.invocations ticket = some inv) (after : Invocation) (event : InvocationEvent) :
    (pool.place ticket after event).Tickets := by
  refine tickets.frame tickets.unique ?_ ?_ rfl rfl rfl rfl rfl
  · intro other member
    exact absent_update found (tickets.fresh other member)
  · intro other
    show other ∈ pool.queued ∨ (Function.update pool.invocations ticket _ other).isSome = true ↔ _
    rw [isSome_update found, Pool.Sent]

theorem PoolMove.tickets {action : PoolAct} (move : PoolMove pool action next)
    (tickets : pool.Tickets) : next.Tickets := by
  cases move with
  | locked free =>
      refine { tickets with
        below := ?_, sent_accepted := ?_, refused_unsent := ?_
        enqueueing := ?_, adding := ?_, closing := ?_ }
      · intro ticket sent
        exact Nat.lt_succ_of_lt (tickets.below ticket sent)
      · intro ticket sent
        exact .inl (tickets.accepted_of_sent (by simp [free]) sent)
      · intro ticket member
        obtain ⟨bound, unsent⟩ := tickets.refused_unsent ticket member
        exact ⟨Nat.lt_succ_of_lt bound, unsent⟩
      · rintro job ⟨⟩
        refine ⟨Nat.lt_succ_self _, fun sent => ?_, fun member => ?_⟩
        · exact Nat.lt_irrefl _ (tickets.below _ sent)
        · exact Nat.lt_irrefl _ (tickets.refused_unsent _ member).1
      · rintro job ⟨⟩
      · intro locked
        simp [tickets.closing locked] at free
  | @refused job holding =>
      obtain ⟨known, unsent, _⟩ := tickets.enqueueing job holding
      have unlocked : pool.shutdown = .locked → Holder.free = .closing := by
        intro locked
        simp [tickets.closing locked] at holding
      have released := tickets.rehold (by simp [holding]) (.inl rfl) unlocked pool.accepting
      refine { released with refused_unsent := ?_, enqueueing := ?_ }
      · intro ticket member
        rcases List.mem_append.mp member with earlier | single
        · exact tickets.refused_unsent ticket earlier
        · rw [List.mem_singleton.mp single]
          exact ⟨known, unsent⟩
      · intro other held
        cases held
  | offered holding accepting items =>
      exact tickets_offered tickets holding items
  | @added job held =>
      obtain ⟨sent, new⟩ := tickets.adding job held
      refine { tickets with
        accepted_unique := ?_, accepted_sent := ?_, sent_accepted := ?_
        enqueueing := ?_, adding := ?_, closing := ?_ }
      · rw [List.nodup_append]
        refine ⟨tickets.accepted_unique, by simp, ?_⟩
        rintro ticket member other single rfl
        exact new (List.mem_singleton.mp single ▸ member)
      · intro ticket member
        rcases List.mem_append.mp member with earlier | single
        · exact tickets.accepted_sent ticket earlier
        · exact List.mem_singleton.mp single ▸ sent
      · intro ticket isSent
        rcases tickets.sent_accepted ticket isSent with member | ⟨other, same, rfl⟩
        · exact .inl (List.mem_append_left _ member)
        · rw [held] at same
          cases same
          exact .inl (List.mem_append_right _ (List.mem_singleton.mpr rfl))
      · rintro other ⟨⟩
      · rintro other ⟨⟩
      · intro locked
        simp [tickets.closing locked] at held
  | shutdownLocked _ free =>
      exact tickets.rehold (by simp [free]) (.inr rfl) (fun _ => rfl) pool.accepting
  | shutdownCleared locked =>
      have held := tickets.closing locked
      exact tickets.rehold (by simp [held]) (.inl rfl) (by simp) false
  | shutdownClosed | shutdownReturned =>
      exact { tickets with closing := by rintro ⟨⟩ }
  | sawStop | drained =>
      exact { tickets with }
  | took _ items =>
      exact tickets_took tickets items
  | watched found _ _ =>
      exact tickets.place found _ _
  | @worked _ _ _ _ _ after event _ found _ _ =>
      have placed := tickets.place found after event
      unfold Pool.resume
      split
      · exact { placed with }
      · exact placed

end Tickets

/-! ## Answers -/

/-- Each invocation is timed and is settled by what the pool recorded for its
ticket, and the counter is the number of accepted jobs not yet released. -/
structure Pool.Ledger (pool : Pool) : Prop where
  settled : ∀ ticket inv, pool.invocations ticket = some inv →
    inv.Settled (pool.begun ticket) (pool.answered.count ticket) (pool.released.count ticket)
  silent : ∀ ticket, pool.invocations ticket = none →
    pool.begun ticket = 0 ∧ pool.answered.count ticket = 0 ∧ pool.released.count ticket = 0
  counter : pool.wg = (pool.accepted.length : Int) - pool.released.length
  timed : ∀ ticket inv, pool.invocations ticket = some inv → inv.Timed

section Ledger

variable {pool next : Pool}

theorem Pool.ledger_init : Pool.init.Ledger := by
  refine ⟨?_, ?_, rfl, ?_⟩
  · rintro ticket inv ⟨⟩
  · intro ticket _
    exact ⟨rfl, rfl, rfl⟩
  · rintro ticket inv ⟨⟩

theorem begun_place (pool : Pool) (ticket : Nat) (after : Invocation)
    (event : InvocationEvent) (other : Nat) : (pool.place ticket after event).begun other =
      pool.begun other + if ticket = other then event.begun else 0 := by
  have single : ((event.sinkCalls ticket).map Prod.fst).count other =
      if ticket = other then event.begun else 0 := by
    cases event <;> simp [InvocationEvent.sinkCalls, List.count_cons]
  rw [Pool.begun, Pool.place, List.map_append, List.count_append, single, Pool.begun]

private theorem count_replicate_ite (count ticket other : Nat) :
    (List.replicate count ticket).count other = if ticket = other then count else 0 := by
  rw [List.count_replicate]
  simp

private theorem Pool.Ledger.place {ticket : Nat} {inv after : Invocation} {event : InvocationEvent}
    {action : InvocationAct} (ledger : pool.Ledger) (found : pool.invocations ticket = some inv)
    (stepped : inv.step action = some (after, event)) : (pool.place ticket after event).Ledger := by
  have answered : ∀ other, (pool.place ticket after event).answered.count other =
      pool.answered.count other + if ticket = other then event.returned else 0 := by
    intro other
    rw [Pool.place, List.count_append, count_replicate_ite]
  have released : ∀ other, (pool.place ticket after event).released.count other =
      pool.released.count other + if ticket = other then event.released else 0 := by
    intro other
    rw [Pool.place, List.count_append, count_replicate_ite]
  refine ⟨?_, ?_, ?_, ?_⟩
  · intro other current lookup
    rw [begun_place, answered, released]
    rcases lookup_update lookup with ⟨rfl, rfl⟩ | ⟨elsewhere, old⟩
    · simpa using (ledger.settled other inv found).step stepped
    · simpa [elsewhere.symm] using ledger.settled other current old
  · intro other absent
    rw [begun_place, answered, released]
    rcases read_update absent with ⟨_, never⟩ | ⟨elsewhere, old⟩
    · cases never
    · simpa [elsewhere.symm] using ledger.silent other old
  · have counter := ledger.counter
    simp only [Pool.place, List.length_append, List.length_replicate]
    omega
  · intro other current lookup
    rcases lookup_update lookup with ⟨rfl, rfl⟩ | ⟨_, old⟩
    · exact (ledger.timed other inv found).step (ledger.settled other inv found) stepped
    · exact ledger.timed other current old

private theorem ledger_took {worker : Fin invokeWorkerCount} {drains : Bool} {job : DispatchJob}
    {dispatchQueue : Channel DispatchJob dispatchQueueCap} (ledger : pool.Ledger)
    (fresh : pool.invocations job.ticket = none) :
    ({ pool with
      dispatchQueue
      workers := Function.update pool.workers worker (.invoking job.ticket drains)
      invocations := Function.update pool.invocations job.ticket (some (.start job)) } :
      Pool).Ledger := by
  refine ⟨?_, ?_, ledger.counter, ?_⟩
  · intro ticket inv lookup
    rcases lookup_update lookup with ⟨rfl, rfl⟩ | ⟨_, old⟩
    · obtain ⟨noCalls, noAnswers, noReleases⟩ := ledger.silent _ fresh
      show Invocation.Settled _ (pool.begun _) (pool.answered.count _) (pool.released.count _)
      rw [noCalls, noAnswers, noReleases]
      exact Invocation.settled_start job
    · exact ledger.settled ticket inv old
  · intro ticket absent
    rcases read_update absent with ⟨_, never⟩ | ⟨_, old⟩
    · cases never
    · exact ledger.silent ticket old
  · intro ticket inv lookup
    rcases lookup_update lookup with ⟨rfl, rfl⟩ | ⟨_, old⟩
    · exact Invocation.timed_start job
    · exact ledger.timed ticket inv old

theorem PoolMove.ledger {action : PoolAct} (move : PoolMove pool action next)
    (tickets : pool.Tickets) (ledger : pool.Ledger) : next.Ledger := by
  cases move with
  | locked | refused | offered | shutdownLocked | shutdownCleared | shutdownClosed
  | shutdownReturned | sawStop | drained =>
      exact { ledger with }
  | added held =>
      refine { ledger with counter := ?_ }
      have counter := ledger.counter
      simp only [List.length_append, List.length_singleton]
      omega
  | @took worker drains job dispatchQueue _ items =>
      refine ledger_took ledger (tickets.fresh _ ?_)
      simp [Pool.queued, items]
  | watched found _ stepped => exact ledger.place found stepped
  | worked _ found _ stepped =>
      have placed := ledger.place found stepped
      unfold Pool.resume
      split
      · exact { placed with }
      · exact placed

end Ledger

/-! ## Workers -/

/-- Each running invocation has exactly one worker. -/
structure Pool.Crew (pool : Pool) : Prop where
  employed : ∀ worker ticket drains, pool.workers worker = .invoking ticket drains →
    ∃ inv, pool.invocations ticket = some inv ∧ inv.call ≠ .finished
  alone : ∀ worker other ticket drains another, pool.workers worker = .invoking ticket drains →
    pool.workers other = .invoking ticket another → worker = other
  attended : ∀ ticket inv, pool.invocations ticket = some inv → inv.call ≠ .finished →
    ∃ worker drains, pool.workers worker = .invoking ticket drains

section Crew

variable {pool next : Pool}

theorem Pool.crew_init : Pool.init.Crew := by
  refine ⟨?_, ?_, ?_⟩
  · rintro worker ticket drains ⟨⟩
  · rintro worker other ticket drains another ⟨⟩
  · rintro ticket inv ⟨⟩

private theorem watcher_keeps_call {inv after : Invocation} {action : InvocationAct}
    {event : InvocationEvent} (other : action.byWorker = false)
    (stepped : inv.step action = some (after, event)) : after.call = inv.call := by
  cases action with
  | handler | call | callSink => cases other
  | timeout =>
      obtain ⟨_, same⟩ := Option.ite_none_left_eq_some.mp stepped
      cases same
      rfl
  | watcherSink =>
      obtain ⟨_, same⟩ := Option.ite_none_right_eq_some.mp stepped
      cases same
      rfl
  | watcher =>
      simp only [Invocation.step, Invocation.watcherStep] at stepped
      split at stepped
      · split at stepped
        · split at stepped <;> cases stepped <;> rfl
        · cases stepped
      · cases stepped
        rfl
      · cases stepped
      · cases stepped
        rfl
      · cases stepped

private theorem worker_call_ne_finished {inv after : Invocation} {action : InvocationAct}
    {event : InvocationEvent} (byWorker : action.byWorker = true)
    (stepped : inv.step action = some (after, event)) : inv.call ≠ .finished := by
  intro isOver
  cases action with
  | handler outcome => simp [Invocation.step, isOver] at stepped
  | call => simp [Invocation.step, Invocation.callStep, isOver] at stepped
  | callSink => simp [Invocation.step, isOver] at stepped
  | timeout | watcher | watcherSink => cases byWorker

private theorem Pool.Crew.place {ticket : Nat} {inv after : Invocation} (crew : pool.Crew)
    (found : pool.invocations ticket = some inv)
    (isOver : after.call = .finished ↔ inv.call = .finished) (event : InvocationEvent) :
    (pool.place ticket after event).Crew := by
  refine ⟨?_, crew.alone, ?_⟩
  · intro worker other drains invoking
    exact exists_update_of found (fun running ended => running (isOver.mp ended))
      (crew.employed worker other drains invoking)
  · intro other current lookup running
    rcases lookup_update lookup with ⟨rfl, rfl⟩ | ⟨_, old⟩
    · exact crew.attended other inv found fun ended => running (isOver.mpr ended)
    · exact crew.attended other current old running

/-- The worker of an invocation whose call ends is free again. -/
private theorem Pool.Crew.finish {worker : Fin invokeWorkerCount} {ticket : Nat} {drains : Bool}
    {after : Invocation} (crew : pool.Crew)
    (invoking : pool.workers worker = .invoking ticket drains)
    (isOver : after.call = .finished) (event : InvocationEvent) :
    ({ pool.place ticket after event with
      workers := Function.update pool.workers worker (.loop drains) } : Pool).Crew := by
  have idle : ∀ other another, WorkerPc.loop drains ≠ .invoking other another := by
    intro other another
    unfold WorkerPc.loop
    split <;> simp
  -- an invoking worker after the step is another worker, on another ticket
  have before : ∀ peer other another,
      Function.update pool.workers worker (.loop drains) peer = .invoking other another →
      pool.workers peer = .invoking other another ∧ other ≠ ticket := by
    intro peer other another invokes
    rcases read_update invokes with ⟨_, looping⟩ | ⟨apart, before⟩
    · exact absurd looping (idle other another)
    · refine ⟨before, ?_⟩
      rintro rfl
      exact apart (crew.alone peer worker other another drains before invoking)
  refine ⟨?_, ?_, ?_⟩
  · intro peer other another invokes
    obtain ⟨old, different⟩ := before peer other another invokes
    obtain ⟨current, lookup, running⟩ := crew.employed peer other another old
    exact ⟨current, (Function.update_of_ne different ..).trans lookup, running⟩
  · intro peer another other first second firstInvokes secondInvokes
    exact crew.alone peer another other first second (before _ _ _ firstInvokes).1
      (before _ _ _ secondInvokes).1
  · intro other current lookup running
    rcases lookup_update lookup with ⟨_, rfl⟩ | ⟨different, old⟩
    · exact absurd isOver running
    · obtain ⟨peer, another, invokes⟩ := crew.attended other current old running
      have apart : peer ≠ worker := by
        rintro rfl
        rw [invoking] at invokes
        cases invokes
        exact different rfl
      exact ⟨peer, another, (Function.update_of_ne apart ..).trans invokes⟩

private theorem crew_took {worker : Fin invokeWorkerCount} {drains : Bool} {job : DispatchJob}
    {dispatchQueue : Channel DispatchJob dispatchQueueCap} (crew : pool.Crew)
    (loop : pool.workers worker = .loop drains) (fresh : pool.invocations job.ticket = none) :
    ({ pool with
      dispatchQueue
      workers := Function.update pool.workers worker (.invoking job.ticket drains)
      invocations := Function.update pool.invocations job.ticket (some (.start job)) } :
      Pool).Crew := by
  have idle : ∀ other another, pool.workers worker ≠ .invoking other another := by
    intro other another
    rw [loop]
    unfold WorkerPc.loop
    split <;> simp
  have known : ∀ peer other another, pool.workers peer = .invoking other another →
      other ≠ job.ticket := by
    rintro peer other another invokes rfl
    obtain ⟨current, lookup, _⟩ := crew.employed peer _ another invokes
    rw [fresh] at lookup
    cases lookup
  have cases_ : ∀ peer other another,
      Function.update pool.workers worker (.invoking job.ticket drains) peer =
        .invoking other another →
      peer = worker ∧ other = job.ticket ∨
        peer ≠ worker ∧ other ≠ job.ticket ∧ pool.workers peer = .invoking other another := by
    intro peer other another invokes
    rcases read_update invokes with ⟨here, took⟩ | ⟨apart, old⟩
    · cases took
      exact .inl ⟨here, rfl⟩
    · exact .inr ⟨apart, known peer other another old, old⟩
  refine ⟨?_, ?_, ?_⟩
  · intro peer other another invokes
    rcases cases_ peer other another invokes with ⟨_, rfl⟩ | ⟨_, different, old⟩
    · exact ⟨.start job, by simp, by simp [Invocation.start]⟩
    · obtain ⟨current, lookup, running⟩ := crew.employed peer other another old
      exact ⟨current, (Function.update_of_ne different ..).trans lookup, running⟩
  · intro peer another other first second firstInvokes secondInvokes
    rcases cases_ _ _ _ firstInvokes with ⟨rfl, here⟩ | ⟨_, away, old⟩
    · rcases cases_ _ _ _ secondInvokes with ⟨rfl, _⟩ | ⟨_, away, _⟩
      · rfl
      · exact absurd here away
    · rcases cases_ _ _ _ secondInvokes with ⟨_, here⟩ | ⟨_, _, other⟩
      · exact absurd here away
      · exact crew.alone _ _ _ _ _ old other
  · intro other current lookup running
    rcases lookup_update lookup with ⟨rfl, _⟩ | ⟨_, old⟩
    · exact ⟨worker, drains, Function.update_self ..⟩
    · obtain ⟨peer, another, invokes⟩ := crew.attended other current old running
      have apart : peer ≠ worker := fun same => idle other another (same ▸ invokes)
      exact ⟨peer, another, (Function.update_of_ne apart ..).trans invokes⟩

private theorem Pool.Crew.move {worker : Fin invokeWorkerCount} {pc : WorkerPc} (crew : pool.Crew)
    (before : ∀ ticket drains, pool.workers worker ≠ .invoking ticket drains)
    (after : ∀ ticket drains, pc ≠ .invoking ticket drains) :
    ({ pool with workers := Function.update pool.workers worker pc } : Pool).Crew := by
  have invokes_iff : ∀ peer ticket drains,
      Function.update pool.workers worker pc peer = .invoking ticket drains ↔
        pool.workers peer = .invoking ticket drains := by
    intro peer ticket drains
    by_cases same : peer = worker
    · subst same
      rw [Function.update_self]
      exact iff_of_false (after ticket drains) (before ticket drains)
    · rw [Function.update_of_ne same]
  refine ⟨?_, ?_, ?_⟩
  · simpa only [invokes_iff] using crew.employed
  · simpa only [invokes_iff] using crew.alone
  · simpa only [invokes_iff] using crew.attended

theorem PoolMove.crew {action : PoolAct} (move : PoolMove pool action next)
    (tickets : pool.Tickets) (crew : pool.Crew) : next.Crew := by
  cases move with
  | locked | refused | offered | added | shutdownLocked | shutdownCleared | shutdownClosed
  | shutdownReturned =>
      exact { crew with }
  | sawStop selecting _ => exact crew.move (by simp [selecting]) (by simp)
  | drained draining _ => exact crew.move (by simp [draining]) (by simp)
  | took loop items =>
      refine crew_took crew loop (tickets.fresh _ ?_)
      simp [Pool.queued, items]
  | watched found other stepped =>
      exact crew.place found (by rw [watcher_keeps_call other stepped]) _
  | @worked worker ticket drains action inv after event invoking found byWorker stepped =>
      unfold Pool.resume
      split
      · next isOver => exact crew.finish invoking isOver event
      · next running =>
        have before := worker_call_ne_finished byWorker stepped
        exact crew.place found (iff_of_false running before) event

end Crew

/-! ## Shutdown -/

/-- How far shutdown has come decides what is still accepted, and workers drain
and exit only after it closed `stop`. -/
structure Pool.Closing (pool : Pool) : Prop where
  accepting : pool.accepting = true ↔ pool.shutdown = .idle ∨ pool.shutdown = .locked
  stopped : pool.stopped = true → pool.shutdown = .waiting ∨ pool.shutdown = .returned
  adding : pool.accepting = false → ∀ job, pool.mutex ≠ .adding job
  draining : ∀ worker, pool.workers worker = .draining → pool.stopped = true
  drains : ∀ worker ticket, pool.workers worker = .invoking ticket true → pool.stopped = true
  exited : ∀ worker, pool.workers worker = .exited →
    pool.dispatchQueue.items = [] ∧ pool.stopped = true

section Closing

variable {pool next : Pool}

theorem Pool.closing_init : Pool.init.Closing := by
  refine ⟨?_, ?_, ?_, ?_, ?_, ?_⟩ <;> simp [Pool.init]

theorem Pool.Closing.not_accepting (closing : pool.Closing) (stopped : pool.stopped = true) :
    pool.accepting = false := by
  have late := closing.stopped stopped
  cases open_ : pool.accepting with
  | false => rfl
  | true =>
      rcases closing.accepting.mp open_ with early | early <;> simp [early] at late

/-- A worker goes to a place that its old place or a closed `stop` allows. -/
private theorem Pool.Closing.move {worker : Fin invokeWorkerCount} {pc : WorkerPc}
    (closing : pool.Closing) (draining : pc = .draining → pool.stopped = true)
    (drains : ∀ ticket, pc = .invoking ticket true → pool.stopped = true)
    (exited : pc = .exited → pool.dispatchQueue.items = [] ∧ pool.stopped = true) :
    ({ pool with workers := Function.update pool.workers worker pc } : Pool).Closing := by
  refine ⟨closing.accepting, closing.stopped, closing.adding, ?_, ?_, ?_⟩
  · intro peer moved
    rcases read_update moved with ⟨_, here⟩ | ⟨_, old⟩
    · exact draining here
    · exact closing.draining peer old
  · intro peer ticket moved
    rcases read_update moved with ⟨_, here⟩ | ⟨_, old⟩
    · exact drains ticket here
    · exact closing.drains peer ticket old
  · intro peer moved
    rcases read_update moved with ⟨_, here⟩ | ⟨_, old⟩
    · exact exited here
    · exact closing.exited peer old

theorem PoolMove.closing {action : PoolAct} (move : PoolMove pool action next)
    (closing : pool.Closing) : next.Closing := by
  cases move with
  | locked | refused | added => exact { closing with adding := by simp }
  | offered _ accepting items =>
      refine ⟨closing.accepting, closing.stopped, ?_, closing.draining, closing.drains, ?_⟩
      · intro closed
        simp [accepting] at closed
      · intro worker exited
        have closed := closing.not_accepting (closing.exited worker exited).2
        simp [accepting] at closed
  | shutdownLocked idle _ =>
      refine ⟨?_, ?_, by simp, closing.draining, closing.drains, closing.exited⟩
      · simpa [idle] using closing.accepting
      · intro stopped
        have late := closing.stopped stopped
        simp [idle] at late
  | shutdownCleared locked =>
      refine ⟨by simp, ?_, by simp, closing.draining, closing.drains, closing.exited⟩
      intro stopped
      have late := closing.stopped stopped
      simp [locked] at late
  | shutdownClosed unlocked =>
      refine ⟨by simpa [unlocked] using closing.accepting, by simp, closing.adding, by simp,
        by simp, ?_⟩
      intro worker exited
      exact ⟨(closing.exited worker exited).1, rfl⟩
  | shutdownReturned waiting _ =>
      exact { closing with
        accepting := by simpa [waiting] using closing.accepting
        stopped := by simp }
  | sawStop _ stopped => exact closing.move (fun _ => stopped) (by simp) (by simp)
  | drained draining empty =>
      exact closing.move (by simp) (by simp) fun _ => ⟨empty, closing.draining _ draining⟩
  | @took worker drains job dispatchQueue loop items =>
      have moved := @Pool.Closing.move pool worker (.invoking job.ticket drains) closing (by simp)
        (fun ticket same => by
          cases same
          exact closing.draining worker loop) (by simp)
      refine ⟨moved.accepting, moved.stopped, moved.adding, moved.draining, moved.drains, ?_⟩
      intro peer exited
      have empty := (moved.exited peer exited).1
      simp [items] at empty
  | watched => exact { closing with }
  | @worked worker ticket drains _ _ after event invoking found _ _ =>
      have placed : (pool.place ticket after event).Closing := { closing with }
      unfold Pool.resume
      split
      · refine placed.move ?_ ?_ ?_
        · intro loop
          cases drains with
          | true => exact closing.drains worker ticket invoking
          | false => cases loop
        · intro other
          cases drains <;> simp [WorkerPc.loop]
        · cases drains <;> simp [WorkerPc.loop]
      · exact placed

end Closing

structure Pool.Sound (pool : Pool) : Prop where
  tickets : pool.Tickets
  ledger : pool.Ledger
  crew : pool.Crew
  closing : pool.Closing

theorem Pool.sound_step {pool next : Pool} {action : PoolAct} (sound : pool.Sound)
    (stepped : pool.step action = some next) : next.Sound := by
  obtain ⟨_, move⟩ := Pool.step_move stepped
  exact ⟨move.tickets sound.tickets, move.ledger sound.tickets sound.ledger,
    move.crew sound.tickets sound.crew, move.closing sound.closing⟩

theorem Pool.sound_of_reachable {pool : Pool} (reached : invokePool.Reachable pool) :
    pool.Sound := by
  refine reached.invariant Pool.Sound ?_ fun _ _ _ _ sound stepped => sound_step sound stepped
  rintro _ rfl
  exact ⟨tickets_init, ledger_init, crew_init, closing_init⟩

end LibddRc.Go
