import LibddRc.Go.PoolAnswers

/-! The order of the invoke pool's answers. `enqueue` hands out jobs in ticket
order and the queue keeps that order; the eight workers need not. -/

set_option autoImplicit false

namespace LibddRc.Go

open Foundation

variable {pool next : Pool} {Handler : Type} {handler : Nat → Handler}

/-! ## Tickets follow the queue -/

namespace Pool

/-- The mutex serialises `enqueue` calls, so the call that holds it has the
newest ticket, and tickets are accepted, queued and taken in their order. -/
structure Ordered (pool : Pool) : Prop where
  enqueueing : ∀ job, pool.mutex = .enqueueing job → job.ticket + 1 = pool.nextTicket
  adding : ∀ job, pool.mutex = .adding job → job.ticket + 1 = pool.nextTicket
  accepted : pool.accepted.Pairwise (· < ·)
  queued : pool.queued.Pairwise (· < ·)
  taken : ∀ ticket, (pool.invocations ticket).isSome = true →
    ∀ later ∈ pool.queued, ticket < later

theorem ordered_init : Pool.init.Ordered := by
  refine ⟨?_, ?_, ?_, ?_, ?_⟩ <;> simp [Pool.init, Pool.queued]

/-- Whatever was sent before is older than the job the mutex is held for. -/
private theorem Ordered.newest (tickets : pool.Tickets) {job : DispatchJob}
    (newest : job.ticket + 1 = pool.nextTicket) {ticket : Nat} (sent : pool.Sent ticket)
    (other : ticket ≠ job.ticket) : ticket < job.ticket := by
  have below := tickets.below ticket sent
  omega

end Pool

private theorem ordered_offered {job : DispatchJob}
    {dispatchQueue : Channel DispatchJob dispatchQueueCap} (tickets : pool.Tickets)
    (ordered : pool.Ordered) (holding : pool.mutex = .enqueueing job)
    (items : dispatchQueue.items = pool.dispatchQueue.items ++ [job]) :
    ({ pool with dispatchQueue, mutex := .adding job } : Pool).Ordered := by
  have newest := ordered.enqueueing job holding
  have unsent := (tickets.enqueueing job holding).2.1
  have older : ∀ ticket, pool.Sent ticket → ticket < job.ticket := by
    intro ticket sent
    refine Pool.Ordered.newest tickets newest sent ?_
    rintro rfl
    exact unsent sent
  have queued : ({ pool with dispatchQueue, mutex := .adding job } : Pool).queued =
      pool.queued ++ [job.ticket] := by
    simp [Pool.queued, items]
  refine ⟨?_, ?_, ordered.accepted, ?_, ?_⟩
  · rintro other ⟨⟩
  · rintro other ⟨⟩
    exact newest
  · rw [queued, List.pairwise_append]
    refine ⟨ordered.queued, by simp, ?_⟩
    intro ticket member later single
    exact List.mem_singleton.mp single ▸ older ticket (.inl member)
  · intro ticket invoked later member
    rw [queued, List.mem_append, List.mem_singleton] at member
    rcases member with earlier | rfl
    · exact ordered.taken ticket invoked later earlier
    · exact older ticket (.inr invoked)

private theorem ordered_took {worker : Fin invokeWorkerCount} {drains : Bool} {job : DispatchJob}
    {dispatchQueue : Channel DispatchJob dispatchQueueCap} (ordered : pool.Ordered)
    (items : pool.dispatchQueue.items = job :: dispatchQueue.items) :
    ({ pool with
      dispatchQueue
      workers := Function.update pool.workers worker (.invoking job.ticket drains)
      invocations := Function.update pool.invocations job.ticket (some (.start job)) } :
      Pool).Ordered := by
  have queued : pool.queued = job.ticket :: dispatchQueue.items.map DispatchJob.ticket := by
    simp [Pool.queued, items]
  have sorted := ordered.queued
  rw [queued, List.pairwise_cons] at sorted
  refine { ordered with queued := sorted.2, taken := ?_ }
  intro ticket invoked later member
  by_cases same : ticket = job.ticket
  · exact same ▸ sorted.1 later member
  · refine ordered.taken ticket (by simpa [Function.update_of_ne same] using invoked) later ?_
    rw [queued]
    exact List.mem_cons_of_mem _ member

private theorem Pool.Ordered.place {ticket : Nat} {inv : Invocation} (ordered : pool.Ordered)
    (found : pool.invocations ticket = some inv) (after : Invocation) (event : InvocationEvent) :
    (pool.place ticket after event).Ordered := by
  refine { ordered with taken := ?_ }
  intro other invoked later member
  refine ordered.taken other ?_ later member
  exact isSome_update found after other ▸ invoked

private theorem PoolMove.ordered {action : PoolAct} (move : PoolMove pool action next)
    (tickets : pool.Tickets) (ordered : pool.Ordered) : next.Ordered := by
  cases move with
  | locked free =>
      refine { ordered with enqueueing := ?_, adding := ?_ }
      · rintro job ⟨⟩
        rfl
      · rintro job ⟨⟩
  | refused =>
      refine { ordered with enqueueing := ?_, adding := ?_ }
      · rintro job ⟨⟩
      · rintro job ⟨⟩
  | offered holding accepting items =>
      exact ordered_offered tickets ordered holding items
  | @added job held =>
      have newest := ordered.adding job held
      have fresh := (tickets.adding job held).2
      refine { ordered with enqueueing := ?_, adding := ?_, accepted := ?_ }
      · rintro other ⟨⟩
      · rintro other ⟨⟩
      · rw [List.pairwise_append]
        refine ⟨ordered.accepted, by simp, ?_⟩
        intro ticket member later single
        rw [List.mem_singleton.mp single]
        refine Pool.Ordered.newest tickets newest (tickets.accepted_sent ticket member) ?_
        rintro rfl
        exact fresh member
  | shutdownLocked _ free =>
      refine { ordered with enqueueing := ?_, adding := ?_ }
      · rintro job ⟨⟩
      · rintro job ⟨⟩
  | shutdownCleared =>
      refine { ordered with enqueueing := ?_, adding := ?_ }
      · rintro job ⟨⟩
      · rintro job ⟨⟩
  | shutdownClosed | shutdownReturned | sawStop | drained =>
      exact { ordered with }
  | took _ items =>
      exact ordered_took ordered items
  | watched found _ _ =>
      exact ordered.place found _ _
  | @worked _ _ _ _ _ after event _ found _ _ =>
      have placed := ordered.place found after event
      unfold Pool.resume
      split
      · exact { placed with }
      · exact placed

theorem Pool.ordered_of_reachable (reached : invokePool.Reachable pool) : pool.Ordered := by
  refine reached.invariant Pool.Ordered ?_ ?_
  · rintro _ rfl
    exact ordered_init
  · intro pool action next earlier ordered stepped
    exact (Pool.step_move stepped).2.ordered (Pool.sound_of_reachable earlier).tickets ordered

/-! ## Answers per handler -/

/-- A worker receives a job only when every older job for its handler has had
its sink call begun. `handler` gives the handler that `goDispatchCb` resolved
for each `enqueue` call. -/
def Pool.InTurn (handler : Nat → Handler) (pool : Pool) : PoolAct → Prop
  | .take _ => ∀ job ∈ pool.dispatchQueue.items.head?, ∀ ticket < job.ticket,
      handler ticket = handler job.ticket → (pool.invocations ticket).isSome = true →
        0 < pool.begun ticket
  | _ => True

instance Pool.InTurn.decidable [DecidableEq Handler] (handler : Nat → Handler) (pool : Pool)
    (action : PoolAct) : Decidable (pool.InTurn handler action) :=
  match action with
  | .take _ => inferInstanceAs (Decidable (∀ job ∈ pool.dispatchQueue.items.head?,
      ∀ ticket < job.ticket, handler ticket = handler job.ticket →
        (pool.invocations ticket).isSome = true → 0 < pool.begun ticket))
  | .lock _ | .offer | .add | .shutdown | .seeStop _ | .finishDrain _ | .worker _ _
  | .watcher _ _ => isTrue trivial

/-- Once a job is taken, every older job for its handler has been answered, and
the sink calls for one handler follow the tickets. -/
structure Pool.Serial (handler : Nat → Handler) (pool : Pool) : Prop where
  settled : ∀ older newer, older < newer → handler older = handler newer →
    pool.Sent older → (pool.invocations newer).isSome = true → 0 < pool.begun older
  calls : pool.calls.Pairwise fun earlier later =>
    handler earlier.1 = handler later.1 → earlier.1 < later.1

private theorem sent_place {ticket : Nat} {inv : Invocation}
    (found : pool.invocations ticket = some inv) (after : Invocation) (event : InvocationEvent)
    (other : Nat) : (pool.place ticket after event).Sent other ↔ pool.Sent other := by
  show other ∈ pool.queued ∨ (Function.update pool.invocations ticket _ other).isSome = true ↔ _
  rw [isSome_update found, Pool.Sent]

private theorem mem_calls_begun {ticket : Nat} {call : SinkCall}
    (member : (ticket, call) ∈ pool.calls) : 0 < pool.begun ticket :=
  List.count_pos_iff.mpr (List.mem_map_of_mem member)

private theorem invoked_of_begun (ledger : pool.Ledger) {ticket : Nat}
    (begun : 0 < pool.begun ticket) : (pool.invocations ticket).isSome = true := by
  cases lookup : pool.invocations ticket with
  | none =>
      have silent := (ledger.silent ticket lookup).1
      omega
  | some inv => rfl

/-- A ticket that begins a sink call had none before. -/
private theorem unbegun_of_begins {ticket : Nat} {inv after : Invocation} {call : SinkCall}
    {action : InvocationAct} (ledger : pool.Ledger) (found : pool.invocations ticket = some inv)
    (stepped : inv.step action = some (after, .begins call)) : pool.begun ticket = 0 := by
  have bound := ((ledger.settled ticket inv found).step stepped).begun_le.1
  simp only [InvocationEvent.begun] at bound
  omega

private theorem Pool.Serial.place {ticket : Nat} {inv after : Invocation}
    {event : InvocationEvent} {action : InvocationAct} (serial : pool.Serial handler)
    (ledger : pool.Ledger) (found : pool.invocations ticket = some inv)
    (stepped : inv.step action = some (after, event)) :
    (pool.place ticket after event).Serial handler := by
  refine ⟨?_, ?_⟩
  · intro older newer before same sent invoked
    have begun := serial.settled older newer before same
      ((sent_place found after event older).mp sent) (isSome_update found after newer ▸ invoked)
    rw [begun_place]
    omega
  · show (pool.calls ++ event.sinkCalls ticket).Pairwise _
    cases event with
    | quiet | returns | releases => simpa [InvocationEvent.sinkCalls] using serial.calls
    | begins call =>
        have unbegun := unbegun_of_begins ledger found stepped
        rw [InvocationEvent.sinkCalls, List.pairwise_append]
        refine ⟨serial.calls, by simp, ?_⟩
        rintro ⟨earlier, answer⟩ member other single same
        cases List.mem_singleton.mp single
        have begun := mem_calls_begun member
        -- a newer ticket answered first would have waited for this one
        by_contra notBefore
        have invoked := invoked_of_begun ledger begun
        rcases Nat.lt_or_eq_of_le (Nat.le_of_not_lt notBefore) with newer | rfl
        · have settled := serial.settled ticket earlier newer same.symm
            (.inr (by simp [found])) invoked
          omega
        · exact absurd unbegun (Nat.ne_of_gt begun)

private theorem serial_took {worker : Fin invokeWorkerCount} {drains : Bool} {job : DispatchJob}
    {dispatchQueue : Channel DispatchJob dispatchQueueCap} (serial : pool.Serial handler)
    (ordered : pool.Ordered) (turn : pool.InTurn handler (.take worker))
    (items : pool.dispatchQueue.items = job :: dispatchQueue.items) :
    ({ pool with
      dispatchQueue
      workers := Function.update pool.workers worker (.invoking job.ticket drains)
      invocations := Function.update pool.invocations job.ticket (some (.start job)) } :
      Pool).Serial handler := by
  have queued : pool.queued = job.ticket :: dispatchQueue.items.map DispatchJob.ticket := by
    simp [Pool.queued, items]
  have sorted := ordered.queued
  rw [queued, List.pairwise_cons] at sorted
  refine ⟨?_, serial.calls⟩
  intro older newer before same sent invoked
  by_cases taken : newer = job.ticket
  · subst taken
    -- the head of the queue is the oldest job on it, so an older one was taken before
    have invokedOlder : (pool.invocations older).isSome = true := by
      rcases sent with waiting | invokedNow
      · have after := sorted.1 older waiting
        omega
      · simpa [Function.update_of_ne (Nat.ne_of_lt before)] using invokedNow
    exact turn job (by simp [items]) older before same invokedOlder
  · refine serial.settled older newer before same ?_
      (by simpa [Function.update_of_ne taken] using invoked)
    by_cases head : older = job.ticket
    · exact .inl (by simp [queued, head])
    · rcases sent with waiting | invokedNow
      · exact .inl (by rw [queued]; exact List.mem_cons_of_mem _ waiting)
      · exact .inr (by simpa [Function.update_of_ne head] using invokedNow)

private theorem PoolMove.serial {action : PoolAct} (move : PoolMove pool action next)
    (sound : pool.Sound) (ordered : pool.Ordered) (turn : pool.InTurn handler action)
    (serial : pool.Serial handler) : next.Serial handler := by
  cases move with
  | locked | refused | added | shutdownLocked | shutdownCleared | shutdownClosed
  | shutdownReturned | sawStop | drained => exact ⟨serial.settled, serial.calls⟩
  | @offered job dispatchQueue holding _ items =>
      refine ⟨?_, serial.calls⟩
      intro older newer before same sent invoked
      refine serial.settled older newer before same ?_ invoked
      rcases sent with waiting | invokedOlder
      · -- the newest job is older than none that was taken
        have newest := ordered.enqueueing job holding
        have known := sound.tickets.below newer (.inr invoked)
        have member : older ∈ pool.queued ∨ older = job.ticket := by
          simpa [Pool.queued, items, or_comm, eq_comm] using waiting
        rcases member with earlier | rfl
        · exact .inl earlier
        · omega
      · exact .inr invokedOlder
  | took _ items =>
      exact serial_took serial ordered turn items
  | watched found _ stepped =>
      exact serial.place sound.ledger found stepped
  | @worked _ _ _ _ _ after event _ found _ stepped =>
      have placed := serial.place sound.ledger found stepped
      unfold Pool.resume
      split
      · exact ⟨placed.settled, placed.calls⟩
      · exact placed

private theorem serial_of_reachable (reached : invokePool.ReachableBy (Pool.InTurn handler) pool) :
    pool.Serial handler := by
  refine reached.invariant (Pool.Serial handler) ?_ ?_
  · rintro _ rfl
    refine ⟨?_, List.Pairwise.nil⟩
    rintro older newer _ _ _ ⟨⟩
  · intro pool action next earlier serial turn stepped
    exact (Pool.step_move stepped).2.serial (Pool.sound_of_reachable earlier.reachable)
      (Pool.ordered_of_reachable earlier.reachable) turn serial

/-- Two members of a list that a relation orders stand in the order it gives. -/
private theorem sublist_of_pairwise {α : Type} {before : α → α → Prop} {items : List α}
    (sorted : items.Pairwise before) {first second : α} (firstMember : first ∈ items)
    (secondMember : second ∈ items) (different : first ≠ second)
    (notAfter : ¬ before second first) : [first, second].Sublist items := by
  induction sorted with
  | nil => cases firstMember
  | @cons item rest head sorted ih =>
      rcases List.mem_cons.mp firstMember with rfl | firstRest
      · rcases List.mem_cons.mp secondMember with same | secondRest
        · exact absurd same.symm different
        · exact (List.singleton_sublist.mpr secondRest).cons_cons first
      · rcases List.mem_cons.mp secondMember with rfl | secondRest
        · exact absurd (head first firstRest) notAfter
        · exact (ih firstRest secondRest).cons item

/-- As long as no worker receives a job while an older one for the same handler
is unanswered, results for one handler come in the order `enqueue` accepted. -/
theorem results_follow_acceptance {Handler : Type} (handler : Nat → Handler) (pool : Pool)
    (reached : invokePool.ReachableBy (Pool.InTurn handler) pool) {first second : Nat}
    (accepted : [first, second].Sublist pool.accepted) (same : handler first = handler second)
    {firstResult secondResult : DispatchResult}
    (firstAnswer : (first, SinkCall.sendDispatchResult firstResult) ∈ pool.calls)
    (secondAnswer : (second, SinkCall.sendDispatchResult secondResult) ∈ pool.calls) :
    [(first, SinkCall.sendDispatchResult firstResult),
      (second, SinkCall.sendDispatchResult secondResult)].Sublist pool.calls := by
  have ordered := Pool.ordered_of_reachable reached.reachable
  have before : first < second := by
    simpa using ordered.accepted.sublist accepted
  refine sublist_of_pairwise (serial_of_reachable reached).calls firstAnswer secondAnswer ?_ ?_
  · intro equal
    have tickets := congrArg Prod.fst equal
    simp only at tickets
    omega
  · intro after
    have swapped := after same.symm
    simp only at swapped
    omega

/-- Two jobs are accepted before any worker moves. -/
def twoJobs : List PoolAct := [.lock 7, .offer, .add, .lock 8, .offer, .add]

theorem results_follow_acceptance_served : ∃ pool,
    invokePool.ReachableBy (Pool.InTurn fun _ => ()) pool ∧ pool.accepted = [0, 1] ∧
      [(0, SinkCall.sendDispatchResult ⟨7, some [1], none⟩),
        (1, SinkCall.sendDispatchResult ⟨8, some [1], none⟩)].Sublist pool.calls := by
  have conforms : invokePool.Conforms (Pool.InTurn fun _ => ()) Pool.init
      (twoJobs ++ serve ++ serve) := of_decide_eq_true rfl
  obtain ⟨pool, ran, accepted, calls⟩ : ∃ pool,
      invokePool.run Pool.init (twoJobs ++ serve ++ serve) = some pool ∧
        pool.accepted = [0, 1] ∧ pool.calls = [(0, .sendDispatchResult ⟨7, some [1], none⟩),
          (1, .sendDispatchResult ⟨8, some [1], none⟩)] := ⟨_, rfl, rfl, rfl⟩
  have reached := System.reachableBy_of_run rfl conforms ran
  exact ⟨pool, reached, accepted, results_follow_acceptance (fun _ => ()) pool reached
    (by simp [accepted]) rfl (by simp [calls]) (by simp [calls])⟩

/-- Workers 0 and 1 take the two jobs; the handler of the second returns first. -/
def overtake : List PoolAct :=
  [.take 0, .take 1,
    .worker 1 (.handler (.returned (some [1]) none)), .worker 1 .call, .worker 1 .call,
    .worker 1 .call,
    .worker 0 (.handler (.returned (some [1]) none)), .worker 0 .call, .worker 0 .call,
    .worker 0 .call]

/-- Whatever handlers the two jobs are for, one and the same included, the
second one can be answered first. -/
theorem later_job_overtakes : ∃ pool,
    invokePool.run Pool.init (twoJobs ++ overtake) = some pool ∧ pool.accepted = [0, 1] ∧
      pool.calls = [(1, .sendDispatchResult ⟨8, some [1], none⟩),
        (0, .sendDispatchResult ⟨7, some [1], none⟩)] ∧
      ¬ invokePool.Conforms (Pool.InTurn fun _ => ()) Pool.init (twoJobs ++ overtake) :=
  ⟨_, rfl, rfl, rfl, of_decide_eq_false rfl⟩

end LibddRc.Go
