import Mathlib.Data.List.Perm.Subperm
import LibddRc.Go.PoolInvariants

/-! What the invoke pool promises its callers: the wait group counts accepted
jobs, every accepted job is answered once, and shutdown is not held up as long
as some worker can still take jobs. -/

set_option autoImplicit false

namespace LibddRc.Go

open Foundation

/-! ## Settled invocations -/

section Settled

variable {inv next : Invocation} {event : InvocationEvent} {begun returned released : Nat}

theorem Invocation.Settled.begun_le (settled : inv.Settled begun returned released) :
    begun ≤ 1 ∧ returned ≤ begun ∧ released ≤ returned := by
  have call := inv.call.calls_le
  have watcher := inv.watcher.calls_le
  have begunEq := settled.begun_eq
  have returnedEq := settled.returned_eq
  cases completed : inv.completed with
  | true =>
      have one := settled.claimed completed
      omega
  | false =>
      obtain ⟨silent, _, waiting, none⟩ := settled.open_ completed
      rw [waiting] at begunEq returnedEq
      simp only [WatcherPc.calls, WatcherPc.returns] at begunEq returnedEq
      omega

theorem Invocation.Settled.of_released (settled : inv.Settled begun returned 1) :
    begun = 1 ∧ returned = 1 := by
  have bounds := settled.begun_le
  omega

theorem Invocation.Settled.quiet (settled : inv.Settled begun returned 1) {action : InvocationAct}
    (stepped : inv.step action = some (next, event)) : event = .quiet := by
  have bounds := (settled.step stepped).begun_le
  have before := settled.of_released
  cases event with
  | quiet => rfl
  | begins | returns | releases =>
      simp only [InvocationEvent.begun, InvocationEvent.returned, InvocationEvent.released]
        at bounds
      omega

end Settled

section Counting

variable {pool next : Pool}

/-! ## The wait group -/

theorem Pool.Sound.released_nodup (sound : pool.Sound) : pool.released.Nodup := by
  refine List.nodup_iff_count_le_one.mpr fun ticket => ?_
  cases lookup : pool.invocations ticket with
  | none =>
      have silent := sound.ledger.silent ticket lookup
      omega
  | some inv =>
      have bounds := (sound.ledger.settled ticket inv lookup).begun_le
      omega

theorem Pool.Sound.released_invoked (sound : pool.Sound) {ticket : Nat}
    (member : ticket ∈ pool.released) : (pool.invocations ticket).isSome = true := by
  have counted := List.count_pos_iff.mpr member
  cases lookup : pool.invocations ticket with
  | none =>
      have silent := sound.ledger.silent ticket lookup
      omega
  | some inv => rfl

/-- No worker receives a job whose `enqueue` call has not yet called `wg.Add`. -/
def Pool.TakesAdded (pool : Pool) : PoolAct → Prop
  | .take _ => ∀ job ∈ pool.mutex.adding?, ∀ head ∈ pool.dispatchQueue.items.head?,
      head.ticket ≠ job.ticket
  | _ => True

instance Pool.TakesAdded.decidable (pool : Pool) (action : PoolAct) :
    Decidable (pool.TakesAdded action) :=
  match action with
  | .take _ => inferInstanceAs (Decidable (∀ job ∈ pool.mutex.adding?,
      ∀ head ∈ pool.dispatchQueue.items.head?, head.ticket ≠ job.ticket))
  | .lock _ | .offer | .add | .shutdown | .seeStop _ | .finishDrain _ | .worker _ _
  | .watcher _ _ => isTrue trivial

def Pool.InvokesAdded (pool : Pool) : Prop :=
  ∀ ticket, (pool.invocations ticket).isSome = true → ticket ∈ pool.accepted

private theorem Pool.InvokesAdded.place {ticket : Nat} {inv : Invocation}
    (added : pool.InvokesAdded) (found : pool.invocations ticket = some inv) (after : Invocation)
    (event : InvocationEvent) : (pool.place ticket after event).InvokesAdded := by
  intro other invoked
  exact added other (isSome_update found after other ▸ invoked)

private theorem PoolMove.invokesAdded {action : PoolAct} (move : PoolMove pool action next)
    (tickets : pool.Tickets) (takes : pool.TakesAdded action) (added : pool.InvokesAdded) :
    next.InvokesAdded := by
  cases move with
  | locked | refused | offered | shutdownLocked | shutdownCleared | shutdownClosed
  | shutdownReturned | sawStop | drained => exact added
  | added _ => exact fun ticket invoked => List.mem_append_left _ (added ticket invoked)
  | @took worker drains job dispatchQueue _ items =>
      intro ticket invoked
      by_cases same : ticket = job.ticket
      · subst same
        have sent : pool.Sent job.ticket := .inl (by simp [Pool.queued, items])
        rcases tickets.sent_accepted _ sent with member | ⟨other, adding, same⟩
        · exact member
        · have untaken := takes other (by simp [adding, Holder.adding?]) job (by simp [items])
          exact absurd same.symm untaken
      · exact added ticket (by simpa [Function.update_of_ne same] using invoked)
  | watched found _ _ => exact added.place found _ _
  | @worked _ _ _ _ _ after event _ found _ _ =>
      have placed := added.place found after event
      unfold Pool.resume
      split
      · exact placed
      · exact placed

/-- As long as no worker takes a job between its channel send and its `wg.Add`,
every `wg.Done` comes after its `wg.Add` and the counter stays nonnegative. -/
theorem done_follows_add (pool : Pool) (reached : invokePool.ReachableBy Pool.TakesAdded pool) :
    0 ≤ pool.wg ∧ ∀ ticket, pool.released.count ticket ≤ pool.accepted.count ticket := by
  have sound := Pool.sound_of_reachable reached.reachable
  have added : pool.InvokesAdded :=
    reached.invariant Pool.InvokesAdded (by rintro pool rfl ticket ⟨⟩)
      fun pool action next earlier added takes stepped =>
        (Pool.step_move stepped).2.invokesAdded
          (Pool.sound_of_reachable earlier.reachable).tickets takes added
  have subset : pool.released ⊆ pool.accepted :=
    fun ticket member => added ticket (sound.released_invoked member)
  have subperm := sound.released_nodup.subperm subset
  refine ⟨?_, fun ticket => subperm.count_le ticket⟩
  have counter := sound.ledger.counter
  have fewer := subperm.length_le
  omega

/-- Worker 0 takes a job, runs it to its end and answers it. -/
def serve : List PoolAct :=
  [.take 0, .worker 0 (.handler (.returned (some [1]) none)), .worker 0 .call, .worker 0 .call,
    .worker 0 .call, .worker 0 .callSink, .worker 0 .call]

theorem done_follows_add_served : ∃ pool,
    invokePool.ReachableBy Pool.TakesAdded pool ∧ pool.accepted = [0] ∧ pool.released = [0] ∧
      0 ≤ pool.wg ∧ ∀ ticket, pool.released.count ticket ≤ pool.accepted.count ticket := by
  have conforms : invokePool.Conforms Pool.TakesAdded Pool.init
      ([PoolAct.lock 7, .offer, .add] ++ serve) := of_decide_eq_true rfl
  obtain ⟨pool, ran, accepted, released⟩ : ∃ pool,
      invokePool.run Pool.init ([PoolAct.lock 7, .offer, .add] ++ serve) = some pool ∧
        pool.accepted = [0] ∧ pool.released = [0] := ⟨_, rfl, rfl, rfl⟩
  have reached := System.reachableBy_of_run rfl conforms ran
  exact ⟨pool, reached, accepted, released, done_follows_add pool reached⟩

/-- A worker serves the job before its `enqueue` call gets to `wg.Add`. -/
theorem done_before_add_crashes : ∃ pool,
    invokePool.run Pool.init (.lock 7 :: .offer :: serve) = some pool ∧
      pool.mutex = .adding ⟨0, 7⟩ ∧ pool.accepted = [] ∧ pool.released = [0] ∧ pool.wg = -1 ∧
      ∀ action, pool.step action = none :=
  ⟨_, rfl, rfl, rfl, rfl, rfl, fun _ => rfl⟩

/-! ## Exactly one answer -/

/-- With the counter at zero after the pool stopped accepting, every job that
was sent has called `wg.Done`. -/
private theorem Pool.Sound.all_released (sound : pool.Sound) (closed : pool.accepting = false)
    (zero : pool.wg = 0) {ticket : Nat} (sent : pool.Sent ticket) :
    pool.released.count ticket = 1 := by
  have accepts : ∀ other, pool.Sent other → other ∈ pool.accepted := by
    intro other isSent
    rcases sound.tickets.sent_accepted other isSent with member | ⟨job, adding, _⟩
    · exact member
    · exact absurd adding (sound.closing.adding closed job)
  have subset : pool.released ⊆ pool.accepted :=
    fun other member => accepts other (.inr (sound.released_invoked member))
  have counter := sound.ledger.counter
  have perm := (sound.released_nodup.subperm subset).perm_of_length_le (by omega)
  rw [perm.count_eq ticket]
  exact List.count_eq_one_of_mem sound.tickets.accepted_unique (accepts ticket sent)

private theorem Pool.Sound.not_accepting (sound : pool.Sound)
    (returned : pool.shutdown = .returned) :
    pool.accepting = false := by
  cases open_ : pool.accepting with
  | false => rfl
  | true =>
      have early := sound.closing.accepting.mp open_
      simp [returned] at early

/-- `shutdown` has returned, which it does with the counter at zero. -/
def Pool.Down (pool : Pool) : Prop := pool.shutdown = .returned ∧ pool.wg = 0

private theorem PoolMove.down {action : PoolAct} (move : PoolMove pool action next)
    (sound : pool.Sound) (down : pool.Down) :
    next.Down ∧ next.calls = pool.calls ∧ next.answered = pool.answered := by
  obtain ⟨returned, zero⟩ := down
  have closed := sound.not_accepting returned
  -- a finished invocation makes only quiet steps
  have quiet : ∀ {ticket inv after event action}, pool.invocations ticket = some inv →
      inv.step action = some (after, event) →
      (pool.place ticket after event).Down ∧
        (pool.place ticket after event).calls = pool.calls ∧
        (pool.place ticket after event).answered = pool.answered := by
    intro ticket inv after event action found stepped
    have invoked : pool.Sent ticket := .inr (by simp [found])
    have released := sound.all_released closed zero invoked
    have settled := sound.ledger.settled ticket inv found
    rw [released] at settled
    cases settled.quiet stepped
    refine ⟨⟨returned, ?_⟩, ?_, ?_⟩ <;> simp [Pool.place, InvocationEvent.sinkCalls, zero]
  cases move with
  | locked | refused | offered | took | sawStop | drained => exact ⟨⟨returned, zero⟩, rfl, rfl⟩
  | @added job adding => exact absurd adding (sound.closing.adding closed job)
  | shutdownLocked idle _ => simp [idle] at returned
  | shutdownCleared locked => simp [locked] at returned
  | shutdownClosed unlocked => simp [unlocked] at returned
  | shutdownReturned waiting _ => simp [waiting] at returned
  | watched found _ stepped => exact quiet found stepped
  | worked _ found _ stepped =>
      unfold Pool.resume
      split
      · exact quiet found stepped
      · exact quiet found stepped

private theorem down_of_returned (reached : invokePool.Reachable pool)
    (returned : pool.shutdown = .returned) : pool.Down := by
  revert returned
  refine reached.invariant (fun pool => pool.shutdown = .returned → pool.Down) ?_ ?_
  · rintro pool rfl ⟨⟩
  · intro pool action next earlier before stepped returned
    have move := (Pool.step_move stepped).2
    by_cases already : pool.shutdown = .returned
    · exact (move.down (Pool.sound_of_reachable earlier) (before already)).1
    · cases move with
      | shutdownReturned _ zero => exact ⟨rfl, zero⟩
      | locked | refused | offered | added | took | sawStop | drained | watched =>
          exact absurd returned already
      | worked =>
          unfold Pool.resume at returned
          split at returned <;> exact absurd returned already
      | shutdownLocked | shutdownCleared | shutdownClosed => cases returned

theorem Pool.answered_of_returned (reached : invokePool.Reachable pool)
    (returned : pool.shutdown = .returned) {ticket : Nat} (accepted : ticket ∈ pool.accepted) :
    pool.begun ticket = 1 ∧ pool.answered.count ticket = 1 := by
  have sound := Pool.sound_of_reachable reached
  have released := sound.all_released (sound.not_accepting returned)
    (down_of_returned reached returned).2 (sound.tickets.accepted_sent ticket accepted)
  obtain ⟨inv, found⟩ := Option.isSome_iff_exists.mp
    (sound.released_invoked (List.count_pos_iff.mp (released ▸ Nat.one_pos)))
  have settled := sound.ledger.settled ticket inv found
  rw [released] at settled
  exact settled.of_released

theorem Pool.silent_after_returned {action : PoolAct} (reached : invokePool.Reachable pool)
    (returned : pool.shutdown = .returned) (stepped : pool.step action = some next) :
    next.shutdown = .returned ∧ next.calls = pool.calls ∧ next.answered = pool.answered := by
  obtain ⟨down, calls, answered⟩ := (Pool.step_move stepped).2.down
    (Pool.sound_of_reachable reached) (down_of_returned reached returned)
  exact ⟨down.1, calls, answered⟩

/-- In every reachable state each job has at most one sink call and each refused
job none. Once `shutdown` returned, every accepted job has had its one sink call
and no further sink call is made. -/
theorem answers_exactly_once (pool : Pool) (reached : invokePool.Reachable pool) :
    (∀ ticket, pool.begun ticket ≤ 1) ∧
      (∀ ticket ∈ pool.refused, pool.begun ticket = 0) ∧
      (pool.shutdown = .returned →
        (∀ ticket ∈ pool.accepted, pool.begun ticket = 1 ∧ pool.answered.count ticket = 1) ∧
          ∀ later, invokePool.Steps (fun _ _ => True) pool later → later.calls = pool.calls) := by
  have sound := Pool.sound_of_reachable reached
  refine ⟨?_, ?_, ?_⟩
  · intro ticket
    cases lookup : pool.invocations ticket with
    | none =>
        have silent := sound.ledger.silent ticket lookup
        omega
    | some inv => exact (sound.ledger.settled ticket inv lookup).begun_le.1
  · intro ticket refused
    obtain ⟨_, unsent⟩ := sound.tickets.refused_unsent ticket refused
    have absent : pool.invocations ticket = none := by
      by_contra invoked
      exact unsent (.inr (Option.isSome_iff_ne_none.mpr invoked))
    exact (sound.ledger.silent ticket absent).1
  · intro returned
    refine ⟨fun ticket accepted => Pool.answered_of_returned reached returned accepted, ?_⟩
    intro later path
    have kept := path.preserves (fun state => invokePool.Reachable state ∧
        state.shutdown = .returned ∧ state.calls = pool.calls)
      (fun state action after holds _ stepped => ?_) ⟨reached, returned, rfl⟩
    · exact kept.2.2
    · obtain ⟨earlier, still, same⟩ := holds
      obtain ⟨after, unchanged, _⟩ := Pool.silent_after_returned earlier still stepped
      exact ⟨earlier.step stepped, after, unchanged.trans same⟩

/-- One job is served, and one refused while `shutdown` is under way. -/
theorem answers_exactly_once_shutdown : ∃ pool, invokePool.Reachable pool ∧
    pool.shutdown = .returned ∧ pool.accepted = [0] ∧ pool.refused = [1] ∧
      pool.begun 0 = 1 ∧ pool.begun 1 = 0 ∧
      ∀ later, invokePool.Steps (fun _ _ => True) pool later → later.calls = pool.calls := by
  obtain ⟨pool, ran, returned, accepted, refused⟩ : ∃ pool,
      invokePool.run Pool.init ([PoolAct.lock 7, .offer, .add] ++ serve ++
        [PoolAct.shutdown, .shutdown, .lock 8, .offer, .shutdown, .shutdown]) = some pool ∧
      pool.shutdown = .returned ∧ pool.accepted = [0] ∧ pool.refused = [1] :=
    ⟨_, rfl, rfl, rfl, rfl⟩
  have reached := System.reachable_of_run rfl ran
  obtain ⟨_, refusedNone, afterwards⟩ := answers_exactly_once pool reached
  obtain ⟨answered, silent⟩ := afterwards returned
  exact ⟨pool, reached, returned, accepted, refused, (answered 0 (by simp [accepted])).1,
    refusedNone 1 (by simp [refused]), silent⟩

end Counting

/-! ## Progress during shutdown -/

namespace Pool

/-- `enqueue` returned true and no sink call for the job has returned. -/
def Unanswered (pool : Pool) (ticket : Nat) : Prop :=
  ticket ∈ pool.accepted ∧ pool.answered.count ticket = 0

/-- The steps that move answers on without a handler returning: a timeout, a
worker taking a job, and whatever a worker does after its handler or a watcher
does after the timeout. A watcher that finds the flag swapped just ends. -/
inductive Progress (pool : Pool) : PoolAct → Prop
  | take {worker : Fin invokeWorkerCount} : Progress pool (.take worker)
  | timeout {ticket : Nat} : Progress pool (.watcher ticket .timeout)
  | call {worker : Fin invokeWorkerCount} : Progress pool (.worker worker .call)
  | callSink {worker : Fin invokeWorkerCount} : Progress pool (.worker worker .callSink)
  | watcher {ticket : Nat} {inv : Invocation} : pool.invocations ticket = some inv →
      inv.completed = false ∨ inv.watcher ≠ .waiting → Progress pool (.watcher ticket .watcher)
  | watcherSink {ticket : Nat} : Progress pool (.watcher ticket .watcherSink)

/-- The worker is inside a handler whose timeout has been reported. -/
def Stuck (pool : Pool) (worker : Fin invokeWorkerCount) : Prop :=
  ∃ ticket drains inv, pool.workers worker = .invoking ticket drains ∧
    pool.invocations ticket = some inv ∧ inv.call = .running ∧ inv.watcher = .gone

/-- Every worker is inside a handler whose timeout has been reported, and every
job that was taken from the queue has called `wg.Done`. -/
def Starved (pool : Pool) : Prop :=
  (∀ worker, pool.Stuck worker) ∧
    ∀ ticket inv, pool.invocations ticket = some inv → ticket ∈ pool.released

end Pool

/-- A worker takes the next job, whose ticket is its own number, and the job
times out and is answered while the handler goes on running. -/
def abandon (worker : Fin invokeWorkerCount) : List PoolAct :=
  [.take worker, .watcher worker .timeout, .watcher worker .watcher, .watcher worker .watcher,
    .watcher worker .watcherSink, .watcher worker .watcher]

section Progress

variable {pool : Pool}

theorem worker_step {worker : Fin invokeWorkerCount} {ticket : Nat} {drains : Bool}
    {inv after : Invocation} {event : InvocationEvent} {action : InvocationAct}
    (alive : 0 ≤ pool.wg) (invoking : pool.workers worker = .invoking ticket drains)
    (found : pool.invocations ticket = some inv) (byWorker : action.byWorker = true)
    (stepped : inv.step action = some (after, event)) :
    pool.step (.worker worker action) =
      some ((pool.place ticket after event).resume worker after drains) := by
  simp [Pool.step, Pool.stepRunning, not_lt.mpr alive, invoking, found, byWorker, stepped]

private theorem watcher_step {ticket : Nat} {inv after : Invocation} {event : InvocationEvent}
    {action : InvocationAct} (alive : 0 ≤ pool.wg) (found : pool.invocations ticket = some inv)
    (other : action.byWorker = false) (stepped : inv.step action = some (after, event)) :
    pool.step (.watcher ticket action) = some (pool.place ticket after event) := by
  simp [Pool.step, Pool.stepRunning, not_lt.mpr alive, found, other, stepped]

private theorem progress_of_call {worker : Fin invokeWorkerCount} {ticket : Nat} {drains : Bool}
    {inv : Invocation} (alive : 0 ≤ pool.wg)
    (invoking : pool.workers worker = .invoking ticket drains)
    (found : pool.invocations ticket = some inv) (ended : inv.call ≠ .running)
    (open_ : inv.call ≠ .finished) : ∃ action next, pool.Progress action ∧
      pool.step action = some next := by
  by_cases sinking : ∃ result, inv.call = .sinking result
  · obtain ⟨result, sinking⟩ := sinking
    have stepped : ∃ result, inv.step .callSink = some result := by
      simp [Invocation.step, sinking]
    obtain ⟨⟨after, event⟩, stepped⟩ := stepped
    exact ⟨_, _, .callSink, worker_step alive invoking found rfl stepped⟩
  · have stepped : ∃ result, inv.step .call = some result := by
      simp only [Invocation.step, Invocation.callStep]
      split <;> simp_all
      all_goals split <;> simp
    obtain ⟨⟨after, event⟩, stepped⟩ := stepped
    exact ⟨_, _, .call, worker_step alive invoking found rfl stepped⟩

/-- An invocation whose watcher can still answer, or whose timeout can still
fire, can move on. -/
private theorem progress_of_watcher {ticket : Nat} {inv : Invocation} (alive : 0 ≤ pool.wg)
    (found : pool.invocations ticket = some inv) (present : inv.watcher ≠ .gone)
    (unclaimed : inv.watcher = .waiting → inv.completed = false) :
    ∃ action next, pool.Progress action ∧ pool.step action = some next := by
  cases watcher : inv.watcher with
  | gone => exact absurd watcher present
  | sinking =>
      have stepped : ∃ result, inv.step .watcherSink = some result := by
        simp [Invocation.step, watcher]
      obtain ⟨⟨after, event⟩, stepped⟩ := stepped
      exact ⟨_, _, .watcherSink, watcher_step alive found rfl stepped⟩
  | reporting | releasing =>
      have stepped : ∃ result, inv.step .watcher = some result := by
        simp [Invocation.step, Invocation.watcherStep, watcher]
      obtain ⟨⟨after, event⟩, stepped⟩ := stepped
      exact ⟨_, _, .watcher found (.inr (by simp [watcher])), watcher_step alive found rfl stepped⟩
  | waiting =>
      cases expired : inv.expired with
      | false =>
          have stepped : ∃ result, inv.step .timeout = some result := by
            simp [Invocation.step, expired]
          obtain ⟨⟨after, event⟩, stepped⟩ := stepped
          exact ⟨_, _, .timeout, watcher_step alive found rfl stepped⟩
      | true =>
          have stepped : ∃ result, inv.step .watcher = some result := by
            simp [Invocation.step, Invocation.watcherStep, watcher, expired, unclaimed watcher]
          obtain ⟨⟨after, event⟩, stepped⟩ := stepped
          exact ⟨_, _, .watcher found (.inl (unclaimed watcher)),
            watcher_step alive found rfl stepped⟩

/-- A job that was taken and not released can move on, whatever its handler does. -/
private theorem progress_of_taken {ticket : Nat} {inv : Invocation} (sound : pool.Sound)
    (alive : 0 ≤ pool.wg) (found : pool.invocations ticket = some inv)
    (unreleased : ticket ∉ pool.released) :
    ∃ action next, pool.Progress action ∧ pool.step action = some next := by
  have settled := sound.ledger.settled ticket inv found
  rw [List.count_eq_zero_of_not_mem unreleased] at settled
  cases completed : inv.completed with
  | false =>
      have waiting := (settled.open_ completed).2.2.1
      exact progress_of_watcher alive found (by simp [waiting]) fun _ => completed
  | true =>
      have one := settled.claimed completed
      by_cases idle : inv.watcher.answers = 0
      · have answers : inv.call.answers = 1 := by omega
        obtain ⟨worker, drains, invoking⟩ := sound.crew.attended ticket inv found (by
          intro isOver
          simp [isOver] at answers)
        refine progress_of_call alive invoking found ?_ ?_ <;> intro pc <;> simp [pc] at answers
      · refine progress_of_watcher alive found ?_ ?_ <;> intro pc <;> simp [pc] at idle

private theorem progress_of_worker (sound : pool.Sound) (alive : 0 ≤ pool.wg)
    (waiting : pool.dispatchQueue.items ≠ []) {worker : Fin invokeWorkerCount}
    (free : ¬ pool.Stuck worker) :
    ∃ action next, pool.Progress action ∧ pool.step action = some next := by
  obtain ⟨job, rest, items⟩ := List.exists_cons_of_ne_nil waiting
  have popped : ∃ taken, pool.dispatchQueue.pop? = some taken := by
    cases empty : pool.dispatchQueue.pop? with
    | some taken => exact ⟨taken, rfl⟩
    | none => exact absurd (Channel.pop?_eq_none empty) waiting
  obtain ⟨taken, popped⟩ := popped
  cases at_ : pool.workers worker with
  | selecting | draining =>
      have stepped : ∃ next, pool.step (.take worker) = some next := by
        simp [Pool.step, Pool.stepRunning, not_lt.mpr alive, at_, Pool.take, popped]
      obtain ⟨next, stepped⟩ := stepped
      exact ⟨_, next, .take, stepped⟩
  | exited => exact absurd (sound.closing.exited worker at_).1 waiting
  | invoking ticket drains =>
      obtain ⟨inv, found, open_⟩ := sound.crew.employed worker ticket drains at_
      by_cases running : inv.call = .running
      · have present : inv.watcher ≠ .gone :=
          fun gone => free ⟨ticket, drains, inv, at_, found, running, gone⟩
        refine progress_of_watcher alive found present fun waits => ?_
        have settled := sound.ledger.settled ticket inv found
        cases completed : inv.completed with
        | false => rfl
        | true =>
            have one := settled.claimed completed
            simp only [running, waits, CallPc.answers, WatcherPc.answers] at one
            rcases settled.finished (by omega) with isOver | gone
            · exact absurd isOver open_
            · exact absurd gone present
      · exact progress_of_call alive at_ found running open_

private theorem progress_of_fed (sound : pool.Sound) (alive : 0 ≤ pool.wg) {first : Nat}
    (owed : pool.Unanswered first) (fed : ¬ pool.Starved) :
    ∃ action next, pool.Progress action ∧ pool.step action = some next := by
  by_cases released : ∀ ticket inv, pool.invocations ticket = some inv → ticket ∈ pool.released
  · obtain ⟨worker, free⟩ := not_forall.mp fun stuck => fed ⟨stuck, released⟩
    refine progress_of_worker sound alive (fun empty => ?_) free
    -- a job with no answer was not released, so it was not taken
    rcases sound.tickets.accepted_sent first owed.1 with member | invoked
    · simp [Pool.queued, empty] at member
    · obtain ⟨inv, found⟩ := Option.isSome_iff_exists.mp invoked
      have counted := List.count_pos_iff.mpr (released first inv found)
      have bounds := (sound.ledger.settled first inv found).begun_le
      have unanswered := owed.2
      omega
  · obtain ⟨ticket, unreleased⟩ := not_forall.mp released
    obtain ⟨inv, taken⟩ := not_forall.mp unreleased
    obtain ⟨found, unreleased⟩ := Classical.not_imp.mp taken
    exact progress_of_taken sound alive found unreleased

private theorem stuck_worker_rests {worker : Fin invokeWorkerCount} {action : InvocationAct}
    {next : Pool} (stuck : pool.Stuck worker)
    (stepped : pool.step (.worker worker action) = some next) :
    ∃ outcome, action = .handler outcome := by
  obtain ⟨ticket, drains, inv, invoking, found, running, _⟩ := stuck
  cases (Pool.step_move stepped).2 with
  | worked at_ lookup byWorker moved =>
      rw [invoking] at at_
      cases at_
      rw [found] at lookup
      cases lookup
      cases action with
      | handler outcome => exact ⟨outcome, rfl⟩
      | call => simp [Invocation.step, Invocation.callStep, running] at moved
      | callSink => simp [Invocation.step, running] at moved
      | timeout | watcher | watcherSink => cases byWorker

/-- All that is left of a released invocation is a watcher that finds the flag swapped. -/
private theorem released_watcher_rests {ticket : Nat} {action : InvocationAct} {next : Pool}
    (sound : pool.Sound) (released : ticket ∈ pool.released)
    (stepped : pool.step (.watcher ticket action) = some next) :
    action = .watcher ∧ ∃ inv, pool.invocations ticket = some inv ∧ inv.completed = true ∧
      inv.watcher = .waiting := by
  cases (Pool.step_move stepped).2 with
  | @watched _ _ inv _ _ found other moved =>
      have settled := sound.ledger.settled ticket inv found
      have timed := sound.ledger.timed ticket inv found
      have done := List.count_pos_iff.mpr released
      have completed : inv.completed = true := by
        cases open_ : inv.completed with
        | true => rfl
        | false =>
            have none := (settled.open_ open_).2.2.2
            omega
      have expired : inv.expired = true := by
        rcases settled.finished done with isOver | gone
        · exact timed.call (by simp [isOver])
        · exact timed.watcher (by simp [gone])
      have one := settled.claimed completed
      have idle : inv.watcher.answers = 0 := by omega
      cases action with
      | handler | call | callSink => cases other
      | timeout => simp [Invocation.step, expired] at moved
      | watcherSink =>
          obtain ⟨sinking, _⟩ := Option.ite_none_right_eq_some.mp moved
          simp [sinking] at idle
      | watcher =>
          refine ⟨rfl, inv, found, completed, ?_⟩
          cases pc : inv.watcher with
          | waiting => rfl
          | gone => simp [Invocation.step, Invocation.watcherStep, pc] at moved
          | reporting | sinking | releasing => simp [pc] at idle

private theorem starved_blocks {action : PoolAct} {next : Pool} (sound : pool.Sound)
    (starved : pool.Starved) (progress : pool.Progress action) : pool.step action ≠ some next := by
  intro stepped
  have watched : ∀ {ticket action}, pool.step (.watcher ticket action) = some next →
      action = .watcher ∧ ∃ inv, pool.invocations ticket = some inv ∧ inv.completed = true ∧
        inv.watcher = .waiting := by
    intro ticket action stepped
    cases (Pool.step_move stepped).2 with
    | watched found _ _ =>
        exact released_watcher_rests sound (starved.2 ticket _ found) stepped
  cases progress with
  | @take worker =>
      obtain ⟨ticket, drains, _, invoking, _⟩ := starved.1 worker
      cases (Pool.step_move stepped).2 with
      | @took _ draining _ _ loop _ =>
          rw [invoking] at loop
          cases draining <;> cases loop
  | @call worker | @callSink worker =>
      obtain ⟨outcome, same⟩ := stuck_worker_rests (starved.1 worker) stepped
      cases same
  | timeout | watcherSink => cases (watched stepped).1
  | watcher found pending =>
      obtain ⟨_, inv, lookup, completed, waiting⟩ := watched stepped
      rw [found] at lookup
      cases lookup
      rcases pending with unswapped | busy
      · simp [completed] at unswapped
      · exact busy waiting

/-- While an accepted job has no answer, a live pool has a step to take that no
handler has to return for, except when it is starved. -/
theorem shutdown_progresses (pool : Pool) (reached : invokePool.Reachable pool)
    (pending : ∃ ticket, pool.Unanswered ticket) :
    (∃ action next, pool.Progress action ∧ pool.step action = some next) ↔
      0 ≤ pool.wg ∧ ¬ pool.Starved := by
  have sound := Pool.sound_of_reachable reached
  obtain ⟨first, owed⟩ := pending
  constructor
  · rintro ⟨action, next, progress, stepped⟩
    refine ⟨(Pool.step_move stepped).1, fun starved => ?_⟩
    exact starved_blocks sound starved progress stepped
  · rintro ⟨alive, fed⟩
    exact progress_of_fed sound alive owed fed

/-- The second job is queued, and the first one timed out and answered, when `shutdown` waits. -/
theorem shutdown_progresses_queued : ∃ pool, invokePool.Reachable pool ∧
    pool.shutdown = .waiting ∧ 0 ≤ pool.wg ∧ (∃ ticket, pool.Unanswered ticket) ∧
      ¬ pool.Starved ∧ ∃ action next, pool.Progress action ∧ pool.step action = some next := by
  obtain ⟨pool, ran, waiting, wg, idle, owed⟩ : ∃ pool,
      invokePool.run Pool.init ([PoolAct.lock 7, .offer, .add, .lock 8, .offer, .add] ++
        abandon 0 ++ [PoolAct.shutdown, .shutdown, .shutdown]) = some pool ∧
      pool.shutdown = .waiting ∧ pool.wg = 1 ∧ pool.workers 1 = .selecting ∧
      pool.Unanswered 1 := ⟨_, rfl, rfl, rfl, rfl, by decide, rfl⟩
  have reached := System.reachable_of_run rfl ran
  have fed : ¬ pool.Starved := by
    rintro ⟨stuck, _⟩
    obtain ⟨ticket, drains, _, invoking, _⟩ := stuck 1
    simp [idle] at invoking
  have alive : 0 ≤ pool.wg := by omega
  exact ⟨pool, reached, waiting, alive, ⟨1, owed⟩, fed,
    (shutdown_progresses pool reached ⟨1, owed⟩).mpr ⟨alive, fed⟩⟩

/-- Nine jobs are accepted, eight of them time out in handlers that go on
running, and `shutdown` is called. -/
def blockedShutdown : List PoolAct :=
  (List.replicate 9 [PoolAct.lock 7, .offer, .add]).flatten ++
    (List.finRange invokeWorkerCount).flatMap abandon ++
    [PoolAct.shutdown, .shutdown, .shutdown]

theorem stuck_handlers_block_shutdown : ∃ pool,
    invokePool.run Pool.init blockedShutdown = some pool ∧ pool.shutdown = .waiting ∧
      pool.wg = 1 ∧ pool.Unanswered 8 ∧
      ∀ action next, pool.step action = some next →
        (∃ correlationID, action = .lock correlationID) ∨
          ∃ worker outcome, action = .worker worker (.handler outcome) := by
  obtain ⟨pool, ran, waiting, wg, owed, free, issued, workers, abandoned⟩ : ∃ pool,
      invokePool.run Pool.init blockedShutdown = some pool ∧ pool.shutdown = .waiting ∧
      pool.wg = 1 ∧ pool.Unanswered 8 ∧ pool.mutex = .free ∧ pool.nextTicket = 9 ∧
      (∀ worker, pool.workers worker = .invoking worker false) ∧
      ∀ ticket < 9, ∀ inv ∈ pool.invocations ticket,
        inv.call = .running ∧ inv.expired = true ∧ inv.watcher = .gone :=
    ⟨_, rfl, rfl, rfl, ⟨by decide, rfl⟩, rfl, rfl, by decide, by decide⟩
  refine ⟨pool, ran, waiting, wg, owed, ?_⟩
  have sound := Pool.sound_of_reachable (System.reachable_of_run rfl ran)
  have left : ∀ {ticket inv}, pool.invocations ticket = some inv →
      inv.call = .running ∧ inv.expired = true ∧ inv.watcher = .gone := by
    intro ticket inv found
    have below := sound.tickets.below ticket (.inr (by simp [found]))
    exact abandoned ticket (issued ▸ below) inv found
  intro action next stepped
  cases (Pool.step_move stepped).2 with
  | locked _ => exact .inl ⟨_, rfl⟩
  | refused holding | offered holding _ _ | added holding => simp [free] at holding
  | shutdownLocked at_ _ | shutdownCleared at_ | shutdownClosed at_ => simp [waiting] at at_
  | shutdownReturned _ zero => omega
  | @took worker drains _ _ loop _ =>
      rw [workers worker] at loop
      cases drains <;> cases loop
  | sawStop at_ _ | drained at_ _ => simp [workers] at at_
  | @worked worker ticket drains action inv after event invoking found _ _ =>
      obtain ⟨running, _, gone⟩ := left found
      obtain ⟨outcome, rfl⟩ :=
        stuck_worker_rests ⟨ticket, drains, inv, invoking, found, running, gone⟩ stepped
      exact .inr ⟨worker, outcome, rfl⟩
  | @watched ticket action inv after event found other moved =>
      obtain ⟨_, expired, gone⟩ := left found
      cases action with
      | handler | call | callSink => cases other
      | timeout => simp [Invocation.step, expired] at moved
      | watcher => simp [Invocation.step, Invocation.watcherStep, gone] at moved
      | watcherSink => simp [Invocation.step, gone] at moved

end Progress

end LibddRc.Go
