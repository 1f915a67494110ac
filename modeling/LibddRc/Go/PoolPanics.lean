import LibddRc.Go.PoolAnswers

/-! A handler that panics. `invokeHandler` defers its recovery first and `cancel`
second, so `cancel` runs first: the watcher can wake and swap the flag before
the recovery does. -/

set_option autoImplicit false

namespace LibddRc.Go

open Foundation

def panicResult (job : DispatchJob) (value : GoString) : DispatchResult :=
  ⟨job.correlationID, none, some (panicText value)⟩

def panicAnswer (job : DispatchJob) (value : GoString) : SinkCall :=
  .sendDispatchResult (panicResult job value)

/-- The worker is between its handler's panic and the swap of the recovery. -/
@[simp] def CallPc.unwinds : CallPc → Bool
  | .unwinding _ | .recovering _ => true
  | .running | .returned _ _ | .cancelling _ | .delivering _ | .sinking _ | .releasing
  | .finished => false

/-- The next statement of the watcher swaps the flag. -/
def Invocation.watcherSwaps (inv : Invocation) : Bool :=
  inv.watcher = .waiting ∧ inv.completed = false

def InvocationEvent.sinkCall : InvocationEvent → List SinkCall
  | .begins call => [call]
  | .quiet | .returns | .releases => []

/-! ## One invocation -/

section Recovery

variable {job : DispatchJob} {value : GoString} {inv next : Invocation} {event : InvocationEvent}
  {calls : List SinkCall}

/-- The stages of an invocation whose panic is reported by its worker, each with
the sink calls made so far. -/
inductive Recovers (job : DispatchJob) (value : GoString) : Invocation → List SinkCall → Prop
  | unwinding {expired : Bool} :
      Recovers job value ⟨job, .unwinding value, false, expired, .waiting⟩ []
  | recovering {expired : Bool} :
      Recovers job value ⟨job, .recovering value, false, expired, .waiting⟩ []
  | delivering {expired : Bool} {watcher : WatcherPc} : watcher.answers = 0 →
      Recovers job value
        ⟨job, .delivering (panicResult job value), true, expired, watcher⟩ []
  | sinking {expired : Bool} {watcher : WatcherPc} : watcher.answers = 0 →
      Recovers job value ⟨job, .sinking (panicResult job value), true, expired, watcher⟩
        [panicAnswer job value]
  | releasing {expired : Bool} {watcher : WatcherPc} : watcher.answers = 0 →
      Recovers job value ⟨job, .releasing, true, expired, watcher⟩ [panicAnswer job value]
  | finished {expired : Bool} {watcher : WatcherPc} : watcher.answers = 0 →
      Recovers job value ⟨job, .finished, true, expired, watcher⟩ [panicAnswer job value]

theorem Recovers.calls_eq (recovers : Recovers job value inv calls) {call : SinkCall}
    (member : call ∈ calls) : call = panicAnswer job value := by
  cases recovers with
  | unwinding | recovering | delivering => cases member
  | sinking | releasing | finished => exact List.mem_singleton.mp member

private theorem recovers_call (recovers : Recovers job value inv calls)
    (stepped : inv.callStep = some (next, event)) :
    Recovers job value next (calls ++ event.sinkCall) := by
  cases recovers with
  | unwinding =>
      cases stepped
      exact .recovering
  | recovering =>
      cases stepped
      exact .delivering rfl
  | delivering silent =>
      cases stepped
      exact .sinking silent
  | releasing silent =>
      cases stepped
      exact .finished silent
  | sinking | finished => cases stepped

/-- With the flag swapped by the worker, the watcher finds it so and leaves. -/
private theorem watcher_leaves {call : CallPc} {expired : Bool} {watcher : WatcherPc}
    (silent : watcher.answers = 0)
    (stepped : Invocation.watcherStep ⟨job, call, true, expired, watcher⟩ = some (next, event)) :
    next = ⟨job, call, true, expired, .gone⟩ ∧ event = .quiet := by
  cases watcher with
  | waiting =>
      cases expired with
      | true =>
          cases stepped
          exact ⟨rfl, rfl⟩
      | false => cases stepped
  | reporting | sinking | releasing => cases silent
  | gone => cases stepped

private theorem recovers_watcher (recovers : Recovers job value inv calls)
    (recovered : inv.watcherSwaps = true → inv.call.unwinds = false)
    (stepped : inv.watcherStep = some (next, event)) :
    Recovers job value next (calls ++ event.sinkCall) := by
  cases recovers with
  | unwinding | recovering => cases recovered rfl
  | delivering silent =>
      obtain ⟨rfl, rfl⟩ := watcher_leaves silent stepped
      exact .delivering rfl
  | sinking silent =>
      obtain ⟨rfl, rfl⟩ := watcher_leaves silent stepped
      exact .sinking rfl
  | releasing silent =>
      obtain ⟨rfl, rfl⟩ := watcher_leaves silent stepped
      exact .releasing rfl
  | finished silent =>
      obtain ⟨rfl, rfl⟩ := watcher_leaves silent stepped
      exact .finished rfl

theorem Recovers.step {action : InvocationAct} (recovers : Recovers job value inv calls)
    (orderly : action = .watcher → inv.watcherSwaps = true → inv.call.unwinds = false)
    (stepped : inv.step action = some (next, event)) :
    Recovers job value next (calls ++ event.sinkCall) := by
  cases action with
  | call => exact recovers_call recovers stepped
  | watcher => exact recovers_watcher recovers (orderly rfl) stepped
  | handler outcome => cases recovers <;> cases stepped
  | callSink =>
      cases recovers with
      | sinking silent =>
          cases stepped
          exact .releasing silent
      | unwinding | recovering | delivering | releasing | finished => cases stepped
  | timeout =>
      obtain ⟨_, same⟩ := Option.ite_none_left_eq_some.mp stepped
      cases same
      cases recovers with
      | unwinding => exact .unwinding
      | recovering => exact .recovering
      | delivering silent => exact .delivering silent
      | sinking silent => exact .sinking silent
      | releasing silent => exact .releasing silent
      | finished silent => exact .finished silent
  | watcherSink =>
      obtain ⟨sinking, _⟩ := Option.ite_none_right_eq_some.mp stepped
      cases recovers with
      | unwinding | recovering => cases sinking
      | delivering silent | sinking silent | releasing silent | finished silent =>
          cases sinking
          cases silent

/-- A handler that panics before the context is done leaves the flag unswapped. -/
private theorem recovers_of_panic {begun returned released : Nat}
    (settled : inv.Settled begun returned released) (timed : inv.Timed)
    (early : inv.expired = false)
    (stepped : inv.step (.handler (.panicked value)) = some (next, event)) :
    Recovers inv.job value next [] ∧ event = .quiet ∧ begun = 0 := by
  obtain ⟨running, same⟩ := Option.ite_none_right_eq_some.mp stepped
  cases same
  have waiting : inv.watcher = .waiting := by
    by_contra past
    simp [timed.watcher past] at early
  have unswapped : inv.completed = false := by
    by_contra swapped
    have one := settled.claimed (by simpa using swapped)
    simp only [running, waiting, CallPc.answers, WatcherPc.answers] at one
    have ended := settled.finished (by omega)
    simp [running, waiting] at ended
  have begunEq := settled.begun_eq
  simp only [running, waiting, CallPc.calls, WatcherPc.calls] at begunEq
  have released := (settled.open_ unswapped).2.2.2
  obtain ⟨job, call, completed, expired, watcher⟩ := inv
  cases waiting
  cases unswapped
  exact ⟨.unwinding, rfl, by omega⟩

end Recovery

/-! ## In the pool -/

namespace Pool

def callsFor (pool : Pool) (ticket : Nat) : List SinkCall :=
  (pool.calls.filter fun entry => entry.1 = ticket).map Prod.snd

/-- The watcher of the job does not swap the flag while its worker unwinds. -/
def RecoversFirst (ticket : Nat) (pool : Pool) : PoolAct → Prop
  | .watcher other .watcher => other = ticket →
      ∀ inv ∈ pool.invocations ticket, inv.watcherSwaps = true → inv.call.unwinds = false
  | _ => True

instance RecoversFirst.decidable (ticket : Nat) (pool : Pool) (action : PoolAct) :
    Decidable (pool.RecoversFirst ticket action) :=
  match action with
  | .watcher other .watcher => inferInstanceAs (Decidable (other = ticket →
      ∀ inv ∈ pool.invocations ticket, inv.watcherSwaps = true → inv.call.unwinds = false))
  | .watcher _ (.handler _) | .watcher _ .call | .watcher _ .callSink | .watcher _ .timeout
  | .watcher _ .watcherSink | .lock _ | .offer | .add | .shutdown | .take _ | .seeStop _
  | .finishDrain _ | .worker _ _ => isTrue trivial

/-- The job's panic is being reported, or was. -/
def Reports (pool : Pool) (ticket : Nat) (job : DispatchJob) (value : GoString) : Prop :=
  ∃ inv, pool.invocations ticket = some inv ∧ Recovers job value inv (pool.callsFor ticket)

end Pool

section Reports

variable {pool next : Pool} {ticket : Nat} {job : DispatchJob} {value : GoString}

private theorem mem_callsFor {call : SinkCall} :
    call ∈ pool.callsFor ticket ↔ (ticket, call) ∈ pool.calls := by
  simp [Pool.callsFor]

private theorem callsFor_place_self (pool : Pool) (ticket : Nat) (after : Invocation)
    (event : InvocationEvent) : (pool.place ticket after event).callsFor ticket =
      pool.callsFor ticket ++ event.sinkCall := by
  cases event <;> simp [Pool.callsFor, Pool.place, InvocationEvent.sinkCalls,
    InvocationEvent.sinkCall]

private theorem callsFor_place_other (pool : Pool) {ticket other : Nat} (after : Invocation)
    (event : InvocationEvent) (different : other ≠ ticket) :
    (pool.place other after event).callsFor ticket = pool.callsFor ticket := by
  cases event <;> simp [Pool.callsFor, Pool.place, InvocationEvent.sinkCalls, different]

private theorem Pool.Reports.place {other : Nat} {inv after : Invocation}
    {event : InvocationEvent} {action : InvocationAct} (reports : pool.Reports ticket job value)
    (found : pool.invocations other = some inv)
    (orderly : action = .watcher → other = ticket → inv.watcherSwaps = true →
      inv.call.unwinds = false)
    (stepped : inv.step action = some (after, event)) :
    (pool.place other after event).Reports ticket job value := by
  obtain ⟨current, lookup, recovers⟩ := reports
  by_cases same : other = ticket
  · subst same
    rw [found] at lookup
    cases lookup
    refine ⟨after, by simp [Pool.place], ?_⟩
    rw [callsFor_place_self]
    exact recovers.step (fun watcher => orderly watcher rfl) stepped
  · refine ⟨current, ?_, ?_⟩
    · simpa [Pool.place, Function.update_of_ne (Ne.symm same)] using lookup
    · rw [callsFor_place_other pool after event same]
      exact recovers

private theorem PoolMove.reports {action : PoolAct} (move : PoolMove pool action next)
    (tickets : pool.Tickets) (first : pool.RecoversFirst ticket action)
    (reports : pool.Reports ticket job value) : next.Reports ticket job value := by
  cases move with
  | locked | refused | offered | added | shutdownLocked | shutdownCleared | shutdownClosed
  | shutdownReturned | sawStop | drained => exact reports
  | @took _ _ taken _ _ items =>
      obtain ⟨inv, found, recovers⟩ := reports
      have fresh : pool.invocations taken.ticket = none :=
        tickets.fresh _ (by simp [Pool.queued, items])
      exact ⟨inv, lookup_insert fresh found, recovers⟩
  | @watched other act inv _ _ found _ stepped =>
      refine reports.place found ?_ stepped
      rintro rfl rfl
      exact first rfl inv found
  | @worked _ _ _ act _ after event _ found byWorker stepped =>
      have placed := reports.place found (by rintro rfl; cases byWorker) stepped
      unfold Pool.resume
      split
      · exact placed
      · exact placed

/-! ## The report comes -/

variable {worker : Fin invokeWorkerCount} {drains : Bool}

private theorem call_step {inv after : Invocation} {event : InvocationEvent}
    (alive : 0 ≤ pool.wg) (invoking : pool.workers worker = .invoking ticket drains)
    (found : pool.invocations ticket = some inv) (stepped : inv.callStep = some (after, event))
    (ongoing : after.call ≠ .finished) :
    invokePool.step pool (.worker worker .call) = some (pool.place ticket after event) := by
  have moved : pool.step (.worker worker .call) = _ :=
    worker_step alive invoking found rfl stepped
  rw [Pool.resume, if_neg ongoing] at moved
  exact moved

/-- The worker's own next statements lead to the report. -/
def Pool.Leads (pool : Pool) (worker : Fin invokeWorkerCount) (ticket : Nat) (answer : SinkCall) :
    Prop :=
  ∃ count final, invokePool.run pool (List.replicate count (.worker worker .call)) = some final ∧
    (ticket, answer) ∈ final.calls

private theorem leads_of_step {answer : SinkCall}
    (stepped : invokePool.step pool (.worker worker .call) = some next)
    (leads : next.Leads worker ticket answer) : pool.Leads worker ticket answer := by
  obtain ⟨count, final, ran, answered⟩ := leads
  refine ⟨count + 1, final, ?_, answered⟩
  rw [List.replicate_succ, System.run_cons, stepped]
  exact ran

private theorem leads_of_delivering {inv : Invocation} (alive : 0 ≤ pool.wg)
    (invoking : pool.workers worker = .invoking ticket drains)
    (found : pool.invocations ticket = some inv)
    (delivering : inv.call = .delivering (panicResult job value)) :
    pool.Leads worker ticket (panicAnswer job value) := by
  have stepped : inv.callStep = some ({ inv with call := .sinking (panicResult job value) },
      .begins (panicAnswer job value)) := by
    simp [Invocation.callStep, delivering, panicAnswer]
  refine ⟨1, _, System.run_single _ (call_step alive invoking found stepped (by simp)), ?_⟩
  simp [Pool.place, InvocationEvent.sinkCalls]

private theorem leads_of_recovering {expired : Bool} {watcher : WatcherPc} (alive : 0 ≤ pool.wg)
    (invoking : pool.workers worker = .invoking ticket drains)
    (found : pool.invocations ticket = some ⟨job, .recovering value, false, expired, watcher⟩) :
    pool.Leads worker ticket (panicAnswer job value) := by
  refine leads_of_step (call_step alive invoking found rfl (by simp)) ?_
  exact leads_of_delivering (by simpa [Pool.place] using alive) invoking
    (Function.update_self ..) rfl

private theorem leads_of_unwinding {expired : Bool} {watcher : WatcherPc} (alive : 0 ≤ pool.wg)
    (invoking : pool.workers worker = .invoking ticket drains)
    (found : pool.invocations ticket = some ⟨job, .unwinding value, false, expired, watcher⟩) :
    pool.Leads worker ticket (panicAnswer job value) := by
  refine leads_of_step (call_step alive invoking found rfl (by simp)) ?_
  exact leads_of_recovering (by simpa [Pool.place] using alive) invoking
    (Function.update_self ..)

private theorem Pool.Reports.comes (reports : pool.Reports ticket job value) (crew : pool.Crew)
    (alive : 0 ≤ pool.wg) : (ticket, panicAnswer job value) ∈ pool.calls ∨
      ∃ worker, pool.Leads worker ticket (panicAnswer job value) := by
  obtain ⟨inv, found, recovers⟩ := reports
  rw [← mem_callsFor]
  generalize pool.callsFor ticket = calls at recovers
  have attended := crew.attended ticket inv found
  cases recovers with
  | sinking | releasing | finished => exact .inl (List.mem_singleton.mpr rfl)
  | unwinding =>
      obtain ⟨worker, drains, invoking⟩ := attended (by simp)
      exact .inr ⟨worker, leads_of_unwinding alive invoking found⟩
  | recovering =>
      obtain ⟨worker, drains, invoking⟩ := attended (by simp)
      exact .inr ⟨worker, leads_of_recovering alive invoking found⟩
  | delivering =>
      obtain ⟨worker, drains, invoking⟩ := attended (by simp)
      exact .inr ⟨worker, leads_of_delivering alive invoking found rfl⟩

private theorem reports_of_panic {inv : Invocation} (sound : pool.Sound)
    (invoking : pool.workers worker = .invoking ticket drains)
    (found : pool.invocations ticket = some inv) (early : inv.expired = false)
    (panicked : pool.step (.worker worker (.handler (.panicked value))) = some next) :
    next.Reports ticket inv.job value := by
  obtain ⟨_, move⟩ := Pool.step_move panicked
  cases move with
  | @worked _ other _ _ current after event employed lookup _ stepped =>
      rw [invoking] at employed
      cases employed
      rw [found] at lookup
      cases lookup
      obtain ⟨recovers, rfl, unbegun⟩ :=
        recovers_of_panic (sound.ledger.settled ticket inv found)
          (sound.ledger.timed ticket inv found) early stepped
      have silent : pool.callsFor ticket = [] := by
        refine List.eq_nil_iff_forall_not_mem.mpr fun call member => ?_
        have called := List.mem_map_of_mem (f := Prod.fst) (mem_callsFor.mp member)
        exact List.not_mem_of_count_eq_zero unbegun called
      have placed : (pool.place ticket after .quiet).Reports ticket inv.job value := by
        refine ⟨after, by simp [Pool.place], ?_⟩
        rw [callsFor_place_self, silent]
        exact recovers
      unfold Pool.resume
      split
      · exact placed
      · exact placed

end Reports

/-- A panic before the deadline is reported as a panic, and as nothing else, as
long as the recovery swaps the flag before the watcher of the job does. -/
theorem panic_reported {pool next later : Pool} {worker : Fin invokeWorkerCount} {ticket : Nat}
    {drains : Bool} {inv : Invocation} {value : GoString} (reached : invokePool.Reachable pool)
    (invoking : pool.workers worker = .invoking ticket drains)
    (found : pool.invocations ticket = some inv) (early : inv.expired = false)
    (panicked : pool.step (.worker worker (.handler (.panicked value))) = some next)
    (path : invokePool.Steps (Pool.RecoversFirst ticket) next later) :
    (∀ call, (ticket, call) ∈ later.calls → call = panicAnswer inv.job value) ∧
      (0 ≤ later.wg → (ticket, panicAnswer inv.job value) ∈ later.calls ∨
        ∃ worker, later.Leads worker ticket (panicAnswer inv.job value)) := by
  have started : invokePool.Reachable next := reached.step panicked
  have reports := reports_of_panic (Pool.sound_of_reachable reached) invoking found early panicked
  obtain ⟨arrived, reportsLater⟩ := path.preserves
    (fun pool => invokePool.Reachable pool ∧ pool.Reports ticket inv.job value)
    (fun pool action after holds first stepped =>
      ⟨holds.1.step stepped, (Pool.step_move stepped).2.reports
        (Pool.sound_of_reachable holds.1).tickets first holds.2⟩)
    ⟨started, reports⟩
  refine ⟨?_, reportsLater.comes (Pool.sound_of_reachable arrived).crew⟩
  intro call member
  obtain ⟨_, _, recovers⟩ := reportsLater
  exact recovers.calls_eq (mem_callsFor.mpr member)

/-- One job whose handler is running. -/
def oneRunning : List PoolAct := [.lock 7, .offer, .add, .take 0]

/-- The recovery swaps the flag, then the watcher wakes, then the worker reports. -/
def recoverFirst : List PoolAct :=
  [.worker 0 .call, .worker 0 .call, .watcher 0 .watcher, .worker 0 .call]

theorem panic_reported_recoverFirst : ∃ pool next later, invokePool.Reachable pool ∧
    pool.step (.worker 0 (.handler (.panicked "boom".toByteArray))) = some next ∧
    invokePool.run next recoverFirst = some later ∧
    later.calls.map Prod.fst = [0] ∧
    (∀ call, (0, call) ∈ later.calls → call = panicAnswer ⟨0, 7⟩ "boom".toByteArray) ∧
    (0 ≤ later.wg → (0, panicAnswer ⟨0, 7⟩ "boom".toByteArray) ∈ later.calls ∨
      ∃ worker, later.Leads worker 0 (panicAnswer ⟨0, 7⟩ "boom".toByteArray)) := by
  obtain ⟨pool, next, later, ran, invoking, found, panicked, conforms, recovered, called⟩ :
      ∃ pool next later, invokePool.run Pool.init oneRunning = some pool ∧
        pool.workers 0 = .invoking 0 false ∧ pool.invocations 0 = some (.start ⟨0, 7⟩) ∧
        pool.step (.worker 0 (.handler (.panicked "boom".toByteArray))) = some next ∧
        invokePool.Conforms (Pool.RecoversFirst 0) next recoverFirst ∧
        invokePool.run next recoverFirst = some later ∧ later.calls.map Prod.fst = [0] :=
    ⟨_, _, _, rfl, rfl, rfl, rfl, of_decide_eq_true rfl, rfl, rfl⟩
  have reached := System.reachable_of_run rfl ran
  exact ⟨pool, next, later, reached, panicked, recovered, called,
    panic_reported reached invoking found rfl panicked (System.steps_of_run conforms recovered)⟩

/-- The deadline has not passed and no timer fires: the worker's own `cancel`
wakes the watcher, which swaps the flag first and reports a timeout. -/
theorem panic_reported_as_timeout : ∃ pool inv later,
    invokePool.run Pool.init oneRunning = some pool ∧
      pool.invocations 0 = some inv ∧ inv.expired = false ∧
      invokePool.run pool [.worker 0 (.handler (.panicked "boom".toByteArray)), .worker 0 .call,
        .watcher 0 .watcher, .watcher 0 .watcher] = some later ∧
      later.calls = [(0, .sendDispatchError 7)] :=
  ⟨_, _, _, rfl, rfl, rfl, rfl, rfl⟩

end LibddRc.Go
