import Mathlib.Algebra.Ring.Nat
import Mathlib.Logic.Function.Basic
import LibddRc.Foundation.TransitionSystem
import LibddRc.Foundation.Channel
import LibddRc.Go.Invocation

/-! The Go host's invoke pool: `enqueue` calls and one `shutdown` call over a
mutex, a bounded queue, eight workers and a wait group. A negative wait group
counter panics, which ends the process, so a crashed pool has no step. -/

set_option autoImplicit false

namespace LibddRc.Go

open Foundation

def dispatchQueueCap : Nat := 100

def invokeWorkerCount : Nat := 8

instance : NeZero invokeWorkerCount := ⟨Nat.succ_ne_zero 7⟩

/-- Who holds `dispatchMu`: an `enqueue` call before its select, an `enqueue`
call between the channel send and `wg.Add`, or `shutdown`. -/
inductive Holder
  | free
  | enqueueing (job : DispatchJob)
  | adding (job : DispatchJob)
  | closing
  deriving DecidableEq

def Holder.adding? : Holder → Option DispatchJob
  | .adding job => some job
  | _ => none

/-- Where a worker stands. `draining` tells whether it takes its jobs from the
loop of `drainDispatchQueue`. -/
inductive WorkerPc
  | selecting
  | draining
  | invoking (ticket : Nat) (draining : Bool)
  | exited
  deriving DecidableEq

inductive ShutdownPc
  | idle
  | locked
  | unlocked
  | waiting
  | returned
  deriving DecidableEq

/-- The pool, with a record of the tickets whose `enqueue` call returned true or
false, of the sink calls begun and returned, and of the `wg.Done` calls. -/
structure Pool where
  accepting : Bool
  mutex : Holder
  dispatchQueue : Channel DispatchJob dispatchQueueCap
  stopped : Bool
  wg : Int
  workers : Fin invokeWorkerCount → WorkerPc
  invocations : Nat → Option Invocation
  shutdown : ShutdownPc
  nextTicket : Nat
  accepted : List Nat
  refused : List Nat
  calls : List (Nat × SinkCall)
  answered : List Nat
  released : List Nat

def Pool.init : Pool where
  accepting := true
  mutex := .free
  dispatchQueue := .empty
  stopped := false
  wg := 0
  workers _ := .selecting
  invocations _ := none
  shutdown := .idle
  nextTicket := 0
  accepted := []
  refused := []
  calls := []
  answered := []
  released := []

/-- The worker's loop that a job was taken in. -/
def WorkerPc.loop (drains : Bool) : WorkerPc := if drains then .draining else .selecting

def InvocationEvent.sinkCalls (ticket : Nat) : InvocationEvent → List (Nat × SinkCall)
  | .begins call => [(ticket, call)]
  | _ => []

def InvocationAct.byWorker : InvocationAct → Bool
  | .handler _ | .call | .callSink => true
  | .timeout | .watcher | .watcherSink => false

namespace Pool

/-- A step of one invocation, with what it does to the pool. -/
def place (pool : Pool) (ticket : Nat) (next : Invocation) (event : InvocationEvent) : Pool :=
  { pool with
    invocations := Function.update pool.invocations ticket (some next)
    wg := pool.wg - event.released
    calls := pool.calls ++ event.sinkCalls ticket
    answered := pool.answered ++ List.replicate event.returned ticket
    released := pool.released ++ List.replicate event.released ticket }

/-- A worker whose `invokeJob` call is over goes back to its loop. -/
def resume (pool : Pool) (worker : Fin invokeWorkerCount) (next : Invocation) (drains : Bool) :
    Pool :=
  if next.call = .finished then
    { pool with workers := Function.update pool.workers worker (.loop drains) }
  else pool

def take (pool : Pool) (worker : Fin invokeWorkerCount) (drains : Bool) : Option Pool :=
  pool.dispatchQueue.pop?.map fun (job, dispatchQueue) => { pool with
    dispatchQueue
    workers := Function.update pool.workers worker (.invoking job.ticket drains)
    invocations := Function.update pool.invocations job.ticket (some (.start job)) }

def offer (pool : Pool) (job : DispatchJob) : Pool :=
  if pool.accepting then
    match pool.dispatchQueue.push? job with
    | some dispatchQueue => { pool with dispatchQueue, mutex := .adding job }
    | none => { pool with mutex := .free, refused := pool.refused ++ [job.ticket] }
  else { pool with mutex := .free, refused := pool.refused ++ [job.ticket] }

def shutdownStep (pool : Pool) : Option Pool :=
  match pool.shutdown with
  | .idle =>
      if pool.mutex = .free then some { pool with mutex := .closing, shutdown := .locked } else none
  | .locked => some { pool with accepting := false, mutex := .free, shutdown := .unlocked }
  | .unlocked => some { pool with stopped := true, shutdown := .waiting }
  | .waiting => if pool.wg = 0 then some { pool with shutdown := .returned } else none
  | .returned => none

end Pool

inductive PoolAct
  | lock (correlationID : UInt64)
  | offer
  | add
  | shutdown
  | take (worker : Fin invokeWorkerCount)
  | seeStop (worker : Fin invokeWorkerCount)
  | finishDrain (worker : Fin invokeWorkerCount)
  | worker (worker : Fin invokeWorkerCount) (action : InvocationAct)
  | watcher (ticket : Nat) (action : InvocationAct)
  deriving DecidableEq

namespace Pool

def stepRunning (pool : Pool) : PoolAct → Option Pool
  | .lock correlationID =>
      if pool.mutex = .free then some { pool with
        mutex := .enqueueing ⟨pool.nextTicket, correlationID⟩
        nextTicket := pool.nextTicket + 1 }
      else none
  | .offer =>
      match pool.mutex with
      | .enqueueing job => some (pool.offer job)
      | _ => none
  | .add =>
      match pool.mutex with
      | .adding job => some { pool with
          mutex := .free, wg := pool.wg + 1, accepted := pool.accepted ++ [job.ticket] }
      | _ => none
  | .shutdown => pool.shutdownStep
  | .take worker =>
      match pool.workers worker with
      | .selecting => pool.take worker false
      | .draining => pool.take worker true
      | _ => none
  | .seeStop worker =>
      if pool.workers worker = .selecting ∧ pool.stopped then
        some { pool with workers := Function.update pool.workers worker .draining }
      else none
  | .finishDrain worker =>
      if pool.workers worker = .draining ∧ pool.dispatchQueue.items = [] then
        some { pool with workers := Function.update pool.workers worker .exited }
      else none
  | .worker worker action =>
      match pool.workers worker with
      | .invoking ticket drains =>
          if action.byWorker then
            (pool.invocations ticket).bind fun inv => (inv.step action).map fun (next, event) =>
              (pool.place ticket next event).resume worker next drains
          else none
      | _ => none
  | .watcher ticket action =>
      if action.byWorker then none
      else (pool.invocations ticket).bind fun inv => (inv.step action).map fun (next, event) =>
        pool.place ticket next event

def step (pool : Pool) (action : PoolAct) : Option Pool :=
  if pool.wg < 0 then none else pool.stepRunning action

end Pool

def invokePool : System Pool PoolAct where
  initial pool := pool = Pool.init
  step := Pool.step

/-! ## Moves -/

/-- Every move of the pool, with the guards it was made under. -/
inductive PoolMove (pool : Pool) : PoolAct → Pool → Prop
  | locked {correlationID : UInt64} : pool.mutex = .free →
      PoolMove pool (.lock correlationID) { pool with
        mutex := .enqueueing ⟨pool.nextTicket, correlationID⟩
        nextTicket := pool.nextTicket + 1 }
  | refused {job : DispatchJob} : pool.mutex = .enqueueing job →
      PoolMove pool .offer { pool with
        mutex := .free, refused := pool.refused ++ [job.ticket] }
  | offered {job : DispatchJob} {dispatchQueue : Channel DispatchJob dispatchQueueCap} :
      pool.mutex = .enqueueing job → pool.accepting = true →
      dispatchQueue.items = pool.dispatchQueue.items ++ [job] →
      PoolMove pool .offer { pool with dispatchQueue, mutex := .adding job }
  | added {job : DispatchJob} : pool.mutex = .adding job →
      PoolMove pool .add { pool with
        mutex := .free, wg := pool.wg + 1, accepted := pool.accepted ++ [job.ticket] }
  | shutdownLocked : pool.shutdown = .idle → pool.mutex = .free →
      PoolMove pool .shutdown { pool with mutex := .closing, shutdown := .locked }
  | shutdownCleared : pool.shutdown = .locked →
      PoolMove pool .shutdown { pool with
        accepting := false, mutex := .free, shutdown := .unlocked }
  | shutdownClosed : pool.shutdown = .unlocked →
      PoolMove pool .shutdown { pool with stopped := true, shutdown := .waiting }
  | shutdownReturned : pool.shutdown = .waiting → pool.wg = 0 →
      PoolMove pool .shutdown { pool with shutdown := .returned }
  | took {worker : Fin invokeWorkerCount} {drains : Bool} {job : DispatchJob}
      {dispatchQueue : Channel DispatchJob dispatchQueueCap} :
      pool.workers worker = .loop drains →
      pool.dispatchQueue.items = job :: dispatchQueue.items →
      PoolMove pool (.take worker) { pool with
        dispatchQueue
        workers := Function.update pool.workers worker (.invoking job.ticket drains)
        invocations := Function.update pool.invocations job.ticket (some (.start job)) }
  | sawStop {worker : Fin invokeWorkerCount} : pool.workers worker = .selecting →
      pool.stopped = true →
      PoolMove pool (.seeStop worker) { pool with
        workers := Function.update pool.workers worker .draining }
  | drained {worker : Fin invokeWorkerCount} : pool.workers worker = .draining →
      pool.dispatchQueue.items = [] →
      PoolMove pool (.finishDrain worker) { pool with
        workers := Function.update pool.workers worker .exited }
  | worked {worker : Fin invokeWorkerCount} {ticket : Nat} {drains : Bool}
      {action : InvocationAct} {inv next : Invocation} {event : InvocationEvent} :
      pool.workers worker = .invoking ticket drains → pool.invocations ticket = some inv →
      action.byWorker = true → inv.step action = some (next, event) →
      PoolMove pool (.worker worker action)
        ((pool.place ticket next event).resume worker next drains)
  | watched {ticket : Nat} {action : InvocationAct} {inv next : Invocation}
      {event : InvocationEvent} :
      pool.invocations ticket = some inv → action.byWorker = false →
      inv.step action = some (next, event) →
      PoolMove pool (.watcher ticket action) (pool.place ticket next event)

private theorem take_move {pool next : Pool} {worker : Fin invokeWorkerCount} (drains : Bool)
    (loop : pool.workers worker = .loop drains) (taken : pool.take worker drains = some next) :
    PoolMove pool (.take worker) next := by
  obtain ⟨⟨job, dispatchQueue⟩, popped, rfl⟩ := Option.map_eq_some_iff.mp taken
  exact .took loop (Channel.pop?_eq_some popped)

private theorem offer_move {pool : Pool} {job : DispatchJob}
    (holding : pool.mutex = .enqueueing job) : PoolMove pool .offer (pool.offer job) := by
  unfold Pool.offer
  split
  · next accepting =>
    split
    · next dispatchQueue pushed =>
      exact .offered holding accepting (Channel.push?_eq_some pushed).2
    · exact .refused holding
  · exact .refused holding

private theorem shutdownStep_move {pool next : Pool} (stepped : pool.shutdownStep = some next) :
    PoolMove pool .shutdown next := by
  unfold Pool.shutdownStep at stepped
  split at stepped
  · next idle =>
    obtain ⟨free, same⟩ := Option.ite_none_right_eq_some.mp stepped
    cases same
    exact .shutdownLocked idle free
  · next locked =>
    cases stepped
    exact .shutdownCleared locked
  · next unlocked =>
    cases stepped
    exact .shutdownClosed unlocked
  · next waiting =>
    obtain ⟨zero, same⟩ := Option.ite_none_right_eq_some.mp stepped
    cases same
    exact .shutdownReturned waiting zero
  · cases stepped

theorem Pool.step_move {pool next : Pool} {action : PoolAct}
    (stepped : pool.step action = some next) : 0 ≤ pool.wg ∧ PoolMove pool action next := by
  obtain ⟨nonnegative, stepped⟩ := Option.ite_none_left_eq_some.mp stepped
  refine ⟨by omega, ?_⟩
  cases action with
  | lock correlationID =>
      obtain ⟨free, same⟩ := Option.ite_none_right_eq_some.mp stepped
      cases same
      exact .locked free
  | offer =>
      simp only [stepRunning] at stepped
      split at stepped
      · next job holding =>
        cases stepped
        exact offer_move holding
      · cases stepped
  | add =>
      simp only [stepRunning] at stepped
      split at stepped
      · next job adding =>
        cases stepped
        exact .added adding
      · cases stepped
  | shutdown => exact shutdownStep_move stepped
  | take worker =>
      simp only [stepRunning] at stepped
      split at stepped
      · next selecting => exact take_move false selecting stepped
      · next draining => exact take_move true draining stepped
      · cases stepped
  | seeStop worker =>
      obtain ⟨⟨selecting, stopped⟩, same⟩ := Option.ite_none_right_eq_some.mp stepped
      cases same
      exact .sawStop selecting stopped
  | finishDrain worker =>
      obtain ⟨⟨draining, empty⟩, same⟩ := Option.ite_none_right_eq_some.mp stepped
      cases same
      exact .drained draining empty
  | worker worker action =>
      simp only [stepRunning] at stepped
      split at stepped
      · next ticket drains invoking =>
        obtain ⟨byWorker, stepped⟩ := Option.ite_none_right_eq_some.mp stepped
        obtain ⟨inv, found, stepped⟩ := Option.bind_eq_some_iff.mp stepped
        obtain ⟨⟨after, event⟩, moved, rfl⟩ := Option.map_eq_some_iff.mp stepped
        exact .worked invoking found byWorker moved
      · cases stepped
  | watcher ticket action =>
      obtain ⟨other, stepped⟩ := Option.ite_none_left_eq_some.mp stepped
      obtain ⟨inv, found, stepped⟩ := Option.bind_eq_some_iff.mp stepped
      obtain ⟨⟨after, event⟩, moved, rfl⟩ := Option.map_eq_some_iff.mp stepped
      exact .watched found (by simpa using other) moved

end LibddRc.Go
