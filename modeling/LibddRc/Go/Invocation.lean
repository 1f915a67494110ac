import LibddRc.Crypto.Identifiers

/-! One handler invocation of the Go host's invoke pool: the call on the worker
that runs the handler, and the watcher that waits for its context. Both try to
swap one atomic flag, and whoever swaps it answers the job. -/

set_option autoImplicit false

namespace LibddRc.Go

/-- A queued job. The ticket numbers the `enqueue` calls; the handler and its
request show only in how the handler ends. -/
structure DispatchJob where
  ticket : Nat
  correlationID : UInt64
  deriving DecidableEq

/-- A Go string is any byte string. -/
abbrev GoString := ByteArray

-- Named, because Batteries declares a second instance.
instance : DecidableEq GoString := ByteArray.instDecidableEq

/-- The outcome of a handler: a response, which may be a nil slice, or an error
with its text. -/
structure DispatchResult where
  correlationID : UInt64
  response : Option Bytes
  err : Option GoString
  deriving DecidableEq

/-- The text of the error that stands for a panic with a value that prints so. -/
def panicText (value : GoString) : GoString :=
  "ddrc: dispatch handler panicked: ".toByteArray ++ value

/-- Calls of the `resultSink`. The only error code sent is `DispatchErrorTimeout`. -/
inductive SinkCall
  | sendDispatchResult (result : DispatchResult)
  | sendDispatchError (correlationID : UInt64)
  deriving DecidableEq

inductive HandlerOutcome
  | returned (response : Option Bytes) (err : Option GoString)
  | panicked (value : GoString)
  deriving DecidableEq

/-- Where the worker stands in `invokeJob`. A panic runs the deferred `cancel`
before the deferred recovery. -/
inductive CallPc
  | running
  | returned (response : Option Bytes) (err : Option GoString)
  | unwinding (value : GoString)
  | recovering (value : GoString)
  | cancelling (result : DispatchResult)
  | delivering (result : DispatchResult)
  | sinking (result : DispatchResult)
  | releasing
  | finished
  deriving DecidableEq

inductive WatcherPc
  | waiting
  | reporting
  | sinking
  | releasing
  | gone
  deriving DecidableEq

structure Invocation where
  job : DispatchJob
  call : CallPc
  completed : Bool
  expired : Bool
  watcher : WatcherPc
  deriving DecidableEq

def Invocation.start (job : DispatchJob) : Invocation where
  job := job
  call := .running
  completed := false
  expired := false
  watcher := .waiting

inductive InvocationAct
  | handler (outcome : HandlerOutcome)
  | call
  | callSink
  | timeout
  | watcher
  | watcherSink
  deriving DecidableEq

/-- What an invocation step does outside the invocation: begin a sink call,
finish one, or call `wg.Done`. -/
inductive InvocationEvent
  | quiet
  | begins (call : SinkCall)
  | returns
  | releases
  deriving DecidableEq

namespace Invocation

/-- The next statement of `invokeJob`. A swap that fails means the watcher
answers: `invokeJob` returns, and the deferred `cancel` changes nothing. -/
def callStep (inv : Invocation) : Option (Invocation × InvocationEvent) :=
  match inv.call with
  | .running => none
  | .returned response err =>
      if inv.completed then some ({ inv with call := .finished }, .quiet)
      else some ({ inv with
        completed := true
        call := .cancelling ⟨inv.job.correlationID, response, err⟩ }, .quiet)
  | .unwinding value => some ({ inv with expired := true, call := .recovering value }, .quiet)
  | .recovering value =>
      if inv.completed then some ({ inv with call := .finished }, .quiet)
      else some ({ inv with
        completed := true
        call := .delivering ⟨inv.job.correlationID, none, some (panicText value)⟩ }, .quiet)
  | .cancelling result => some ({ inv with expired := true, call := .delivering result }, .quiet)
  | .delivering result =>
      some ({ inv with call := .sinking result }, .begins (.sendDispatchResult result))
  | .sinking _ => none
  | .releasing => some ({ inv with call := .finished }, .releases)
  | .finished => none

/-- The next statement of the watcher, which blocks until the context is done. -/
def watcherStep (inv : Invocation) : Option (Invocation × InvocationEvent) :=
  match inv.watcher with
  | .waiting =>
      if inv.expired then
        if inv.completed then some ({ inv with watcher := .gone }, .quiet)
        else some ({ inv with completed := true, watcher := .reporting }, .quiet)
      else none
  | .reporting =>
      some ({ inv with watcher := .sinking }, .begins (.sendDispatchError inv.job.correlationID))
  | .sinking => none
  | .releasing => some ({ inv with watcher := .gone }, .releases)
  | .gone => none

def step (inv : Invocation) : InvocationAct → Option (Invocation × InvocationEvent)
  | .handler outcome =>
      if inv.call = .running then
        match outcome with
        | .returned response err => some ({ inv with call := .returned response err }, .quiet)
        | .panicked value => some ({ inv with call := .unwinding value }, .quiet)
      else none
  | .call => inv.callStep
  | .callSink =>
      match inv.call with
      | .sinking _ => some ({ inv with call := .releasing }, .returns)
      | _ => none
  | .timeout => if inv.expired then none else some ({ inv with expired := true }, .quiet)
  | .watcher => inv.watcherStep
  | .watcherSink =>
      if inv.watcher = .sinking then some ({ inv with watcher := .releasing }, .returns) else none

end Invocation

/-! ## Who answers -/

/-- The worker swapped the flag and has yet to release its job. -/
@[simp] def CallPc.answers : CallPc → Nat
  | .cancelling _ | .delivering _ | .sinking _ | .releasing => 1
  | .running | .returned _ _ | .unwinding _ | .recovering _ | .finished => 0

@[simp] def WatcherPc.answers : WatcherPc → Nat
  | .reporting | .sinking | .releasing => 1
  | .waiting | .gone => 0

/-- A sink call was begun and the job not yet released. -/
@[simp] def CallPc.calls : CallPc → Nat
  | .sinking _ | .releasing => 1
  | _ => 0

@[simp] def WatcherPc.calls : WatcherPc → Nat
  | .sinking | .releasing => 1
  | _ => 0

/-- A sink call returned and the job is not yet released. -/
@[simp] def CallPc.returns : CallPc → Nat
  | .releasing => 1
  | _ => 0

@[simp] def WatcherPc.returns : WatcherPc → Nat
  | .releasing => 1
  | _ => 0

theorem CallPc.calls_le (pc : CallPc) : pc.returns ≤ pc.calls ∧ pc.calls ≤ pc.answers := by
  cases pc <;> simp

theorem WatcherPc.calls_le (pc : WatcherPc) : pc.returns ≤ pc.calls ∧ pc.calls ≤ pc.answers := by
  cases pc <;> simp

@[simp] def InvocationEvent.begun : InvocationEvent → Nat
  | .begins _ => 1
  | _ => 0

@[simp] def InvocationEvent.returned : InvocationEvent → Nat
  | .returns => 1
  | _ => 0

@[simp] def InvocationEvent.released : InvocationEvent → Nat
  | .releases => 1
  | _ => 0

/-- An invocation together with how many sink calls it began, how many of them
returned and how often it called `wg.Done`. Until the flag is swapped nobody
answers; from then on exactly one party does, or has done so. -/
structure Invocation.Settled (inv : Invocation) (begun returned released : Nat) : Prop where
  open_ : inv.completed = false →
    inv.call.answers = 0 ∧ inv.call ≠ .finished ∧ inv.watcher = .waiting ∧ released = 0
  claimed : inv.completed = true → inv.call.answers + inv.watcher.answers + released = 1
  finished : 0 < released → inv.call = .finished ∨ inv.watcher = .gone
  begun_eq : begun = inv.call.calls + inv.watcher.calls + released
  returned_eq : returned = inv.call.returns + inv.watcher.returns + released

theorem Invocation.settled_start (job : DispatchJob) : (Invocation.start job).Settled 0 0 0 := by
  refine ⟨?_, ?_, by simp, rfl, rfl⟩
  · intro _
    simp [start, CallPc.answers]
  · intro completed
    cases completed

section Steps

variable {inv next : Invocation} {event : InvocationEvent} {begun returned released : Nat}

/-- The step of the party that swaps the flag: it alone answers from here on. -/
private theorem settled_swap {call : CallPc} {watcher : WatcherPc}
    (settled : inv.Settled begun returned released) (unswapped : inv.completed = false)
    (one : call.answers + watcher.answers = 1) (uncalled : call.calls + watcher.calls = 0) :
    ({ inv with completed := true, call, watcher } : Invocation).Settled
      begun returned released := by
  obtain ⟨idle, _, waiting, none⟩ := settled.open_ unswapped
  have before := inv.call.calls_le
  have begunEq : begun = inv.call.calls + inv.watcher.calls + released := settled.begun_eq
  have returnedEq : returned = inv.call.returns + inv.watcher.returns + released :=
    settled.returned_eq
  rw [waiting] at begunEq returnedEq
  simp only [WatcherPc.calls, WatcherPc.returns] at begunEq returnedEq
  have callSilent := call.calls_le
  have watcherSilent := watcher.calls_le
  refine ⟨by simp, ?_, fun some => absurd some (by omega), ?_, ?_⟩
  · intro _
    show call.answers + watcher.answers + released = 1
    omega
  · show begun = call.calls + watcher.calls + released
    omega
  · show returned = call.returns + watcher.returns + released
    omega

/-- Frame rule for a step of the worker that neither swaps the flag nor ends its call. -/
private theorem Invocation.Settled.call_advances {begun' returned' : Nat}
    (settled : inv.Settled begun returned released) (flag : next.completed = inv.completed)
    (watcher : next.watcher = inv.watcher) (answers : next.call.answers = inv.call.answers)
    (before : inv.call ≠ .finished) (after : next.call ≠ .finished)
    (calls : begun' + inv.call.calls = begun + next.call.calls)
    (returns : returned' + inv.call.returns = returned + next.call.returns) :
    next.Settled begun' returned' released := by
  have begunEq := settled.begun_eq
  have returnedEq := settled.returned_eq
  refine ⟨?_, ?_, ?_, ?_, ?_⟩
  · intro unswapped
    obtain ⟨idle, _, waiting, none⟩ := settled.open_ (flag ▸ unswapped)
    exact ⟨answers.trans idle, after, watcher.trans waiting, none⟩
  · intro swapped
    rw [answers, watcher]
    exact settled.claimed (flag ▸ swapped)
  · intro done
    rw [watcher]
    exact .inr ((settled.finished done).resolve_left before)
  · rw [watcher]
    omega
  · rw [watcher]
    omega

/-- The same for a watcher on its way from the swap to its `wg.Done`. -/
private theorem Invocation.Settled.watcher_advances {begun' returned' : Nat}
    (settled : inv.Settled begun returned released) (flag : next.completed = inv.completed)
    (call : next.call = inv.call) (answers : next.watcher.answers = inv.watcher.answers)
    (swapped : inv.watcher ≠ .waiting) (before : inv.watcher ≠ .gone)
    (calls : begun' + inv.watcher.calls = begun + next.watcher.calls)
    (returns : returned' + inv.watcher.returns = returned + next.watcher.returns) :
    next.Settled begun' returned' released := by
  have begunEq := settled.begun_eq
  have returnedEq := settled.returned_eq
  refine ⟨?_, ?_, ?_, ?_, ?_⟩
  · intro unswapped
    exact absurd (settled.open_ (flag ▸ unswapped)).2.2.1 swapped
  · intro isSwapped
    rw [answers, call]
    exact settled.claimed (flag ▸ isSwapped)
  · intro done
    rw [call]
    exact .inl ((settled.finished done).resolve_right before)
  · rw [call]
    omega
  · rw [call]
    omega

/-- The `wg.Done` of the party that answers. -/
private theorem Invocation.Settled.releases (settled : inv.Settled begun returned released)
    (flag : next.completed = inv.completed)
    (answers : inv.call.answers + inv.watcher.answers =
      next.call.answers + next.watcher.answers + 1)
    (calls : inv.call.calls + inv.watcher.calls = next.call.calls + next.watcher.calls + 1)
    (returns : inv.call.returns + inv.watcher.returns =
      next.call.returns + next.watcher.returns + 1)
    (done : next.call = .finished ∨ next.watcher = .gone) :
    next.Settled begun returned (released + 1) := by
  have begunEq := settled.begun_eq
  have returnedEq := settled.returned_eq
  refine ⟨?_, ?_, fun _ => done, ?_, ?_⟩
  · intro unswapped
    obtain ⟨idle, _, waiting, _⟩ := settled.open_ (flag ▸ unswapped)
    rw [idle, waiting] at answers
    simp only [WatcherPc.answers] at answers
    omega
  · intro swapped
    have one := settled.claimed (flag ▸ swapped)
    omega
  · omega
  · omega

private theorem settled_callStep (settled : inv.Settled begun returned released)
    (stepped : inv.callStep = some (next, event)) :
    next.Settled (begun + event.begun) (returned + event.returned) (released + event.released) := by
  have swap := @settled_swap inv begun returned released
  have advances := fun begun' returned' =>
    @Invocation.Settled.call_advances inv next begun returned released begun' returned' settled
  have releases := @Invocation.Settled.releases inv next begun returned released settled
  obtain ⟨job, call, completed, expired, watcher⟩ := inv
  obtain ⟨unclaimed, claimed, finished, begunEq, returnedEq⟩ := settled
  cases call with
  | running | sinking | finished => cases stepped
  | unwinding | cancelling =>
      cases stepped
      exact advances _ _ rfl rfl rfl (by simp) (by simp) rfl rfl
  | returned | recovering =>
      cases completed with
      | true =>
          cases stepped
          exact ⟨by simp, claimed, by simp, begunEq, returnedEq⟩
      | false =>
          cases stepped
          obtain ⟨_, _, waiting, _⟩ := unclaimed rfl
          cases waiting
          exact swap ⟨unclaimed, claimed, finished, begunEq, returnedEq⟩ rfl rfl rfl
  | delivering result =>
      cases stepped
      exact advances _ _ rfl rfl rfl (by simp) (by simp) rfl rfl
  | releasing =>
      cases stepped
      refine releases rfl ?_ ?_ ?_ (.inl rfl)
      all_goals simp [Nat.add_comm]

private theorem settled_watcherStep (settled : inv.Settled begun returned released)
    (stepped : inv.watcherStep = some (next, event)) :
    next.Settled (begun + event.begun) (returned + event.returned) (released + event.released) := by
  have swap := @settled_swap inv begun returned released
  have advances := fun begun' returned' =>
    @Invocation.Settled.watcher_advances inv next begun returned released begun' returned' settled
  have releases := @Invocation.Settled.releases inv next begun returned released settled
  obtain ⟨job, call, completed, expired, watcher⟩ := inv
  obtain ⟨unclaimed, claimed, finished, begunEq, returnedEq⟩ := settled
  cases watcher with
  | sinking | gone => cases stepped
  | waiting =>
      cases expired with
      | false => cases stepped
      | true =>
          cases completed with
          | true =>
              cases stepped
              exact ⟨by simp, claimed, by simp, begunEq, returnedEq⟩
          | false =>
              cases stepped
              obtain ⟨idle, _, _, _⟩ := unclaimed rfl
              have silent := call.calls_le
              refine swap ⟨unclaimed, claimed, finished, begunEq, returnedEq⟩ rfl ?_ ?_
              · simpa using idle
              · simp only [WatcherPc.calls] at idle ⊢
                omega
  | reporting =>
      cases stepped
      exact advances _ _ rfl rfl rfl (by simp) (by simp) rfl rfl
  | releasing =>
      cases stepped
      exact releases rfl rfl rfl rfl (.inr rfl)

theorem Invocation.Settled.step (settled : inv.Settled begun returned released)
    {action : InvocationAct} (stepped : inv.step action = some (next, event)) :
    next.Settled (begun + event.begun) (returned + event.returned) (released + event.released) := by
  cases action with
  | call => exact settled_callStep settled stepped
  | watcher => exact settled_watcherStep settled stepped
  | handler outcome =>
      simp only [Invocation.step] at stepped
      split at stepped
      · next running =>
        cases outcome with
        | returned | panicked =>
            cases stepped
            exact settled.call_advances rfl rfl (by simp [running]) (by simp [running]) (by simp)
              (by simp [running]) (by simp [running])
      · cases stepped
  | timeout =>
      simp only [Invocation.step] at stepped
      split at stepped
      · cases stepped
      · cases stepped
        exact { settled with }
  | callSink =>
      simp only [Invocation.step] at stepped
      split at stepped
      · next sinking =>
        cases stepped
        exact settled.call_advances rfl rfl (by simp [sinking]) (by simp [sinking]) (by simp)
          (by simp [sinking]) (by simp [sinking])
      · cases stepped
  | watcherSink =>
      simp only [Invocation.step] at stepped
      split at stepped
      · next sinking =>
        cases stepped
        exact settled.watcher_advances rfl rfl (by simp [sinking]) (by simp [sinking])
          (by simp [sinking]) (by simp [sinking]) (by simp [sinking])
      · cases stepped

end Steps

/-! ## The context -/

/-- The worker is past the deferred `cancel`. -/
@[simp] def CallPc.cancelled : CallPc → Bool
  | .recovering _ | .delivering _ | .sinking _ | .releasing | .finished => true
  | .running | .returned _ _ | .unwinding _ | .cancelling _ => false

/-- The context is done once the watcher got past it or the worker cancelled it. -/
structure Invocation.Timed (inv : Invocation) : Prop where
  watcher : inv.watcher ≠ .waiting → inv.expired = true
  call : inv.call.cancelled = true → inv.expired = true

theorem Invocation.timed_start (job : DispatchJob) : (Invocation.start job).Timed := by
  refine ⟨?_, ?_⟩ <;> simp [start]

section Context

variable {inv next : Invocation} {event : InvocationEvent} {begun returned released : Nat}

private theorem timed_of_expired (expired : inv.expired = true) : inv.Timed :=
  ⟨fun _ => expired, fun _ => expired⟩

/-- A flag that the worker finds swapped was swapped by the watcher. -/
private theorem watcher_swapped (settled : inv.Settled begun returned released)
    (silent : inv.call.answers = 0) (ongoing : inv.call ≠ .finished)
    (swapped : inv.completed = true) : inv.watcher ≠ .waiting := by
  intro waiting
  have one := settled.claimed swapped
  simp only [waiting, WatcherPc.answers] at one
  rcases settled.finished (by omega) with isOver | gone
  · exact ongoing isOver
  · simp [waiting] at gone

private theorem timed_callStep (settled : inv.Settled begun returned released) (timed : inv.Timed)
    (stepped : inv.callStep = some (next, event)) : next.Timed := by
  have swapped := watcher_swapped settled
  obtain ⟨job, call, completed, expired, watcher⟩ := inv
  cases call with
  | running | sinking | finished => cases stepped
  | unwinding | cancelling =>
      cases stepped
      exact timed_of_expired rfl
  | delivering | releasing =>
      cases stepped
      exact timed_of_expired (timed.call rfl)
  | recovering =>
      cases completed <;> cases stepped <;> exact timed_of_expired (timed.call rfl)
  | returned =>
      cases completed with
      | false =>
          cases stepped
          exact ⟨timed.watcher, by simp⟩
      | true =>
          cases stepped
          exact timed_of_expired (timed.watcher (swapped rfl (by simp) rfl))

private theorem timed_watcherStep (timed : inv.Timed)
    (stepped : inv.watcherStep = some (next, event)) : next.Timed := by
  obtain ⟨job, call, completed, expired, watcher⟩ := inv
  cases watcher with
  | sinking | gone => cases stepped
  | reporting | releasing =>
      cases stepped
      exact timed_of_expired (timed.watcher (by simp))
  | waiting =>
      cases expired with
      | false => cases stepped
      | true => cases completed <;> cases stepped <;> exact timed_of_expired rfl

theorem Invocation.Timed.step (timed : inv.Timed) (settled : inv.Settled begun returned released)
    {action : InvocationAct} (stepped : inv.step action = some (next, event)) : next.Timed := by
  cases action with
  | call => exact timed_callStep settled timed stepped
  | watcher => exact timed_watcherStep timed stepped
  | handler outcome =>
      obtain ⟨_, same⟩ := Option.ite_none_right_eq_some.mp stepped
      cases outcome <;> cases same <;> exact ⟨timed.watcher, by simp⟩
  | timeout =>
      obtain ⟨_, same⟩ := Option.ite_none_left_eq_some.mp stepped
      cases same
      exact timed_of_expired rfl
  | callSink =>
      simp only [Invocation.step] at stepped
      split at stepped
      · next sinking =>
        cases stepped
        exact timed_of_expired (timed.call (by simp [sinking]))
      · cases stepped
  | watcherSink =>
      obtain ⟨sinking, same⟩ := Option.ite_none_right_eq_some.mp stepped
      cases same
      exact timed_of_expired (timed.watcher (by simp [sinking]))

end Context

end LibddRc.Go
