import LibddRc.Go.WholeClient

/-! What `Close` leaves behind, whatever goroutines call `Start` and `Close` and
wherever the connection loop stands when they do. -/

set_option autoImplicit false

namespace LibddRc.Go

open Foundation Ffi

/-! ## The cancel function -/

/-- `c.cancel` is that of the goroutine that started the client, and only its
context is ever cancelled. -/
structure Client.Cancels (client : Client) : Prop where
  consistent : client.Consistent
  free : client.mu = none → client.cancel = client.starter
  only : ∀ ctx, client.cancelled ctx = true → client.starter = some ctx

/-- What a goroutine knows of the cancel function. `Start` sets it under the mutex
that `Close` reads it under, so `Close` waits for no loop that it has not
cancelled. -/
def Client.CancelAt (client : Client) : ClientPc → Prop
  | .startCheckingClosed | .startCheckingStarted | .startAdding | .startUnlocking
  | .startRefusing _ | .closeCheckingClosed | .closeReadingCancel | .closeRefusing =>
      client.cancel = client.starter
  | .closeUnlocking cancel => client.cancel = client.starter ∧ client.starter = cancel
  | .closeCancelling cancel => client.starter = cancel
  | .closeWaiting => ∀ ctx, client.starter = some ctx → client.cancelled ctx = true
  | .idle | .startLocking | .startSettingCancel | .running _ | .runReturned | .closeLocking
  | .closeCallingFfi | .closeInsideFfi => True

section Cancels

variable {id other : ℕ} {client after : Client} {point next elsewhere : ClientPc}
  {choice : ClientChoice}

private theorem step_cancelling {cancel : Option ℕ}
    (stepped : client.step id (.closeCancelling cancel) choice = some (after, next)) (ctx : ℕ) :
    after.cancelled ctx = true ↔ client.cancelled ctx = true ∨ cancel = some ctx := by
  cases cancel with
  | none =>
      cases stepped
      simp
  | some told =>
      cases stepped
      by_cases same : ctx = told
      · simp [same]
      · simp [Function.update_of_ne same, Ne.symm same]

theorem Client.Cancels.own (cancels : client.Cancels) (known : client.CancelAt point)
    (knows : client.Knows id point) (stepped : client.step id point choice = some (after, next)) :
    after.Cancels ∧ after.CancelAt next := by
  have move := Client.step_move stepped
  have consistent := move.consistent cancels.consistent knows
  obtain ⟨mutex, mine⟩ := knows
  cases move with
  | startCalled | closeCalled | exited | waited => exact ⟨cancels, trivial⟩
  | startClosed | startOpen | startAgain | closeAgain => exact ⟨cancels, known⟩
  | startLocked free | closeLocked free =>
      exact ⟨⟨consistent, by simp, cancels.only⟩, cancels.free free⟩
  | startFirst unstarted =>
      have held := mutex.mp rfl
      have nobody := cancels.consistent.starter.mpr unstarted
      refine ⟨⟨consistent, by simp [held], ?_⟩, trivial⟩
      intro ctx cancelled
      simpa [nobody] using cancels.only ctx cancelled
  | cancelSet =>
      have held := mutex.mp rfl
      exact ⟨⟨consistent, by simp [held], cancels.only⟩, mine.2.1.symm⟩
  | added | closeFirst => exact ⟨⟨consistent, cancels.free, cancels.only⟩, known⟩
  | entered | startRefused | closeRefused =>
      exact ⟨⟨consistent, fun _ => known, cancels.only⟩, trivial⟩
  | ran | finished | ffiCalled | ffiReturned =>
      exact ⟨⟨consistent, cancels.free, cancels.only⟩, trivial⟩
  | cancelRead => exact ⟨cancels, known, known.symm⟩
  | closeUnlocked => exact ⟨⟨consistent, fun _ => known.1, cancels.only⟩, known.2⟩
  | cancelled =>
      have told := step_cancelling stepped
      refine ⟨⟨consistent, cancels.free, ?_⟩, ?_⟩
      · intro ctx cancelled
        rcases (told ctx).mp cancelled with before | same
        · exact cancels.only ctx before
        · exact known.trans same
      · intro ctx starter
        exact (told ctx).mpr (.inr (known.symm.trans starter))

/-- What another goroutine knows of the cancel function is kept if it is only set
while that goroutine does not hold the mutex, and never once the client is closed. -/
private theorem Client.CancelAt.frame (known : client.CancelAt elsewhere)
    (consistent : client.Consistent) (knows : client.Knows other elsewhere)
    (locked : client.mu = some other →
      after.cancel = client.cancel ∧ after.starter = client.starter)
    (closed : client.closed = true → after.starter = client.starter)
    (told : ∀ ctx, client.cancelled ctx = true → after.cancelled ctx = true) :
    after.CancelAt elsewhere := by
  obtain ⟨mutex, theirs⟩ := knows
  cases elsewhere with
  | idle | startLocking | startSettingCancel | running | runReturned | closeLocking
  | closeCallingFfi | closeInsideFfi => trivial
  | startCheckingClosed | startCheckingStarted | startAdding | startUnlocking | startRefusing
  | closeCheckingClosed | closeReadingCancel | closeRefusing =>
      obtain ⟨cancel, starter⟩ := locked (mutex.mp rfl)
      exact cancel.trans (known.trans starter.symm)
  | closeUnlocking =>
      obtain ⟨cancel, starter⟩ := locked (mutex.mp rfl)
      exact ⟨cancel.trans (known.1.trans starter.symm), starter.trans known.2⟩
  | closeCancelling => exact (closed (consistent.closed_of theirs.1)).trans known
  | closeWaiting =>
      intro ctx starter
      rw [closed (consistent.closed_of theirs.1)] at starter
      exact told ctx (known ctx starter)

theorem Client.CancelAt.others (known : client.CancelAt elsewhere) (apart : other ≠ id)
    (consistent : client.Consistent) (knows : client.Knows id point)
    (theirs : client.Knows other elsewhere)
    (stepped : client.step id point choice = some (after, next)) : after.CancelAt elsewhere := by
  have unheld : point.locked = true → client.mu ≠ some other := by
    intro locked held
    exact apart (Option.some.inj (held.symm.trans (knows.1.mp locked)))
  obtain ⟨_, mine⟩ := knows
  cases Client.step_move stepped with
  | startFirst =>
      refine known.frame consistent theirs ?_ ?_ fun _ same => same
      · exact fun held => absurd held (unheld rfl)
      · intro closed
        simp [show client.closed = false from mine] at closed
  | cancelSet =>
      refine known.frame consistent theirs ?_ (fun _ => rfl) fun _ same => same
      exact fun held => absurd held (unheld rfl)
  | cancelled =>
      have told := step_cancelling stepped
      exact known.frame consistent theirs (fun _ => ⟨rfl, rfl⟩) (fun _ => rfl)
        fun ctx before => (told ctx).mpr (.inl before)
  | _ => exact known.frame consistent theirs (fun _ => ⟨rfl, rfl⟩) (fun _ => rfl) fun _ same => same

end Cancels

theorem Client.cancels_init : Client.init.Cancels where
  consistent := (clientOutline.start rfl).1
  free _ := rfl
  only := by simp [Client.init]

/-- The proof outline of `Start` and `Close` with the cancel function. -/
def cancelOutline : rcx509.Outline where
  invariant := Client.Cancels
  assertion id client point := client.Knows id point ∧ client.CancelAt point
  start initial :=
    initial ▸ ⟨Client.cancels_init, fun id => ⟨(clientOutline.start rfl).2 id, trivial⟩⟩
  own cancels known stepped :=
    have ⟨after, knownAfter⟩ := cancels.own known.2 known.1 stepped
    ⟨after, (Client.step_move stepped).knows cancels.consistent known.1, knownAfter⟩
  others apart cancels known theirs stepped :=
    ⟨(Client.step_move stepped).others apart cancels.consistent known.1 theirs.1,
      theirs.2.others apart cancels.consistent known.1 theirs.1 stepped⟩
  environment := by
    intro _ event
    exact event.elim

/-! ## The loop and the calls -/

private theorem ClientMove.outside {id : ℕ} {client after : Client} {point next : ClientPc}
    (move : ClientMove id client point after next) (outside : point.inLoop = false) :
    next.inLoop = false ∧ after.loops = client.loops ∨
      next = .running .creating ∧ 0 < after.loops := by
  cases move with
  | ran | exited => cases outside
  | entered => exact .inr ⟨rfl, Nat.succ_pos _⟩
  | _ => exact .inl ⟨rfl, rfl⟩

private theorem ClientMove.starter {id : ℕ} {client after : Client} {point next : ClientPc}
    (move : ClientMove id client point after next) (consistent : client.Consistent) :
    after.starter = client.starter ∨ client.starter = none ∧ after.starter = some id := by
  cases move with
  | startFirst unstarted => exact .inr ⟨consistent.starter.mpr unstarted, rfl⟩
  | _ => exact .inl rfl

private theorem ClientMove.shut {id : ℕ} {client after : Client} {point next : ClientPc}
    (move : ClientMove id client point after next) (knows : client.Knows id point)
    (shut : client.closed = true ∧ client.wg = 0) : after.closed = true ∧ after.wg = 0 := by
  obtain ⟨_, known⟩ := knows
  cases move with
  | added =>
      have unclosed := known.1
      simp [shut.1] at unclosed
  | finished =>
      have counted := known.2
      simp [shut.2] at counted
  | closeFirst => exact ⟨rfl, shut.2⟩
  | _ => exact shut

private theorem client_cancelled {id : ℕ} {client after : Client} {point next : ClientPc}
    {choice : ClientChoice} (stepped : client.step id point choice = some (after, next))
    (uncancelled : ∀ ctx, point ≠ .closeCancelling (some ctx)) :
    after.cancelled = client.cancelled := by
  cases Client.step_move stepped with
  | @cancelled cancel =>
      cases cancel with
      | none =>
          simp only [Client.step, Option.some.injEq, Prod.mk.injEq] at stepped
          exact congrArg Client.cancelled stepped.1.symm
      | some ctx => exact absurd rfl (uncancelled ctx)
  | _ => rfl

theorem RunMove.ctxDone {env : LoopEnv} {loop next : RunLoop} (move : RunMove env loop next) :
    next.ctxDone = loop.ctxDone := by
  cases move with
  | reported => rfl
  | close moved =>
      cases moved with
      | closedBefore _ _ went | freed _ _ went => cases went <;> rfl
      | _ => rfl
  | attempt moved => cases moved <;> rfl
  | serve moved => cases moved <;> rfl
  | pause moved => cases moved <;> rfl

theorem RunLoop.step_ctxDone {env : LoopEnv} {loop next : RunLoop} {action : LoopAct}
    (uncancelled : action ≠ .cancel) (stepped : loop.step env action = some next) :
    next.ctxDone = loop.ctxDone := by
  cases RunLoop.step_move stepped with
  | cancelled => exact absurd rfl uncancelled
  | tasks => rfl
  | go moved => exact moved.ctxDone

theorem RunLoop.step_library {env : LoopEnv} {loop next : RunLoop} {action : InstanceAct}
    (stepped : loop.step env (.library action) = some next) :
    ∃ inst : Instance, next = { loop with inst } ∧ inst.count = loop.inst.count := by
  obtain ⟨own, moves⟩ := Option.ite_none_right_eq_some.mp stepped
  obtain ⟨inst, moved, rfl⟩ := Option.map_eq_some_iff.mp moves
  exact ⟨inst, rfl, (Instance.step_tasks own moved).1⟩

namespace WholeClient

/-- The calls and the loop go through states of their own models, the loop is told
to stop when a context is cancelled, and it has begun, and not ended, while its
goroutine is inside `run`. -/
structure Coupled (env : LoopEnv) (whole : WholeClient) : Prop where
  calls : rcx509.threads.Reachable whole.calls
  loop : (runLoop env).Reachable whole.loop
  entered : ∀ id pc, whole.calls.points id = .running pc → pc = .creating
  told : whole.loop.ctxDone = true ↔ ∃ ctx, whole.calls.shared.cancelled ctx = true
  fresh : whole.calls.shared.loops = 0 → whole.running = false ∧
    whole.loop.pc = .creating ∧ whole.loop.inst.count = 0 ∧ whole.loop.dialed = 0
  ended : 0 < whole.calls.shared.loops → whole.running = true ∨ whole.loop.pc = .returned

theorem coupled_init (env : LoopEnv) : init.Coupled env where
  calls := ⟨init.calls, ⟨rfl, fun _ => rfl⟩, .refl⟩
  loop := ⟨.init, rfl, .refl⟩
  entered := by simp [init]
  told := by simp [init, RunLoop.init, Client.init]
  fresh _ := ⟨rfl, rfl, rfl, rfl⟩
  ended := by simp [init, Client.init]

section Coupled

variable {env : LoopEnv} {whole : WholeClient} {id : ℕ}

theorem running_of {pc : RunPc} (reached : rcx509.threads.Reachable whole.calls)
    (at_ : whole.calls.points id = .running pc) : whole.running = true := by
  have known := ((clientOutline.holds reached).2 id).2
  rw [at_] at known
  simp [running, known.1, at_, ClientPc.inLoop]

/-- Outside `run`, a statement of `Start` or `Close` enters it or leaves it alone. -/
private theorem running_called {calls : Threads Client ClientPc} {next : ClientPc}
    (consistent : whole.calls.shared.Consistent)
    (move : ClientMove id whole.calls.shared (whole.calls.points id) calls.shared next)
    (updated : calls.points = Function.update whole.calls.points id next)
    (outside : (whole.calls.points id).inLoop = false) (still : next.inLoop = false) :
    ({ whole with calls } : WholeClient).running = whole.running := by
  have point (other : ℕ) : (calls.points other).inLoop = (whole.calls.points other).inLoop := by
    rw [updated]
    by_cases same : other = id
    · rw [same, Function.update_self, still, outside]
    · rw [Function.update_of_ne same]
  rcases move.starter consistent with same | ⟨nobody, mine⟩
  · simp only [running, point, same]
  · simp [running, point, nobody, mine, outside]

private theorem Coupled.moves {choice : ClientChoice} {calls : Threads Client ClientPc}
    {loop : RunLoop} (coupled : whole.Coupled env)
    (outside : (whole.calls.points id).inLoop = false)
    (stepped : rcx509.threads.step whole.calls (.thread id choice) = some calls)
    (reached : (runLoop env).Reachable loop) (pc : loop.pc = whole.loop.pc)
    (count : loop.inst.count = whole.loop.inst.count) (dialed : loop.dialed = whole.loop.dialed)
    (told : loop.ctxDone = true ↔ ∃ ctx, calls.shared.cancelled ctx = true) :
    (⟨calls, loop⟩ : WholeClient).Coupled env := by
  have consistent := (clientOutline.holds coupled.calls).1
  obtain ⟨next, moved, updated⟩ := Program.step_thread stepped
  have move := Client.step_move moved
  have after := coupled.calls.step stepped
  have here : calls.points id = next := by rw [updated, Function.update_self]
  have elsewhere : ∀ other pc, other ≠ id → calls.points other = .running pc → pc = .creating := by
    intro other pc apart at_
    rw [updated, Function.update_of_ne apart] at at_
    exact coupled.entered other pc at_
  rcases move.outside outside with ⟨still, loops⟩ | ⟨entered, begun⟩
  · have same : (⟨calls, loop⟩ : WholeClient).running = whole.running :=
      running_called consistent move updated outside still
    refine ⟨after, reached, ?_, told, ?_, ?_⟩
    · intro other pc at_
      by_cases mine : other = id
      · rw [← here, ← mine, at_] at still
        cases still
      · exact elsewhere other pc mine at_
    · rw [same, loops, pc, count, dialed]
      exact coupled.fresh
    · rw [same, loops, pc]
      exact coupled.ended
  · rw [entered] at here
    refine ⟨after, reached, ?_, told, ?_, fun _ => .inl (running_of after here)⟩
    · intro other pc at_
      by_cases mine : other = id
      · rw [mine, here] at at_
        cases at_
        rfl
      · exact elsewhere other pc mine at_
    · intro unstarted
      exact absurd unstarted (Nat.ne_of_gt begun)

private theorem Coupled.called {choice : ClientChoice} {calls : Threads Client ClientPc}
    (coupled : whole.Coupled env) (outside : (whole.calls.points id).inLoop = false)
    (uncancelled : ∀ ctx, whole.calls.points id ≠ .closeCancelling (some ctx))
    (stepped : rcx509.threads.step whole.calls (.thread id choice) = some calls) :
    ({ whole with calls } : WholeClient).Coupled env := by
  obtain ⟨_, moved, _⟩ := Program.step_thread stepped
  have same := client_cancelled moved uncancelled
  refine coupled.moves outside stepped coupled.loop rfl rfl rfl ?_
  rw [same]
  exact coupled.told

private theorem Coupled.cancelled {ctx : ℕ} {choice : ClientChoice}
    {calls : Threads Client ClientPc} {loop : RunLoop} (coupled : whole.Coupled env)
    (at_ : whole.calls.points id = .closeCancelling (some ctx))
    (stepped : rcx509.threads.step whole.calls (.thread id choice) = some calls)
    (told : whole.loop.step env .cancel = some loop) :
    (⟨calls, loop⟩ : WholeClient).Coupled env := by
  obtain ⟨next, moved, _⟩ := Program.step_thread stepped
  have cancelling : whole.calls.shared.step id (.closeCancelling (some ctx)) choice =
    some (calls.shared, next) := at_ ▸ moved
  have cancelled := (step_cancelling cancelling ctx).mpr (.inr rfl)
  have stop : (runLoop env).step whole.loop .cancel = some loop := told
  have reached := coupled.loop.step stop
  cases told
  refine coupled.moves (by rw [at_]; rfl) stepped reached rfl rfl rfl ?_
  exact iff_of_true rfl ⟨ctx, cancelled⟩

/-- In the model of the calls alone, the loop that returns has failed to connect
and found its context done. -/
private theorem Coupled.exited {pc : RunPc} (coupled : whole.Coupled env)
    (at_ : whole.calls.points id = .running pc) (returned : whole.loop.pc = .returned) :
    ({ whole with
      calls := { whole.calls with
        points := Function.update whole.calls.points id .runReturned } } : WholeClient).Coupled
      env := by
  have starter := ((clientOutline.holds coupled.calls).2 id).2
  rw [at_] at starter
  have cancelled : whole.calls.shared.cancelled id = true := by
    obtain ⟨ctx, cancelled⟩ := coupled.told.mp ((RunLoop.sound coupled.loop).stopped returned)
    have same := (cancelOutline.holds coupled.calls).1.only ctx cancelled
    rw [starter.1] at same
    cases same
    exact cancelled
  cases coupled.entered id pc at_
  have failed : rcx509.threads.step whole.calls (.thread id .err) = some
      ⟨whole.calls.shared, Function.update whole.calls.points id (.running .checking)⟩ := by
    simp [Program.threads, rcx509, Client.step, Client.runStep, at_]
  have checked : rcx509.threads.step
      ⟨whole.calls.shared, Function.update whole.calls.points id (.running .checking)⟩
      (.thread id .err) = some
        ⟨whole.calls.shared, Function.update whole.calls.points id .runReturned⟩ := by
    simp [Program.threads, rcx509, Client.step, Client.runStep, cancelled]
  refine ⟨(coupled.calls.step failed).step checked, coupled.loop, ?_, coupled.told, ?_,
    fun _ => .inr returned⟩
  · intro other pc running
    by_cases mine : other = id
    · simp [mine] at running
    · simp only [Function.update_of_ne mine] at running
      exact coupled.entered other pc running
  · intro unstarted
    have outside := (coupled.fresh unstarted).1
    simp [running_of coupled.calls at_] at outside

private theorem Coupled.library {action : InstanceAct} {loop : RunLoop}
    (coupled : whole.Coupled env) (stepped : whole.loop.step env (.library action) = some loop) :
    ({ whole with loop } : WholeClient).Coupled env := by
  have own : (runLoop env).step whole.loop (.library action) = some loop := stepped
  have reached := coupled.loop.step own
  obtain ⟨inst, rfl, count⟩ := RunLoop.step_library stepped
  refine ⟨coupled.calls, reached, coupled.entered, coupled.told, ?_, coupled.ended⟩
  intro unstarted
  obtain ⟨outside, creating, none, undialed⟩ := coupled.fresh unstarted
  exact ⟨outside, creating, count.trans none, undialed⟩

private theorem Coupled.looped {action : LoopAct} {loop : RunLoop}
    (coupled : whole.Coupled env) (running : whole.running = true) (uncancelled : action ≠ .cancel)
    (stepped : whole.loop.step env action = some loop) :
    ({ whole with loop } : WholeClient).Coupled env := by
  have told := RunLoop.step_ctxDone uncancelled stepped
  have went : (runLoop env).step whole.loop action = some loop := stepped
  refine ⟨coupled.calls, coupled.loop.step went, coupled.entered, ?_, ?_, fun _ => .inl running⟩
  · rw [told]
    exact coupled.told
  · intro unstarted
    have outside := (coupled.fresh unstarted).1
    simp [running] at outside

theorem coupled (reached : (wholeClient env).Reachable whole) : whole.Coupled env := by
  refine reached.invariant (Coupled env) ?_ ?_
  · rintro _ rfl
    exact coupled_init env
  · intro before action after _ coupled stepped
    cases step_move stepped with
    | called outside uncancelled moved => exact coupled.called outside uncancelled moved
    | cancelled at_ moved told => exact coupled.cancelled at_ moved told
    | exited at_ returned => exact coupled.exited at_ returned
    | library moved => exact coupled.library moved
    | looped running uncancelled moved => exact coupled.looped running uncancelled moved

end Coupled

/-! ## After `Close` -/

/-- `Close` has waited for the loop. -/
def Waited (whole : WholeClient) : Prop :=
  (∃ id, whole.calls.points id = .closeCallingFfi ∨ whole.calls.points id = .closeInsideFfi) ∨
    ∃ outcome ∈ whole.calls.shared.outcomes, outcome.decides = true

def Shut (whole : WholeClient) : Prop :=
  whole.calls.shared.closed = true ∧ whole.calls.shared.wg = 0

section Shut

variable {env : LoopEnv} {whole next : WholeClient}

theorem Coupled.shut (coupled : whole.Coupled env) (waited : whole.Waited) : whole.Shut := by
  obtain ⟨consistent, knows⟩ := clientOutline.holds coupled.calls
  rcases waited with ⟨id, calling | inside⟩ | decided
  · have known := (knows id).2
    rw [calling] at known
    exact ⟨consistent.closed_of known.1, known.2.2.2⟩
  · have known := (knows id).2
    rw [inside] at known
    exact ⟨consistent.closed_of known.1, known.2.2⟩
  · exact consistent.shut (List.countP_pos_iff.mpr decided)

/-- No loop runs on a client that is shut. It has returned, or there was none. -/
theorem Coupled.quiet (coupled : whole.Coupled env) (shut : whole.Shut) :
    whole.running = false ∧ whole.loop.pc.conn? = none ∧ whole.loop.pc.ws? = none := by
  have outside : whole.running = false := by
    cases starter : whole.calls.shared.starter with
    | none => simp [running, starter]
    | some id =>
        cases at_ : whole.calls.points id with
        | running pc =>
            have known := ((clientOutline.holds coupled.calls).2 id).2
            rw [at_] at known
            have counted := known.2
            simp [shut.2] at counted
        | _ => simp [running, starter, at_, ClientPc.inLoop]
  refine ⟨outside, ?_⟩
  rcases Nat.eq_zero_or_pos whole.calls.shared.loops with unstarted | begun
  · simp [(coupled.fresh unstarted).2.1, LoopPc.conn?, LoopPc.ws?]
  · rcases coupled.ended begun with running | returned
    · simp [outside] at running
    · simp [returned, LoopPc.conn?, LoopPc.ws?]

/-- Nothing is begun on a client that is shut, and it stays shut. -/
theorem Coupled.stays_shut {action : WholeAct} (coupled : whole.Coupled env) (shut : whole.Shut)
    (stepped : whole.step env action = some next) :
    next.Shut ∧ next.loop.inst.count = whole.loop.inst.count ∧
      next.loop.dialed = whole.loop.dialed := by
  have calls {id : ℕ} {choice : ClientChoice} {calls : Threads Client ClientPc}
      (moved : rcx509.threads.step whole.calls (.thread id choice) = some calls) :
      calls.shared.closed = true ∧ calls.shared.wg = 0 := by
    obtain ⟨point, went, _⟩ := Program.step_thread moved
    exact (Client.step_move went).shut ((clientOutline.holds coupled.calls).2 id) shut
  cases step_move stepped with
  | called _ _ moved => exact ⟨calls moved, rfl, rfl⟩
  | cancelled _ moved told =>
      cases told
      exact ⟨calls moved, rfl, rfl⟩
  | exited => exact ⟨shut, rfl, rfl⟩
  | library moved =>
      obtain ⟨inst, rfl, count⟩ := RunLoop.step_library moved
      exact ⟨shut, count, rfl⟩
  | looped running => simp [(coupled.quiet shut).1] at running

end Shut

end WholeClient

/-- `Close` only waits for a loop that it has told to stop. When it releases the FFI
context, and from then on, every connection has been freed, every websocket closed
once and every handle deleted, and nothing more is made. -/
theorem close_leaves_nothing (env : LoopEnv) (whole : WholeClient)
    (reached : (wholeClient env).Reachable whole) :
    (∀ id, whole.calls.points id = .closeWaiting → whole.calls.shared.wg ≠ 0 →
      whole.loop.ctxDone = true) ∧
    (whole.Waited → ∀ later, (wholeClient env).Steps (fun _ _ => True) whole later →
      later.loop.inst.count = whole.loop.inst.count ∧ later.loop.dialed = whole.loop.dialed ∧
      (∀ index < later.loop.inst.count, ∃ ffi, later.loop.inst.conns index = some ffi ∧
        ffi.freed = true ∧ ffi.state ≠ .connected) ∧
      (∀ ws < later.loop.dialed, later.loop.closeNows.count ws = 1) ∧
      later.loop.handles = []) := by
  have coupled := WholeClient.coupled reached
  constructor
  · intro id waiting pending
    obtain ⟨cancels, known⟩ := cancelOutline.holds coupled.calls
    have told := (known id).2
    rw [waiting] at told
    cases starter : whole.calls.shared.starter with
    | none =>
        have unstarted := cancels.consistent.starter.mp starter
        exact absurd (cancels.consistent.unstarted unstarted).1 pending
    | some ctx => exact coupled.told.mpr ⟨ctx, told ctx starter⟩
  · intro waited later path
    have kept := path.preserves (fun other => (wholeClient env).Reachable other ∧ other.Shut ∧
      other.loop.inst.count = whole.loop.inst.count ∧ other.loop.dialed = whole.loop.dialed)
      ?_ ⟨reached, coupled.shut waited, rfl, rfl⟩
    · obtain ⟨reachedLater, shut, count, dialed⟩ := kept
      have after := WholeClient.coupled reachedLater
      obtain ⟨_, unheld, unopened⟩ := after.quiet shut
      obtain ⟨owned, hung, _⟩ := RunLoop.sound after.loop
      refine ⟨count, dialed, ?_, ?_, (RunLoop.handled after.loop).empty unheld⟩
      · exact fun index known => owned.freed known (by simp [unheld])
      · exact fun ws known => hung.closedOnce known (by simp [unopened])
    · intro before action after holds _ stepped
      obtain ⟨earlier, shut, count, dialed⟩ := holds
      obtain ⟨still, sameCount, sameDialed⟩ :=
        (WholeClient.coupled earlier).stays_shut shut stepped
      exact ⟨earlier.step stepped, still, sameCount.trans count, sameDialed.trans dialed⟩

/-- Goroutine 0 starts the client and goroutine 1 closes it while the session is
established. -/
def startThenClose : List WholeAct :=
  List.flatten [.call 0 .start :: List.replicate 6 (.call 0 .ok), establish.map .loop,
    .call 1 .close :: List.replicate 5 (.call 1 .ok), hangUp.map .loop,
    [.loop (.loop .ok), .call 0 .ok, .call 0 .ok, .call 1 .ok]]

theorem close_leaves_nothing_startThenClose : ∃ whole,
    (wholeClient fixtureLoopEnv).run .init startThenClose = some whole ∧
      whole.loop.inst.count = 1 ∧ whole.loop.dialed = 1 ∧
      ∀ later, (wholeClient fixtureLoopEnv).Steps (fun _ _ => True) whole later →
        later.loop.inst.count = 1 ∧ later.loop.closeNows.count 0 = 1 ∧
        later.loop.handles = [] := by
  obtain ⟨whole, ran, calling, count, dialed⟩ : ∃ whole,
      (wholeClient fixtureLoopEnv).run .init startThenClose = some whole ∧
        whole.calls.points 1 = .closeCallingFfi ∧ whole.loop.inst.count = 1 ∧
        whole.loop.dialed = 1 := ⟨_, rfl, rfl, rfl, rfl⟩
  refine ⟨whole, ran, count, dialed, ?_⟩
  intro later path
  obtain ⟨sameCount, sameDialed, _, closed, handles⟩ :=
    (close_leaves_nothing fixtureLoopEnv whole (System.reachable_of_run rfl ran)).2
      (.inl ⟨1, .inl calling⟩) later path
  exact ⟨sameCount.trans count, closed 0 (by omega), handles⟩

end LibddRc.Go
