import LibddRc.Go.RunSession

/-! What every run of `runSession` keeps: frames reach the connection in order and
none twice, the cleanup makes its calls once and in order, and it comes to its
end under every schedule. -/

set_option autoImplicit false

namespace LibddRc.Go

open Foundation

/-! ## Stages of the cleanup -/

namespace RunSessionPc

/-- How far the session is: in its loop, then one stage for each call of the
cleanup that is next. -/
def stage : RunSessionPc → Nat
  | .selecting | .delivering | .writing => 0
  | .closing _ => 1
  | .draining _ _ | .drainWriting _ => 2
  | .closingWs _ => 3
  | .cancellingRead _ => 4
  | .waiting _ => 5
  | .returned _ => 6

/-- What the session is going to return. -/
def result? : RunSessionPc → Option SessionResult
  | .selecting | .delivering | .writing => none
  | .closing result | .draining result _ | .drainWriting result | .closingWs result
  | .cancellingRead result | .waiting result | .returned result => some result

theorem inLoop_iff (pc : RunSessionPc) : pc.inLoop = true ↔ pc.stage = 0 := by
  cases pc <;> simp [inLoop, stage]

end RunSessionPc

def SessionCall.inLoop : SessionCall → Bool
  | .recv _ | .write _ => true
  | .close | .drain | .closeNow => false

/-- The calls of the cleanup up to a stage, with what the drain has written. -/
def cleanupCalls (stage : Nat) (drained : List Bytes) : List SessionCall :=
  if stage ≤ 1 then []
  else [SessionCall.close, SessionCall.drain] ++ drained.map SessionCall.write ++
    if stage ≤ 3 then [] else [SessionCall.closeNow]

namespace RunSession

variable {session next : RunSession}

/-- The session has made the calls of the loop, then those of its stage. -/
def Shaped (session : RunSession) : Prop :=
  ∃ loop drained, (∀ call ∈ loop, call.inLoop = true) ∧
    session.calls = loop ++ cleanupCalls session.pc.stage drained

/-- The flags are those of the session's stage. -/
structure Flagged (session : RunSession) : Prop where
  outgoingClosed : 2 ≤ session.pc.stage → session.outgoingClosed = true
  wsClosed : session.wsClosed = true ↔ 4 ≤ session.pc.stage
  readCancelled : session.readCancelled = true ↔ 5 ≤ session.pc.stage
  exited : session.pc.stage = 6 → session.worker = .exited

theorem Shaped.loop (shaped : Shaped session) (loop : session.pc.inLoop = true) :
    ∀ call ∈ session.calls, call.inLoop = true := by
  obtain ⟨earlier, drained, all, same⟩ := shaped
  rw [(RunSessionPc.inLoop_iff _).mp loop] at same
  have plain : session.calls = earlier := by simpa [cleanupCalls] using same
  rwa [plain]

theorem Shaped.of_loop (all : ∀ call ∈ session.calls, call.inLoop = true)
    (early : session.pc.stage ≤ 1) : Shaped session :=
  ⟨session.calls, [], all, by simp [cleanupCalls, early]⟩

/-- A step of the cleanup that makes no call. -/
theorem Shaped.silent (shaped : Shaped session) (calls : next.calls = session.calls)
    (same : ∀ drained, cleanupCalls session.pc.stage drained = cleanupCalls next.pc.stage drained) :
    Shaped next := by
  obtain ⟨loop, drained, all, whole⟩ := shaped
  exact ⟨loop, drained, all, by rw [calls, whole, same]⟩

theorem Shaped.main (shaped : Shaped session) (move : session.MainMove next) : Shaped next := by
  have inLoop := shaped.loop
  cases move with
  | recv here | write here =>
      apply Shaped.of_loop
      · simpa [or_imp, forall_and, SessionCall.inLoop] using inLoop here
      · exact Nat.zero_le 1
  | again here => exact Shaped.of_loop (inLoop here) (Nat.zero_le 1)
  | leave here => exact Shaped.of_loop (inLoop here) (Nat.le_refl 1)
  | close closing =>
      obtain ⟨loop, drained, all, same⟩ := shaped
      refine ⟨loop, [], all, ?_⟩
      simp [same, closing, cleanupCalls, RunSessionPc.stage]
  | @drainWrite _ _ message _ draining _ =>
      obtain ⟨loop, drained, all, same⟩ := shaped
      refine ⟨loop, drained ++ [message], all, ?_⟩
      simp [same, draining, cleanupCalls, RunSessionPc.stage]
  | closeNow closing =>
      obtain ⟨loop, drained, all, same⟩ := shaped
      refine ⟨loop, drained, all, ?_⟩
      simp [same, closing, cleanupCalls, RunSessionPc.stage]
  | drainDrop => exact shaped
  | drainWrote pc | drained pc | cancelRead pc | wait pc =>
      apply shaped.silent
      · rfl
      · intro drained
        rw [pc]
        rfl

theorem Shaped.move (shaped : Shaped session) (move : session.Move next) : Shaped next := by
  cases move with
  | env move => cases move <;> exact shaped
  | main move => exact shaped.main move
  | worker move => cases move <;> exact shaped

theorem Flagged.main (flagged : Flagged session) (move : session.MainMove next) :
    Flagged next := by
  obtain ⟨outgoingClosed, wsClosed, readCancelled, exited⟩ := flagged
  cases move with
  | recv here | write here | again here | leave here =>
      rw [(RunSessionPc.inLoop_iff _).mp here] at wsClosed readCancelled
      constructor <;> simp_all [RunSessionPc.stage]
  | close pc | drainWrite pc | drainDrop pc | drainWrote pc | drained pc | closeNow pc
  | cancelRead pc | wait pc =>
      constructor <;> simp_all [RunSessionPc.stage]

theorem Flagged.worker (flagged : Flagged session) (move : session.WorkerMove next) :
    Flagged next := by
  obtain ⟨outgoingClosed, wsClosed, readCancelled, exited⟩ := flagged
  cases move with
  | done => exact ⟨outgoingClosed, wsClosed, readCancelled, fun _ => rfl⟩
  | read pc | readFails pc | enqueue pc | drop pc | closeMessages pc =>
      have unreturned : session.pc.stage ≠ 6 := by
        intro returned
        rw [exited returned] at pc
        cases pc
      exact ⟨outgoingClosed, wsClosed, readCancelled, fun returned => absurd returned unreturned⟩

theorem Flagged.move (flagged : Flagged session) (move : session.Move next) : Flagged next := by
  cases move with
  | main move => exact flagged.main move
  | worker move => exact flagged.worker move
  | env move =>
      cases move with
      | cancelCtx => exact ⟨flagged.1, flagged.2, flagged.3, flagged.4⟩
      | push => exact ⟨flagged.1, flagged.2, flagged.3, flagged.4⟩
      | release => exact ⟨fun _ => rfl, flagged.2, flagged.3, flagged.4⟩

end RunSession

/-! ## The way of a frame -/

namespace ReadWorkerPc

/-- The frame that the worker is about to put on the channel. -/
def held : ReadWorkerPc → List Bytes
  | .enqueueing message => [message]
  | .reading | .closing | .closed | .exited => []

/-- The worker has left its loop. -/
def quit : ReadWorkerPc → Bool
  | .reading | .enqueueing _ => false
  | .closing | .closed | .exited => true

theorem held_of_quit {pc : ReadWorkerPc} (quit : pc.quit = true) : pc.held = [] := by
  cases pc with
  | reading | enqueueing => cases quit
  | closing | closed | exited => rfl

end ReadWorkerPc

namespace RunSession

variable {session next : RunSession}

/-- Each frame read has been received, is in the channel, is held by the worker,
or was the last one and given up. -/
structure Flowing (session : RunSession) : Prop where
  frames : session.frames =
    session.received ++ session.incoming.items ++ session.worker.held ++ session.dropped
  gaveUp : session.dropped ≠ [] → session.worker.quit = true ∧ session.readDone = true
  closed : session.incomingClosed = true → session.worker.quit = true
  clean : session.pc.result? = some .nil → session.incomingClosed = true ∧
    session.incoming.items = [] ∧ (session.dropped ≠ [] → session.ctxDone = true)

theorem Flowing.env (flowing : Flowing session) (move : session.EnvMove next) :
    Flowing next := by
  obtain ⟨frames, gaveUp, closed, clean⟩ := flowing
  cases move with
  | cancelCtx =>
      constructor
      case gaveUp => exact fun lost => ⟨(gaveUp lost).1, rfl⟩
      case clean => exact fun nil => ⟨(clean nil).1, (clean nil).2.1, fun _ => rfl⟩
      all_goals assumption
  | push => exact ⟨frames, gaveUp, closed, clean⟩
  | release => exact ⟨frames, gaveUp, closed, clean⟩

theorem Flowing.worker (flowing : Flowing session) (move : session.WorkerMove next) :
    Flowing next := by
  obtain ⟨frames, gaveUp, closed, clean⟩ := flowing
  -- A worker in its loop has given nothing up and left the channel open.
  have working : session.worker.quit = false → session.dropped = [] ∧
      session.incomingClosed ≠ true := by
    intro loop
    constructor
    · by_contra lost
      simp [(gaveUp lost).1] at loop
    · intro ended
      simp [closed ended] at loop
  cases move with
  | read reading | readFails reading =>
      obtain ⟨kept, opened⟩ := working (by rw [reading]; rfl)
      constructor
      case frames => simp [frames, reading, kept, ReadWorkerPc.held, received]
      case gaveUp => exact fun lost => absurd kept lost
      case closed => exact fun ended => absurd ended opened
      case clean => exact fun nil => absurd (clean nil).1 opened
  | enqueue enqueueing moved =>
      obtain ⟨kept, opened⟩ := working (by rw [enqueueing]; rfl)
      constructor
      case frames => simp [frames, enqueueing, kept, moved, ReadWorkerPc.held, received]
      case gaveUp => exact fun lost => absurd kept lost
      case closed => exact fun ended => absurd ended opened
      case clean => exact fun nil => absurd (clean nil).1 opened
  | drop enqueueing done =>
      obtain ⟨kept, opened⟩ := working (by rw [enqueueing]; rfl)
      constructor
      case frames => simp [frames, enqueueing, kept, ReadWorkerPc.held, received]
      case gaveUp => exact fun _ => ⟨rfl, done⟩
      case closed => exact fun _ => rfl
      case clean => exact fun nil => absurd (clean nil).1 opened
  | closeMessages closing =>
      constructor
      case frames => simpa [closing, ReadWorkerPc.held, received] using frames
      case gaveUp => exact fun lost => ⟨rfl, (gaveUp lost).2⟩
      case closed => exact fun _ => rfl
      case clean => exact fun nil => ⟨rfl, (clean nil).2⟩
  | done ending =>
      constructor
      case frames => simpa [ending, ReadWorkerPc.held, received] using frames
      case gaveUp => exact fun lost => ⟨rfl, (gaveUp lost).2⟩
      case closed => exact fun _ => rfl
      case clean => exact clean

theorem Flowing.main (flowing : Flowing session) (flagged : Flagged session)
    (move : session.MainMove next) : Flowing next := by
  obtain ⟨frames, gaveUp, closed, clean⟩ := flowing
  cases move with
  | recv loop held =>
      constructor
      case frames => simp [frames, held, received]
      case clean => simp [RunSessionPc.result?]
      all_goals assumption
  | write loop =>
      constructor
      case frames => simp [frames, received]
      case clean => simp [RunSessionPc.result?]
      all_goals assumption
  | again loop =>
      constructor
      case clean => simp [RunSessionPc.result?]
      all_goals assumption
  | @leave result loop read =>
      constructor
      case clean =>
        intro nil
        obtain ⟨ended, empty⟩ := read (Option.some.inj nil)
        refine ⟨ended, empty, ?_⟩
        intro lost
        have uncancelled : session.readCancelled = false := by
          rw [← Bool.not_eq_true, flagged.readCancelled, (RunSessionPc.inLoop_iff _).mp loop]
          decide
        simpa [readDone, uncancelled] using (gaveUp lost).2
      all_goals assumption
  | close pc | drainWrite pc | closeNow pc =>
      rw [pc] at clean
      constructor
      case frames => simp [frames, received]
      case clean => exact clean
      all_goals assumption
  | drainDrop => exact ⟨frames, gaveUp, closed, clean⟩
  | drainWrote pc | drained pc | wait pc =>
      rw [pc] at clean
      exact ⟨frames, gaveUp, closed, clean⟩
  | cancelRead cancelling =>
      rw [cancelling] at clean
      constructor
      case gaveUp => exact fun lost => ⟨(gaveUp lost).1, by simp [readDone]⟩
      case clean => exact clean
      all_goals assumption

/-- What holds in every state of a run. -/
structure Sound (session : RunSession) : Prop where
  shaped : Shaped session
  flagged : Flagged session
  flowing : Flowing session

theorem Sound.init : Sound init where
  shaped := ⟨[], [], by simp, rfl⟩
  flagged := by constructor <;> simp [RunSession.init, RunSessionPc.stage]
  flowing := by
    constructor <;> simp [RunSession.init, received, ReadWorkerPc.held, RunSessionPc.result?]

theorem Sound.move (sound : Sound session) (move : session.Move next) : Sound next where
  shaped := sound.shaped.move move
  flagged := sound.flagged.move move
  flowing := by
    cases move with
    | env move => exact sound.flowing.env move
    | main move => exact sound.flowing.main sound.flagged move
    | worker move => exact sound.flowing.worker move

theorem sound (reached : system.Reachable session) : Sound session := by
  apply reached.invariant
  · intro state initial
    rw [initial]
    exact Sound.init
  · intro state act after _ before stepped
    exact before.move (step_moves stepped)

/-! ## The end of the cleanup -/

/-- Steps that the worker has left: two for each free slot of the channel while it
is in its loop. -/
def workerRank (session : RunSession) : Nat :=
  match session.worker with
  | .reading => 4 + 2 * (incomingQueueCap - session.incoming.length)
  | .enqueueing _ => 3 + 2 * (incomingQueueCap - session.incoming.length)
  | .closing => 2
  | .closed => 1
  | .exited => 0

/-- Steps that the cleanup has left: two for each message to drain. -/
def mainRank (session : RunSession) : Nat :=
  match session.pc with
  | .selecting | .delivering | .writing => 0
  | .closing _ => 5 + 2 * session.outgoing.length
  | .draining _ _ => 4 + 2 * session.outgoing.length
  | .drainWriting _ => 5 + 2 * session.outgoing.length
  | .closingWs _ => 3
  | .cancellingRead _ => 2
  | .waiting _ => 1
  | .returned _ => 0

theorem mainRank_lt (cleanup : session.pc.inLoop = false) (move : session.MainMove next) :
    next.mainRank < session.mainRank ∧ next.workerRank = session.workerRank := by
  cases move with
  | recv loop | write loop | again loop | leave loop => simp [loop] at cleanup
  | close pc | drainWrote pc | drained pc | closeNow pc | cancelRead pc | wait pc =>
      refine ⟨?_, rfl⟩
      simp only [mainRank, pc]
      omega
  | drainWrite pc held | drainDrop pc held =>
      refine ⟨?_, rfl⟩
      simp only [mainRank, pc, held, List.length_cons]
      omega

theorem workerRank_lt (move : session.WorkerMove next) :
    next.workerRank < session.workerRank ∧ next.mainRank = session.mainRank := by
  cases move with
  | read pc | readFails pc | drop pc | closeMessages pc | done pc =>
      refine ⟨?_, rfl⟩
      simp only [workerRank, pc]
      omega
  | @enqueue _ incoming pc moved =>
      refine ⟨?_, rfl⟩
      have fits := incoming.bounded
      have longer := congrArg List.length moved
      rw [List.length_append, List.length_singleton] at longer
      simp only [workerRank, pc, Channel.length]
      omega

theorem due_of_isSome {act : RunSessionAct} (due : session.Due act)
    (enabled : (session.step act).isSome) :
    ∃ act next, session.Due act ∧ system.step session act = some next := by
  obtain ⟨next, stepped⟩ := Option.isSome_iff_exists.mp enabled
  exact ⟨act, next, due, stepped⟩

/-- At the last wait the worker is on its way out: its read fails, and it does not
wait for a slot any longer. -/
theorem Sound.due_waiting (sound : Sound session) {result : SessionResult}
    (waiting : session.pc = .waiting result) :
    ∃ act next, session.Due act ∧ system.step session act = some next := by
  have wsClosed : session.wsClosed = true :=
    sound.flagged.wsClosed.mpr (by simp [waiting, RunSessionPc.stage])
  have cancelled : session.readCancelled = true :=
    sound.flagged.readCancelled.mpr (by simp [waiting, RunSessionPc.stage])
  have trying : ∀ act, session.Due act → (session.step act).isSome →
      ∃ act next, session.Due act ∧ system.step session act = some next :=
    fun _ => due_of_isSome
  cases worker : session.worker with
  | reading =>
      apply trying (.worker (.read .failed)) ⟨rfl, .inl wsClosed⟩
      simp [step, workerStep, worker, readMessage]
  | enqueueing message =>
      apply trying (.worker .seeDone) trivial
      simp [step, workerStep, worker, readDone, cancelled]
  | closing =>
      apply trying (.worker .closeMessages) trivial
      simp [step, workerStep, worker]
  | closed =>
      apply trying (.worker .done) trivial
      simp [step, workerStep, worker]
  | exited =>
      apply trying (.main .wait) trivial
      simp [step, mainStep, waiting, worker]

/-- The cleanup is never stuck. -/
theorem Sound.due (sound : Sound session) (cleanup : session.pc.inLoop = false)
    (running : ∀ result, session.pc ≠ .returned result) :
    ∃ act next, session.Due act ∧ system.step session act = some next := by
  have trying : ∀ action : MainAct, (session.step (.main action)).isSome →
      ∃ act next, session.Due act ∧ system.step session act = some next :=
    fun _ => due_of_isSome trivial
  cases pc : session.pc with
  | selecting | delivering | writing => simp [pc, RunSessionPc.inLoop] at cleanup
  | closing result =>
      apply trying .close
      simp [step, mainStep, pc]
  | draining result writable =>
      have closed : session.outgoingClosed = true :=
        sound.flagged.outgoingClosed (by simp [pc, RunSessionPc.stage])
      apply trying .drainNext
      cases held : session.outgoing with
      | nil => simp [step, mainStep, pc, drainNext, held, closed]
      | cons message outgoing =>
          cases writable with
          | true => simp [step, mainStep, pc, drainNext, held]
          | false => simp [step, mainStep, pc, drainNext, held]
  | drainWriting result =>
      apply trying (.drainWriteReturns true)
      simp [step, mainStep, pc]
  | closingWs result =>
      apply trying .closeNow
      simp [step, mainStep, pc]
  | cancellingRead result =>
      apply trying .cancelRead
      simp [step, mainStep, pc]
  | waiting result => exact sound.due_waiting pc
  | returned result => exact absurd pc (running result)

/-- Frames reach `conn.Recv` in order, each at most once, and all of them when the
session returns nil without its context being cancelled. Every exit closes the
connection once, then drains, then closes the websocket, writes nothing more and
returns after the worker. Each step of either goroutine brings the cleanup
nearer to its end, and there is always one left to take. -/
theorem session_cleans_up (reached : system.Reachable session) :
    session.received <+: session.frames ∧
    (session.pc = .returned .nil → session.ctxDone = false →
      session.received = session.frames) ∧
    (session.wsClosed = true → ∃ (loop : List SessionCall) (drained : List Bytes),
      (∀ call ∈ loop, call.inLoop = true) ∧
      session.calls = loop ++ ([SessionCall.close, SessionCall.drain] ++
        drained.map SessionCall.write ++ [SessionCall.closeNow])) ∧
    (∀ result, session.pc = .returned result →
      session.wsClosed = true ∧ session.worker = .exited) ∧
    (session.pc.inLoop = false → (∀ result, session.pc ≠ .returned result) →
      (∃ act next, session.Due act ∧ system.step session act = some next) ∧
      ∀ act next, (∀ action, act ≠ .env action) → system.step session act = some next →
        next.mainRank + next.workerRank < session.mainRank + session.workerRank) := by
  have sound := sound reached
  obtain ⟨shaped, flagged, flowing⟩ := sound
  refine ⟨?_, ?_, ?_, ?_, ?_⟩
  · rw [flowing.frames, List.append_assoc, List.append_assoc]
    exact List.prefix_append _ _
  · intro returned live
    obtain ⟨closed, empty, cause⟩ := flowing.clean (by rw [returned]; rfl)
    have kept : session.dropped = [] := by
      by_contra lost
      simp [cause lost] at live
    have frames := flowing.frames
    rw [empty, ReadWorkerPc.held_of_quit (flowing.closed closed), kept] at frames
    simpa using frames.symm
  · intro wsClosed
    have late : ¬ session.pc.stage ≤ 3 := Nat.not_le.mpr (flagged.wsClosed.mp wsClosed)
    obtain ⟨loop, drained, all, same⟩ := shaped
    refine ⟨loop, drained, all, ?_⟩
    rw [same, cleanupCalls, if_neg (by omega), if_neg late]
  · intro result returned
    have stage : session.pc.stage = 6 := by rw [returned]; rfl
    exact ⟨flagged.wsClosed.mpr (by omega), flagged.exited stage⟩
  · intro cleanup running
    constructor
    · exact Sound.due ⟨shaped, flagged, flowing⟩ cleanup running
    · intro act next own stepped
      cases act with
      | env action => exact absurd rfl (own action)
      | main action =>
          have moved := mainRank_lt cleanup (mainStep_moves stepped)
          omega
      | worker action =>
          have moved := workerRank_lt (workerStep_moves stepped)
          omega

/-- Two frames, of which the FFI layer rejects the first, and an answer that is
left to the drain. -/
def twoFrames : List RunSessionAct :=
  [.worker (.read (.message true [1])), .worker .enqueue, .worker (.read (.message true [2])),
    .main .takeIncoming, .main (.recvReturns .rejected), .worker .enqueue,
    .worker (.read .failed), .worker .closeMessages, .main .takeIncoming,
    .main (.recvReturns .delivered), .main .takeIncoming, .env (.push [3]), .main .close,
    .main .drainNext, .main (.drainWriteReturns true), .main .drainNext, .main .closeNow,
    .main .cancelRead, .worker .done, .main .wait]

theorem session_cleans_up_twoFrames :
    ∃ session, system.run init twoFrames = some session ∧ session.pc = .returned .nil ∧
      session.frames = [[1], [2]] ∧ session.received = session.frames := by
  obtain ⟨session, ran, returned, live, frames⟩ : ∃ session,
      system.run init twoFrames = some session ∧ session.pc = .returned .nil ∧
        session.ctxDone = false ∧ session.frames = [[1], [2]] :=
    ⟨_, rfl, rfl, rfl, rfl⟩
  have reached := System.reachable_of_run rfl ran
  exact ⟨session, ran, returned, frames, (session_cleans_up reached).2.1 returned live⟩

end RunSession

end LibddRc.Go
