import LibddRc.Go.RunSession
import LibddRc.Go.Teardown

/-! The session of a host is `runSession`: the host of one connection has the
messages that cross the session, `runSession` has its read worker, its result and
the bytes. Every run of the host is answered by a run of `runSession`. -/

set_option autoImplicit false

namespace LibddRc.Go

open Foundation

/-- Where `runSession` stands if it is going to return `result`. The host's session
is finished with `Outgoing` before the websocket is closed. -/
def SessionPc.detailed (result : SessionResult) (writable : Bool) : SessionPc → RunSessionPc
  | .selecting => .selecting
  | .delivering _ => .delivering
  | .writing _ => .writing
  | .closing => .closing result
  | .draining => .draining result writable
  | .drainWriting _ => .drainWriting result
  | .finished => .closingWs result

namespace RunSession

/-- The payloads that `ws.Write` was called with. -/
def writes (session : RunSession) : List Bytes :=
  session.calls.filterMap fun
    | .write message => some message
    | _ => none

/-- A frame is read, queued and taken by a session that waits for one. -/
theorem run_receive {session : RunSession} (selecting : session.pc = .selecting)
    (reading : session.worker = .reading) (incoming : session.incoming = .empty) {data : Bytes}
    (nonempty : data ≠ []) :
    system.run session [.worker (.read (.message true data)), .worker .enqueue,
      .main .takeIncoming] = some { session with
        pc := .delivering
        frames := session.frames ++ [data]
        calls := session.calls ++ [.recv data] } := by
  obtain ⟨⟩ := session
  cases selecting
  cases reading
  cases incoming
  simp [system, step, workerStep, readMessage, nonempty, mainStep, takeIncoming, Channel.push?,
    Channel.pop?, Channel.rest, incomingQueueCap]

end RunSession

/-- The session of a host as one of `runSession`. `frame` gives the bytes that the
library reads an input from. A message is given up only when its write fails or
the websocket is known to be broken. -/
structure Host.SessionAs (env : HostEnv) (frame : ServerInput → Bytes) (host : Host)
    (session : RunSession) : Prop where
  pc : ∃ result, session.pc = host.session.detailed result host.writable
  outgoing : session.outgoing = host.outgoing.items.map (sendCbData env.wire)
  closed : session.outgoingClosed = true ↔ host.close = .closed
  reading : session.worker = .reading
  incoming : session.incoming = .empty
  received : ∀ input, host.session = .delivering input →
    session.received.getLast? = some (frame input)
  written : ((host.written ++ host.session.held).map (sendCbData env.wire)).Sublist session.writes
  writable : host.writable = true ∨ host.session = .draining ∨ host.session = .finished

section Simulation

variable {env : HostEnv} {frame : ServerInput → Bytes} {host next : Host} {session : RunSession}

/-- Outside the drain no write has failed without ending the loop. -/
private theorem Host.SessionAs.unbroken (tracked : host.SessionAs env frame session)
    (early : host.session ≠ .draining ∧ host.session ≠ .finished) : host.writable = true := by
  rcases tracked.writable with writable | draining | finished
  · exact writable
  · exact absurd draining early.1
  · exact absurd finished early.2

private theorem Host.SessionAs.given_up (tracked : host.SessionAs env frame session) :
    (host.written.map (sendCbData env.wire)).Sublist session.writes := by
  refine List.Sublist.trans ?_ tracked.written
  exact (List.sublist_append_left _ _).map _

/-- The loop is left, whatever for. A message that was being written is given up. -/
private theorem Host.SessionAs.leaves (tracked : host.SessionAs env frame session)
    (result : SessionResult) (ctxDone : Bool)
    (early : host.session ≠ .draining ∧ host.session ≠ .finished) :
    ({ host with session := .closing } : Host).SessionAs env frame
      { session with pc := .closing result, ctxDone } :=
  { tracked with
    pc := ⟨result, rfl⟩
    received := by simp
    written := by simpa [SessionPc.held, RunSession.writes] using tracked.given_up
    writable := .inl (tracked.unbroken early) }

/-- A message is taken from `Outgoing` and handed to `ws.Write`. -/
private theorem Host.SessionAs.takes {message : ClientToServer}
    {outgoing : Channel ClientToServer outgoingQueueCap}
    (tracked : host.SessionAs env frame session) (result : SessionResult) (writing : SessionPc)
    (idle : host.session.held = [])
    (holds : writing.held = [message]) (writable : host.writable = true) :
    ({ host with session := writing, outgoing } : Host).SessionAs env frame { session with
      pc := writing.detailed result host.writable
      outgoing := outgoing.items.map (sendCbData env.wire)
      calls := session.calls ++ [.write (sendCbData env.wire message)] } := by
  have earlier := tracked.written
  rw [idle, List.append_nil] at earlier
  exact { tracked with
    pc := ⟨result, rfl⟩
    outgoing := rfl
    received := by
      rintro input rfl
      cases holds
    written := by
      simpa [holds, RunSession.writes] using
        earlier.append (List.Sublist.refl [sendCbData env.wire message])
    writable := .inl writable }

/-- A message was written. -/
private theorem Host.SessionAs.writes {message : ClientToServer}
    (tracked : host.SessionAs env frame session) (result : SessionResult) (after : SessionPc)
    (holds : host.session.held = [message]) (idle : after.held = [])
    (delivered : ∀ input, after ≠ .delivering input) (writable : host.writable = true) :
    ({ host with session := after, written := host.written ++ [message] } : Host).SessionAs env
      frame { session with pc := after.detailed result host.writable } :=
  { tracked with
    pc := ⟨result, rfl⟩
    received := fun input at_ => absurd at_ (delivered input)
    written := by simpa [holds, idle, RunSession.writes] using tracked.written
    writable := .inl writable }

private theorem run_main {action : MainAct} {later : RunSession}
    (stepped : session.mainStep action = some later) :
    RunSession.system.run session [.main action] = some later :=
  System.run_single _ stepped

/-- A write that succeeded, in the loop or in the drain. -/
private theorem SessionMove.wrote_answered (move : SessionMove host .wrote next)
    (tracked : host.SessionAs env frame session) :
    ∃ actions later, RunSession.system.run session actions = some later ∧
      next.SessionAs env frame later := by
  obtain ⟨result, pc⟩ := tracked.pc
  cases move with
  | wrote at_ =>
      rw [at_] at pc
      refine ⟨[.main (.writeReturns .written)], _, run_main ?_, tracked.writes result .selecting
        (by rw [at_]; rfl) rfl (by simp) (tracked.unbroken (by simp [at_]))⟩
      simp [RunSession.mainStep, pc, SessionPc.detailed, RunSession.afterWrite]
  | drainWrote at_ =>
      rw [at_] at pc
      have writable := tracked.unbroken (by simp [at_])
      refine ⟨[.main (.drainWriteReturns true)], _, run_main ?_, tracked.writes result .draining
        (by rw [at_]; rfl) rfl (by simp) writable⟩
      simp [RunSession.mainStep, pc, SessionPc.detailed, writable]

/-- A write that failed: the loop ends with its error, the drain only stops writing. -/
private theorem SessionMove.writeFailed_answered (move : SessionMove host .writeFailed next)
    (tracked : host.SessionAs env frame session) :
    ∃ actions later, RunSession.system.run session actions = some later ∧
      next.SessionAs env frame later := by
  obtain ⟨result, pc⟩ := tracked.pc
  cases move with
  | failed at_ =>
      rw [at_] at pc
      refine ⟨[.main (.writeReturns .failed)], _, run_main ?_,
        tracked.leaves .writeFailed session.ctxDone (by simp [at_])⟩
      simp [RunSession.mainStep, pc, SessionPc.detailed, RunSession.afterWrite]
  | drainFailed at_ =>
      rw [at_] at pc
      refine ⟨[.main (.drainWriteReturns false)], { session with pc := .draining result false },
        run_main ?_, ?_⟩
      · simp [RunSession.mainStep, pc, SessionPc.detailed]
      · exact { tracked with
          pc := ⟨result, rfl⟩
          received := by simp
          written := by simpa [SessionPc.held, RunSession.writes] using tracked.given_up
          writable := .inr (.inl rfl) }

private theorem SessionMove.takeOutgoing_answered (move : SessionMove host .takeOutgoing next)
    (tracked : host.SessionAs env frame session) :
    ∃ actions later, RunSession.system.run session actions = some later ∧
      next.SessionAs env frame later := by
  obtain ⟨result, pc⟩ := tracked.pc
  have queued := tracked.outgoing
  cases move with
  | @took message outgoing at_ items =>
      rw [at_] at pc
      rw [items] at queued
      refine ⟨[.main .takeOutgoing], _, run_main ?_, tracked.takes result (.writing message)
        (by rw [at_]; rfl) rfl (tracked.unbroken (by simp [at_]))⟩
      simp [RunSession.mainStep, pc, SessionPc.detailed, RunSession.takeOutgoing, queued]
  | released at_ empty shut =>
      rw [at_] at pc
      rw [empty] at queued
      refine ⟨[.main .takeOutgoing], _, run_main ?_,
        tracked.leaves .released session.ctxDone (by simp [at_])⟩
      simp [RunSession.mainStep, pc, SessionPc.detailed, RunSession.takeOutgoing, queued,
        tracked.closed.mpr shut]

/-- A turn of `drainOutgoing`. -/
private theorem SessionMove.drain_answered (move : SessionMove host .drain next)
    (phased : host.Phased) (tracked : host.SessionAs env frame session) :
    ∃ actions later, RunSession.system.run session actions = some later ∧
      next.SessionAs env frame later := by
  obtain ⟨result, pc⟩ := tracked.pc
  have queued := tracked.outgoing
  cases move with
  | @drainTook message outgoing at_ ok items =>
      rw [at_] at pc
      rw [items] at queued
      refine ⟨[.main .drainNext], _, run_main ?_, tracked.takes result (.drainWriting message)
        (by rw [at_]; rfl) rfl ok⟩
      simp [RunSession.mainStep, pc, SessionPc.detailed, RunSession.drainNext, queued, ok]
  | @discarded message outgoing at_ broken items =>
      rw [at_] at pc
      rw [items] at queued
      refine ⟨[.main .drainNext],
        { session with outgoing := outgoing.items.map (sendCbData env.wire) }, run_main ?_, ?_⟩
      · simp [RunSession.mainStep, pc, SessionPc.detailed, RunSession.drainNext, queued, broken]
      · exact { tracked with outgoing := rfl }
  | finished at_ empty =>
      rw [at_] at pc
      rw [empty] at queued
      refine ⟨[.main .drainNext], { session with pc := .closingWs result }, run_main ?_, ?_⟩
      · simp [RunSession.mainStep, pc, SessionPc.detailed, RunSession.drainNext, queued,
          tracked.closed.mpr (phased.draining at_)]
      · exact { tracked with
          pc := ⟨result, rfl⟩
          received := by simp
          written := by simpa [at_, SessionPc.held, RunSession.writes] using tracked.written
          writable := .inr (.inr rfl) }

/-- A step of the session's loop is answered by the statements it stands for. -/
private theorem SessionMove.answered {action : SessionAct} (framed : ∀ input, frame input ≠ [])
    (move : SessionMove host action next) (phased : host.Phased)
    (tracked : host.SessionAs env frame session) :
    ∃ actions later, RunSession.system.run session actions = some later ∧
      next.SessionAs env frame later := by
  obtain ⟨result, pc⟩ := tracked.pc
  cases action with
  | wrote => exact move.wrote_answered tracked
  | writeFailed => exact move.writeFailed_answered tracked
  | takeOutgoing => exact move.takeOutgoing_answered tracked
  | drain => exact move.drain_answered phased tracked
  | stop =>
      cases move with
      | stopped at_ =>
          rw [at_] at pc
          refine ⟨[.env .cancelCtx, .main .seeDone], _, ?_,
            tracked.leaves .ctxErr true (by simp [at_])⟩
          simp [RunSession.system, RunSession.step, RunSession.envStep, RunSession.mainStep, pc,
            SessionPc.detailed]
  | receive input =>
      cases move with
      | received at_ =>
          rw [at_] at pc
          refine ⟨_, _,
            RunSession.run_receive pc tracked.reading tracked.incoming (framed input), ?_⟩
          exact { tracked with
            pc := ⟨result, rfl⟩
            received := by
              rintro _ ⟨⟩
              simp [RunSession.received]
            written := by simpa [at_, SessionPc.held, RunSession.writes] using tracked.written
            writable := .inl (tracked.unbroken (by simp [at_])) }
  | deliver =>
      cases move with
      | rejected at_ _ =>
          rw [at_] at pc
          refine ⟨[.main (.recvReturns .connectionClosed)], _, run_main ?_,
            tracked.leaves .deliverFailed session.ctxDone (by simp [at_])⟩
          simp [RunSession.mainStep, pc, SessionPc.detailed, RunSession.afterRecv]
  | close =>
      cases move with
      | closed at_ shut =>
          rw [at_] at pc
          have writable := tracked.unbroken (by simp [at_])
          refine ⟨[.main .close], { session with
            pc := .draining result true, outgoingClosed := true
            calls := session.calls ++ [.close, .drain] }, run_main ?_, ?_⟩
          · simp [RunSession.mainStep, pc, SessionPc.detailed]
          · exact { tracked with
              pc := ⟨result, by simp [SessionPc.detailed, writable]⟩
              closed := iff_of_true rfl shut
              received := by simp
              written := by simpa [at_, SessionPc.held, RunSession.writes] using tracked.written
              writable := .inl writable }

private theorem GoMove.answered {action : HostAct} (framed : ∀ input, frame input ≠ [])
    (move : GoMove env host action next) (phased : host.Phased)
    (tracked : host.SessionAs env frame session) :
    ∃ actions later, RunSession.system.run session actions = some later ∧
      next.SessionAs env frame later := by
  cases move with
  | session moved => exact moved.answered framed phased tracked
  | delivered at_ _ _ =>
      obtain ⟨result, pc⟩ := tracked.pc
      rw [at_] at pc
      refine ⟨[.main (.recvReturns .delivered)], { session with pc := .selecting },
        run_main ?_, ?_⟩
      · simp [RunSession.mainStep, pc, SessionPc.detailed, RunSession.afterRecv]
      · exact { tracked with
          pc := ⟨result, rfl⟩
          received := by simp
          written := by simpa [at_, SessionPc.held, RunSession.writes] using tracked.written
          writable := .inl (tracked.unbroken (by simp [at_])) }
  | @sent message outgoing conn calling items =>
      -- the callback runs, so that the I/O task is not joined and `Outgoing` is open
      have opened : session.outgoingClosed = false := by
        rw [← Bool.not_eq_true, tracked.closed]
        intro shut
        simp [phased.joined (.inr (phased.closed shut))] at calling
      refine ⟨[.env (.push (sendCbData env.wire message))],
        { session with outgoing := session.outgoing ++ [sendCbData env.wire message] }, ?_, ?_⟩
      · simp [RunSession.system, RunSession.step, RunSession.envStep, opened]
      · exact { tracked with outgoing := by simp [items, tracked.outgoing] }
  | closeCalled open_ =>
      exact ⟨[], session, rfl, { tracked with closed := by simpa [open_] using tracked.closed }⟩
  | poolClosed shutting =>
      exact ⟨[], session, rfl, { tracked with closed := by simpa [shutting] using tracked.closed }⟩
  | linkClosed =>
      exact ⟨[.env .release], { session with outgoingClosed := true }, rfl,
        { tracked with closed := iff_of_true rfl rfl }⟩
  | native | enqueued | refused | offered | pooled | sank | unsaid | dropped | poolClosing
  | linkClosing => exact ⟨[], session, rfl, { tracked with }⟩

end Simulation

/-- The session of a host is one of `runSession`, in every run and whatever bytes
the inputs are read from. -/
theorem host_session_refines (env : HostEnv) (frame : ServerInput → Bytes)
    (framed : ∀ input, frame input ≠ []) (host : Host) (reached : (goHost env).Reachable host) :
    ∃ session, RunSession.system.Reachable session ∧ host.SessionAs env frame session := by
  refine reached.simulated (fun host session => host.SessionAs env frame session) ?_ ?_
  · rintro _ ⟨appInfo, rfl⟩
    refine ⟨.init, ⟨.init, rfl, .refl⟩, ⟨.nil, rfl⟩, rfl, ?_, rfl, rfl, by simp [Host.init], ?_,
      .inl rfl⟩
    · simp [RunSession.init, Host.init]
    · exact List.nil_sublist _
  · intro before action after session earlier _ tracked stepped
    exact (Host.step_move stepped).answered framed (Host.phased_of_reachable earlier) tracked

/-- The frames of the acknowledgement and the request below; all else is a ping. -/
def fixtureFrame : ServerInput → Bytes
  | .ok (.clientHelloAck _) => [0x22, 0x26, 0x0a, 0x12, 0x0a, 0x10] ++ fixtureId ++
      [0x12, 0x10] ++ List.replicate 16 42
  | .ok (.dispatch _ _ _) => [0x1a, 0x1c, 0x08, 0x05, 0x12, 0x15, 0x0a, 0x10] ++
      List.replicate 16 7 ++ [0x12, 0x01, 0x01, 0x1a, 0x01, 0x01]
  | _ => [0x0a, 0x00]

theorem fixtureFrame_ne_nil (input : ServerInput) : fixtureFrame input ≠ [] := by
  unfold fixtureFrame
  split <;> simp

theorem host_session_refines_one : ∃ host session result,
    (goHost fixtureHostEnv).run (Host.init Actor.fixtureApp)
        (serveRequest ++ respond ++ tearDown 2) = some host ∧
      host.session = .finished ∧ host.written.length = 2 ∧
      RunSession.system.Reachable session ∧ session.pc = .closingWs result ∧
      (host.written.map (sendCbData fixtureHostEnv.wire)).Sublist session.writes := by
  obtain ⟨host, ran, finished, written⟩ : ∃ host,
      (goHost fixtureHostEnv).run (Host.init Actor.fixtureApp)
          (serveRequest ++ respond ++ tearDown 2) = some host ∧
        host.session = .finished ∧ host.written.length = 2 := ⟨_, rfl, rfl, rfl⟩
  have reached := System.reachable_of_run fixtureHost_initial ran
  obtain ⟨session, answered, tracked⟩ :=
    host_session_refines fixtureHostEnv fixtureFrame fixtureFrame_ne_nil host reached
  obtain ⟨result, pc⟩ := tracked.pc
  rw [finished] at pc
  have wrote := tracked.written
  simp only [finished, SessionPc.held, List.append_nil] at wrote
  exact ⟨host, session, result, ran, finished, written, answered, pc, wrote⟩

end LibddRc.Go
