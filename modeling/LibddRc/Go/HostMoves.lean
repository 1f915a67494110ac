import LibddRc.Connection.Moves
import LibddRc.Go.Host

/-! Inversion of the host's step function, and the host seen as its native
connection and as its invoke pool. -/

set_option autoImplicit false

namespace LibddRc.Go

open Foundation

/-- The session's moves that involve neither the library nor `Close`. -/
inductive SessionMove (host : Host) : SessionAct → Host → Prop
  | stopped : host.session = .selecting →
      SessionMove host .stop { host with session := .closing }
  | received {input : ServerInput} : host.session = .selecting →
      SessionMove host (.receive input) { host with session := .delivering input }
  | rejected {input : ServerInput} : host.session = .delivering input → host.close = .closed →
      SessionMove host .deliver { host with session := .closing }
  | took {message : ClientToServer} {outgoing : Channel ClientToServer outgoingQueueCap} :
      host.session = .selecting → host.outgoing.items = message :: outgoing.items →
      SessionMove host .takeOutgoing { host with session := .writing message, outgoing }
  | released : host.session = .selecting → host.outgoing.items = [] → host.close = .closed →
      SessionMove host .takeOutgoing { host with session := .closing }
  | wrote {message : ClientToServer} : host.session = .writing message →
      SessionMove host .wrote { host with
        session := .selecting, written := host.written ++ [message] }
  | drainWrote {message : ClientToServer} : host.session = .drainWriting message →
      SessionMove host .wrote { host with
        session := .draining, written := host.written ++ [message] }
  | failed {message : ClientToServer} : host.session = .writing message →
      SessionMove host .writeFailed { host with session := .closing }
  | drainFailed {message : ClientToServer} : host.session = .drainWriting message →
      SessionMove host .writeFailed { host with session := .draining, writable := false }
  | closed : host.session = .closing → host.close = .closed →
      SessionMove host .close { host with session := .draining }
  | drainTook {message : ClientToServer} {outgoing : Channel ClientToServer outgoingQueueCap} :
      host.session = .draining → host.writable = true →
      host.outgoing.items = message :: outgoing.items →
      SessionMove host .drain { host with session := .drainWriting message, outgoing }
  | discarded {message : ClientToServer} {outgoing : Channel ClientToServer outgoingQueueCap} :
      host.session = .draining → host.writable = false →
      host.outgoing.items = message :: outgoing.items →
      SessionMove host .drain { host with outgoing }
  | finished : host.session = .draining → host.outgoing.items = [] →
      SessionMove host .drain { host with session := .finished }

/-- Every move of the host, with the steps its parts make. -/
inductive GoMove (env : HostEnv) (host : Host) : HostAct → Host → Prop
  | native {action : Act} {conn : Conn} : host.admits action = true →
      host.conn.step env.native action = some conn →
      GoMove env host (.native action) { host with conn }
  | enqueued {request : Dispatch} {pool : Pool} : host.conn.dispatchTask = .calling request →
      host.pool.step (.lock request.correlationId.raw) = some pool →
      GoMove env host .enqueue { host with pool }
  | refused {job : DispatchJob} {pool : Pool} {conn : Conn} :
      host.pool.mutex = .enqueueing job → host.pool.step .offer = some pool → pool.mutex = .free →
      host.conn.step env.native (.refuse .queueFull) = some conn →
      GoMove env host .offer { host with conn, pool }
  | offered {job : DispatchJob} {pool : Pool} {conn : Conn} :
      host.pool.mutex = .enqueueing job → host.pool.step .offer = some pool → pool.mutex ≠ .free →
      host.conn.step env.native .accept = some conn →
      GoMove env host .offer { host with conn, pool, jobs := host.jobs ++ [job] }
  | pooled {action : PoolAct} {pool : Pool} : action.internal = true →
      host.pool.step action = some pool → GoMove env host (.pool action) { host with pool }
  | sank {hostAction : HostAct} {ticket : Nat} {action : InvocationAct} {step : PoolAct}
      {inv : Invocation} {call : SinkCall} {pool : Pool} {answer : HostAnswer} {conn : Conn} :
      host.returning hostAction = some (ticket, action, step) →
      host.pool.invocations ticket = some inv → inv.sinkCall? action = some call →
      host.pool.step step = some pool → env.answerTo call = some answer →
      host.conn.step env.native (.answer (host.conn.host.idxOf inv.job.id) answer) = some conn →
      GoMove env host hostAction
        { host with conn, pool, answered := host.answered ++ [inv.job] }
  | unsaid {hostAction : HostAct} {ticket : Nat} {action : InvocationAct} {step : PoolAct}
      {inv : Invocation} {call : SinkCall} {pool : Pool} :
      host.returning hostAction = some (ticket, action, step) →
      host.pool.invocations ticket = some inv → inv.sinkCall? action = some call →
      host.pool.step step = some pool → env.answerTo call = none →
      GoMove env host hostAction { host with pool }
  | sent {message : ClientToServer} {outgoing : Channel ClientToServer outgoingQueueCap}
      {conn : Conn} : host.conn.ioTask = .calling message →
      outgoing.items = host.outgoing.items ++ [message] →
      host.conn.step env.native (.sendReturn .success) = some conn →
      GoMove env host .goSendCb { host with conn, outgoing }
  | dropped {message : ClientToServer} {conn : Conn} : host.conn.ioTask = .calling message →
      goBytes (sendCbData env.wire message) = none ∨ host.outgoing.length = outgoingQueueCap →
      host.conn.step env.native (.sendReturn .unknown) = some conn →
      GoMove env host .goSendCb { host with conn }
  | delivered {input : ServerInput} {conn : Conn} : host.session = .delivering input →
      host.close = .open_ → host.conn.step env.native (.recv input) = some conn →
      GoMove env host (.session .deliver) { host with conn, session := .selecting }
  | session {action : SessionAct} {next : Host} : SessionMove host action next →
      GoMove env host (.session action) next
  | closeCalled {hostAction : HostAct} : host.close = .open_ →
      GoMove env host hostAction { host with close := .shuttingDown }
  | poolClosing {pool : Pool} : host.close = .shuttingDown →
      host.pool.step .shutdown = some pool → GoMove env host .close { host with pool }
  | poolClosed : host.close = .shuttingDown → host.pool.shutdown = .returned →
      GoMove env host .close { host with close := .disconnecting }
  | linkClosing {conn : Conn} : host.close = .disconnecting → host.conn.link ≠ .disconnected →
      host.conn.step env.native (disconnectStep host.conn.link) = some conn →
      GoMove env host .close { host with conn }
  | linkClosed : host.close = .disconnecting → host.conn.link = .disconnected →
      GoMove env host .close { host with close := .closed }

section Moves

variable {env : HostEnv} {host next : Host}

private theorem sessionStep_move {action : SessionAct}
    (stepped : host.sessionStep env action = some next) :
    GoMove env host (.session action) next := by
  cases action with
  | stop =>
      simp only [Host.sessionStep] at stepped
      split at stepped
      · next selecting =>
        cases stepped
        exact .session (.stopped selecting)
      · cases stepped
  | receive input =>
      simp only [Host.sessionStep] at stepped
      split at stepped
      · next selecting =>
        cases stepped
        exact .session (.received selecting)
      · cases stepped
  | deliver =>
      simp only [Host.sessionStep] at stepped
      split at stepped
      · next delivering open_ =>
        obtain ⟨conn, received, rfl⟩ := Option.map_eq_some_iff.mp stepped
        exact .delivered delivering open_ received
      · next delivering closed =>
        cases stepped
        exact .session (.rejected delivering closed)
      · cases stepped
  | takeOutgoing =>
      simp only [Host.sessionStep] at stepped
      split at stepped
      · next selecting popped =>
        cases stepped
        exact .session (.took selecting (Channel.pop?_eq_some popped))
      · next selecting popped =>
        obtain ⟨closed, same⟩ := Option.ite_none_right_eq_some.mp stepped
        cases same
        exact .session (.released selecting (Channel.pop?_eq_none popped) closed)
      · cases stepped
  | wrote =>
      simp only [Host.sessionStep] at stepped
      split at stepped
      · next writing =>
        cases stepped
        exact .session (.wrote writing)
      · next writing =>
        cases stepped
        exact .session (.drainWrote writing)
      · cases stepped
  | writeFailed =>
      simp only [Host.sessionStep] at stepped
      split at stepped
      · next writing =>
        cases stepped
        exact .session (.failed writing)
      · next writing =>
        cases stepped
        exact .session (.drainFailed writing)
      · cases stepped
  | close =>
      simp only [Host.sessionStep] at stepped
      split at stepped
      · next open_ =>
        cases stepped
        exact .closeCalled open_
      · next closing closed =>
        cases stepped
        exact .session (.closed closing closed)
      · cases stepped
  | drain =>
      simp only [Host.sessionStep] at stepped
      split at stepped
      · next draining popped =>
        split at stepped
        · next writable =>
          cases stepped
          exact .session (.drainTook draining writable (Channel.pop?_eq_some popped))
        · next unwritable =>
          cases stepped
          exact .session (.discarded draining (by simpa using unwritable)
            (Channel.pop?_eq_some popped))
      · next draining popped =>
        cases stepped
        exact .session (.finished draining (Channel.pop?_eq_none popped))
      · cases stepped

private theorem offerStep_move {job : DispatchJob} (holding : host.pool.mutex = .enqueueing job)
    (stepped : host.offerStep env job = some next) : GoMove env host .offer next := by
  obtain ⟨pool, offered, stepped⟩ := Option.bind_eq_some_iff.mp stepped
  split at stepped
  · next free =>
    obtain ⟨conn, refused, rfl⟩ := Option.map_eq_some_iff.mp stepped
    exact .refused holding offered free refused
  · next held =>
    obtain ⟨conn, accepted, rfl⟩ := Option.map_eq_some_iff.mp stepped
    exact .offered holding offered held accepted

private theorem sinkStep_move {hostAction : HostAct} {returns : Nat × InvocationAct × PoolAct}
    (returning : host.returning hostAction = some returns)
    (stepped : host.sinkStep env returns.1 returns.2.1 returns.2.2 = some next) :
    GoMove env host hostAction next := by
  obtain ⟨inv, found, stepped⟩ := Option.bind_eq_some_iff.mp stepped
  obtain ⟨call, called, stepped⟩ := Option.bind_eq_some_iff.mp stepped
  obtain ⟨pool, pooled, stepped⟩ := Option.bind_eq_some_iff.mp stepped
  split at stepped
  · next silent =>
    cases stepped
    exact .unsaid returning found called pooled silent
  · next answer answers =>
    obtain ⟨conn, delivered, rfl⟩ := Option.map_eq_some_iff.mp stepped
    exact .sank returning found called pooled answers delivered

private theorem goSendCb_move {message : ClientToServer}
    (calling : host.conn.ioTask = .calling message)
    (stepped : host.goSendCb env message = some next) : GoMove env host .goSendCb next := by
  unfold Host.goSendCb at stepped
  split at stepped
  · next outgoing taken =>
    obtain ⟨_, _, pushed⟩ := Option.bind_eq_some_iff.mp taken
    obtain ⟨conn, returned, rfl⟩ := Option.map_eq_some_iff.mp stepped
    exact .sent calling (Channel.push?_eq_some pushed).2 returned
  · next untaken =>
    obtain ⟨conn, returned, rfl⟩ := Option.map_eq_some_iff.mp stepped
    refine .dropped calling ?_ returned
    cases data : goBytes (sendCbData env.wire message) with
    | none => exact .inl rfl
    | some payload =>
        rw [data, Option.bind_some] at untaken
        exact .inr (Channel.push?_eq_none_iff.mp untaken)

private theorem closeStep_move (stepped : host.closeStep env = some next) :
    GoMove env host .close next := by
  unfold Host.closeStep at stepped
  split at stepped
  · cases stepped
  · cases stepped
  · next shutting =>
    split at stepped
    · next returned =>
      cases stepped
      exact .poolClosed shutting returned
    · obtain ⟨pool, pooled, rfl⟩ := Option.map_eq_some_iff.mp stepped
      exact .poolClosing shutting pooled
  · next disconnecting =>
    split at stepped
    · next disconnected =>
      cases stepped
      exact .linkClosed disconnecting disconnected
    · next linked =>
      obtain ⟨conn, moved, rfl⟩ := Option.map_eq_some_iff.mp stepped
      exact .linkClosing disconnecting linked moved

theorem Host.step_move {action : HostAct} (stepped : host.step env action = some next) :
    GoMove env host action next := by
  obtain ⟨_, stepped⟩ := Option.ite_none_left_eq_some.mp stepped
  cases action with
  | native action =>
      obtain ⟨admitted, stepped⟩ := Option.ite_none_right_eq_some.mp stepped
      obtain ⟨conn, moved, rfl⟩ := Option.map_eq_some_iff.mp stepped
      exact .native admitted moved
  | enqueue =>
      simp only [stepRunning] at stepped
      split at stepped
      · next request calling =>
        obtain ⟨pool, locked, rfl⟩ := Option.map_eq_some_iff.mp stepped
        exact .enqueued calling locked
      · cases stepped
  | offer =>
      simp only [stepRunning] at stepped
      split at stepped
      · next job holding => exact offerStep_move holding stepped
      · cases stepped
  | pool action =>
      obtain ⟨internal, stepped⟩ := Option.ite_none_right_eq_some.mp stepped
      obtain ⟨pool, moved, rfl⟩ := Option.map_eq_some_iff.mp stepped
      exact .pooled internal moved
  | workerSink worker =>
      obtain ⟨returns, returning, stepped⟩ := Option.bind_eq_some_iff.mp stepped
      exact sinkStep_move returning stepped
  | watcherSink ticket =>
      have returning : host.returning (.watcherSink ticket) =
        some (ticket, .watcherSink, .watcher ticket .watcherSink) := rfl
      exact sinkStep_move returning stepped
  | goSendCb =>
      simp only [stepRunning] at stepped
      split at stepped
      · next message calling => exact goSendCb_move calling stepped
      · cases stepped
  | session action => exact sessionStep_move stepped
  | contextClose =>
      obtain ⟨open_, same⟩ := Option.ite_none_right_eq_some.mp stepped
      cases same
      exact .closeCalled open_
  | close => exact closeStep_move stepped

theorem GoMove.native_step {action : HostAct} (move : GoMove env host action next) :
    next.conn = host.conn ∨ ∃ act, host.conn.step env.native act = some next.conn := by
  cases move with
  | native _ moved | refused _ _ _ moved | offered _ _ _ moved | sank _ _ _ _ _ moved
  | sent _ _ moved | dropped _ _ moved | delivered _ _ moved | linkClosing _ _ moved =>
      exact .inr ⟨_, moved⟩
  | enqueued | pooled | unsaid | closeCalled | poolClosing | poolClosed | linkClosed =>
      exact .inl rfl
  | session moved => cases moved <;> exact .inl rfl

theorem GoMove.pool_step {action : HostAct} (move : GoMove env host action next) :
    next.pool = host.pool ∨ ∃ act, host.pool.step act = some next.pool := by
  cases move with
  | enqueued _ moved | refused _ moved _ _ | offered _ moved _ _ | pooled _ moved
  | sank _ _ _ moved _ _ | unsaid _ _ _ moved _ | poolClosing _ moved => exact .inr ⟨_, moved⟩
  | native | sent | dropped | delivered | closeCalled | poolClosed | linkClosing | linkClosed =>
      exact .inl rfl
  | session moved => cases moved <;> exact .inl rfl

theorem Host.conn_reachable (reached : (goHost env).Reachable host) :
    (connection env.native).Reachable host.conn := by
  refine reached.project Host.conn (fun _ => True) ?_ ?_ trivial
  · rintro _ ⟨appInfo, rfl⟩
    exact ⟨appInfo, rfl⟩
  · intro before action after _ _ stepped _
    rcases (Host.step_move stepped).native_step with same | ⟨act, moved⟩
    · exact ⟨trivial, .inl same⟩
    · exact ⟨trivial, .inr ⟨act, trivial, moved⟩⟩

theorem Host.pool_reachable (reached : (goHost env).Reachable host) :
    invokePool.Reachable host.pool := by
  refine reached.project Host.pool (fun _ => True) ?_ ?_ trivial
  · rintro _ ⟨appInfo, rfl⟩
    rfl
  · intro before action after _ _ stepped _
    rcases (Host.step_move stepped).pool_step with same | ⟨act, moved⟩
    · exact ⟨trivial, .inl same⟩
    · exact ⟨trivial, .inr ⟨act, trivial, moved⟩⟩

end Moves

/-! ## Phases of the teardown -/

/-- Only the last steps of `Close` touch the link, they come after the pool's
shutdown, and the session drains after them. -/
structure Host.Phased (host : Host) : Prop where
  unlinked : host.conn.link ≠ .connected → host.close = .disconnecting ∨ host.close = .closed
  drained : host.close = .disconnecting ∨ host.close = .closed → host.pool.shutdown = .returned
  closed : host.close = .closed → host.conn.link = .disconnected
  joined : host.conn.link = .ioJoined ∨ host.conn.link = .disconnected →
    host.conn.ioTask = .exited
  draining : host.session = .draining → host.close = .closed
  drainWriting : ∀ message, host.session = .drainWriting message → host.close = .closed
  finished : host.session = .finished → host.close = .closed ∧ host.outgoing.items = []

section Phases

variable {env : HostEnv} {host next : Host}

private theorem host_phased_init (appInfo : AppInfo) : (Host.init appInfo).Phased := by
  refine ⟨?_, ?_, ?_, ?_, ?_, ?_, ?_⟩ <;> simp [Host.init, Conn.init]

private theorem returned_stays {pool after : Pool} {action : PoolAct}
    (stepped : pool.step action = some after) (returned : pool.shutdown = .returned) :
    after.shutdown = .returned := by
  cases (Pool.step_move stepped).2 with
  | locked | refused | offered | added | took | sawStop | drained | watched => exact returned
  | worked =>
      unfold Pool.resume
      split <;> exact returned
  | shutdownLocked at_ _ | shutdownCleared at_ | shutdownClosed at_ | shutdownReturned at_ _ =>
      simp [returned] at at_

theorem Host.unlinks_of_admits {action : Act} (admitted : host.admits action = true) :
    action.unlinks = false := by
  cases action <;> first | rfl | cases admitted

/-- Only `rc_conn_disconnected` changes the link. -/
theorem GoMove.link_kept {action : HostAct} (move : GoMove env host action next) :
    next.conn.link = host.conn.link ∨ action = .close ∧ host.close = .disconnecting ∧
      next = { host with conn := next.conn } ∧
      host.conn.step env.native (disconnectStep host.conn.link) = some next.conn := by
  cases move with
  | native admitted stepped =>
      exact .inl ((Conn.step_move stepped).link_kept (Host.unlinks_of_admits admitted))
  | refused _ _ _ stepped | offered _ _ _ stepped | sank _ _ _ _ _ stepped | sent _ _ stepped
  | dropped _ _ stepped | delivered _ _ stepped =>
      exact .inl ((Conn.step_move stepped).link_kept rfl)
  | linkClosing disconnecting _ stepped => exact .inr ⟨rfl, disconnecting, rfl, stepped⟩
  | enqueued | pooled | unsaid | closeCalled | poolClosing | poolClosed | linkClosed =>
      exact .inl rfl
  | session moved => cases moved <;> exact .inl rfl

private theorem Host.Phased.withConn {action : Act} {conn : Conn} (phased : host.Phased)
    (stepped : host.conn.step env.native action = some conn) (other : action.unlinks = false) :
    ({ host with conn } : Host).Phased := by
  have kept := (Conn.step_move stepped).link_kept other
  refine { phased with unlinked := ?_, closed := ?_, joined := ?_ }
  · simpa only [kept] using phased.unlinked
  · simpa only [kept] using phased.closed
  · intro at_
    exact ((Conn.step_move stepped).io_exited (phased.joined (by simpa only [kept] using at_))).1

private theorem Host.Phased.withPool {action : PoolAct} {pool : Pool} (phased : host.Phased)
    (stepped : host.pool.step action = some pool) : ({ host with pool } : Host).Phased :=
  { phased with drained := fun late => returned_stays stepped (phased.drained late) }

private theorem phased_session {action : SessionAct} (move : SessionMove host action next)
    (phased : host.Phased) : next.Phased := by
  obtain ⟨unlinked, drained, closed, joined, draining, drainWriting, finished⟩ := phased
  cases move with
  | stopped | received | rejected | took | released | wrote | failed =>
      exact ⟨unlinked, drained, closed, joined, by simp, by simp, by simp⟩
  | drainWrote writing =>
      exact ⟨unlinked, drained, closed, joined, fun _ => drainWriting _ writing, by simp, by simp⟩
  | drainFailed writing =>
      exact ⟨unlinked, drained, closed, joined, fun _ => drainWriting _ writing, by simp, by simp⟩
  | closed _ shut => exact ⟨unlinked, drained, closed, joined, fun _ => shut, by simp, by simp⟩
  | drainTook at_ _ _ =>
      exact ⟨unlinked, drained, closed, joined, by simp, fun _ _ => draining at_, by simp⟩
  | discarded at_ _ _ =>
      exact ⟨unlinked, drained, closed, joined, draining, drainWriting, by simp [at_]⟩
  | finished at_ empty =>
      exact ⟨unlinked, drained, closed, joined, by simp, by simp, fun _ => ⟨draining at_, empty⟩⟩

/-- The steps of `rc_conn_disconnected` join the I/O task before they end. -/
private theorem phased_link {conn : Conn} (phased : host.Phased)
    (disconnecting : host.close = .disconnecting) (linked : host.conn.link ≠ .disconnected)
    (stepped : host.conn.step env.native (disconnectStep host.conn.link) = some conn) :
    ({ host with conn } : Host).Phased := by
  refine { phased with unlinked := fun _ => .inl disconnecting, closed := ?_, joined := ?_ }
  · intro closed
    rw [closed] at disconnecting
    cases disconnecting
  · cases at_ : host.conn.link with
    | connected | ioCancelled =>
        simp only [at_, disconnectStep, Conn.step, if_true, Option.some.injEq] at stepped
        simp [← stepped]
    | cancelled =>
        simp only [at_, disconnectStep, Conn.step, true_and, Option.ite_none_right_eq_some,
          Option.some.injEq] at stepped
        exact fun _ => stepped.2 ▸ stepped.1
    | ioJoined => exact fun _ => ((Conn.step_move stepped).io_exited (phased.joined (.inl at_))).1
    | disconnected => exact absurd at_ linked

theorem GoMove.phased {action : HostAct} (move : GoMove env host action next)
    (phased : host.Phased) : next.Phased := by
  cases move with
  | native admitted stepped =>
      exact phased.withConn stepped (Host.unlinks_of_admits admitted)
  | enqueued _ stepped => exact phased.withPool stepped
  | pooled _ stepped => exact phased.withPool stepped
  | unsaid _ _ _ stepped _ => exact phased.withPool stepped
  | refused _ pooled _ stepped =>
      exact (phased.withPool pooled).withConn stepped rfl
  | offered _ pooled _ stepped =>
      exact { (phased.withPool pooled).withConn stepped rfl with }
  | sank _ _ _ pooled _ stepped =>
      exact { (phased.withPool pooled).withConn stepped rfl with }
  | dropped _ _ stepped => exact phased.withConn stepped rfl
  | sent calling _ stepped =>
      refine { phased.withConn stepped rfl with finished := ?_ }
      intro finished
      have exited := phased.joined (.inr (phased.closed (phased.finished finished).1))
      simp [exited] at calling
  | delivered _ _ stepped =>
      have linked := phased.withConn stepped rfl
      exact { linked with draining := by simp, drainWriting := by simp, finished := by simp }
  | session moved => exact phased_session moved phased
  | closeCalled open_ =>
      obtain ⟨unlinked, _, closed, joined, draining, drainWriting, finished⟩ := phased
      refine ⟨fun away => ?_, by simp, by simp, joined, fun at_ => ?_, fun message at_ => ?_,
        fun at_ => ?_⟩
      · have late := unlinked away
        simp [open_] at late
      · simp [open_] at draining
        exact absurd at_ draining
      · simp [open_] at drainWriting
        exact absurd at_ (drainWriting message)
      · have late := (finished at_).1
        simp [open_] at late
  | poolClosing shutting stepped => exact phased.withPool stepped
  | poolClosed shutting returned =>
      obtain ⟨unlinked, _, closed, joined, draining, drainWriting, finished⟩ := phased
      simp only [shutting, reduceCtorEq, imp_false, false_and] at draining drainWriting finished
      exact ⟨fun _ => .inl rfl, fun _ => returned, by simp, joined, fun at_ => absurd at_ draining,
        fun message at_ => absurd at_ (drainWriting message), fun at_ => absurd at_ finished⟩
  | linkClosing disconnecting linked stepped =>
      exact phased_link phased disconnecting linked stepped
  | linkClosed disconnecting disconnected =>
      exact ⟨fun _ => .inr rfl, fun _ => phased.drained (.inl disconnecting),
        fun _ => disconnected, phased.joined, fun _ => rfl, fun _ _ => rfl,
        fun at_ => ⟨rfl, (phased.finished at_).2⟩⟩

theorem Host.phased_of_reachable (reached : (goHost env).Reachable host) : host.Phased := by
  refine reached.invariant Host.Phased ?_ fun _ _ _ _ phased stepped =>
    (Host.step_move stepped).phased phased
  rintro _ ⟨appInfo, rfl⟩
  exact host_phased_init appInfo

end Phases

end LibddRc.Go
