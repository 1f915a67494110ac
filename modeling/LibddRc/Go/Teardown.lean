import LibddRc.Go.Jobs

/-! Teardown of a session: what has to be true when `Close` disconnects the
library for every accepted job to have its response written, and the run in
which a response is lost because it is not. -/

set_option autoImplicit false

namespace LibddRc.Go

open Foundation

namespace Host

/-- The library holds no answer that it has not offered to `goSendCb`. -/
def Flushed (host : Host) : Prop :=
  host.conn.replies.items = [] ∧ host.conn.heldByActor = [] ∧ host.conn.outgoing.items = []

instance (host : Host) : Decidable host.Flushed := inferInstanceAs (Decidable (_ ∧ _ ∧ _))

/-- Writes succeed, and the library is flushed when `Close` disconnects it. -/
def Clean (host : Host) : HostAct → Prop
  | .session .writeFailed => False
  | .close => host.close = .disconnecting → host.conn.link = .connected → host.Flushed
  | _ => True

/-- The host is roomy, every outcome can be marshalled, and the teardown is clean. -/
def Graceful (env : HostEnv) (host : Host) (action : HostAct) : Prop :=
  host.Roomy env action ∧ (∀ call ∈ host.sinkCall? action, (env.answerTo call).isSome = true) ∧
    host.Clean action

instance Clean.decidable (host : Host) (action : HostAct) : Decidable (host.Clean action) :=
  match action with
  | .session .writeFailed => isFalse id
  | .close => inferInstanceAs (Decidable (_ → _ → host.Flushed))
  | .session .stop | .session (.receive _) | .session .deliver | .session .takeOutgoing
  | .session .wrote | .session .close | .session .drain | .native _ | .enqueue | .offer
  | .pool _ | .workerSink _ | .watcherSink _ | .goSendCb | .contextClose => isTrue trivial

instance Graceful.decidable (env : HostEnv) (host : Host) (action : HostAct) :
    Decidable (host.Graceful env action) :=
  inferInstanceAs (Decidable (_ ∧ _ ∧ _))

def acceptedJobs (host : Host) : List DispatchJob :=
  host.jobs.filter fun job => job.ticket ∈ host.pool.accepted

end Host

section Account

variable {env : HostEnv} {host next : Host}

/-- A move takes on a job together with the request it is for, or takes on none. -/
private theorem GoMove.takes {action : HostAct} (move : GoMove env host action next) :
    (next.jobs = host.jobs ∧ (next.conn = host.conn ∨ ∃ act, act ≠ .accept ∧
        host.conn.step env.native act = some next.conn)) ∨
      ∃ job, host.pool.mutex = .enqueueing job ∧ next.jobs = host.jobs ++ [job] ∧
        host.conn.step env.native .accept = some next.conn := by
  cases move with
  | @native act _ admitted stepped =>
      refine .inl ⟨rfl, .inr ⟨act, ?_, stepped⟩⟩
      rintro rfl
      cases admitted
  | offered holding _ _ stepped => exact .inr ⟨_, holding, rfl, stepped⟩
  | refused _ _ _ stepped | sank _ _ _ _ _ stepped | sent _ _ stepped | dropped _ _ stepped
  | delivered _ _ stepped => exact .inl ⟨rfl, .inr ⟨_, by simp, stepped⟩⟩
  | linkClosing _ _ stepped =>
      refine .inl ⟨rfl, .inr ⟨_, ?_, stepped⟩⟩
      cases host.conn.link <;> simp [disconnectStep]
  | enqueued | pooled | unsaid | closeCalled | poolClosing | poolClosed | linkClosed =>
      exact .inl ⟨rfl, .inl rfl⟩
  | session moved => cases moved <;> exact .inl ⟨rfl, .inl rfl⟩

private theorem balanced_of_roomy (reached : (goHost env).ReachableBy (Host.Roomy env) host)
    (connected : host.conn.link = .connected) : host.conn.Balanced := by
  have steady := Host.conn_steady reached connected
  exact (balanced_of_reachable (steady.weaken fun _ _ meets => meets.answering)
    (live_of_steady steady)).2

/-- Until `Close` disconnects it, the library has every job: outstanding at the
host, or with a result. -/
private theorem jobs_taken (reached : (goHost env).ReachableBy (Host.Roomy env) host)
    (connected : host.conn.link = .connected) (id : CorrelationId) :
    (host.jobs.map DispatchJob.id).count id ≤ host.conn.taken id := by
  revert connected id
  refine reached.invariant (fun host => host.conn.link = .connected → ∀ id,
    (host.jobs.map DispatchJob.id).count id ≤ host.conn.taken id) ?_ ?_
  · rintro _ ⟨appInfo, rfl⟩ _ id
    simp [Host.init]
  · intro before action after earlier holds roomy stepped connected id
    have move := Host.step_move stepped
    have after_balanced := balanced_of_roomy (earlier.step roomy stepped) connected
    rcases move.takes with ⟨jobs, same | ⟨act, other, moved⟩⟩ | ⟨job, holding, jobs, moved⟩
    · rw [jobs, same]
      exact holds (same ▸ connected) id
    · have native := Conn.step_move moved
      have linked := native.connected_before connected
      rw [jobs]
      exact (holds linked id).trans
        (native.taken_le other (balanced_of_roomy earlier linked) after_balanced id)
    · have native := Conn.step_move moved
      obtain ⟨request, calling, same⟩ :=
        (Host.tracked_of_reachable earlier.reachable).calling job holding
      have taken := (native.taken_accept calling id).1
      have earlier_taken := holds (native.connected_before connected) id
      simp only [jobs, taken, List.map_append, List.map_cons, List.map_nil, List.count_append, same]
      omega

end Account

/-! ## From the library to the websocket -/

/-- Every message offered to `goSendCb` is written, being written, on `Outgoing`
or still being offered, in that order. -/
structure Host.Streamed (host : Host) : Prop where
  writable : host.writable = true
  stream : host.conn.offered = host.written ++ host.session.held ++ host.outgoing.items ++
    beingOffered host.conn.ioTask

section Stream

variable {env : HostEnv} {host next : Host}

private theorem streamed_session {action : SessionAct} (move : SessionMove host action next)
    (written : action ≠ .writeFailed) (streamed : host.Streamed) : next.Streamed := by
  obtain ⟨writable, stream⟩ := streamed
  cases move with
  | failed | drainFailed => exact absurd rfl written
  | stopped at_ | received at_ | released at_ | closed at_ | finished at_ =>
      exact ⟨writable, by simpa [at_, SessionPc.held] using stream⟩
  | rejected at_ => exact ⟨writable, by simpa [at_, SessionPc.held] using stream⟩
  | took at_ items | drainTook at_ _ items =>
      exact ⟨writable, by simpa [at_, SessionPc.held, items] using stream⟩
  | wrote at_ | drainWrote at_ => exact ⟨writable, by simpa [at_, SessionPc.held] using stream⟩
  | discarded _ unwritable => simp [writable] at unwritable

private theorem GoMove.streamed {action : HostAct} (move : GoMove env host action next)
    (graceful : host.Graceful env action) (streamed : host.Streamed) : next.Streamed := by
  obtain ⟨roomy, _, clean⟩ := graceful
  have library : ∀ {act conn}, host.conn.step env.native act = some conn →
      (∀ ret, act ≠ .sendReturn ret) → ({ host with conn } : Host).Streamed := by
    intro act conn stepped unreturned
    obtain ⟨more, offered, being⟩ := (Conn.step_move stepped).offers unreturned
    refine ⟨streamed.writable, ?_⟩
    simp only [offered, being, streamed.stream, List.append_assoc]
  cases move with
  | @native act _ admitted stepped =>
      refine library stepped ?_
      rintro ret rfl
      cases admitted
  | refused _ _ _ stepped | offered _ _ _ stepped | sank _ _ _ _ _ stepped =>
      exact { library stepped (by simp) with }
  | linkClosing _ _ stepped =>
      refine library stepped ?_
      cases host.conn.link <;> simp [disconnectStep]
  | delivered delivering _ stepped =>
      have moved := library stepped (by simp)
      refine ⟨moved.writable, ?_⟩
      simpa [delivering, SessionPc.held] using moved.stream
  | @sent message outgoing conn calling items stepped =>
      refine ⟨streamed.writable, ?_⟩
      have stream := streamed.stream
      cases Conn.step_move stepped with
      | host moved =>
          cases moved with
          | sendReturned => simpa [calling, beingOffered, items] using stream
      | link moved => cases moved
  | dropped calling refused _ => exact absurd refused (roomy.sends calling)
  | session moved =>
      refine streamed_session moved ?_ streamed
      rintro rfl
      exact clean
  | enqueued | pooled | unsaid | closeCalled | poolClosing | poolClosed | linkClosed =>
      exact { streamed with }

private theorem streamed_of_graceful
    (reached : (goHost env).ReachableBy (Host.Graceful env) host) : host.Streamed := by
  refine reached.invariant Host.Streamed ?_ fun _ _ _ _ streamed graceful stepped =>
    (Host.step_move stepped).streamed graceful streamed
  rintro _ ⟨appInfo, rfl⟩
  exact ⟨rfl, rfl⟩

end Stream

/-! ## Answers -/

section Answers

variable {env : HostEnv} {host next : Host}

/-- The library has the outcome of every job that the pool reported. -/
private theorem answered_reported
    (reached : (goHost env).ReachableBy (Host.Graceful env) host) :
    host.answered.map DispatchJob.ticket = host.pool.answered := by
  refine reached.invariant
    (fun host => host.answered.map DispatchJob.ticket = host.pool.answered) ?_ ?_
  · rintro _ ⟨appInfo, rfl⟩
    rfl
  · intro before action after earlier same graceful stepped
    have kept : ∀ {act pool}, before.pool.step act = some pool →
        (∀ worker, act ≠ .worker worker .callSink) →
        (∀ ticket, act ≠ .watcher ticket .watcherSink) →
        before.answered.map DispatchJob.ticket = pool.answered := by
      intro act pool moved worker watcher
      rw [(Pool.step_move moved).2.answered_kept worker watcher]
      exact same
    cases Host.step_move stepped with
    | native | sent | dropped | delivered | closeCalled | poolClosed | linkClosing
    | linkClosed => exact same
    | session moved => cases moved <;> exact same
    | enqueued _ moved | refused _ moved _ _ | offered _ moved _ _ | poolClosing _ moved =>
        exact kept moved (by simp) (by simp)
    | pooled internal moved =>
        refine kept moved ?_ ?_
        · rintro worker rfl
          simp [PoolAct.internal] at internal
        · rintro ticket rfl
          simp [PoolAct.internal] at internal
    | @sank _ ticket _ _ inv _ _ _ _ returning found _ pooled _ _ =>
        have known := (Host.tracked_of_reachable earlier.reachable).known
        have own := (known.invoked ticket inv found).2
        simp [Host.returning_answered returning pooled, same, own]
    | @unsaid _ ticket _ _ inv call _ returning found called _ silent =>
        have said := graceful.2.1 call (by simp [Host.sinkCall?, returning, found, called])
        simp [silent] at said

private theorem offered_grows {native : Env} {conn after : Conn} {action : Act}
    (stepped : conn.step native action = some after) :
    ∃ more, after.offered = conn.offered ++ more := by
  by_cases unreturned : ∀ ret, action ≠ .sendReturn ret
  · obtain ⟨more, offered, _⟩ := (Conn.step_move stepped).offers unreturned
    exact ⟨more, offered⟩
  · push Not at unreturned
    obtain ⟨ret, rfl⟩ := unreturned
    cases Conn.step_move stepped with
    | host moved =>
        cases moved with
        | sendReturned => exact ⟨[], (List.append_nil _).symm⟩
    | link moved => cases moved

/-- After the pool's shutdown no outcome is handed to the library. -/
private theorem GoMove.answered_kept {action : HostAct} (move : GoMove env host action next)
    (reached : (goHost env).Reachable host) (returned : host.pool.shutdown = .returned) :
    next.answered = host.answered := by
  cases move with
  | sank returning _ _ pooled _ _ =>
      have silent :=
        (Pool.silent_after_returned (Host.pool_reachable reached) returned pooled).2.2
      rw [Host.returning_answered returning pooled] at silent
      simp at silent
  | native | enqueued | refused | offered | pooled | unsaid | sent | dropped | delivered
  | closeCalled | poolClosing | poolClosed | linkClosing | linkClosed => rfl
  | session moved => cases moved <;> rfl

/-- A flushed library has offered the responses to all answered jobs. -/
private theorem flushed_offered (reached : (goHost env).ReachableBy (Host.Roomy env) host)
    (connected : host.conn.link = .connected) (flushed : host.Flushed) (id : CorrelationId) :
    (host.answered.map DispatchJob.id).count id ≤
      (host.conn.offered.filterMap ClientToServer.respondsTo?).count id := by
  obtain ⟨replies, held, outgoing⟩ := flushed
  have sent := sent_of_reachable (Host.conn_reachable reached.reachable)
  have outstanding := (Host.tracked_of_reachable reached.reachable).outstanding id
  have taken := jobs_taken reached connected id
  rw [outgoing, List.append_nil] at sent
  simp only [Conn.taken, Conn.replied, Conn.responded, replies, held, sent, List.map_nil,
    List.count_nil] at taken
  omega

/-- Once `Close` has begun to disconnect a flushed library, the responses to all
answered jobs have been offered. -/
private theorem answers_offered
    (reached : (goHost env).ReachableBy (Host.Graceful env) host)
    (unlinked : host.conn.link ≠ .connected) (id : CorrelationId) :
    (host.answered.map DispatchJob.id).count id ≤
      (host.conn.offered.filterMap ClientToServer.respondsTo?).count id := by
  revert unlinked id
  refine reached.invariant (fun host => host.conn.link ≠ .connected → ∀ id,
    (host.answered.map DispatchJob.id).count id ≤
      (host.conn.offered.filterMap ClientToServer.respondsTo?).count id) ?_ ?_
  · rintro _ ⟨appInfo, rfl⟩ unlinked
    exact absurd rfl unlinked
  · intro before action after earlier holds graceful stepped unlinked id
    have move := Host.step_move stepped
    by_cases connected : before.conn.link = .connected
    · -- this is the step that disconnects the library
      rcases move.link_kept with kept | ⟨rfl, disconnecting, same, moved⟩
      · exact absurd (kept.trans connected) unlinked
      · have flushed : before.Flushed := graceful.2.2 disconnecting connected
        have roomy := earlier.weaken fun _ _ meets => meets.1
        rw [connected] at moved
        simp only [disconnectStep, Conn.step, connected, if_true, Option.some.injEq] at moved
        rw [same, ← moved]
        exact flushed_offered roomy connected flushed id
    · have phased := Host.phased_of_reachable earlier.reachable
      have returned := phased.drained (phased.unlinked connected)
      rw [move.answered_kept earlier.reachable returned]
      refine (holds connected id).trans ?_
      rcases move.native_step with same | ⟨act, moved⟩
      · rw [same]
      · obtain ⟨more, grown⟩ := offered_grows moved
        rw [grown, List.filterMap_append, List.count_append]
        omega

/-- After the pool's shutdown every accepted job has been answered. -/
private theorem accepted_answered (reached : (goHost env).ReachableBy (Host.Graceful env) host)
    (returned : host.pool.shutdown = .returned) :
    (host.acceptedJobs.map DispatchJob.id).Subperm (host.answered.map DispatchJob.id) := by
  have tracked := Host.tracked_of_reachable reached.reachable
  have distinct : host.jobs.Nodup := tracked.known.unique.of_map _
  have subset : host.acceptedJobs ⊆ host.answered := by
    intro job member
    obtain ⟨known, accepted⟩ := List.mem_filter.mp member
    have once := (Pool.answered_of_returned (Host.pool_reachable reached.reachable) returned
      (of_decide_eq_true accepted)).2
    have reported : job.ticket ∈ host.answered.map DispatchJob.ticket := by
      rw [answered_reported reached]
      exact List.count_pos_iff.mp (by omega)
    obtain ⟨other, answered, same⟩ := List.mem_map.mp reported
    have equal := List.inj_on_of_nodup_map tracked.known.unique
      (tracked.answered other answered) known same
    exact equal ▸ answered
  obtain ⟨jobs, permuted, included⟩ := (distinct.filter _).subperm subset
  exact ⟨jobs.map DispatchJob.id, permuted.map _, included.map _⟩

private theorem acceptedJobs_tickets (reached : (goHost env).Reachable host) :
    (host.acceptedJobs.map DispatchJob.ticket).Perm host.pool.accepted := by
  have known := (Host.tracked_of_reachable reached).known
  have tickets := (Pool.sound_of_reachable (Host.pool_reachable reached)).tickets
  have distinct : (host.acceptedJobs.map DispatchJob.ticket).Nodup :=
    known.unique.sublist (List.filter_sublist.map _)
  refine (List.perm_ext_iff_of_nodup distinct tickets.accepted_unique).mpr fun ticket => ?_
  constructor
  · intro member
    obtain ⟨job, included, rfl⟩ := List.mem_map.mp member
    exact of_decide_eq_true (List.mem_filter.mp included).2
  · intro accepted
    have job : ∃ job ∈ host.jobs, job.ticket = ticket := by
      rcases tickets.accepted_sent ticket accepted with queued | invoked
      · obtain ⟨job, member, same⟩ := List.mem_map.mp queued
        exact ⟨job, known.queued job member, same⟩
      · obtain ⟨inv, found⟩ := Option.isSome_iff_exists.mp invoked
        exact ⟨inv.job, known.invoked ticket inv found⟩
    obtain ⟨job, member, rfl⟩ := job
    exact List.mem_map.mpr ⟨job, List.mem_filter.mpr ⟨member, decide_eq_true accepted⟩, rfl⟩

/-- When a graceful teardown gets to `CloseNow`, the response to every job that
the pool accepted has been written. -/
theorem teardown_writes_answers (env : HostEnv) (host : Host)
    (reached : (goHost env).ReachableBy (Host.Graceful env) host)
    (finished : host.session = .finished) :
    (host.acceptedJobs.map DispatchJob.ticket).Perm host.pool.accepted ∧
      (host.acceptedJobs.map DispatchJob.id).Subperm
        (host.written.filterMap ClientToServer.respondsTo?) := by
  have phased := Host.phased_of_reachable reached.reachable
  obtain ⟨closed, drained⟩ := phased.finished finished
  have disconnected := phased.closed closed
  have exited := phased.joined (.inr disconnected)
  -- nothing is left between the library and the websocket
  have written : host.conn.offered = host.written := by
    simpa [finished, SessionPc.held, drained, exited, beingOffered] using
      (streamed_of_graceful reached).stream
  refine ⟨acceptedJobs_tickets reached.reachable, ?_⟩
  refine (accepted_answered reached (phased.drained (.inr closed))).trans ?_
  rw [← written]
  exact List.subperm_ext_iff.mpr fun id _ =>
    answers_offered reached (by simp [disconnected]) id

end Answers

/-! ## Runs -/

/-- The handshake, and one request that is enqueued and answered by its handler. -/
def serveRequest : List HostAct :=
  sayHello ++
    [HostAct.session (.receive fixtureAckInput), .session .deliver,
      .session (.receive (fixtureRequest 5)), .session .deliver] ++
    draws 9 ++
    [HostAct.native .dispatchTask, .enqueue, .offer, .pool .add, .native .dispatchTask] ++
    serve.map fun action => match action with
      | .worker worker .callSink => .workerSink worker
      | action => .pool action

/-- The actor sends the response, and the I/O task offers it. -/
def respond : List HostAct := draws 4 ++ [HostAct.native .ioTask, .goSendCb]

/-- The session is told to stop, closes the connection, and writes what is on
`Outgoing`. -/
def tearDown (pending : Nat) : List HostAct :=
  [HostAct.session .stop, .session .close] ++ List.replicate 7 HostAct.close ++
    [HostAct.native .ioTask, .close, .native .dispatchTask, .close, .close, .session .close] ++
    (List.replicate pending [HostAct.session .drain, .session .wrote]).flatten ++
    [HostAct.session .drain]

theorem teardown_writes_answers_one : ∃ host,
    (goHost fixtureHostEnv).ReachableBy (Host.Graceful fixtureHostEnv) host ∧
      host.session = .finished ∧ host.pool.accepted = [0] ∧
      (host.acceptedJobs.map DispatchJob.ticket).Perm host.pool.accepted ∧
      (host.acceptedJobs.map DispatchJob.id).Subperm
        (host.written.filterMap ClientToServer.respondsTo?) := by
  have conforms : (goHost fixtureHostEnv).Conforms (Host.Graceful fixtureHostEnv)
      (Host.init Actor.fixtureApp) (serveRequest ++ respond ++ tearDown 2) :=
    of_decide_eq_true rfl
  obtain ⟨host, ran, finished, accepted⟩ : ∃ host,
      (goHost fixtureHostEnv).run (Host.init Actor.fixtureApp)
        (serveRequest ++ respond ++ tearDown 2) = some host ∧
      host.session = .finished ∧ host.pool.accepted = [0] := ⟨_, rfl, rfl, rfl⟩
  have reached := System.reachableBy_of_run fixtureHost_initial conforms ran
  exact ⟨host, reached, finished, accepted,
    teardown_writes_answers fixtureHostEnv host reached finished⟩

/-- `Close` disconnects the library before the actor has read the answer: the
job was accepted and answered, every write succeeded, and no response was
written. -/
theorem teardown_loses_answer : ∃ host,
    (goHost fixtureHostEnv).run (Host.init Actor.fixtureApp) (serveRequest ++ tearDown 1) =
        some host ∧
      (goHost fixtureHostEnv).Conforms (Host.Roomy fixtureHostEnv) (Host.init Actor.fixtureApp)
        (serveRequest ++ tearDown 1) ∧
      host.session = .finished ∧ host.writable = true ∧ host.pool.accepted = [0] ∧
      host.pool.answered = [0] ∧ host.written = [.clientHello Actor.fixtureHello] :=
  ⟨_, rfl, of_decide_eq_true rfl, rfl, rfl, rfl, rfl, rfl⟩

end LibddRc.Go
