import LibddRc.Connection.Steady
import LibddRc.Go.HostMoves

/-! Outgoing messages of the Go host: as long as `Outgoing` has room for them,
the I/O task goes on and offers every message in order; one full channel ends
the I/O task. -/

set_option autoImplicit false

namespace LibddRc.Go

open Foundation

/-- The payloads that a step passes between the library and the host. -/
def Host.crossing (env : HostEnv) (host : Host) : HostAct → List Bytes
  | .goSendCb =>
      match host.conn.ioTask with
      | .calling message => [env.wire message]
      | _ => []
  | action => (host.sinkCall? action).toList.flatMap env.reported

/-- `goSendCb` finds room on `Outgoing`, and the actor's steps are unhindered. -/
def Host.HasRoom (env : HostEnv) (host : Host) : HostAct → Prop
  | .goSendCb => host.outgoing.length < outgoingQueueCap
  | .native action => host.conn.Unhindered env.native action
  | _ => True

/-- There is room, and every payload that crosses is shorter than 2 GiB. -/
def Host.Roomy (env : HostEnv) (host : Host) (action : HostAct) : Prop :=
  host.HasRoom env action ∧ ∀ data ∈ host.crossing env action, data.length < 2 ^ 31

instance Host.HasRoom.decidable (env : HostEnv) (host : Host) (action : HostAct) :
    Decidable (host.HasRoom env action) :=
  match action with
  | .goSendCb => inferInstanceAs (Decidable (host.outgoing.length < outgoingQueueCap))
  | .native action => inferInstanceAs (Decidable (host.conn.Unhindered env.native action))
  | .enqueue | .offer | .pool _ | .workerSink _ | .watcherSink _ | .session _ | .contextClose
  | .close => isTrue trivial

instance Host.Roomy.decidable (env : HostEnv) (host : Host) (action : HostAct) :
    Decidable (host.Roomy env action) := inferInstanceAs (Decidable (_ ∧ _))

section Delivery

variable {env : HostEnv} {host next : Host}

/-- An answer shorter than 4 GiB reaches the library with all its bytes. -/
private theorem answerTo_steady {call : SinkCall} {answer : HostAnswer} (conn : Conn)
    (position : Nat) (answers : env.answerTo call = some answer)
    (short : ∀ data ∈ env.reported call, data.length < 2 ^ 31) :
    conn.Steady env.native (.answer position answer) := by
  cases call with
  | sendDispatchError => cases answers; trivial
  | sendDispatchResult result =>
      rw [HostEnv.answerTo_sendDispatchResult] at answers
      obtain ⟨data, first, rfl⟩ := Option.map_eq_some_iff.mp answers
      have reported := List.mem_of_mem_head? first
      have whole : handed data = data := handed_eq ((short data reported).trans (by decide))
      show handed data ≠ []
      rw [whole]
      exact HostEnv.reported_ne_nil reported

theorem Host.Roomy.sends {message : ClientToServer} (roomy : host.Roomy env .goSendCb)
    (calling : host.conn.ioTask = .calling message) :
    ¬ (goBytes (sendCbData env.wire message) = none ∨
      host.outgoing.length = outgoingQueueCap) := by
  obtain ⟨room, short⟩ := roomy
  have crosses : env.wire message ∈ host.crossing env .goSendCb := by
    simp [Host.crossing, calling]
  rintro (refused | full)
  · rw [sendCbData, goBytes_handed (short _ crosses)] at refused
    cases refused
  · exact absurd full (Nat.ne_of_lt room)

/-- What a sink call marshals crosses in the step that returns from it. -/
private theorem Host.mem_crossing {action : HostAct} {ticket : Nat} {returns : InvocationAct}
    {step : PoolAct} {inv : Invocation} {call : SinkCall} {data : Bytes}
    (returning : host.returning action = some (ticket, returns, step))
    (found : host.pool.invocations ticket = some inv) (called : inv.sinkCall? returns = some call)
    (reported : data ∈ env.reported call) : data ∈ host.crossing env action := by
  have sinks : host.sinkCall? action = some call := by
    simp [Host.sinkCall?, returning, found, called]
  cases action with
  | workerSink | watcherSink => simpa [Host.crossing, sinks] using reported
  | native | enqueue | offer | pool | goSendCb | session | contextClose | close => cases returning

/-- A roomy move that leaves the link connected is a steady native step. -/
theorem GoMove.steady {action : HostAct} (move : GoMove env host action next)
    (roomy : host.Roomy env action) (connected : next.conn.link = .connected) :
    next.conn = host.conn ∨ ∃ act, host.conn.Steady env.native act ∧
      host.conn.step env.native act = some next.conn := by
  have before : host.conn.link = .connected := by
    rcases move.native_step with same | ⟨act, stepped⟩
    · exact same ▸ connected
    · exact (Conn.step_move stepped).connected_before connected
  cases move with
  | @native act _ admitted stepped =>
      refine .inr ⟨act, ?_, stepped⟩
      cases act with
      | actor | ioTask | dispatchTask | refuse => exact roomy.1
      | cancelStop => simp [Host.admits, before] at admitted
      | accept | answer | recv | sendReturn | disconnect | cancelDispatch | joinIo
      | joinDispatch => cases admitted
  | refused _ _ _ stepped | offered _ _ _ stepped | delivered _ _ stepped =>
      exact .inr ⟨_, by trivial, stepped⟩
  | sank returning found called _ answers stepped =>
      refine .inr ⟨_, answerTo_steady _ _ answers ?_, stepped⟩
      intro data reported
      exact roomy.2 data (Host.mem_crossing returning found called reported)
  | sent _ _ stepped => exact .inr ⟨_, by rfl, stepped⟩
  | dropped calling refused _ => exact absurd refused (roomy.sends calling)
  | linkClosing _ _ stepped =>
      rw [before] at stepped
      simp only [disconnectStep, Conn.step, before, if_true, Option.some.injEq] at stepped
      rw [← stepped] at connected
      cases connected
  | enqueued | pooled | unsaid | closeCalled | poolClosing | poolClosed | linkClosed =>
      exact .inl rfl
  | session moved => cases moved <;> exact .inl rfl

/-- Until `Close` disconnects it, the native connection of a roomy host only
makes steady steps. -/
theorem Host.conn_steady (reached : (goHost env).ReachableBy (Host.Roomy env) host)
    (connected : host.conn.link = .connected) :
    (connection env.native).ReachableBy (Conn.Steady env.native) host.conn := by
  refine reached.project Host.conn (fun host => host.conn.link = .connected) ?_ ?_ connected
  · rintro _ ⟨appInfo, rfl⟩
    exact ⟨appInfo, rfl⟩
  · intro before action after _ roomy stepped linked
    have move := Host.step_move stepped
    refine ⟨?_, move.steady roomy linked⟩
    rcases move.native_step with same | ⟨act, moved⟩
    · exact same ▸ linked
    · exact (Conn.step_move moved).connected_before linked

/-- While `Close` has not begun, the I/O task of a host whose `Outgoing` channel
has had room for every message, none of 2 GiB or more, is running, and every
message accepted so far was offered in order or is queued for the next step of the
I/O task. -/
theorem messages_offered_in_order (env : HostEnv) (host : Host)
    (reached : (goHost env).ReachableBy (Host.Roomy env) host) (open_ : host.close = .open_) :
    host.conn.ioTask ≠ .exited ∧
      host.conn.sent = host.conn.offered ++ host.conn.outgoing.items ∧
      ∀ message rest, 0 ≤ host.pool.wg → host.conn.ioTask = .waiting →
        host.conn.outgoing.items = message :: rest → ∃ after,
          host.step env (.native .ioTask) = some after ∧
            after.conn.offered = host.conn.offered ++ [message] := by
  have connected : host.conn.link = .connected := by
    by_contra away
    have late := (Host.phased_of_reachable reached.reachable).unlinked away
    simp [open_] at late
  have live := live_of_steady (Host.conn_steady reached connected)
  refine ⟨live.sending, sent_of_reachable (Host.conn_reachable reached.reachable), ?_⟩
  intro message rest alive waiting items
  cases popped : host.conn.outgoing.pop? with
  | none => simp [Channel.pop?_eq_none popped] at items
  | some taken =>
      obtain ⟨first, outgoing⟩ := taken
      have same := (Channel.pop?_eq_some popped).symm.trans items
      obtain ⟨rfl, _⟩ := List.cons.inj same
      have running : host.conn.link.ioStop = false := by simp [connected, Link.ioStop]
      have moved : host.conn.step env.native .ioTask = some { host.conn with
          ioTask := .calling first, outgoing, offered := host.conn.offered ++ [first] } := by
        simp [Conn.step, Conn.ioTaskStep, waiting, running, popped]
      have stepped : host.step env (.native .ioTask) = some { host with
          conn := { host.conn with
            ioTask := .calling first, outgoing, offered := host.conn.offered ++ [first] } } := by
        simp [Host.step, not_lt.mpr alive, Host.stepRunning, Host.admits, moved]
      exact ⟨_, stepped, rfl⟩

end Delivery

/-! ## A full channel -/

def draws (count : Nat) : List HostAct :=
  List.replicate count (.native (.actor Actor.fixtureDraw))

/-- The actor sends its hello, which ends up on `Outgoing`. -/
def sayHello : List HostAct := draws 3 ++ [HostAct.native .ioTask, .goSendCb]

theorem fixtureHost_initial : (goHost fixtureHostEnv).initial (Host.init Actor.fixtureApp) :=
  ⟨Actor.fixtureApp, rfl⟩

theorem messages_offered_in_order_hello : ∃ host,
    (goHost fixtureHostEnv).ReachableBy (Host.Roomy fixtureHostEnv) host ∧
      host.close = .open_ ∧ host.conn.offered = [.clientHello Actor.fixtureHello] ∧
      host.conn.ioTask ≠ .exited ∧
      host.conn.sent = host.conn.offered ++ host.conn.outgoing.items := by
  obtain ⟨host, ran, open_, offered⟩ : ∃ host,
      (goHost fixtureHostEnv).run (Host.init Actor.fixtureApp) sayHello = some host ∧
        host.close = .open_ ∧ host.conn.offered = [.clientHello Actor.fixtureHello] :=
    ⟨_, rfl, rfl, rfl⟩
  have conforms : (goHost fixtureHostEnv).Conforms (Host.Roomy fixtureHostEnv)
      (Host.init Actor.fixtureApp) sayHello := of_decide_eq_true rfl
  have reached := System.reachableBy_of_run fixtureHost_initial conforms ran
  obtain ⟨running, ordered, _⟩ := messages_offered_in_order fixtureHostEnv host reached open_
  exact ⟨host, reached, open_, offered, running, ordered⟩

/-- After the hello and `count` pongs, all of them on `Outgoing`. -/
def Host.pinged (count : Nat) : Host :=
  { Host.init Actor.fixtureApp with
    conn := { LibddRc.pinged count with outgoing := .empty, offered := unread count }
    outgoing := .ofList (unread count) }

/-- The next pong is being offered to `goSendCb`. -/
def Host.ponging (count : Nat) : Host :=
  { Host.pinged count with
    conn := { (Host.pinged count).conn with
      ioTask := .calling .pong
      sent := unread count ++ [.pong]
      endings := (unread count).map (fun message => (message, .enqueued)) ++ [(.pong, .enqueued)]
      offered := unread count ++ [.pong] } }

/-- The session delivers a ping, and the I/O task takes the pong. -/
def answerPing : List HostAct :=
  [HostAct.session (.receive (.ok .ping)), .session .deliver] ++ draws 5 ++
    [HostAct.native .ioTask]

def pingRound : List HostAct := answerPing ++ [HostAct.goSendCb]

private theorem run_answerPing (count : Nat) :
    (goHost fixtureHostEnv).run (Host.pinged count) answerPing = some (Host.ponging count) := rfl

private theorem run_pingRound (count : Nat) (room : count < 99) :
    (goHost fixtureHostEnv).run (Host.pinged count) pingRound = some (Host.pinged (count + 1)) := by
  have pushed : (Channel.ofList (unread count) : Channel _ outgoingQueueCap).push? .pong =
      some (.ofList (unread (count + 1))) := by
    rw [← unread_succ]
    exact Channel.push?_ofList (by simp [unread, outgoingQueueCap]; omega) _
  have copied : goBytes (sendCbData fixtureHostEnv.wire .pong) = some [0x0a, 0x00] := rfl
  have sent : (goHost fixtureHostEnv).step (Host.ponging count) .goSendCb =
      some (Host.pinged (count + 1)) := by
    simp [goHost, Host.step, Host.stepRunning, Host.ponging, Host.goSendCb, copied, Host.pinged,
      pushed, Conn.step, Host.init, Pool.init, LibddRc.pinged, ← unread_succ]
  exact System.run_trans _ (run_answerPing count) (System.run_single _ sent)

/-- Three more pings arrive, the session goes into a write that blocks, and the
actor answers the pings. -/
def overflow : List HostAct :=
  (List.replicate 3 [HostAct.session (.receive (.ok .ping)), .session .deliver]).flatten ++
    [HostAct.session .takeOutgoing] ++ draws 5 ++ [HostAct.native .ioTask, .goSendCb] ++
    draws 5 ++ [HostAct.native .ioTask] ++ draws 5 ++ [HostAct.goSendCb]

/-- A session that delivers pings faster than it writes pongs. -/
def pingFlood : List HostAct := sayHello ++ (List.replicate 99 pingRound).flatten ++ overflow

private theorem run_overflow : ∃ host,
    (goHost fixtureHostEnv).run (Host.pinged 99) overflow = some host ∧
      host.session = .writing (.clientHello Actor.fixtureHello) ∧ host.close = .open_ ∧
      host.conn.ioTask = .exited ∧ host.conn.sent = host.conn.offered ++ [.pong] :=
  ⟨_, rfl, rfl, rfl, rfl, rfl⟩

/-- A full `Outgoing` channel ends the I/O task while the session is still in its
loop: a message already accepted is not offered, now or later. -/
theorem full_outgoing_ends_io_task : ∃ host,
    (goHost fixtureHostEnv).run (Host.init Actor.fixtureApp) pingFlood = some host ∧
      host.session = .writing (.clientHello Actor.fixtureHello) ∧ host.close = .open_ ∧
      host.conn.ioTask = .exited ∧ host.conn.sent = host.conn.offered ++ [.pong] ∧
      ∀ later, (goHost fixtureHostEnv).Steps (fun _ _ => True) host later →
        later.conn.offered = host.conn.offered := by
  obtain ⟨host, ran, session, open_, exited, lost⟩ := run_overflow
  have hello : (goHost fixtureHostEnv).run (Host.init Actor.fixtureApp) sayHello =
      some (Host.pinged 0) := rfl
  have flood := System.run_rounds _ Host.pinged pingRound 99 run_pingRound
  refine ⟨host, System.run_trans _ (System.run_trans _ hello flood) ran, session, open_, exited,
    lost, ?_⟩
  intro later path
  have kept := path.preserves
    (fun state => state.conn.ioTask = .exited ∧ state.conn.offered = host.conn.offered)
    (fun state action after holds _ stepped => ?_) ⟨exited, rfl⟩
  · exact kept.2
  · rcases (Host.step_move stepped).native_step with same | ⟨act, moved⟩
    · rw [same]
      exact holds
    · obtain ⟨still, offered⟩ := (Conn.step_move moved).io_exited holds.1
      exact ⟨still, offered.trans holds.2⟩

end LibddRc.Go
