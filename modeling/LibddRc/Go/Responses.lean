import LibddRc.Connection.Requests
import LibddRc.Go.Teardown

/-! Requests and responses of the Go host from websocket to websocket. In every
run, however it fails or ends, the responses that are written are among the
requests that were read. -/

set_option autoImplicit false

namespace LibddRc.Go

open Foundation

/-! ## What is written -/

/-- What the session has written or has yet to write is among what was offered to
`goSendCb`, in the same order. -/
def Host.InOrder (host : Host) : Prop :=
  (host.written ++ (host.session.held ++ (host.outgoing.items ++
    beingOffered host.conn.ioTask))).Sublist host.conn.offered

section InOrder

variable {env : HostEnv} {host next : Host}

private theorem inOrder_session {action : SessionAct} (move : SessionMove host action next)
    (ordered : host.InOrder) : next.InOrder := by
  unfold Host.InOrder at ordered ⊢
  cases move with
  | stopped at_ | received at_ | released at_ | closed at_ | finished at_ | rejected at_
  | wrote at_ | drainWrote at_ => simpa [at_, SessionPc.held] using ordered
  | took at_ items | drainTook at_ _ items => simpa [at_, SessionPc.held, items] using ordered
  | failed at_ | drainFailed at_ =>
      -- the message in the websocket's hands is lost
      rw [at_] at ordered
      refine List.Sublist.trans ?_ ordered
      exact (List.Sublist.refl _).append (List.sublist_cons_self _ _)
  | discarded at_ _ items =>
      rw [at_, items] at ordered
      refine List.Sublist.trans ?_ ordered
      rw [at_]
      exact (List.Sublist.refl _).append (List.sublist_cons_self _ _)

private theorem GoMove.inOrder {action : HostAct} (move : GoMove env host action next)
    (ordered : host.InOrder) : next.InOrder := by
  have library : ∀ {act conn}, host.conn.step env.native act = some conn →
      (∀ ret, act ≠ .sendReturn ret) → ({ host with conn } : Host).InOrder := by
    intro act conn stepped unreturned
    obtain ⟨more, offered, being⟩ := (Conn.step_move stepped).offers unreturned
    have longer := List.Sublist.append ordered (List.Sublist.refl more)
    simpa only [Host.InOrder, offered, being, List.append_assoc] using longer
  cases move with
  | native admitted stepped =>
      refine library stepped ?_
      rintro ret rfl
      cases admitted
  | refused _ _ _ stepped | offered _ _ _ stepped | sank _ _ _ _ _ stepped =>
      exact library stepped (by simp)
  | linkClosing _ _ stepped =>
      refine library stepped ?_
      cases host.conn.link <;> simp [disconnectStep]
  | delivered delivering _ stepped =>
      have moved := library stepped (by simp)
      simpa [Host.InOrder, delivering, SessionPc.held] using moved
  | sent calling items stepped =>
      cases Conn.step_move stepped with
      | host moved =>
          cases moved with
          | sendReturned => simpa [Host.InOrder, calling, beingOffered, items] using ordered
      | link moved => cases moved
  | dropped calling _ stepped =>
      cases Conn.step_move stepped with
      | host moved =>
          cases moved with
          | sendReturned =>
              unfold Host.InOrder at ordered ⊢
              refine List.Sublist.trans ?_ ordered
              refine (List.Sublist.refl _).append ((List.Sublist.refl _).append ?_)
              exact (List.Sublist.refl _).append (List.nil_sublist _)
      | link moved => cases moved
  | session moved => exact inOrder_session moved ordered
  | enqueued | pooled | unsaid | closeCalled | poolClosing | poolClosed | linkClosed =>
      exact ordered

theorem Host.inOrder (reached : (goHost env).Reachable host) : host.InOrder := by
  refine reached.invariant Host.InOrder ?_ ?_
  · rintro _ ⟨appInfo, rfl⟩
    exact List.Sublist.refl _
  · intro before action after _ ordered stepped
    exact (Host.step_move stepped).inOrder ordered

/-- The messages that were written are among those that the actor sent. -/
theorem Host.written_sublist (reached : (goHost env).Reachable host) :
    host.written.Sublist host.conn.sent := by
  have offered : host.written.Sublist host.conn.offered :=
    (List.sublist_append_left _ _).trans (Host.inOrder reached)
  rw [sent_of_reachable (Host.conn_reachable reached)]
  exact offered.trans (List.sublist_append_left _ _)

end InOrder

/-! ## What is answered -/

/-- The request in a message that the session reads. -/
def HostAct.request : HostAct → List CorrelationId
  | .session (.receive input) => requestIn input
  | _ => []

section Tallies

variable {env : HostEnv} {host next : Host}

/-- A message that the session has read and not delivered. -/
def undelivered (tally : Tally env.native) : SessionPc → ℕ
  | .delivering input => tally.input input
  | _ => 0

def Host.total (tally : Tally env.native) (host : Host) : ℕ :=
  undelivered tally host.session + tally.total host.conn

/-- A message that the session reads. -/
def HostAct.tally (tally : Tally env.native) : HostAct → ℕ
  | .session (.receive input) => tally.input input
  | _ => 0

theorem HostAct.count_request (action : HostAct) (id : CorrelationId) :
    action.request.count id = action.tally (requestTally env.native id) := by
  cases action with
  | session action => cases action <;> rfl
  | _ => rfl

/-- Of a tally that does not count the host's answers, no step of the host makes
more than the session reads. -/
theorem GoMove.tally_le {action : HostAct} (move : GoMove env host action next)
    (tally : Tally env.native)
    (ungiven : ∀ correlationId answer, tally.given correlationId answer = 0) :
    next.total tally ≤ host.total tally + action.tally tally := by
  have library : ∀ {act conn}, host.conn.step env.native act = some conn →
      (∀ input, act ≠ .recv input) → tally.total conn ≤ tally.total host.conn := by
    intro act conn stepped unread
    have moved := (Conn.step_move stepped).tally_le tally
    have quiet : tally.act host.conn act = 0 := by
      cases act with
      | recv input => exact absurd rfl (unread input)
      | answer position given =>
          simp only [Tally.act]
          split
          · exact ungiven _ _
          · rfl
      | _ => rfl
    omega
  unfold Host.total
  cases move with
  | native admitted stepped =>
      have unread := library stepped (by rintro input rfl; cases admitted)
      dsimp only
      omega
  | refused _ _ _ stepped | offered _ _ _ stepped | sank _ _ _ _ _ stepped | sent _ _ stepped
  | dropped _ _ stepped =>
      have unread := library stepped (by simp)
      dsimp only
      omega
  | linkClosing _ _ stepped =>
      have unread := library stepped (by cases host.conn.link <;> simp [disconnectStep])
      dsimp only
      omega
  | delivered delivering _ stepped =>
      have read := (Conn.step_move stepped).tally_le tally
      simp only [Tally.act] at read
      simp only [delivering, undelivered]
      omega
  | session moved =>
      cases moved with
      | received at_ =>
          simp only [at_, undelivered, HostAct.tally]
          omega
      | stopped | rejected | took | released | wrote | drainWrote | failed | drainFailed | closed
      | drainTook | finished =>
          simp only [undelivered]
          omega
      | discarded => exact Nat.le_add_right _ _
  | enqueued | pooled | unsaid | closeCalled | poolClosing | poolClosed | linkClosed =>
      exact Nat.le_add_right _ _

/-- The run lemma of such tallies. -/
theorem Host.total_le {appInfo : AppInfo} {actions : List HostAct}
    (ran : (goHost env).run (Host.init appInfo) actions = some host) (tally : Tally env.native)
    (ungiven : ∀ correlationId answer, tally.given correlationId answer = 0) :
    host.total tally ≤ (actions.map (HostAct.tally tally)).sum := by
  refine System.run_invariant (fun past (host : Host) =>
    host.total tally ≤ (past.map (HostAct.tally tally)).sum) le_rfl ?_ ran
  intro past before action after _ bounded stepped
  have moved := (Host.step_move stepped).tally_le tally ungiven
  simp only [List.map_append, List.map_cons, List.map_nil, List.sum_append, List.sum_cons,
    List.sum_nil]
  omega

end Tallies

/-- In every run of a host, what is written to the websocket is among what the
actor sent, in its order, and for each correlation id there are at most as many
responses written as requests were read. -/
theorem responses_answer_requests (env : HostEnv) (appInfo : AppInfo) (actions : List HostAct)
    (host : Host) (ran : (goHost env).run (Host.init appInfo) actions = some host) :
    host.written.Sublist host.conn.sent ∧
    (host.written.filterMap ClientToServer.respondsTo? : Multiset CorrelationId) ≤
      (actions.flatMap HostAct.request : Multiset CorrelationId) := by
  have reached : (goHost env).Reachable host := System.reachable_of_run ⟨appInfo, rfl⟩ ran
  have ordered := Host.written_sublist reached
  refine ⟨ordered, Multiset.le_iff_count.mpr ?_⟩
  intro id
  have written := (ordered.filterMap ClientToServer.respondsTo?).count_le id
  have answered := responded_le_total env.native id host.conn
  have bounded := Host.total_le ran (requestTally env.native id) fun _ _ => rfl
  have read : (actions.flatMap HostAct.request).count id =
      (actions.map (HostAct.tally (requestTally env.native id))).sum := by
    rw [List.count_flatMap]
    exact congrArg List.sum (List.map_congr_left fun action _ => action.count_request id)
  rw [Multiset.coe_count, Multiset.coe_count, read]
  unfold Conn.responded at answered
  unfold Host.total at bounded
  omega

theorem responses_answer_requests_one : ∃ host,
    (goHost fixtureHostEnv).run (Host.init Actor.fixtureApp)
        (serveRequest ++ respond ++ tearDown 2) = some host ∧
      host.written.filterMap ClientToServer.respondsTo? = [⟨5⟩] ∧
      host.written.Sublist host.conn.sent := by
  obtain ⟨host, ran, written⟩ : ∃ host,
      (goHost fixtureHostEnv).run (Host.init Actor.fixtureApp)
          (serveRequest ++ respond ++ tearDown 2) = some host ∧
        host.written.filterMap ClientToServer.respondsTo? = [⟨5⟩] := ⟨_, rfl, rfl⟩
  obtain ⟨ordered, _⟩ := responses_answer_requests fixtureHostEnv Actor.fixtureApp _ host ran
  exact ⟨host, ran, written, ordered⟩

end LibddRc.Go
