import LibddRc.Go.ResponseBytes
import LibddRc.Go.Routing

/-! Which handler gets which request, however the registry changes meanwhile. -/

set_option autoImplicit false

namespace LibddRc.Go

open Foundation

/-- A tunnelled request, with the correlation id it came with. -/
structure Delivery where
  correlationId : CorrelationId
  request : MagicTunnelRequest
  deriving DecidableEq

/-- What the host reads in a request. -/
def RoutedEnv.deliveries (env : RoutedEnv) (request : Dispatch) : List Delivery :=
  (((goBytes (handed request.payload.bytes)).bind env.unmarshal).bind (·.magicTunnel)).toList.map
    (⟨request.correlationId, ·⟩)

def RoutedJob.delivery (job : RoutedJob) : Delivery := ⟨job.job.id, job.route.request⟩

/-- What the host would read in a request that the session receives. -/
def RoutedAct.deliveries (env : RoutedEnv) : RoutedAct → List Delivery
  | .host (.session (.receive (.ok (.dispatch correlationId payload _)))) =>
      env.deliveries ⟨correlationId, payload⟩
  | _ => []

def RoutedAct.call? : RoutedAct → Option RegistryCall
  | .registry call => some call
  | _ => none

/-- The callback was called with the request, and the handler was the one registered
for its uri then. -/
def LookedUp (env : RoutedEnv) (start : RoutedHost) (past : List RoutedAct)
    (correlationId : CorrelationId) (route : Route) : Prop :=
  ∃ before rest routed payload, past = before ++ .goDispatchCb :: rest ∧
    (routedHost env).run start before = some routed ∧
    routed.host.conn.dispatchTask = .calling ⟨correlationId, payload⟩ ∧
    env.deliveries ⟨correlationId, payload⟩ = [⟨correlationId, route.request⟩] ∧
    HandlerRegistry.Registered (before.filterMap RoutedAct.call?) route.request.uri.toByteArray
      route.handler

theorem LookedUp.append {env : RoutedEnv} {start : RoutedHost} {past : List RoutedAct}
    {correlationId : CorrelationId} {route : Route}
    (looked : LookedUp env start past correlationId route) (action : RoutedAct) :
    LookedUp env start (past ++ [action]) correlationId route := by
  obtain ⟨before, rest, routed, payload, rfl, found⟩ := looked
  exact ⟨before, rest ++ [action], routed, payload, by simp, found⟩

theorem goDispatchCb_ok {env : RoutedEnv} {registry : HandlerRegistry} {request : Dispatch}
    {route : Route} (found : goDispatchCb env registry request = .ok route) :
    env.deliveries request = [⟨request.correlationId, route.request⟩] ∧
      registry.lookup route.request.uri.toByteArray = some route.handler := by
  unfold goDispatchCb at found
  split at found
  · cases found
  · next data copied =>
    split at found
    · cases found
    · next payload read =>
      split at found
      · cases found
      · next tunnel given =>
        split at found
        · cases found
        · next handler registered =>
          cases found
          exact ⟨by simp [RoutedEnv.deliveries, copied, read, given], registered⟩

/-- What holds of the routed host after the actions so far. -/
structure Routes (env : RoutedEnv) (start : RoutedHost) (past : List RoutedAct)
    (routed : RoutedHost) : Prop where
  reached : (goHost env.host).Reachable routed.host
  registry : routed.registry = .after (past.filterMap RoutedAct.call?)
  resolved : ∀ route,
    routed.callback = .resolved route ∨ routed.callback = .offering route →
      ∃ request, routed.host.conn.dispatchTask = .calling request ∧
        env.deliveries request = [⟨request.correlationId, route.request⟩] ∧
        LookedUp env start past request.correlationId route
  jobs : routed.jobs.map RoutedJob.job = routed.host.jobs
  looked : ∀ job ∈ routed.jobs, LookedUp env start past job.job.id job.route
  accounted : ∀ delivery, (routed.jobs.map RoutedJob.delivery).count delivery +
    routed.host.total (pendingTally env.host.native fun request =>
      (env.deliveries request).count delivery) ≤
    (past.flatMap (RoutedAct.deliveries env)).count delivery

section Routes

variable {env : RoutedEnv} {start routed : RoutedHost} {past : List RoutedAct}

theorem routes_init (env : RoutedEnv) (appInfo : AppInfo) :
    Routes env (.init appInfo) [] (.init appInfo) where
  reached := ⟨_, ⟨appInfo, rfl⟩, .refl⟩
  registry := rfl
  resolved := by simp [RoutedHost.init]
  jobs := rfl
  looked := by simp [RoutedHost.init]
  accounted _ := le_rfl

/-- Jobs come of `enqueue` calls that put the request of the callback on the queue. -/
private theorem GoMove.jobs {env : HostEnv} {host next : Host} {action : HostAct}
    (move : GoMove env host action next) :
    next.jobs = host.jobs ∨ action = .offer ∧ ∃ job, host.pool.mutex = .enqueueing job ∧
      next.jobs = host.jobs ++ [job] ∧ next.session = host.session ∧
        host.conn.step env.native .accept = some next.conn := by
  cases move with
  | offered holding _ _ stepped => exact .inr ⟨rfl, _, holding, rfl, rfl, stepped⟩
  | session moved => cases moved <;> exact .inl rfl
  | _ => exact .inl rfl

private theorem GoMove.calling_kept {env : HostEnv} {host next : Host} {action : HostAct}
    {request : Dispatch} (move : GoMove env host action next)
    (calling : host.conn.dispatchTask = .calling request)
    (notOffer : action ≠ .offer) (notRefuse : ∀ ret, action ≠ .native (.refuse ret)) :
    next.conn.dispatchTask = .calling request := by
  cases move with
  | native admitted stepped =>
      refine (Conn.step_move stepped).calling_kept calling ?_ ?_
      · rintro rfl
        cases admitted
      · rintro ret rfl
        exact notRefuse ret rfl
  | refused | offered => exact absurd rfl notOffer
  | sank _ _ _ _ _ stepped | sent _ _ stepped | dropped _ _ stepped | delivered _ _ stepped =>
      exact (Conn.step_move stepped).calling_kept calling (by simp) (by simp)
  | linkClosing _ _ stepped =>
      refine (Conn.step_move stepped).calling_kept calling ?_ ?_ <;>
        cases host.conn.link <;> simp [disconnectStep]
  | session moved => cases moved <;> exact calling
  | enqueued | pooled | unsaid | closeCalled | poolClosing | poolClosed | linkClosed =>
      exact calling

theorem RoutedAct.count_deliveries (action : HostAct) (delivery : Delivery) :
    ((RoutedAct.host action).deliveries env).count delivery =
      action.tally (pendingTally env.host.native fun request =>
        (env.deliveries request).count delivery) := by
  cases action with
  | session action =>
      cases action with
      | receive input =>
          cases input with
          | ok message => cases message <;> rfl
          | error => rfl
      | _ => rfl
  | _ => rfl

/-- A step of the host that makes no job. -/
private theorem Routes.moves {act : RoutedAct} {action : HostAct} {callback : CallbackPc}
    {host : Host} (routes : Routes env start past routed)
    (stepped : routed.host.step env.host action = some host)
    (jobs : host.jobs = routed.host.jobs) (uncalled : act.call? = none)
    (counted : ∀ delivery, (act.deliveries env).count delivery =
      action.tally (pendingTally env.host.native fun request =>
        (env.deliveries request).count delivery))
    (resolved : ∀ route, callback = .resolved route ∨ callback = .offering route →
      ∃ request, host.conn.dispatchTask = .calling request ∧
        env.deliveries request = [⟨request.correlationId, route.request⟩] ∧
        LookedUp env start past request.correlationId route) :
    Routes env start (past ++ [act]) { routed with host, callback } := by
  have move := Host.step_move stepped
  refine ⟨routes.reached.step stepped, ?_, ?_, routes.jobs.trans jobs.symm, ?_, ?_⟩
  · simpa [List.filterMap_append, uncalled] using routes.registry
  · intro route at_
    obtain ⟨request, calling, read, looked⟩ := resolved route at_
    exact ⟨request, calling, read, looked.append act⟩
  · intro job member
    exact (routes.looked job member).append act
  · intro delivery
    have moved := move.tally_le (pendingTally env.host.native fun request =>
      (env.deliveries request).count delivery) fun _ _ => rfl
    have before := routes.accounted delivery
    rw [← counted delivery] at moved
    simp only [List.flatMap_append, List.flatMap_cons, List.flatMap_nil, List.append_nil,
      List.count_append]
    omega

private theorem Routes.offered {route : Route} {host : Host}
    (routes : Routes env start past routed) (offering : routed.callback = .offering route)
    (stepped : routed.host.step env.host .offer = some host) :
    Routes env start (past ++ [.host .offer]) { routed with
      host
      callback := .deciding
      jobs := routed.jobs ++ (host.jobs.drop routed.host.jobs.length).map (⟨·, route⟩) } := by
  have move := Host.step_move stepped
  rcases move.jobs with same | ⟨_, job, holding, added, session, accepted⟩
  · have none : (host.jobs.drop routed.host.jobs.length).map (RoutedJob.mk · route) = [] := by
      simp [same]
    rw [none, List.append_nil]
    exact routes.moves stepped same rfl (RoutedAct.count_deliveries .offer) (by simp)
  · have one : (host.jobs.drop routed.host.jobs.length).map (RoutedJob.mk · route) =
        [⟨job, route⟩] := by
      simp [added]
    obtain ⟨request, calling, read, looked⟩ := routes.resolved route (.inr offering)
    obtain ⟨_, called, own⟩ := (Host.tracked_of_reachable routes.reached).calling job holding
    rw [calling] at called
    cases called
    rw [own] at read looked
    rw [one]
    refine ⟨routes.reached.step stepped, ?_, by simp, ?_, ?_, ?_⟩
    · rw [List.filterMap_append]
      exact routes.registry.trans (congrArg _ (List.append_nil _).symm)
    · simp [routes.jobs, added]
    · intro other member
      rcases List.mem_append.mp member with earlier | single
      · exact (routes.looked other earlier).append _
      · cases List.mem_singleton.mp single
        exact looked.append _
    · intro delivery
      have before := routes.accounted delivery
      have pending := pendingTally_accept (fun request => (env.deliveries request).count delivery)
        calling accepted
      have counted : (env.deliveries request).count delivery =
          [RoutedJob.delivery ⟨job, route⟩].count delivery := by
        rw [read]
        rfl
      rw [counted] at pending
      unfold Host.total at before ⊢
      simp only [session, List.map_append, List.map_cons, List.map_nil, List.flatMap_append,
        List.flatMap_cons, List.flatMap_nil, List.append_nil, List.count_append]
      omega

theorem Routes.step {action : RoutedAct} {after : RoutedHost}
    (routes : Routes env start past routed)
    (ran : (routedHost env).run start past = some routed)
    (move : RoutedMove env routed action after) :
    Routes env start (past ++ [action]) after := by
  cases move with
  | registered =>
      refine ⟨routes.reached, ?_, ?_, routes.jobs, ?_, ?_⟩
      · rw [List.filterMap_append, routes.registry]
        exact (HandlerRegistry.after_append _ _).symm
      · intro route at_
        obtain ⟨request, calling, read, looked⟩ := routes.resolved route at_
        exact ⟨request, calling, read, looked.append _⟩
      · exact fun job member => (routes.looked job member).append _
      · intro delivery
        simpa [RoutedAct.deliveries] using routes.accounted delivery
  | refused _ deciding _ stepped =>
      rcases (Host.step_move stepped).jobs with same | ⟨offers, _⟩
      · exact routes.moves stepped same rfl (fun _ => rfl) (by simp [deciding])
      · cases offers
  | @resolved request route calling _ found =>
      obtain ⟨read, registered⟩ := goDispatchCb_ok found
      rw [routes.registry] at registered
      refine ⟨routes.reached, ?_, ?_, routes.jobs, ?_, ?_⟩
      · rw [List.filterMap_append]
        exact routes.registry.trans (congrArg _ (List.append_nil _).symm)
      · intro other at_
        rcases at_ with at_ | at_ <;> cases at_
        exact ⟨request, calling, read,
          past, [], routed, request.payload, rfl, ran, calling, read,
          HandlerRegistry.registered_of_lookup registered⟩
      · exact fun job member => (routes.looked job member).append _
      · intro delivery
        simpa [RoutedAct.deliveries] using routes.accounted delivery
  | @enqueued route _ resolved stepped =>
      have move := Host.step_move stepped
      obtain ⟨request, calling, read, looked⟩ := routes.resolved route (.inl resolved)
      have still := move.calling_kept calling (by simp) (by simp)
      rcases move.jobs with same | ⟨offers, _⟩
      · refine routes.moves stepped same rfl (RoutedAct.count_deliveries _) ?_
        intro other at_
        rcases at_ with at_ | at_ <;> cases at_
        exact ⟨request, still, read, looked⟩
      · cases offers
  | offered offering stepped => exact routes.offered offering stepped
  | other notOffer notRefuse stepped =>
      have move := Host.step_move stepped
      rcases move.jobs with same | ⟨offers, _⟩
      · refine routes.moves stepped same rfl (RoutedAct.count_deliveries _) ?_
        intro route at_
        obtain ⟨request, calling, read, looked⟩ := routes.resolved route at_
        exact ⟨request, move.calling_kept calling notOffer notRefuse, read, looked⟩
      · exact absurd offers notOffer

theorem routes_run {appInfo : AppInfo} {actions : List RoutedAct}
    (ran : (routedHost env).run (.init appInfo) actions = some routed) :
    Routes env (.init appInfo) actions routed :=
  System.run_invariant (Routes env (.init appInfo)) (routes_init env appInfo)
    (fun _ _ _ _ earlier routes stepped => routes.step earlier (RoutedHost.step_move stepped)) ran

/-- What a handler ends with in a step. -/
def HostAct.outcome? : HostAct → Option HandlerOutcome
  | .pool (.worker _ (.handler outcome)) => some outcome
  | _ => none

def RoutedAct.outcome? : RoutedAct → Option HandlerOutcome
  | .host action => action.outcome?
  | _ => none

/-- The routed host goes through the runs of the host, and its handlers end as they
do in these. -/
theorem host_run {appInfo : AppInfo} {actions : List RoutedAct}
    (ran : (routedHost env).run (.init appInfo) actions = some routed) :
    ∃ hostActions, (goHost env.host).run (Host.init appInfo) hostActions = some routed.host ∧
      hostActions.filterMap HostAct.outcome? = actions.filterMap RoutedAct.outcome? := by
  simp only [List.filterMap_eq_flatMap_toList]
  refine System.run_project RoutedHost.host (fun action : RoutedAct => action.outcome?.toList)
    (fun action : HostAct => action.outcome?.toList) ?_ ran
  intro before action after stepped
  cases RoutedHost.step_move stepped with
  | registered | resolved => exact .inl ⟨rfl, rfl⟩
  | refused _ _ _ moved | enqueued _ moved | offered _ moved | other _ _ moved =>
      exact .inr ⟨_, moved, rfl⟩

end Routes

/-- The host reads in a request what was encoded. -/
theorem deliveries_encode {env : RoutedEnv} {backend : DispatchRequestPayload → Bytes}
    (reads : ∀ payload, (backend payload).length < 2 ^ 31 →
      env.unmarshal (backend payload) = some payload)
    (correlationId : CorrelationId) (payload : DispatchRequestPayload)
    (short : (backend payload).length < 2 ^ 31) :
    env.deliveries ⟨correlationId, ⟨backend payload⟩⟩ =
      payload.magicTunnel.toList.map (⟨correlationId, ·⟩) := by
  simp only [RoutedEnv.deliveries, goBytes_handed short, Option.bind_some, reads payload short]

/-- In every run of the host with its registry, the jobs are made of requests that
were received, each at most once, with the correlation id and, below 2 GiB, the uri
and bytes that the backend encoded, and each goes to the handler that was registered
for its uri when the callback looked: that was not registered over another, and not
unregistered before. -/
theorem requests_reach_handlers (env : RoutedEnv) (backend : DispatchRequestPayload → Bytes)
    (reads : ∀ payload, (backend payload).length < 2 ^ 31 →
      env.unmarshal (backend payload) = some payload)
    (appInfo : AppInfo) (actions : List RoutedAct) (routed : RoutedHost)
    (ran : (routedHost env).run (.init appInfo) actions = some routed) :
    routed.jobs.map RoutedJob.job = routed.host.jobs ∧
    (routed.jobs.map RoutedJob.delivery : Multiset Delivery) ≤
      (actions.flatMap (RoutedAct.deliveries env) : List Delivery) ∧
    (∀ correlationId payload, (backend payload).length < 2 ^ 31 →
      env.deliveries ⟨correlationId, ⟨backend payload⟩⟩ =
        payload.magicTunnel.toList.map (⟨correlationId, ·⟩)) ∧
    ∀ job ∈ routed.jobs, LookedUp env (.init appInfo) actions job.job.id job.route := by
  have routes := routes_run ran
  refine ⟨routes.jobs, Multiset.le_iff_count.mpr ?_, deliveries_encode reads, routes.looked⟩
  intro delivery
  rw [Multiset.coe_count, Multiset.coe_count]
  exact (Nat.le_add_right _ _).trans (routes.accounted delivery)

/-- A request with its protobuf bytes. -/
def requestEntries : List (DispatchRequestPayload × Bytes) :=
  [(⟨none, some ⟨"ping", [9]⟩⟩,
    [0x12, 0x09, 0x0a, 0x04, 0x70, 0x69, 0x6e, 0x67, 0x12, 0x01, 0x09])]

theorem requestEntries_readable : Readable requestEntries := by decide

def requestBook : Codebook DispatchRequestPayload := ⟨requestEntries, requestEntries_readable⟩

def fixtureRoutedEnv : RoutedEnv := ⟨fixtureHostEnv, requestBook.read⟩

/-- A signed request for the handler of `ping`. -/
def pingRequest : ServerInput :=
  .ok (.dispatch ⟨5⟩ ⟨requestBook.write ⟨none, some ⟨"ping", [9]⟩⟩⟩
    (some ⟨List.replicate 16 7, [1]⟩))

/-- A handler is registered, gets the one request, and returns a byte. -/
def routeRequest : List RoutedAct := List.flatten [
  [.registry (.register "ping".toByteArray 7)], sayHello.map .host,
  [.host (.session (.receive fixtureAckInput)), .host (.session .deliver),
    .host (.session (.receive pingRequest)), .host (.session .deliver)],
  (draws 9).map .host,
  [.host (.native .dispatchTask), .goDispatchCb, .host .enqueue, .host .offer, .host (.pool .add),
    .host (.native .dispatchTask)],
  serve.map fun action => match action with
    | .worker worker .callSink => .host (.workerSink worker)
    | action => .host (.pool action),
  respond.map .host, (tearDown 2).map .host]

theorem requests_reach_handlers_ping : ∃ routed,
    (routedHost fixtureRoutedEnv).run (.init Actor.fixtureApp) routeRequest = some routed ∧
      requestBook.write ⟨none, some ⟨"ping", [9]⟩⟩ =
        [0x12, 0x09, 0x0a, 0x04, 0x70, 0x69, 0x6e, 0x67, 0x12, 0x01, 0x09] ∧
      routed.jobs = [⟨⟨0, 5⟩, ⟨7, ⟨"ping", [9]⟩⟩⟩] ∧
      LookedUp fixtureRoutedEnv (.init Actor.fixtureApp) routeRequest ⟨5⟩
        ⟨7, ⟨"ping", [9]⟩⟩ := by
  obtain ⟨routed, ran, jobs⟩ : ∃ routed,
      (routedHost fixtureRoutedEnv).run (.init Actor.fixtureApp) routeRequest = some routed ∧
        routed.jobs = [⟨⟨0, 5⟩, ⟨7, ⟨"ping", [9]⟩⟩⟩] := ⟨_, rfl, rfl⟩
  obtain ⟨_, _, _, looked⟩ := requests_reach_handlers fixtureRoutedEnv requestBook.write
    (fun payload _ => requestBook.read_write payload) Actor.fixtureApp routeRequest routed ran
  exact ⟨routed, ran, rfl, jobs, looked ⟨⟨0, 5⟩, ⟨7, ⟨"ping", [9]⟩⟩⟩ (by simp [jobs])⟩

/-- A response that the server reads, of a host in which no payload reaches 2 GiB:
it has the correlation id of a request that was received, and the payload that the
handler of that request ended with, the one registered for its uri. -/
theorem handlers_answer_requests (env : RoutedEnv) (documented : env.host.codec.Documented)
    (server : Bytes → Option WireClientToServer)
    (reads : ∀ wire, (env.host.encode wire).length < 2 ^ 31 →
      server (env.host.encode wire) = some wire)
    (appInfo : AppInfo) (actions : List RoutedAct) (routed : RoutedHost)
    (ran : (routedHost env).run (.init appInfo) actions = some routed)
    (short : ∀ call ∈ routed.host.pool.calls, ∀ data ∈ env.host.reported call.2,
      data.length < 2 ^ 31)
    (correlationId : CorrelationId) (payload : DispatchResponsePayload)
    (written : .dispatchResponse correlationId (.payload payload) ∈ routed.host.written)
    (small : (env.host.wire (.dispatchResponse correlationId (.payload payload))).length <
      2 ^ 31) :
    ∃ hostActions,
      (goHost env.host).run (.init appInfo) hostActions = some routed.host ∧
      hostActions.filterMap HostAct.outcome? = actions.filterMap RoutedAct.outcome? ∧
      ∃ job ∈ routed.jobs, ∃ outcome read, job.job.id = correlationId ∧
        job.delivery ∈ actions.flatMap (RoutedAct.deliveries env) ∧
        LookedUp env (.init appInfo) actions correlationId job.route ∧
        HandlerEnded env.host (.init appInfo) hostActions job.job.ticket outcome ∧
        (outcome.result job.job.correlationID).ReadAs read ∧
        server (sendCbData env.host.wire (.dispatchResponse correlationId (.payload payload))) =
          some (ClientToServer.dispatchResponse correlationId
            (.payload ⟨some ⟨some read⟩⟩)).toWire := by
  have routes := routes_run ran
  obtain ⟨hostActions, hostRan, outcomes⟩ := host_run ran
  obtain ⟨job, known, outcome, read, ended, rfl, same, rfl⟩ :=
    payload_written documented hostRan short written
  rw [← routes.jobs] at known
  obtain ⟨made, member, rfl⟩ := List.mem_map.mp known
  have delivered : made.delivery ∈ actions.flatMap (RoutedAct.deliveries env) := by
    have counted := List.count_pos_iff.mpr (List.mem_map_of_mem (f := RoutedJob.delivery) member)
    have bounded := routes.accounted made.delivery
    exact List.count_pos_iff.mp (by omega)
  exact ⟨hostActions, hostRan, outcomes, made, member, outcome, read, rfl, delivered,
    routes.looked made member, ended, same, message_read reads small⟩

theorem handlers_answer_requests_ping : ∃ routed,
    (routedHost fixtureRoutedEnv).run (.init Actor.fixtureApp) routeRequest = some routed ∧
      .dispatchResponse ⟨5⟩ (.payload ⟨some ⟨some (.response [1])⟩⟩) ∈ routed.host.written ∧
      ∃ job ∈ routed.jobs, ∃ read,
        job.delivery ∈ routeRequest.flatMap (RoutedAct.deliveries fixtureRoutedEnv) ∧
        job.job.id = ⟨5⟩ ∧
        clientBook.read [0x1a, 0x09, 0x08, 0x05, 0x1a, 0x05, 0x0a, 0x03, 0x0a, 0x01, 0x01] =
          some (ClientToServer.dispatchResponse ⟨5⟩ (.payload ⟨some ⟨some read⟩⟩)).toWire := by
  obtain ⟨routed, ran, written, short⟩ : ∃ routed,
      (routedHost fixtureRoutedEnv).run (.init Actor.fixtureApp) routeRequest = some routed ∧
        .dispatchResponse ⟨5⟩ (.payload ⟨some ⟨some (.response [1])⟩⟩) ∈ routed.host.written ∧
        ∀ call ∈ routed.host.pool.calls, ∀ data ∈ fixtureHostEnv.reported call.2,
          data.length < 2 ^ 31 :=
    ⟨_, rfl, of_decide_eq_true rfl, of_decide_eq_true rfl⟩
  obtain ⟨_, _, _, job, member, _, read, own, delivered, _, _, _, arrives⟩ :=
    handlers_answer_requests fixtureRoutedEnv fixtureCodec_documented clientBook.read
      (fun wire _ => clientBook.read_write wire) Actor.fixtureApp routeRequest routed ran short ⟨5⟩
      _ written (by decide)
  exact ⟨routed, ran, written, job, member, read, delivered, own, arrives⟩

end LibddRc.Go
