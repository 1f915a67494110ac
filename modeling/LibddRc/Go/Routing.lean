import LibddRc.Go.HostMoves

/-! The way of a request to its handler: the registry of handlers that all
connections of the process share, the callback that reads a request and looks its
handler up, and the jobs that come of it. Handlers come and go at any time, also
between the lookup and the call. -/

set_option autoImplicit false

namespace LibddRc.Go

open Foundation

/-- A call of the handler for `uri`. -/
structure MagicTunnelRequest where
  uri : String
  request : Bytes
  deriving DecidableEq, Encodable

/-- What the payload of a dispatch request holds, which the client passes on
unread. -/
structure DispatchRequestPayload where
  connectionId : Option WireConnectionId
  magicTunnel : Option MagicTunnelRequest
  deriving DecidableEq, Encodable

/-- The host with the `proto.Unmarshal` of its requests. -/
structure RoutedEnv where
  host : HostEnv
  unmarshal : Bytes → Option DispatchRequestPayload

/-! ## The registry -/

inductive RegistryError
  | handlerExists
  | handlerNotFound
  deriving DecidableEq

/-- A handler function is known by a number. -/
structure HandlerRegistry where
  handlers : GoString → Option ℕ

namespace HandlerRegistry

def empty : HandlerRegistry := ⟨fun _ => none⟩

def lookup (registry : HandlerRegistry) (uri : GoString) : Option ℕ := registry.handlers uri

def register (registry : HandlerRegistry) (uri : GoString) (handler : ℕ) :
    Except RegistryError HandlerRegistry :=
  match registry.handlers uri with
  | some _ => .error .handlerExists
  | none => .ok ⟨Function.update registry.handlers uri (some handler)⟩

def unregister (registry : HandlerRegistry) (uri : GoString) :
    Except RegistryError HandlerRegistry :=
  match registry.handlers uri with
  | none => .error .handlerNotFound
  | some _ => .ok ⟨Function.update registry.handlers uri none⟩

end HandlerRegistry

/-- A call of `RegisterHandler` or `UnregisterHandler`, each under the lock of the
registry. -/
inductive RegistryCall
  | register (uri : GoString) (handler : ℕ)
  | unregister (uri : GoString)
  deriving DecidableEq

namespace HandlerRegistry

/-- A call that fails changes nothing. -/
def settle (registry : HandlerRegistry) :
    Except RegistryError HandlerRegistry → HandlerRegistry
  | .ok next => next
  | .error _ => registry

def call (registry : HandlerRegistry) : RegistryCall → HandlerRegistry
  | .register uri handler => registry.settle (registry.register uri handler)
  | .unregister uri => registry.settle (registry.unregister uri)

def after (calls : List RegistryCall) : HandlerRegistry := calls.foldl call empty

theorem after_append (calls : List RegistryCall) (made : RegistryCall) :
    after (calls ++ [made]) = (after calls).call made := List.foldl_concat ..

theorem lookup_register (registry : HandlerRegistry) (other uri : GoString) (handler : ℕ) :
    (registry.call (.register other handler)).lookup uri =
      if other = uri ∧ registry.lookup uri = none then some handler else registry.lookup uri := by
  by_cases same : other = uri
  · subst same
    cases found : registry.handlers other <;> simp [call, settle, register, lookup, found]
  · cases found : registry.handlers other <;>
      simp [call, settle, register, lookup, found, same, Ne.symm same]

theorem lookup_unregister (registry : HandlerRegistry) (other uri : GoString) :
    (registry.call (.unregister other)).lookup uri =
      if other = uri then none else registry.lookup uri := by
  by_cases same : other = uri
  · subst same
    cases found : registry.handlers other <;> simp [call, settle, unregister, lookup, found]
  · cases found : registry.handlers other <;>
      simp [call, settle, unregister, lookup, found, same, Ne.symm same]

/-- The registration of the handler found its uri free, and it was not unregistered
since. -/
def Registered (calls : List RegistryCall) (uri : GoString) (handler : ℕ) : Prop :=
  ∃ earlier later, calls = earlier ++ .register uri handler :: later ∧
    (after earlier).lookup uri = none ∧ .unregister uri ∉ later

theorem Registered.append {calls : List RegistryCall} {uri : GoString} {handler : ℕ}
    (registered : Registered calls uri handler) {made : RegistryCall}
    (other : made ≠ .unregister uri) : Registered (calls ++ [made]) uri handler := by
  obtain ⟨earlier, later, rfl, free, still⟩ := registered
  exact ⟨earlier, later ++ [made], by simp, free, by simp [still, Ne.symm other]⟩

theorem registered_of_lookup {calls : List RegistryCall} {uri : GoString} {handler : ℕ}
    (found : (after calls).lookup uri = some handler) : Registered calls uri handler := by
  induction calls using List.reverseRecOn with
  | nil => cases found
  | append_singleton past made ih =>
      rw [after_append] at found
      cases made with
      | register other added =>
          rw [lookup_register] at found
          split at found
          · next fresh =>
            obtain ⟨rfl, free⟩ := fresh
            cases found
            exact ⟨past, [], rfl, free, List.not_mem_nil⟩
          · exact (ih found).append (by simp)
      | unregister other =>
          rw [lookup_unregister] at found
          split at found
          · cases found
          · next apart => exact (ih found).append (by simp [apart])

end HandlerRegistry

/-! ## The callback -/

/-- A resolved request: `dispatchJob` without its correlation id. -/
structure Route where
  handler : ℕ
  request : MagicTunnelRequest
  deriving DecidableEq

/-- `goDispatchCb` up to its call of `enqueue`. A panic of `C.GoBytes` is recovered
from. -/
def goDispatchCb (env : RoutedEnv) (registry : HandlerRegistry) (request : Dispatch) :
    Except DispatchRet Route :=
  match goBytes (handed request.payload.bytes) with
  | none => .error .unknown
  | some data =>
      match env.unmarshal data with
      | none => .error .unknownPayload
      | some payload =>
          match payload.magicTunnel with
          | none => .error .unknownPayload
          | some tunnel =>
              match registry.lookup tunnel.uri.toByteArray with
              | none => .error .noDispatchHandler
              | some handler => .ok ⟨handler, tunnel⟩

structure RoutedJob where
  job : DispatchJob
  route : Route
  deriving DecidableEq

/-- Where the callback stands: it has yet to look its handler up, is about to call
`enqueue`, or is inside that call. -/
inductive CallbackPc
  | deciding
  | resolved (route : Route)
  | offering (route : Route)

/-- The host of one connection with the registry, and a record of what the jobs on
its dispatch queue were made of. -/
structure RoutedHost where
  host : Host
  registry : HandlerRegistry
  callback : CallbackPc
  jobs : List RoutedJob

inductive RoutedAct
  | registry (call : RegistryCall)
  | goDispatchCb
  | host (action : HostAct)

namespace RoutedHost

def init (appInfo : AppInfo) : RoutedHost where
  host := .init appInfo
  registry := .empty
  callback := .deciding
  jobs := []

def callbackStep (env : RoutedEnv) (routed : RoutedHost) : Option RoutedHost :=
  match routed.host.conn.dispatchTask, routed.callback with
  | .calling request, .deciding =>
      match goDispatchCb env routed.registry request with
      | .error ret =>
          (routed.host.step env.host (.native (.refuse ret))).map fun host => { routed with host }
      | .ok route => some { routed with callback := .resolved route }
  | _, _ => none

/-- The host's own steps. It is the callback that refuses a request or calls
`enqueue`, and what `enqueue` puts on the queue is the callback's job. -/
def hostStep (env : RoutedEnv) (routed : RoutedHost) : HostAct → Option RoutedHost
  | .enqueue =>
      match routed.callback with
      | .resolved route => (routed.host.step env.host .enqueue).map fun host =>
          { routed with host, callback := .offering route }
      | _ => none
  | .offer =>
      match routed.callback with
      | .offering route => (routed.host.step env.host .offer).map fun host => { routed with
          host
          callback := .deciding
          jobs := routed.jobs ++ (host.jobs.drop routed.host.jobs.length).map (⟨·, route⟩) }
      | _ => none
  | .native (.refuse _) => none
  | action => (routed.host.step env.host action).map fun host => { routed with host }

def step (env : RoutedEnv) (routed : RoutedHost) : RoutedAct → Option RoutedHost
  | .registry call => some { routed with registry := routed.registry.call call }
  | .goDispatchCb => routed.callbackStep env
  | .host action => routed.hostStep env action

end RoutedHost

def routedHost (env : RoutedEnv) : System RoutedHost RoutedAct where
  initial routed := ∃ appInfo, routed = .init appInfo
  step := RoutedHost.step env

/-! ## Moves -/

inductive RoutedMove (env : RoutedEnv) (routed : RoutedHost) : RoutedAct → RoutedHost → Prop
  | registered {call : RegistryCall} : RoutedMove env routed (.registry call)
      { routed with registry := routed.registry.call call }
  | refused {request : Dispatch} {ret : DispatchRet} {host : Host}
      (calling : routed.host.conn.dispatchTask = .calling request)
      (deciding : routed.callback = .deciding)
      (failed : goDispatchCb env routed.registry request = .error ret)
      (stepped : routed.host.step env.host (.native (.refuse ret)) = some host) :
      RoutedMove env routed .goDispatchCb { routed with host }
  | resolved {request : Dispatch} {route : Route}
      (calling : routed.host.conn.dispatchTask = .calling request)
      (deciding : routed.callback = .deciding)
      (found : goDispatchCb env routed.registry request = .ok route) :
      RoutedMove env routed .goDispatchCb { routed with callback := .resolved route }
  | enqueued {route : Route} {host : Host} (resolved : routed.callback = .resolved route)
      (stepped : routed.host.step env.host .enqueue = some host) :
      RoutedMove env routed (.host .enqueue)
        { routed with host, callback := .offering route }
  | offered {route : Route} {host : Host} (offering : routed.callback = .offering route)
      (stepped : routed.host.step env.host .offer = some host) :
      RoutedMove env routed (.host .offer) { routed with
        host
        callback := .deciding
        jobs := routed.jobs ++ (host.jobs.drop routed.host.jobs.length).map (⟨·, route⟩) }
  | other {action : HostAct} {host : Host} (notOffer : action ≠ .offer)
      (notRefuse : ∀ ret, action ≠ .native (.refuse ret))
      (stepped : routed.host.step env.host action = some host) :
      RoutedMove env routed (.host action) { routed with host }

section Moves

variable {env : RoutedEnv} {routed next : RoutedHost}

private theorem callbackStep_move (stepped : routed.callbackStep env = some next) :
    RoutedMove env routed .goDispatchCb next := by
  unfold RoutedHost.callbackStep at stepped
  split at stepped
  · next request calling deciding =>
    split at stepped
    · next failed =>
      obtain ⟨host, moved, rfl⟩ := Option.map_eq_some_iff.mp stepped
      exact .refused calling deciding failed moved
    · next found =>
      cases stepped
      exact .resolved calling deciding found
  · cases stepped

private theorem hostStep_move {action : HostAct}
    (stepped : routed.hostStep env action = some next) :
    RoutedMove env routed (.host action) next := by
  unfold RoutedHost.hostStep at stepped
  split at stepped
  · split at stepped
    · next resolved =>
      obtain ⟨host, moved, rfl⟩ := Option.map_eq_some_iff.mp stepped
      exact .enqueued resolved moved
    · cases stepped
  · split at stepped
    · next offering =>
      obtain ⟨host, moved, rfl⟩ := Option.map_eq_some_iff.mp stepped
      exact .offered offering moved
    · cases stepped
  · cases stepped
  · next notEnqueue notOffer notRefuse =>
    obtain ⟨host, moved, rfl⟩ := Option.map_eq_some_iff.mp stepped
    exact .other notOffer notRefuse moved

theorem RoutedHost.step_move {action : RoutedAct} (stepped : routed.step env action = some next) :
    RoutedMove env routed action next := by
  cases action with
  | registry call =>
      cases stepped
      exact .registered
  | goDispatchCb => exact callbackStep_move stepped
  | host action => exact hostStep_move stepped

end Moves

end LibddRc.Go
