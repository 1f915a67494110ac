import LibddRc.Client.Codec

/-! The message delegate of one connection: four phases, and the reaction of
each to a decoded server message. A reaction asks for effects and names the
phase it continues in; no phase depends on how an effect went. -/

set_option autoImplicit false

namespace LibddRc

/-- What a phase asks of its surroundings: `retry_send` to the server, or a call
of `DispatchPublisher::dispatch`. -/
inductive Effect
  | send (message : ClientToServer)
  | dispatch (request : Dispatch)
  deriving DecidableEq

/-- The phase of a connection. Handshaking holds the nonce of the hello it
sent, and an active connection its verified identifier. -/
inductive Phase
  | preHandshake (appInfo : AppInfo)
  | handshaking (nonce : IdNonce)
  | active (connectionId : ConnectionId)
  | error
  deriving DecidableEq

/-- A reaction: the effects to carry out, in order, and the phase after them. -/
structure Turn where
  effects : List Effect
  next : Phase
  deriving DecidableEq

/-- `IS_HANDSHAKE_COMPLETE` of each phase. The error phase claims true, and
never reports it. -/
def Phase.isHandshakeComplete : Phase → Bool
  | .preHandshake _ => false
  | .handshaking _ => false
  | .active _ => true
  | .error => true

/-- `Fsm::protocol_error`: report the reason and enter the error phase. -/
def protocolError (isHandshakeComplete : Bool) (reason : ProtocolError) : Turn where
  effects := [.send (.protocolError reason isHandshakeComplete)]
  next := .error

/-- `State::protocol_error`, which reports the current phase's marker. -/
def Phase.protocolError (phase : Phase) (reason : ProtocolError) : Turn :=
  LibddRc.protocolError phase.isHandshakeComplete reason

/-- `build_hello`: a fresh nonce and the hello that carries it. -/
def buildHello (appInfo : AppInfo) (metrics : InstanceMetrics) (draw : Draw) :
    Except Panic (IdNonce × ClientToServer) := do
  let nonce ← IdNonce.default draw
  pure (nonce, .clientHello {
    clientNonce := nonce.asBytes
    graceful := metrics.gracefulDisconnect
    ungraceful := metrics.ungracefulDisconnect
    lastClosedConnectionDuration := metrics.lastConnDuration
    reconnectionData := none
    versionInfo := metrics.version
    appName := appInfo.name
    appVersion := appInfo.version
  })

/-- `State::send_hello`: every phase but the first is `unreachable!`. -/
def Phase.sendHello (metrics : InstanceMetrics) (draw : Draw) : Phase → Except Panic Turn
  | .preHandshake appInfo => do
      let (nonce, hello) ← buildHello appInfo metrics draw
      pure { effects := [.send hello], next := .handshaking nonce }
  | .handshaking _ => .error .helloOutsidePreHandshake
  | .active _ => .error .helloOutsidePreHandshake
  | .error => .error .helloOutsidePreHandshake

def PreHandshake.process (appInfo : AppInfo) : ServerToClient → Turn
  | .ping => { effects := [.send .pong], next := .preHandshake appInfo }
  | .certificatePush _ | .setReconnectionData _ =>
      { effects := [], next := .preHandshake appInfo }
  | .clientHelloAck _ => protocolError false .handshakeAckBeforeHello
  | .dispatch correlationId _ _ => protocolError false (.dispatchBeforeHandshake correlationId)

/-- `Fsm<Handshaking>::process`. Taking the nonce out of the state draws a
placeholder, so an acknowledgement can panic like any other nonce generation. -/
def Handshaking.process (prim : Primitives) (draw : Draw) (nonce : IdNonce) :
    ServerToClient → Except Panic Turn
  | .ping => .ok { effects := [.send .pong], next := .handshaking nonce }
  | .certificatePush _ | .setReconnectionData _ =>
      .ok { effects := [], next := .handshaking nonce }
  | .clientHelloAck proposedId => do
      let _placeholder ← IdNonce.default draw
      match proposedId.verify prim nonce with
      | .ok connectionId => pure { effects := [], next := .active connectionId }
      | .error _ => pure (protocolError false .handshakeConnectionIdRejected)
  | .dispatch correlationId _ _ =>
      .ok (protocolError false (.dispatchBeforeHandshake correlationId))

/-- `Fsm<Active>::handle_dispatch`. Neither the signature nor the connection
identifier is verified here: the source leaves both open. -/
def Active.handleDispatch (connectionId : ConnectionId) (correlationId : CorrelationId)
    (payload : Payload) (detachedSignature : Option DetachedSignature) : Turn :=
  match detachedSignature with
  | none => protocolError true (.dispatchMissingSignature correlationId)
  | some signed =>
      if signed.signature.isEmpty then
        protocolError true (.dispatchMissingSignature correlationId)
      else
        match CertId.tryFrom signed.certId with
        | .error error => protocolError true (.certIdInvalidLength error.gotLen)
        | .ok _ =>
            { effects := [.dispatch { correlationId, payload }], next := .active connectionId }

def Active.process (connectionId : ConnectionId) : ServerToClient → Turn
  | .ping => { effects := [.send .pong], next := .active connectionId }
  | .certificatePush _ | .setReconnectionData _ => { effects := [], next := .active connectionId }
  | .dispatch correlationId payload detachedSignature =>
      Active.handleDispatch connectionId correlationId payload detachedSignature
  | .clientHelloAck _ => protocolError true .handshakeDuplicateAck

def Phase.process (prim : Primitives) (draw : Draw) (phase : Phase) (message : ServerToClient) :
    Except Panic Turn :=
  match phase with
  | .preHandshake appInfo => .ok (PreHandshake.process appInfo message)
  | .handshaking nonce => Handshaking.process prim draw nonce message
  | .active connectionId => .ok (Active.process connectionId message)
  | .error => .ok { effects := [], next := .error }

def Phase.processImpl (prim : Primitives) (draw : Draw) (phase : Phase) (input : ServerInput) :
    Except Panic Turn :=
  match phase with
  | .error => .ok { effects := [], next := .error }
  | phase =>
      match input with
      | .error failure => .ok (phase.protocolError (.deserialisationFailed failure.toText))
      | .ok message => phase.process prim draw message

/-! ## What one input can do -/

/-- The inputs a phase reports as a protocol violation, with the reason. -/
inductive Violates (prim : Primitives) : Phase → ServerInput → ProtocolError → Prop
  | undecodable {phase : Phase} {failure : DecodingError} :
      Violates prim phase (.error failure) (.deserialisationFailed failure.toText)
  | ackBeforeHello {appInfo : AppInfo} {proposed : UntrustedConnectionId} :
      Violates prim (.preHandshake appInfo) (.ok (.clientHelloAck proposed))
        .handshakeAckBeforeHello
  | rejected {nonce : IdNonce} {proposed : UntrustedConnectionId} :
      proposed.id ≠ uuidV8Digest prim proposed.serverNonce nonce.asBytes →
      Violates prim (.handshaking nonce) (.ok (.clientHelloAck proposed))
        .handshakeConnectionIdRejected
  | duplicateAck {connectionId : ConnectionId} {proposed : UntrustedConnectionId} :
      Violates prim (.active connectionId) (.ok (.clientHelloAck proposed)) .handshakeDuplicateAck
  | early {phase : Phase} {correlationId : CorrelationId} {payload : Payload}
      {signature : Option DetachedSignature} :
      phase.isHandshakeComplete = false →
      Violates prim phase (.ok (.dispatch correlationId payload signature))
        (.dispatchBeforeHandshake correlationId)
  | unsigned {connectionId : ConnectionId} {correlationId : CorrelationId} {payload : Payload}
      {signature : Option DetachedSignature} :
      (∀ signed ∈ signature, signed.signature = []) →
      Violates prim (.active connectionId) (.ok (.dispatch correlationId payload signature))
        (.dispatchMissingSignature correlationId)
  | badCertId {connectionId : ConnectionId} {correlationId : CorrelationId} {payload : Payload}
      {signed : DetachedSignature} :
      signed.signature ≠ [] → ¬ (16 ≤ signed.certId.length ∧ signed.certId.length ≤ 64) →
      Violates prim (.active connectionId) (.ok (.dispatch correlationId payload (some signed)))
        (.certIdInvalidLength signed.certId.length)

/-- Every reaction of a phase to an input. -/
inductive Reaction (prim : Primitives) : Phase → ServerInput → Turn → Prop
  | ignored {input : ServerInput} : Reaction prim .error input ⟨[], .error⟩
  | pong {phase : Phase} : phase ≠ .error →
      Reaction prim phase (.ok .ping) ⟨[.send .pong], phase⟩
  | certificates {phase : Phase} {pushed : List UntrustedCertBytes} : phase ≠ .error →
      Reaction prim phase (.ok (.certificatePush pushed)) ⟨[], phase⟩
  | reconnection {phase : Phase} {data : ReconnectionData} : phase ≠ .error →
      Reaction prim phase (.ok (.setReconnectionData data)) ⟨[], phase⟩
  | accepted {nonce : IdNonce} {proposed : UntrustedConnectionId} {connectionId : ConnectionId} :
      proposed.id = uuidV8Digest prim proposed.serverNonce nonce.asBytes →
      Reaction prim (.handshaking nonce) (.ok (.clientHelloAck proposed))
        ⟨[], .active connectionId⟩
  | dispatched {connectionId : ConnectionId} {correlationId : CorrelationId} {payload : Payload}
      {signed : DetachedSignature} :
      signed.signature ≠ [] → 16 ≤ signed.certId.length → signed.certId.length ≤ 64 →
      Reaction prim (.active connectionId) (.ok (.dispatch correlationId payload (some signed)))
        ⟨[.dispatch ⟨correlationId, payload⟩], .active connectionId⟩
  | violated {phase : Phase} {input : ServerInput} {reason : ProtocolError} :
      phase ≠ .error → Violates prim phase input reason →
      Reaction prim phase input (protocolError phase.isHandshakeComplete reason)

private theorem handleDispatch_reaction (prim : Primitives) (connectionId : ConnectionId)
    (correlationId : CorrelationId) (payload : Payload) (signature : Option DetachedSignature) :
    Reaction prim (.active connectionId) (.ok (.dispatch correlationId payload signature))
      (Active.handleDispatch connectionId correlationId payload signature) := by
  cases signature with
  | none => exact .violated (by simp) (.unsigned (by simp))
  | some signed =>
      simp only [Active.handleDispatch]
      by_cases missing : signed.signature.isEmpty = true
      · rw [if_pos missing]
        exact .violated (by simp) (.unsigned (by simpa using missing))
      · rw [if_neg missing]
        have present : signed.signature ≠ [] := by simpa using missing
        cases parsed : CertId.tryFrom signed.certId with
        | error refused =>
            obtain ⟨length, outside⟩ := CertId.tryFrom_error_gotLen parsed
            dsimp only
            rw [length]
            exact .violated (by simp) (.badCertId present outside)
        | ok certId =>
            have bytes := CertId.tryFrom_ok_bytes parsed
            exact .dispatched present (bytes ▸ certId.min_length) (bytes ▸ certId.max_length)

private theorem handshaking_reaction {prim : Primitives} {draw : Draw} {nonce : IdNonce}
    {message : ServerToClient} {turn : Turn}
    (processed : Handshaking.process prim draw nonce message = .ok turn) :
    Reaction prim (.handshaking nonce) (.ok message) turn := by
  cases message with
  | ping => cases processed; exact .pong (by simp)
  | certificatePush pushed => cases processed; exact .certificates (by simp)
  | setReconnectionData data => cases processed; exact .reconnection (by simp)
  | dispatch correlationId payload signature =>
      cases processed
      exact .violated (by simp) (.early rfl)
  | clientHelloAck proposed =>
      have verified := @UntrustedConnectionId.verify_ok_iff prim proposed nonce
      simp only [Handshaking.process] at processed
      cases drawn : IdNonce.default draw with
      | error panic => simp [drawn, bind, Except.bind] at processed
      | ok placeholder =>
          cases verdict : proposed.verify prim nonce with
          | ok connectionId =>
              simp only [drawn, verdict, bind, Except.bind, pure, Except.pure] at processed
              cases processed
              exact .accepted (verified.mp ⟨connectionId, verdict⟩)
          | error invalid =>
              simp only [drawn, verdict, bind, Except.bind, pure, Except.pure] at processed
              cases processed
              refine .violated (by simp) (.rejected fun same => ?_)
              obtain ⟨connectionId, accepted⟩ := verified.mpr same
              simp [verdict] at accepted

private theorem preHandshake_reaction (prim : Primitives) (appInfo : AppInfo)
    (message : ServerToClient) :
    Reaction prim (.preHandshake appInfo) (.ok message) (PreHandshake.process appInfo message) := by
  cases message with
  | ping => exact .pong (by simp)
  | certificatePush pushed => exact .certificates (by simp)
  | setReconnectionData data => exact .reconnection (by simp)
  | clientHelloAck proposed => exact .violated (by simp) .ackBeforeHello
  | dispatch correlationId payload signature => exact .violated (by simp) (.early rfl)

private theorem active_reaction (prim : Primitives) (connectionId : ConnectionId)
    (message : ServerToClient) :
    Reaction prim (.active connectionId) (.ok message) (Active.process connectionId message) := by
  cases message with
  | ping => exact .pong (by simp)
  | certificatePush pushed => exact .certificates (by simp)
  | setReconnectionData data => exact .reconnection (by simp)
  | clientHelloAck proposed => exact .violated (by simp) .duplicateAck
  | dispatch correlationId payload signature =>
      exact handleDispatch_reaction prim connectionId correlationId payload signature

theorem Phase.processImpl_reaction {prim : Primitives} {draw : Draw} {phase : Phase}
    {input : ServerInput} {turn : Turn}
    (processed : phase.processImpl prim draw input = .ok turn) :
    Reaction prim phase input turn := by
  cases input with
  | error failure =>
      cases phase with
      | error => cases processed; exact .ignored
      | preHandshake | handshaking | active =>
          cases processed
          exact .violated (by simp) .undecodable
  | ok message =>
      cases phase with
      | error => cases processed; exact .ignored
      | preHandshake appInfo =>
          cases processed
          exact preHandshake_reaction prim appInfo message
      | handshaking nonce => exact handshaking_reaction processed
      | active connectionId =>
          cases processed
          exact active_reaction prim connectionId message

theorem Phase.processImpl_total (prim : Primitives) {draw : Draw} (usable : draw.Usable)
    (phase : Phase) (input : ServerInput) :
    ∃ turn, phase.processImpl prim draw input = .ok turn := by
  obtain ⟨placeholder, drawn⟩ := IdNonce.default_ok_iff.mpr usable
  cases phase with
  | error => exact ⟨_, rfl⟩
  | preHandshake appInfo => cases input <;> exact ⟨_, rfl⟩
  | active connectionId => cases input <;> exact ⟨_, rfl⟩
  | handshaking nonce =>
      cases input with
      | error failure => exact ⟨_, rfl⟩
      | ok message =>
          cases message with
          | ping | certificatePush | setReconnectionData | dispatch => exact ⟨_, rfl⟩
          | clientHelloAck proposed =>
              simp only [Phase.processImpl, Phase.process, Handshaking.process, drawn, bind,
                Except.bind]
              cases proposed.verify prim nonce <;> exact ⟨_, rfl⟩

end LibddRc
