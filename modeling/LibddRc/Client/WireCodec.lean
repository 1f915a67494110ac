import LibddRc.Foundation.Format
import LibddRc.Client.Codec

/-! The translation between the messages of the client and the generated wire
types. An optional value that the wire format has no room for is sent, or read,
as its default, so each translation is studied up to a settled form in which the
default is written out. -/

set_option autoImplicit false

namespace LibddRc

open Foundation

/-! ## Messages of the client -/

deriving instance Encodable for MagicTunnelResult
deriving instance Encodable for MagicTunnelResponse
deriving instance Encodable for DispatchResponsePayload
deriving instance Encodable for DispatchResponseResult

structure WireClientHello where
  nonce : Bytes
  gracefulDisconnectionCount : UInt64
  ungracefulDisconnectionCount : UInt64
  reconnectionData : Bytes
  versionMajor : UInt32
  versionMinor : UInt32
  versionPatch : UInt32
  versionPre : Option String
  versionCommit : Option String
  appName : String
  appVersion : String
  lastClosedConnectionDurationSeconds : UInt64
  deriving DecidableEq, Encodable

structure WireDispatchResponse where
  correlationId : UInt64
  result : Option DispatchResponseResult
  deriving DecidableEq, Encodable

/-- The errors of the wire format that this client reports. -/
inductive WireClientError
  | handshakeAckBeforeHello
  | handshakeDuplicateAck
  | handshakeConnectionIdRejected
  | deserialisationFailed (errorMsg : String)
  | certIdInvalidLength (gotLen : UInt64)
  | dispatchBeforeHandshake (correlationId : UInt64)
  | dispatchMissingSignature (correlationId : UInt64)
  deriving DecidableEq, Encodable

structure WireClientProtocolError where
  isHandshakeComplete : Bool
  error : Option WireClientError
  deriving DecidableEq, Encodable

/-- The members of the wire oneof that this client sends. -/
inductive WireClientMessage
  | pong
  | clientHello (hello : WireClientHello)
  | dispatch (response : WireDispatchResponse)
  | protocolError (error : WireClientProtocolError)
  deriving DecidableEq, Encodable

structure WireClientToServer where
  message : Option WireClientMessage
  deriving DecidableEq, Encodable

def ClientHello.toWire (hello : ClientHello) : WireClientHello where
  gracefulDisconnectionCount := hello.graceful
  ungracefulDisconnectionCount := hello.ungraceful
  lastClosedConnectionDurationSeconds := hello.lastClosedConnectionDuration
  nonce := hello.clientNonce
  reconnectionData := (hello.reconnectionData.map (·.bytes)).getD []
  versionMajor := hello.versionInfo.major
  versionMinor := hello.versionInfo.minor
  versionPatch := hello.versionInfo.patch
  versionCommit := hello.versionInfo.commit
  versionPre := hello.versionInfo.pre
  appName := hello.appName
  appVersion := hello.appVersion

def ProtocolError.toWire : ProtocolError → WireClientError
  | .handshakeAckBeforeHello => .handshakeAckBeforeHello
  | .handshakeDuplicateAck => .handshakeDuplicateAck
  | .handshakeConnectionIdRejected => .handshakeConnectionIdRejected
  | .deserialisationFailed message => .deserialisationFailed message
  | .certIdInvalidLength gotLen => .certIdInvalidLength (UInt64.ofNat gotLen)
  | .dispatchBeforeHandshake correlationId => .dispatchBeforeHandshake correlationId.raw
  | .dispatchMissingSignature correlationId => .dispatchMissingSignature correlationId.raw

def ClientToServer.toWire : ClientToServer → WireClientToServer
  | .clientHello hello => ⟨some (.clientHello hello.toWire)⟩
  | .pong => ⟨some .pong⟩
  | .dispatchResponse correlationId result =>
      ⟨some (.dispatch ⟨correlationId.raw, some result⟩)⟩
  | .protocolError reason isHandshakeComplete =>
      ⟨some (.protocolError ⟨isHandshakeComplete, some reason.toWire⟩)⟩

/-- `Bytes::from`, over the protobuf encoder of the wire type. -/
def ClientToServer.toBytes (encode : WireClientToServer → Bytes) (value : ClientToServer) :
    Bytes :=
  encode value.toWire

/-- The reported length is a `usize`, which has at most 64 bits. -/
def ProtocolError.Sized : ProtocolError → Prop
  | .certIdInvalidLength gotLen => gotLen < 2 ^ 64
  | _ => True

def ClientToServer.Sized : ClientToServer → Prop
  | .protocolError reason _ => reason.Sized
  | _ => True

/-- A message with every number in the range of its machine type. -/
abbrev SizedClientToServer := { message : ClientToServer // message.Sized }

/-! ### Reading a client message back -/

def ClientHello.settled (hello : ClientHello) : ClientHello :=
  { hello with reconnectionData := some (hello.reconnectionData.getD ⟨[]⟩) }

def ClientToServer.settled : ClientToServer → ClientToServer
  | .clientHello hello => .clientHello hello.settled
  | message => message

def WireClientHello.read (hello : WireClientHello) : ClientHello where
  clientNonce := hello.nonce
  graceful := hello.gracefulDisconnectionCount
  ungraceful := hello.ungracefulDisconnectionCount
  lastClosedConnectionDuration := hello.lastClosedConnectionDurationSeconds
  reconnectionData := some ⟨hello.reconnectionData⟩
  versionInfo :=
    { commit := hello.versionCommit
      major := hello.versionMajor
      minor := hello.versionMinor
      patch := hello.versionPatch
      pre := hello.versionPre }
  appName := hello.appName
  appVersion := hello.appVersion

def WireClientError.read : WireClientError → ProtocolError
  | .handshakeAckBeforeHello => .handshakeAckBeforeHello
  | .handshakeDuplicateAck => .handshakeDuplicateAck
  | .handshakeConnectionIdRejected => .handshakeConnectionIdRejected
  | .deserialisationFailed errorMsg => .deserialisationFailed errorMsg
  | .certIdInvalidLength gotLen => .certIdInvalidLength gotLen.toNat
  | .dispatchBeforeHandshake correlationId => .dispatchBeforeHandshake ⟨correlationId⟩
  | .dispatchMissingSignature correlationId => .dispatchMissingSignature ⟨correlationId⟩

/-- What a receiver learns of a message; a message with an unset part says
nothing. -/
def WireClientToServer.read (wire : WireClientToServer) : Option ClientToServer := do
  match ← wire.message with
  | .pong => some .pong
  | .clientHello hello => some (.clientHello hello.read)
  | .dispatch response => return .dispatchResponse ⟨response.correlationId⟩ (← response.result)
  | .protocolError error => return .protocolError (← error.error).read error.isHandshakeComplete

theorem ClientHello.read_toWire (hello : ClientHello) : hello.toWire.read = hello.settled := by
  cases hello with
  | mk clientNonce graceful ungraceful duration reconnectionData versionInfo appName appVersion =>
      cases reconnectionData with
      | none => rfl
      | some data => rfl

theorem ClientHello.settled_toWire (hello : ClientHello) : hello.settled.toWire = hello.toWire := by
  cases hello with
  | mk clientNonce graceful ungraceful duration reconnectionData versionInfo appName appVersion =>
      cases reconnectionData with
      | none => rfl
      | some data => rfl

theorem ProtocolError.read_toWire {error : ProtocolError} (sized : error.Sized) :
    error.toWire.read = error := by
  cases error with
  | certIdInvalidLength gotLen =>
      have kept : (UInt64.ofNat gotLen).toNat = gotLen := UInt64.toNat_ofNat_of_lt' sized
      exact congrArg ProtocolError.certIdInvalidLength kept
  | handshakeAckBeforeHello => rfl
  | handshakeDuplicateAck => rfl
  | handshakeConnectionIdRejected => rfl
  | deserialisationFailed message => rfl
  | dispatchBeforeHandshake correlationId => rfl
  | dispatchMissingSignature correlationId => rfl

/-- A receiver learns everything of a message but whether empty reconnection
data was there. -/
theorem ClientToServer.read_toWire {message : ClientToServer} (sized : message.Sized) :
    message.toWire.read = some message.settled := by
  cases message with
  | pong => rfl
  | clientHello hello =>
      exact congrArg (some ∘ ClientToServer.clientHello) hello.read_toWire
  | dispatchResponse correlationId result => rfl
  | protocolError reason isHandshakeComplete =>
      have kept : reason.toWire.read = reason := ProtocolError.read_toWire sized
      exact congrArg (fun read => some (ClientToServer.protocolError read isHandshakeComplete)) kept

theorem ClientToServer.settled_toWire (message : ClientToServer) :
    message.settled.toWire = message.toWire := by
  cases message with
  | clientHello hello =>
      exact congrArg (fun wire => (⟨some (.clientHello wire)⟩ : WireClientToServer))
        hello.settled_toWire
  | pong => rfl
  | dispatchResponse correlationId result => rfl
  | protocolError reason isHandshakeComplete => rfl

/-! ### Messages that are encoded alike -/

/-- Two hellos that are the same but for the reconnection data, which is absent
in the first and empty in the second. -/
def AbsentOrEmptyData (first second : ClientToServer) : Prop :=
  ∃ hello : ClientHello,
    first = .clientHello { hello with reconnectionData := none } ∧
      second = .clientHello { hello with reconnectionData := some ⟨[]⟩ }

theorem AbsentOrEmptyData.settled_eq {first second : ClientToServer}
    (differ : AbsentOrEmptyData first second) : first.settled = second.settled := by
  obtain ⟨hello, isFirst, isSecond⟩ := differ
  rw [isFirst, isSecond]
  rfl

theorem AbsentOrEmptyData.ne {first second : ClientToServer}
    (differ : AbsentOrEmptyData first second) : first ≠ second := by
  obtain ⟨hello, isFirst, isSecond⟩ := differ
  rw [isFirst, isSecond]
  simp

theorem ClientHello.settled_eq {first second : ClientHello}
    (same : first.settled = second.settled) :
    first = second ∨ AbsentOrEmptyData (.clientHello first) (.clientHello second) ∨
      AbsentOrEmptyData (.clientHello second) (.clientHello first) := by
  obtain ⟨nonce, graceful, ungraceful, duration, firstData, version, name, appVersion⟩ := first
  obtain ⟨nonce', graceful', ungraceful', duration', secondData, version', name', appVersion'⟩ :=
    second
  simp only [ClientHello.settled, ClientHello.mk.injEq, Option.some.injEq] at same
  obtain ⟨rfl, rfl, rfl, rfl, sameData, rfl, rfl, rfl⟩ := same
  let hello : ClientHello :=
    ⟨nonce, graceful, ungraceful, duration, none, version, name, appVersion⟩
  obtain rfl | ⟨rfl, rfl⟩ | ⟨rfl, rfl⟩ := getD_eq_getD_iff.mp sameData
  · exact .inl rfl
  · exact .inr (.inl ⟨hello, rfl, rfl⟩)
  · exact .inr (.inr ⟨hello, rfl, rfl⟩)

theorem ClientToServer.settled_eq_iff {first second : ClientToServer} :
    first.settled = second.settled ↔
      first = second ∨ AbsentOrEmptyData first second ∨ AbsentOrEmptyData second first := by
  constructor
  · intro same
    -- Only hellos change when they settle, and a hello settles to a hello.
    cases first with
    | clientHello first =>
        cases second with
        | clientHello second =>
            have settledSame : first.settled = second.settled := ClientToServer.clientHello.inj same
            obtain equal | differ := ClientHello.settled_eq settledSame
            · exact .inl (congrArg ClientToServer.clientHello equal)
            · exact .inr differ
        | pong => cases same
        | dispatchResponse correlationId result => cases same
        | protocolError reason isHandshakeComplete => cases same
    | pong => cases second <;> first | exact .inl same | cases same
    | dispatchResponse correlationId result =>
        cases second <;> first | exact .inl same | cases same
    | protocolError reason isHandshakeComplete =>
        cases second <;> first | exact .inl same | cases same
  · exact eq_of_related AbsentOrEmptyData.settled_eq

section Encoding

variable {encode : WireClientToServer → Bytes}

theorem toBytes_eq_iff (injective : Function.Injective encode) {a b : SizedClientToServer} :
    a.val.toBytes encode = b.val.toBytes encode ↔
      a.val = b.val ∨ AbsentOrEmptyData a.val b.val ∨ AbsentOrEmptyData b.val a.val := by
  have sameWire : a.val.toWire = b.val.toWire ↔ a.val.settled = b.val.settled :=
    translate_eq_iff (ClientToServer.read_toWire a.property) (ClientToServer.read_toWire b.property)
      ClientToServer.settled_toWire
  unfold ClientToServer.toBytes
  rw [injective.eq_iff, sameWire, ClientToServer.settled_eq_iff]

/-- The encoding tells two messages apart exactly when they differ, unless they
are hellos that differ only in absent against empty reconnection data. -/
theorem client_encoding_injective_iff (injective : Function.Injective encode)
    (a b : SizedClientToServer) :
    (a.val.toBytes encode = b.val.toBytes encode ↔ a = b) ↔
      ¬ AbsentOrEmptyData a.val b.val ∧ ¬ AbsentOrEmptyData b.val a.val := by
  rw [toBytes_eq_iff injective, Subtype.ext_iff]
  exact exact_iff_not_differ AbsentOrEmptyData.ne a.val b.val

end Encoding

def fixtureHello (reconnectionData : Option ReconnectionData) : SizedClientToServer :=
  ⟨.clientHello
    { clientNonce := []
      graceful := 0
      ungraceful := 0
      lastClosedConnectionDuration := 0
      reconnectionData
      versionInfo := ⟨none, 0, 0, 0, none⟩
      appName := ""
      appVersion := "" }, trivial⟩

theorem absent_and_empty_data_encoded_alike :
    fixtureHello none ≠ fixtureHello (some ⟨[]⟩) ∧
      ∀ encode : WireClientToServer → Bytes,
        (fixtureHello none).val.toBytes encode = (fixtureHello (some ⟨[]⟩)).val.toBytes encode := by
  constructor
  · decide
  · intro encode
    rfl

/-- Two hellos with their protobuf bytes. -/
def helloEntries : List (WireClientToServer × Bytes) :=
  [((fixtureHello none).val.toWire, [0x12, 0x00]),
    ((fixtureHello (some ⟨[1]⟩)).val.toWire, [0x12, 0x03, 0x22, 0x01, 0x01])]

theorem helloEntries_readable : Readable helloEntries := by decide

def helloBook : Codebook WireClientToServer := ⟨helloEntries, helloEntries_readable⟩

theorem client_encoding_injective_someData :
    Function.Injective helloBook.write ∧
      (fixtureHello none).val.toBytes helloBook.write = [0x12, 0x00] ∧
      (fixtureHello (some ⟨[1]⟩)).val.toBytes helloBook.write = [0x12, 0x03, 0x22, 0x01, 0x01] ∧
      ((fixtureHello none).val.toBytes helloBook.write =
          (fixtureHello (some ⟨[1]⟩)).val.toBytes helloBook.write ↔
        fixtureHello none = fixtureHello (some ⟨[1]⟩)) := by
  refine ⟨helloBook.write_injective, by rfl, by rfl, ?_⟩
  apply (client_encoding_injective_iff helloBook.write_injective _ _).mpr
  constructor
  · intro differ
    obtain ⟨hello, isFirst, isSecond⟩ := differ
    simp [fixtureHello] at isSecond
  · intro differ
    obtain ⟨hello, isFirst, isSecond⟩ := differ
    simp [fixtureHello] at isFirst

/-! ## Messages of the server -/

structure WireCertificate where
  der : Bytes
  deriving DecidableEq, Encodable

structure WireDetachedSignature where
  certId : Bytes
  signature : Bytes
  deriving DecidableEq, Encodable

structure WireDispatchRequest where
  correlationId : UInt64
  signature : Option WireDetachedSignature
  encodedDispatchRequest : Bytes
  deriving DecidableEq, Encodable

structure WireConnectionId where
  uuidV8 : Bytes
  deriving DecidableEq, Encodable

structure WireClientHelloAck where
  connectionId : Option WireConnectionId
  serverNonce : Bytes
  deriving DecidableEq, Encodable

inductive WireServerMessage
  | ping
  | certificatePush (certificate : List WireCertificate)
  | dispatch (request : WireDispatchRequest)
  | clientHelloAck (ack : WireClientHelloAck)
  | setReconnectionData (opaqueData : Bytes)
  deriving DecidableEq, Encodable

structure WireServerToClient where
  message : Option WireServerMessage
  deriving DecidableEq, Encodable

def ServerToClient.ofWire : WireServerMessage → ServerToClient
  | .ping => .ping
  | .dispatch request =>
      .dispatch ⟨request.correlationId⟩ ⟨request.encodedDispatchRequest⟩
        (request.signature.map fun signature => ⟨signature.certId, signature.signature⟩)
  | .certificatePush certificate => .certificatePush (certificate.map fun cert => ⟨cert.der⟩)
  | .clientHelloAck ack =>
      .clientHelloAck ⟨ack.serverNonce, (ack.connectionId.getD ⟨[]⟩).uuidV8⟩
  | .setReconnectionData opaqueData => .setReconnectionData ⟨opaqueData⟩

/-- `ServerToClient::try_from`, over the protobuf decoder of the wire type. -/
def ServerToClient.tryFrom (decode : Bytes → Except DecodeError WireServerToClient)
    (value : Bytes) : ServerInput :=
  match decode value with
  | .error error => .error (.wire error)
  | .ok got =>
      match got.message with
      | none => .error .noMessage
      | some message => .ok (.ofWire message)

/-! ### Writing a server message back -/

def WireServerMessage.settled : WireServerMessage → WireServerMessage
  | .clientHelloAck ack =>
      .clientHelloAck { ack with connectionId := some (ack.connectionId.getD ⟨[]⟩) }
  | message => message

def ServerToClient.toWire : ServerToClient → WireServerMessage
  | .ping => .ping
  | .certificatePush certificates => .certificatePush (certificates.map fun cert => ⟨cert.der⟩)
  | .dispatch correlationId payload detachedSignature =>
      .dispatch
        { correlationId := correlationId.raw
          signature := detachedSignature.map fun signature =>
            ⟨signature.certId, signature.signature⟩
          encodedDispatchRequest := payload.bytes }
  | .clientHelloAck connectionId =>
      .clientHelloAck ⟨some ⟨connectionId.id⟩, connectionId.serverNonce⟩
  | .setReconnectionData data => .setReconnectionData data.bytes

/-- The client learns everything of a message but whether an empty connection
identifier was there. -/
theorem ServerToClient.toWire_ofWire (message : WireServerMessage) :
    (ServerToClient.ofWire message).toWire = message.settled := by
  cases message with
  | ping => rfl
  | certificatePush certificate =>
      apply congrArg WireServerMessage.certificatePush
      rw [List.map_map]
      exact List.map_id certificate
  | dispatch request =>
      obtain ⟨correlationId, signature, encoded⟩ := request
      cases signature with
      | none => rfl
      | some signature => rfl
  | clientHelloAck ack => rfl
  | setReconnectionData opaqueData => rfl

theorem ServerToClient.ofWire_settled (message : WireServerMessage) :
    ServerToClient.ofWire message.settled = ServerToClient.ofWire message := by
  cases message with
  | clientHelloAck ack => rfl
  | ping => rfl
  | certificatePush certificate => rfl
  | dispatch request => rfl
  | setReconnectionData opaqueData => rfl

/-! ### Messages that are decoded alike -/

/-- Two acknowledgements that are the same but for the connection identifier,
which is absent in the first and empty in the second. -/
def AbsentOrEmptyId (first second : WireServerMessage) : Prop :=
  ∃ serverNonce : Bytes,
    first = .clientHelloAck ⟨none, serverNonce⟩ ∧
      second = .clientHelloAck ⟨some ⟨[]⟩, serverNonce⟩

theorem AbsentOrEmptyId.settled_eq {first second : WireServerMessage}
    (differ : AbsentOrEmptyId first second) : first.settled = second.settled := by
  obtain ⟨serverNonce, isFirst, isSecond⟩ := differ
  rw [isFirst, isSecond]
  rfl

theorem AbsentOrEmptyId.ne {first second : WireServerMessage}
    (differ : AbsentOrEmptyId first second) : first ≠ second := by
  obtain ⟨serverNonce, isFirst, isSecond⟩ := differ
  rw [isFirst, isSecond]
  simp

theorem WireClientHelloAck.settled_eq {first second : WireClientHelloAck}
    (same : (WireServerMessage.clientHelloAck first).settled =
      (WireServerMessage.clientHelloAck second).settled) :
    first = second ∨ AbsentOrEmptyId (.clientHelloAck first) (.clientHelloAck second) ∨
      AbsentOrEmptyId (.clientHelloAck second) (.clientHelloAck first) := by
  obtain ⟨firstId, serverNonce⟩ := first
  obtain ⟨secondId, serverNonce'⟩ := second
  simp only [WireServerMessage.settled, WireServerMessage.clientHelloAck.injEq,
    WireClientHelloAck.mk.injEq, Option.some.injEq] at same
  obtain ⟨sameId, rfl⟩ := same
  obtain rfl | ⟨rfl, rfl⟩ | ⟨rfl, rfl⟩ := getD_eq_getD_iff.mp sameId
  · exact .inl rfl
  · exact .inr (.inl ⟨serverNonce, rfl, rfl⟩)
  · exact .inr (.inr ⟨serverNonce, rfl, rfl⟩)

theorem WireServerMessage.settled_eq_iff {first second : WireServerMessage} :
    first.settled = second.settled ↔
      first = second ∨ AbsentOrEmptyId first second ∨ AbsentOrEmptyId second first := by
  constructor
  · intro same
    cases first with
    | clientHelloAck first =>
        cases second with
        | clientHelloAck second =>
            obtain equal | differ := WireClientHelloAck.settled_eq same
            · exact .inl (congrArg WireServerMessage.clientHelloAck equal)
            · exact .inr differ
        | ping => cases same
        | certificatePush certificate => cases same
        | dispatch request => cases same
        | setReconnectionData opaqueData => cases same
    | ping => cases second <;> first | exact .inl same | cases same
    | certificatePush certificate => cases second <;> first | exact .inl same | cases same
    | dispatch request => cases second <;> first | exact .inl same | cases same
    | setReconnectionData opaqueData => cases second <;> first | exact .inl same | cases same
  · exact eq_of_related AbsentOrEmptyId.settled_eq

section Decoding

variable {encode : WireServerToClient → Bytes}
  {decode : Bytes → Except DecodeError WireServerToClient}

theorem tryFrom_encode (inverts : ∀ wire, decode (encode wire) = .ok wire)
    (message : WireServerMessage) :
    ServerToClient.tryFrom decode (encode ⟨some message⟩) = .ok (.ofWire message) := by
  unfold ServerToClient.tryFrom
  rw [inverts]

theorem ofWire_eq_iff {first second : WireServerMessage} :
    ServerToClient.ofWire first = ServerToClient.ofWire second ↔
      first = second ∨ AbsentOrEmptyId first second ∨ AbsentOrEmptyId second first := by
  have readBack (message : WireServerMessage) :
      (some ∘ ServerToClient.toWire) (.ofWire message) = some message.settled :=
    congrArg some (ServerToClient.toWire_ofWire message)
  rw [← WireServerMessage.settled_eq_iff]
  exact translate_eq_iff (readBack first) (readBack second) ServerToClient.ofWire_settled

/-- Messages with something in them are decoded, and to equal values exactly when
they are equal, unless they are acknowledgements that differ only in an absent
against an empty connection identifier. -/
theorem server_decoding_injective_iff (inverts : ∀ wire, decode (encode wire) = .ok wire)
    (a b : WireServerMessage) :
    ∃ aOut bOut, ServerToClient.tryFrom decode (encode ⟨some a⟩) = .ok aOut ∧
      ServerToClient.tryFrom decode (encode ⟨some b⟩) = .ok bOut ∧
      ((aOut = bOut ↔ a = b) ↔ ¬ AbsentOrEmptyId a b ∧ ¬ AbsentOrEmptyId b a) := by
  refine ⟨.ofWire a, .ofWire b, tryFrom_encode inverts a, tryFrom_encode inverts b, ?_⟩
  rw [ofWire_eq_iff]
  exact exact_iff_not_differ AbsentOrEmptyId.ne a b

end Decoding

theorem absent_and_empty_id_decoded_alike :
    WireServerMessage.clientHelloAck ⟨none, []⟩ ≠ .clientHelloAck ⟨some ⟨[]⟩, []⟩ ∧
      ∀ (encode : WireServerToClient → Bytes)
        (decode : Bytes → Except DecodeError WireServerToClient),
        (∀ wire, decode (encode wire) = .ok wire) →
          ∃ out, ServerToClient.tryFrom decode
              (encode ⟨some (.clientHelloAck ⟨none, []⟩)⟩) = .ok out ∧
            ServerToClient.tryFrom decode
              (encode ⟨some (.clientHelloAck ⟨some ⟨[]⟩, []⟩)⟩) = .ok out := by
  constructor
  · decide
  · intro encode decode inverts
    exact ⟨.clientHelloAck ⟨[], []⟩, tryFrom_encode inverts _, tryFrom_encode inverts _⟩

/-- Two acknowledgements with their protobuf bytes. -/
def ackEntries : List (WireServerToClient × Bytes) :=
  [(⟨some (.clientHelloAck ⟨none, []⟩)⟩, [0x22, 0x00]),
    (⟨some (.clientHelloAck ⟨some ⟨[1]⟩, []⟩)⟩, [0x22, 0x05, 0x0a, 0x03, 0x0a, 0x01, 0x01])]

theorem ackEntries_readable : Readable ackEntries := by decide

def ackBook : Codebook WireServerToClient := ⟨ackEntries, ackEntries_readable⟩

def decodeAck (bytes : Bytes) : Except DecodeError WireServerToClient :=
  match ackBook.read bytes with
  | some wire => .ok wire
  | none => .error ⟨"not decoded"⟩

theorem decodeAck_write (wire : WireServerToClient) :
    decodeAck (ackBook.write wire) = .ok wire := by
  unfold decodeAck
  rw [ackBook.read_write]

theorem server_decoding_injective_someId :
    ackBook.write ⟨some (.clientHelloAck ⟨none, []⟩)⟩ = [0x22, 0x00] ∧
    ackBook.write ⟨some (.clientHelloAck ⟨some ⟨[1]⟩, []⟩)⟩ =
      [0x22, 0x05, 0x0a, 0x03, 0x0a, 0x01, 0x01] ∧
    ∃ aOut bOut,
      ServerToClient.tryFrom decodeAck
          (ackBook.write ⟨some (.clientHelloAck ⟨none, []⟩)⟩) = .ok aOut ∧
        ServerToClient.tryFrom decodeAck
          (ackBook.write ⟨some (.clientHelloAck ⟨some ⟨[1]⟩, []⟩)⟩) = .ok bOut ∧
        aOut ≠ bOut := by
  obtain ⟨aOut, bOut, isFirst, isSecond, same⟩ := server_decoding_injective_iff
    decodeAck_write (.clientHelloAck ⟨none, []⟩) (.clientHelloAck ⟨some ⟨[1]⟩, []⟩)
  refine ⟨by rfl, by rfl, aOut, bOut, isFirst, isSecond, ?_⟩
  have tells := same.mpr (by simp [AbsentOrEmptyId])
  intro equal
  simpa using tells.mp equal

end LibddRc
