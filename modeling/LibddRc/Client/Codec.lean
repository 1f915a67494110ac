import LibddRc.Crypto.Identifiers

/-! The decoded messages a connection receives and the messages it sends, with
the error values both directions carry. -/

set_option autoImplicit false

namespace LibddRc

structure CorrelationId where
  raw : UInt64
  deriving DecidableEq

structure Payload where
  bytes : Bytes
  deriving DecidableEq

structure DetachedSignature where
  certId : Bytes
  signature : Bytes
  deriving DecidableEq

structure UntrustedCertBytes where
  der : Bytes
  deriving DecidableEq

structure ReconnectionData where
  bytes : Bytes
  deriving DecidableEq

inductive ServerToClient
  | ping
  | certificatePush (certificates : List UntrustedCertBytes)
  | dispatch (correlationId : CorrelationId) (payload : Payload)
      (detachedSignature : Option DetachedSignature)
  | clientHelloAck (connectionId : UntrustedConnectionId)
  | setReconnectionData (data : ReconnectionData)
  deriving DecidableEq

/-- A protobuf decoding failure, known by the text it displays as. -/
structure DecodeError where
  description : String
  deriving DecidableEq

inductive DecodingError
  | wire (error : DecodeError)
  | noMessage
  deriving DecidableEq

def DecodingError.toText : DecodingError → String
  | .wire error => "deserialisation error: " ++ error.description
  | .noMessage => "no message"

/-- One item of the incoming stream: a decoded message or the error decoding
it. -/
abbrev ServerInput := Except DecodingError ServerToClient

inductive ProtocolError
  | handshakeAckBeforeHello
  | handshakeDuplicateAck
  | handshakeConnectionIdRejected
  | deserialisationFailed (message : String)
  | certIdInvalidLength (gotLen : Nat)
  | dispatchBeforeHandshake (correlationId : CorrelationId)
  | dispatchMissingSignature (correlationId : CorrelationId)
  deriving DecidableEq

inductive MagicTunnelResult
  | response (bytes : Bytes)
  | handlerError (text : String)
  deriving DecidableEq

structure MagicTunnelResponse where
  result : Option MagicTunnelResult
  deriving DecidableEq

/-- The response payload of a dispatch call; its only member may be unset. -/
structure DispatchResponsePayload where
  magicTunnel : Option MagicTunnelResponse
  deriving DecidableEq

inductive DispatchError
  | unknownPayload
  | noDispatchHandler
  | handlerQueueFull
  | dispatchRequestQueueFull
  | dispatchClosed
  | replyDeserialisation (error : DecodeError)
  | unknownHostDispatchError
  | handlerExecTimeout
  deriving DecidableEq

inductive WireDispatchError
  | unspecified
  | unknownPayload
  | noDispatchHandler
  | handlerQueueFull
  | clientReturnedUnknown
  | dispatchQueueFull
  | closed
  | replyDeserialisation
  | handlerExecTimeout
  deriving DecidableEq

def WireDispatchError.toI32 : WireDispatchError → Int32
  | .unspecified => 0
  | .unknownPayload => 1
  | .noDispatchHandler => 2
  | .handlerQueueFull => 3
  | .clientReturnedUnknown => 4
  | .dispatchQueueFull => 5
  | .closed => 6
  | .replyDeserialisation => 7
  | .handlerExecTimeout => 8

def DispatchError.toWire : DispatchError → WireDispatchError
  | .unknownPayload => .unknownPayload
  | .noDispatchHandler => .noDispatchHandler
  | .handlerQueueFull => .handlerQueueFull
  | .dispatchRequestQueueFull => .dispatchQueueFull
  | .dispatchClosed => .closed
  | .replyDeserialisation _ => .replyDeserialisation
  | .unknownHostDispatchError => .clientReturnedUnknown
  | .handlerExecTimeout => .handlerExecTimeout

inductive DispatchResponseResult
  | payload (payload : DispatchResponsePayload)
  | error (code : Int32)
  deriving DecidableEq

structure Dispatch where
  correlationId : CorrelationId
  payload : Payload
  deriving DecidableEq

structure DispatchResult where
  correlationId : CorrelationId
  result : Except DispatchError DispatchResponsePayload

structure BuildVersion where
  commit : Option String
  major : UInt32
  minor : UInt32
  patch : UInt32
  pre : Option String
  deriving DecidableEq

structure AppInfo where
  name : String
  version : String
  deriving DecidableEq

/-- Values shared across connections and reported in the hello. -/
structure InstanceMetrics where
  version : BuildVersion
  gracefulDisconnect : UInt64
  ungracefulDisconnect : UInt64
  lastConnDuration : UInt64
  deriving DecidableEq

structure ClientHello where
  clientNonce : Bytes
  graceful : UInt64
  ungraceful : UInt64
  lastClosedConnectionDuration : UInt64
  reconnectionData : Option ReconnectionData
  versionInfo : BuildVersion
  appName : String
  appVersion : String
  deriving DecidableEq

inductive ClientToServer
  | pong
  | clientHello (hello : ClientHello)
  | dispatchResponse (correlationId : CorrelationId) (result : DispatchResponseResult)
  | protocolError (reason : ProtocolError) (isHandshakeComplete : Bool)
  deriving DecidableEq

/-- The response `ConnectionActor::dispatch_response` sends for a result. -/
def DispatchResult.toResponse (value : DispatchResult) : ClientToServer :=
  let result := match value.result with
    | .ok payload => DispatchResponseResult.payload payload
    | .error error => DispatchResponseResult.error error.toWire.toI32
  .dispatchResponse value.correlationId result

/-- The request a message answers, for messages that answer one. -/
def ClientToServer.respondsTo? : ClientToServer → Option CorrelationId
  | .dispatchResponse correlationId _ => some correlationId
  | _ => none

@[simp] theorem DispatchResult.toResponse_respondsTo? (value : DispatchResult) :
    value.toResponse.respondsTo? = some value.correlationId := rfl

end LibddRc
