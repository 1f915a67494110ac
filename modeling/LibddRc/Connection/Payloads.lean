import LibddRc.Connection.Accounting

/-! The payloads that a connection responds with. Each comes from an answer of the
host, none is sent more often than it was given, and it keeps the correlation id
of the request that the answer was for. -/

set_option autoImplicit false

namespace LibddRc

open Foundation

/-- A payload, with the request that it responds to. -/
structure PayloadResponse where
  correlationId : CorrelationId
  payload : DispatchResponsePayload
  deriving DecidableEq

def ClientToServer.payloads : ClientToServer → List PayloadResponse
  | .dispatchResponse correlationId (.payload payload) => [⟨correlationId, payload⟩]
  | _ => []

def DispatchResult.payloads (value : DispatchResult) : List PayloadResponse :=
  value.toResponse.payloads

/-- The payload that an answer for a request stands for. -/
def HostAnswer.payloads (env : Env) (correlationId : CorrelationId) (answer : HostAnswer) :
    List PayloadResponse :=
  (answer.toResult? env correlationId).toList.flatMap DispatchResult.payloads

section Payloads

variable (env : Env) (response : PayloadResponse)

theorem payloadTally_answer (correlationId : CorrelationId) (answer : HostAnswer)
    (made : DispatchResult) (converted : answer.toResult? env correlationId = some made) :
    made.payloads.count response ≤ 0 + (answer.payloads env correlationId).count response := by
  rw [HostAnswer.payloads, converted, Nat.zero_add]
  simp

theorem payloadTally_unasked (sent : ClientToServer) (unasked : sent.respondsTo? = none) :
    sent.payloads.count response = 0 := by
  cases sent with
  | dispatchResponse => cases unasked
  | clientHello | protocolError | pong => rfl

/-- How often a payload is on its way or was sent. No step makes one but an answer
of the host. -/
def payloadTally : Tally env where
  input _ := 0
  request _ := 0
  accepted _ := 0
  result result := result.payloads.count response
  message message := message.payloads.count response
  given correlationId answer := (answer.payloads env correlationId).count response
  read _ _ _ := le_rfl
  accept _ := le_rfl
  refuse _ _ := le_rfl
  answer := payloadTally_answer env response
  respond _ := le_rfl
  unasked := payloadTally_unasked response

theorem sent_le_total (conn : Conn) :
    (conn.sent.flatMap ClientToServer.payloads).count response ≤
      (payloadTally env response).total conn := by
  have sent : (conn.sent.flatMap ClientToServer.payloads).count response =
      (conn.sent.map (payloadTally env response).message).sum := by
    rw [List.count_flatMap]
    rfl
  rw [sent, Tally.total]
  omega

end Payloads

end LibddRc
