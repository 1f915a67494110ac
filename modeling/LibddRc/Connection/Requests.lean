import LibddRc.Connection.Accounting
import LibddRc.Connection.Conservation

/-! The requests of a connection in all circumstances: whatever fails, stops or
is dropped, a request never turns into more than one response. -/

set_option autoImplicit false

namespace LibddRc

open Foundation

/-- The request that a message of the server makes. -/
def requestIn : ServerInput → List CorrelationId
  | .ok (.dispatch correlationId _ _) => [correlationId]
  | _ => []

def ClientToServer.responses (message : ClientToServer) : List CorrelationId :=
  message.respondsTo?.toList

theorem ClientToServer.responses_toResponse (result : DispatchResult) :
    result.toResponse.responses = [result.correlationId] := rfl

section Requests

variable (env : Env) (id : CorrelationId)

theorem requestTally_answer (correlationId : CorrelationId) (answer : HostAnswer)
    (made : DispatchResult) (converted : answer.toResult? env correlationId = some made) :
    [made.correlationId].count id ≤ [correlationId].count id + 0 := by
  rw [toResult?_correlationId converted]
  exact le_rfl

theorem requestTally_unasked (sent : ClientToServer) (unasked : sent.respondsTo? = none) :
    sent.responses.count id = 0 := by
  rw [ClientToServer.responses, unasked]
  rfl

/-- How often a correlation id stands for a request that was received, or for its
response. -/
def requestTally : Tally env where
  input input := (requestIn input).count id
  request request := [request.correlationId].count id
  accepted correlationId := [correlationId].count id
  result result := [result.correlationId].count id
  message message := message.responses.count id
  given _ _ := 0
  read _ _ _ := le_rfl
  accept _ := le_rfl
  refuse _ _ := le_rfl
  answer := requestTally_answer env id
  respond result := (ClientToServer.responses_toResponse result ▸ le_rfl)
  unasked := requestTally_unasked id

theorem responded_le_total (conn : Conn) :
    conn.responded.count id ≤ (requestTally env id).total conn := by
  have same : conn.responded = conn.sent.flatMap ClientToServer.responses :=
    List.filterMap_eq_flatMap_toList _ _
  have sent : conn.responded.count id = (conn.sent.map (requestTally env id).message).sum := by
    rw [same, List.count_flatMap]
    rfl
  rw [sent, Tally.total]
  omega

end Requests

/-- What a message of the server counts for that makes a request. -/
def weighInput (weigh : Dispatch → ℕ) : ServerInput → ℕ
  | .ok (.dispatch correlationId payload _) => weigh ⟨correlationId, payload⟩
  | _ => 0

/-- The requests that the host has not decided on yet. -/
def pendingTally (env : Env) (weigh : Dispatch → ℕ) : Tally env where
  input := weighInput weigh
  request := weigh
  accepted _ := 0
  result _ := 0
  message _ := 0
  given _ _ := 0
  read _ _ _ := le_rfl
  accept _ := Nat.zero_le _
  refuse _ _ := Nat.zero_le _
  answer _ _ _ _ := le_rfl
  respond _ := le_rfl
  unasked _ _ := rfl

/-- A request that the host accepts is no longer pending. -/
theorem pendingTally_accept {env : Env} (weigh : Dispatch → ℕ) {conn next : Conn}
    {request : Dispatch} (calling : conn.dispatchTask = .calling request)
    (stepped : conn.step env .accept = some next) :
    (pendingTally env weigh).total next + weigh request = (pendingTally env weigh).total conn := by
  have nothing (ids : List CorrelationId) : (ids.map fun _ => 0).sum = 0 := by simp
  simp only [Conn.step, calling, Option.some.injEq] at stepped
  subst stepped
  simp only [Tally.total, Tally.dispatchTask, calling, pendingTally, nothing]
  omega

end LibddRc
