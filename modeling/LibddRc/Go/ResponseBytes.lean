import LibddRc.Go.Outcomes

/-! Responses as bytes. The host marshals what a handler ended with, the library
reads it, and the response is encoded for the server, which reads it again. The
protobuf code on these ways is a parameter, with what it is documented to do. -/

set_option autoImplicit false

namespace LibddRc.Go

open Foundation

section Payloads

variable {env : HostEnv}

/-- The library reads a result in what its sink call hands over, if that is shorter
than 2 GiB. -/
theorem payloads_result (documented : env.codec.Documented) (result : DispatchResult)
    (short : ∀ data ∈ env.reported (.sendDispatchResult result), data.length < 2 ^ 31) :
    ∃ read, result.ReadAs read ∧ env.payloads (.sendDispatchResult result) =
      [⟨⟨result.correlationID⟩, ⟨some ⟨some read⟩⟩⟩] := by
  obtain ⟨encoded, read, sent, nonempty, unmarshalled, same⟩ :=
    sendDispatchResult_reads documented result
  have reported : env.reported (.sendDispatchResult result) = [encoded] := by
    simp [HostEnv.reported, sent]
  have fits : encoded.length < 2 ^ 31 := short encoded (by simp [reported])
  have answers : env.answerTo (.sendDispatchResult result) = some (.result encoded) := by
    rw [HostEnv.answerTo_sendDispatchResult, reported, List.head?_cons, Option.map_some,
      handed_eq (fits.trans (by decide))]
  have decoded : env.native.decode encoded = .ok ⟨some ⟨some read⟩⟩ := by
    cases read' : env.native.decode encoded with
    | error error => simp [HostEnv.codec, read', Except.toOption] at unmarshalled
    | ok payload => simpa [HostEnv.codec, read', Except.toOption] using unmarshalled
  refine ⟨read, same, ?_⟩
  simp only [HostEnv.payloads, answers, Option.bind_some, HostAnswer.toResult?, if_neg nonempty,
    decoded, SinkCall.correlationID]
  rfl

/-- A payload that is written is what a handler ended with, the handler of a job
with the correlation id of the response. -/
theorem payload_written (documented : env.codec.Documented) {appInfo : AppInfo}
    {actions : List HostAct} {host : Host}
    (ran : (goHost env).run (Host.init appInfo) actions = some host)
    (short : ∀ call ∈ host.pool.calls, ∀ data ∈ env.reported call.2, data.length < 2 ^ 31)
    {correlationId : CorrelationId} {payload : DispatchResponsePayload}
    (written : .dispatchResponse correlationId (.payload payload) ∈ host.written) :
    ∃ job ∈ host.jobs, ∃ outcome read,
      HandlerEnded env (Host.init appInfo) actions job.ticket outcome ∧ job.id = correlationId ∧
        (outcome.result job.correlationID).ReadAs read ∧ payload = ⟨some ⟨some read⟩⟩ := by
  have reached : (goHost env).Reachable host := System.reachable_of_run ⟨appInfo, rfl⟩ ran
  obtain ⟨follows, backed⟩ := Host.follows_run ran
  -- The payload is written, so that it was handed over in some sink call.
  have carried : (⟨correlationId, payload⟩ : PayloadResponse) ∈
      host.written.flatMap ClientToServer.payloads :=
    List.mem_flatMap.mpr ⟨_, written, List.mem_singleton_self _⟩
  have handedOver := (List.count_pos_iff.mpr carried).trans_le (backed.written_le reached _)
  obtain ⟨⟨ticket, call⟩, called, mem⟩ := List.mem_flatMap.mp (List.count_pos_iff.mp handedOver)
  cases call with
  | sendDispatchError correlationID => cases mem
  | sendDispatchResult result =>
      obtain ⟨read, same, payloads⟩ := payloads_result documented result (short _ called)
      obtain ⟨job, known, outcome, rfl, rfl, ended⟩ := follows.of_called reached called
      dsimp only at mem
      rw [payloads] at mem
      cases List.mem_singleton.mp mem
      have own : (outcome.result job.correlationID).correlationID = job.correlationID := by
        cases outcome <;> rfl
      exact ⟨job, known, outcome, read, ended, congrArg CorrelationId.mk own.symm, same, rfl⟩

/-- A message shorter than 2 GiB is read by the server from what is written. -/
theorem message_read {server : Bytes → Option WireClientToServer}
    (reads : ∀ wire, (env.encode wire).length < 2 ^ 31 → server (env.encode wire) = some wire)
    {message : ClientToServer} (small : (env.wire message).length < 2 ^ 31) :
    server (sendCbData env.wire message) = some message.toWire := by
  rw [sendCbData, handed_eq (small.trans (by decide))]
  exact reads message.toWire small

end Payloads

/-- In every run of a host in which no payload reaches 2 GiB, a response with a
payload is read by the server as what a handler ended with, the handler of a job
with the correlation id of the response: the bytes it returned, the text of its
error if that is valid UTF-8, and some error otherwise. -/
theorem handler_outcomes_arrive (env : HostEnv) (documented : env.codec.Documented)
    (server : Bytes → Option WireClientToServer)
    (reads : ∀ wire, (env.encode wire).length < 2 ^ 31 → server (env.encode wire) = some wire)
    (appInfo : AppInfo) (actions : List HostAct) (host : Host)
    (ran : (goHost env).run (Host.init appInfo) actions = some host)
    (short : ∀ call ∈ host.pool.calls, ∀ data ∈ env.reported call.2, data.length < 2 ^ 31)
    (correlationId : CorrelationId) (payload : DispatchResponsePayload)
    (written : .dispatchResponse correlationId (.payload payload) ∈ host.written)
    (small : (env.wire (.dispatchResponse correlationId (.payload payload))).length < 2 ^ 31) :
    ∃ job ∈ host.jobs, ∃ outcome read,
      HandlerEnded env (Host.init appInfo) actions job.ticket outcome ∧ job.id = correlationId ∧
        (outcome.result job.correlationID).ReadAs read ∧
        server (sendCbData env.wire (.dispatchResponse correlationId (.payload payload))) =
          some (ClientToServer.dispatchResponse correlationId
            (.payload ⟨some ⟨some read⟩⟩)).toWire := by
  obtain ⟨job, known, outcome, read, ended, own, same, rfl⟩ :=
    payload_written documented ran short written
  exact ⟨job, known, outcome, read, ended, own, same, message_read reads small⟩

/-- The handler of the one request returns a byte, and the server reads it. -/
theorem handler_outcomes_arrive_one : ∃ host,
    (goHost fixtureHostEnv).run (Host.init Actor.fixtureApp)
        (serveRequest ++ respond ++ tearDown 2) = some host ∧
      .dispatchResponse ⟨5⟩ (.payload ⟨some ⟨some (.response [1])⟩⟩) ∈ host.written ∧
      ∃ outcome read, (HandlerOutcome.result 5 outcome).ReadAs read ∧
        clientBook.read [0x1a, 0x09, 0x08, 0x05, 0x1a, 0x05, 0x0a, 0x03, 0x0a, 0x01, 0x01] =
          some (ClientToServer.dispatchResponse ⟨5⟩ (.payload ⟨some ⟨some read⟩⟩)).toWire := by
  obtain ⟨host, ran, mem, calls⟩ : ∃ host,
      (goHost fixtureHostEnv).run (Host.init Actor.fixtureApp)
          (serveRequest ++ respond ++ tearDown 2) = some host ∧
        .dispatchResponse ⟨5⟩ (.payload ⟨some ⟨some (.response [1])⟩⟩) ∈ host.written ∧
        ∀ call ∈ host.pool.calls, ∀ data ∈ fixtureHostEnv.reported call.2, data.length < 2 ^ 31 :=
    ⟨_, rfl, of_decide_eq_true rfl, of_decide_eq_true rfl⟩
  obtain ⟨job, _, outcome, read, _, own, same, arrives⟩ :=
    handler_outcomes_arrive fixtureHostEnv fixtureCodec_documented clientBook.read
      (fun wire _ => clientBook.read_write wire) Actor.fixtureApp _ host ran calls ⟨5⟩
      ⟨some ⟨some (.response [1])⟩⟩ mem (by decide)
  have number : job.correlationID = 5 := congrArg CorrelationId.raw own
  rw [number] at same
  exact ⟨host, ran, mem, outcome, read, same, arrives⟩

end LibddRc.Go
