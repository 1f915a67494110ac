import LibddRc.Connection.Model
import LibddRc.Go.Invocation

/-! `Connection.sendDispatchResult`: the outcome of a handler is marshalled and
handed to the native connection. A Go string is any byte string, so marshalling
the text of an error can fail, and the failure is then reported in its place. -/

set_option autoImplicit false

namespace LibddRc.Go

open Foundation

/-! ## Protocol buffers -/

inductive GoTunnelResult
  /-- A slice may be nil. -/
  | response (bytes : Option Bytes)
  | handlerError (text : GoString)

/-- The message `DispatchResponsePayload` as Go code fills it in: its own oneof,
and in that the oneof of a `MagicTunnelResponse`. -/
structure GoResponsePayload where
  magicTunnel : Option (Option GoTunnelResult)

/-- The generated code of the two sides. -/
structure ProtoCodec where
  marshal : GoResponsePayload → Except GoString Bytes
  unmarshal : Bytes → Option DispatchResponsePayload

def GoTunnelResult.ReadAs : GoTunnelResult → MagicTunnelResult → Prop
  | .response bytes, .response read => read = bytes.getD []
  | .handlerError text, .handlerError read => read.toByteArray = text
  | _, _ => False

/-- The message is read back field by field: what is set stays set. A nil slice
and an empty one are the same on the wire. -/
def GoResponsePayload.ReadAs (payload : GoResponsePayload) (read : DispatchResponsePayload) :
    Prop :=
  match payload.magicTunnel, read.magicTunnel with
  | none, none => True
  | some none, some ⟨none⟩ => True
  | some (some result), some ⟨some readResult⟩ => result.ReadAs readResult
  | _, _ => False

/-- The strings of a message are valid UTF-8. -/
def GoResponsePayload.ValidUtf8 (payload : GoResponsePayload) : Prop :=
  ∀ text, payload.magicTunnel = some (some (.handlerError text)) → text.IsValidUTF8

/-- What the protocol buffer libraries promise. -/
structure ProtoCodec.Documented (codec : ProtoCodec) : Prop where
  /-- Marshalling fails only on strings that are not valid UTF-8. -/
  marshal_ok : ∀ payload, payload.ValidUtf8 → ∃ encoded, codec.marshal payload = .ok encoded
  error_valid : ∀ payload error, codec.marshal payload = .error error → error.IsValidUTF8
  inverts : ∀ payload encoded, codec.marshal payload = .ok encoded →
    ∃ read, codec.unmarshal encoded = some read ∧ payload.ReadAs read
  /-- A message with nothing set is written as no bytes at all. -/
  unset : codec.marshal ⟨none⟩ = .ok []

/-! ## Sending a result -/

/-- A call of `nativeConn.dispatchResult`. -/
structure DispatchResultCall where
  correlationID : UInt64
  encoded : Bytes
  deriving DecidableEq

def marshalDispatchResponse (codec : ProtoCodec) (response : Option Bytes)
    (handlerErr : Option GoString) : Except GoString Bytes :=
  codec.marshal ⟨some (some (match handlerErr with
    | some text => .handlerError text
    | none => .response response))⟩

/-- The guard against a response of length zero. An error of the second attempt
leaves `encoded` nil. -/
def guardEmpty (codec : ProtoCodec) (encoded : Bytes) : Bytes :=
  if encoded.length = 0 then
    match marshalDispatchResponse codec none
        (some "sendDispatchResult: invalid empty serialised response".toByteArray) with
    | .ok replaced => replaced
    | .error _ => []
  else encoded

/-- The native calls that `sendDispatchResult` makes. -/
def sendDispatchResult (codec : ProtoCodec) (result : DispatchResult) : List DispatchResultCall :=
  match marshalDispatchResponse codec result.response result.err with
  | .ok encoded => [⟨result.correlationID, guardEmpty codec encoded⟩]
  | .error err =>
      match marshalDispatchResponse codec none (some err) with
      | .ok encoded => [⟨result.correlationID, guardEmpty codec encoded⟩]
      | .error _ => []

inductive GoPanic
  | indexOutOfRange
  deriving DecidableEq

/-- `cgoConn.dispatchResult`: the address of the first byte, which has to be
there, and the length as a `uint32_t`. The result is what the library reads. -/
def cgoDispatchResult (call : DispatchResultCall) : Except GoPanic DispatchResultCall :=
  if call.encoded.length = 0 then .error .indexOutOfRange
  else .ok { call with encoded := handed call.encoded }

section Sending

variable {codec : ProtoCodec}

/-- A payload whose oneof is set takes at least one byte. -/
theorem ProtoCodec.Documented.nonempty (documented : codec.Documented)
    {result : Option GoTunnelResult} {encoded : Bytes}
    (marshalled : codec.marshal ⟨some result⟩ = .ok encoded) : encoded ≠ [] := by
  intro empty
  subst empty
  obtain ⟨unset, readUnset, asUnset⟩ := documented.inverts _ _ documented.unset
  obtain ⟨read, readSet, asSet⟩ := documented.inverts _ _ marshalled
  cases readUnset.symm.trans readSet
  cases tunnel : unset.magicTunnel with
  | none => cases result <;> simp [GoResponsePayload.ReadAs, tunnel] at asSet
  | some response => simp [GoResponsePayload.ReadAs, tunnel] at asUnset

theorem ProtoCodec.Documented.reads_back (documented : codec.Documented)
    {result : GoTunnelResult} {encoded : Bytes}
    (marshalled : codec.marshal ⟨some (some result)⟩ = .ok encoded) :
    ∃ read, codec.unmarshal encoded = some ⟨some ⟨some read⟩⟩ ∧ result.ReadAs read := by
  obtain ⟨⟨tunnel⟩, unmarshalled, same⟩ := documented.inverts _ _ marshalled
  cases tunnel with
  | none => exact same.elim
  | some response =>
      obtain ⟨found⟩ := response
      cases found with
      | none => exact same.elim
      | some read => exact ⟨read, unmarshalled, same⟩

/-- Bytes that report a result: some, and read back as it. -/
structure Reports (codec : ProtoCodec) (result : GoTunnelResult) (encoded : Bytes) : Prop where
  nonempty : encoded ≠ []
  read : ∃ read, codec.unmarshal encoded = some ⟨some ⟨some read⟩⟩ ∧ result.ReadAs read

/-- An attempt that succeeds passes the guard and reports its result. -/
theorem ProtoCodec.Documented.attempt (documented : codec.Documented)
    {result : GoTunnelResult} {encoded : Bytes}
    (marshalled : codec.marshal ⟨some (some result)⟩ = .ok encoded) :
    guardEmpty codec encoded = encoded ∧ Reports codec result encoded := by
  have nonempty := documented.nonempty marshalled
  constructor
  · simp [guardEmpty, nonempty]
  · exact ⟨nonempty, documented.reads_back marshalled⟩

theorem ProtoCodec.Documented.attempt_response (documented : codec.Documented)
    (response : Option Bytes) :
    ∃ encoded, codec.marshal ⟨some (some (.response response))⟩ = .ok encoded :=
  documented.marshal_ok _ (by simp [GoResponsePayload.ValidUtf8])

theorem ProtoCodec.Documented.attempt_error (documented : codec.Documented) {text : GoString}
    (valid : text.IsValidUTF8) :
    ∃ encoded, codec.marshal ⟨some (some (.handlerError text))⟩ = .ok encoded := by
  apply documented.marshal_ok
  intro other same
  cases same
  exact valid

theorem sendDispatchResult_response (documented : codec.Documented) {result : DispatchResult}
    (succeeded : result.err = none) :
    ∃ encoded, sendDispatchResult codec result = [⟨result.correlationID, encoded⟩] ∧
      Reports codec (.response result.response) encoded := by
  obtain ⟨encoded, marshalled⟩ := documented.attempt_response result.response
  obtain ⟨kept, reports⟩ := documented.attempt marshalled
  refine ⟨encoded, ?_, reports⟩
  simp only [sendDispatchResult, marshalDispatchResponse, succeeded, marshalled, kept]

/-- The text itself is reported if it can be marshalled, else why it cannot. -/
theorem sendDispatchResult_error (documented : codec.Documented) {result : DispatchResult}
    {text : GoString} (failed : result.err = some text) :
    ∃ encoded reported, sendDispatchResult codec result = [⟨result.correlationID, encoded⟩] ∧
      Reports codec (.handlerError reported) encoded ∧ (text.IsValidUTF8 → reported = text) := by
  cases first : codec.marshal ⟨some (some (.handlerError text))⟩ with
  | ok encoded =>
      obtain ⟨kept, reports⟩ := documented.attempt first
      refine ⟨encoded, text, ?_, reports, fun _ => rfl⟩
      simp only [sendDispatchResult, marshalDispatchResponse, failed, first, kept]
  | error err =>
      obtain ⟨encoded, second⟩ := documented.attempt_error (documented.error_valid _ _ first)
      obtain ⟨kept, reports⟩ := documented.attempt second
      refine ⟨encoded, err, ?_, reports, ?_⟩
      · simp only [sendDispatchResult, marshalDispatchResponse, failed, first, second, kept]
      · intro valid
        obtain ⟨_, succeeded⟩ := documented.attempt_error valid
        rw [first] at succeeded
        cases succeeded

/-- What a result may be read as: the response, the text of the error if that is
valid UTF-8, and some error otherwise. -/
structure DispatchResult.ReadAs (result : DispatchResult) (read : MagicTunnelResult) : Prop where
  response : result.err = none → read = .response (result.response.getD [])
  error : ∀ text, result.err = some text → ∃ reported : String, read = .handlerError reported ∧
    (text.IsValidUTF8 → reported.toByteArray = text)

/-- The one native call for a result, with bytes that are read as it. -/
theorem sendDispatchResult_reads (documented : codec.Documented) (result : DispatchResult) :
    ∃ encoded read, sendDispatchResult codec result = [⟨result.correlationID, encoded⟩] ∧
      encoded ≠ [] ∧ codec.unmarshal encoded = some ⟨some ⟨some read⟩⟩ ∧ result.ReadAs read := by
  cases outcome : result.err with
  | none =>
      obtain ⟨encoded, sent, reports⟩ := sendDispatchResult_response documented outcome
      obtain ⟨read, unmarshalled, same⟩ := reports.read
      refine ⟨encoded, read, sent, reports.nonempty, unmarshalled, ?_, by simp [outcome]⟩
      intro _
      cases read with
      | response bytes => exact congrArg _ same
      | handlerError => cases same
  | some text =>
      obtain ⟨encoded, reported, sent, reports, kept⟩ := sendDispatchResult_error documented outcome
      obtain ⟨read, unmarshalled, same⟩ := reports.read
      refine ⟨encoded, read, sent, reports.nonempty, unmarshalled, by simp [outcome], ?_⟩
      intro other equal
      cases outcome.symm.trans equal
      cases read with
      | response => cases same
      | handlerError readText => exact ⟨readText, rfl, fun valid => same.trans (kept valid)⟩

/-- Bytes can be handed to the library if there are any. Their length is a
`uint32_t` there, so it is right up to 4 GiB. -/
theorem cgoDispatchResult_ok {call : DispatchResultCall} (nonempty : call.encoded ≠ []) :
    cgoDispatchResult call = .ok { call with encoded := handed call.encoded } := by
  have nonzero : ¬ call.encoded.length = 0 := by simpa using nonempty
  rw [cgoDispatchResult, if_neg nonzero]

/-- Every outcome is answered with exactly one native call, whose bytes are not
empty. They read back as the response, as the text of the error if that is valid
UTF-8, and as some error otherwise. -/
theorem dispatch_result_sent (documented : codec.Documented) (result : DispatchResult) :
    ∃ encoded read, sendDispatchResult codec result = [⟨result.correlationID, encoded⟩] ∧
      encoded ≠ [] ∧ codec.unmarshal encoded = some ⟨some ⟨some read⟩⟩ ∧
      (result.err = none → read = .response (result.response.getD [])) ∧
      (∀ text, result.err = some text → ∃ reported : String, read = .handlerError reported ∧
        (text.IsValidUTF8 → reported.toByteArray = text)) ∧
      ∃ passed, cgoDispatchResult ⟨result.correlationID, encoded⟩ = .ok passed ∧
        (encoded.length < 2 ^ 32 → passed = ⟨result.correlationID, encoded⟩) := by
  obtain ⟨encoded, read, sent, nonempty, unmarshalled, same⟩ :=
    sendDispatchResult_reads documented result
  refine ⟨encoded, read, sent, nonempty, unmarshalled, same.response, same.error, _,
    cgoDispatchResult_ok nonempty, ?_⟩
  intro fits
  rw [handed_eq fits]

end Sending

/-- How a payload is read, if its strings are valid UTF-8. -/
def GoResponsePayload.readable? (payload : GoResponsePayload) : Option DispatchResponsePayload :=
  match payload.magicTunnel with
  | none => some ⟨none⟩
  | some none => some ⟨some ⟨none⟩⟩
  | some (some (.response bytes)) => some ⟨some ⟨some (.response (bytes.getD []))⟩⟩
  | some (some (.handlerError text)) =>
      if valid : text.IsValidUTF8 then
        some ⟨some ⟨some (.handlerError (.ofByteArray text valid))⟩⟩
      else none

/-- Both sides with the protobuf bytes of some payloads. -/
def fixtureCodec : ProtoCodec where
  marshal payload :=
    match payload.readable? with
    | some read => .ok (responseBook.write read)
    | none => .error "invalid UTF-8".toByteArray
  unmarshal data := (decodeResponse data).toOption

theorem GoResponsePayload.readable?_readAs {payload : GoResponsePayload}
    {read : DispatchResponsePayload} (readable : payload.readable? = some read) :
    payload.ReadAs read := by
  obtain ⟨_ | _ | bytes | text⟩ := payload
  case none =>
    cases readable
    trivial
  case some.none =>
    cases readable
    trivial
  case some.some.response =>
    cases readable
    rfl
  case some.some.handlerError =>
    obtain ⟨valid, same⟩ := Option.dite_none_right_eq_some.mp readable
    cases same
    rfl

theorem GoResponsePayload.ValidUtf8.readable {payload : GoResponsePayload}
    (valid : payload.ValidUtf8) : ∃ read, payload.readable? = some read := by
  obtain ⟨_ | _ | bytes | text⟩ := payload
  case none => exact ⟨_, rfl⟩
  case some.none => exact ⟨_, rfl⟩
  case some.some.response => exact ⟨_, rfl⟩
  case some.some.handlerError => exact ⟨_, dif_pos (valid text rfl)⟩

theorem fixtureCodec_documented : fixtureCodec.Documented where
  marshal_ok payload valid := by
    obtain ⟨read, readable⟩ := valid.readable
    exact ⟨responseBook.write read, by simp [fixtureCodec, readable]⟩
  error_valid payload error failed := by
    simp only [fixtureCodec] at failed
    split at failed
    · cases failed
    · cases failed
      exact String.isValidUTF8 _
  inverts payload encoded marshalled := by
    simp only [fixtureCodec] at marshalled
    split at marshalled
    · next read readable =>
      cases marshalled
      refine ⟨read, ?_, GoResponsePayload.readable?_readAs readable⟩
      simp [fixtureCodec, decodeResponse_write, Except.toOption]
    · cases marshalled
  unset := rfl

theorem dispatch_result_sent_invalidText :
    ∃ encoded, sendDispatchResult fixtureCodec ⟨7, none, some ⟨#[0xff]⟩⟩ = [⟨7, encoded⟩] ∧
      encoded = [0x0a, 0x0f, 0x12, 0x0d, 0x69, 0x6e, 0x76, 0x61, 0x6c, 0x69, 0x64, 0x20, 0x55, 0x54,
        0x46, 0x2d, 0x38] ∧ ∃ reported,
        fixtureCodec.unmarshal encoded = some ⟨some ⟨some (.handlerError reported)⟩⟩ := by
  obtain ⟨encoded, read, sent, nonempty, unmarshalled, _, failed, _⟩ :=
    dispatch_result_sent fixtureCodec_documented ⟨7, none, some ⟨#[0xff]⟩⟩
  obtain ⟨reported, same, _⟩ := failed _ rfl
  have bytes : sendDispatchResult fixtureCodec ⟨7, none, some ⟨#[0xff]⟩⟩ =
      [⟨7, [0x0a, 0x0f, 0x12, 0x0d, 0x69, 0x6e, 0x76, 0x61, 0x6c, 0x69, 0x64, 0x20, 0x55, 0x54,
        0x46, 0x2d, 0x38]⟩] := by decide
  rw [bytes] at sent
  cases sent
  exact ⟨_, bytes, rfl, reported, same ▸ unmarshalled⟩

end LibddRc.Go
