import LibddRc.Client.Actor

/-! The protocol a connection is meant to follow, stated over the history of its
inputs alone, and the proof that the actor follows it. -/

set_option autoImplicit false

namespace LibddRc

namespace Reference

/-- An acknowledgement that carries the identifier derived from `nonce`. -/
def validAck (prim : Primitives) (nonce : Bytes) : ActorInput → Bool
  | .server (.ok (.clientHelloAck proposed)) _ _ =>
      decide (proposed.id = uuidV8Digest prim proposed.serverNonce nonce)
  | _ => false

/-- A valid acknowledgement is among the inputs so far. -/
def established (prim : Primitives) (nonce : Bytes) (history : List ActorInput) : Bool :=
  history.any (validAck prim nonce)

/-- What, if anything, an input violates, given whether the handshake is
complete. -/
def violation (prim : Primitives) (nonce : Bytes) (complete : Bool) :
    ActorInput → Option ProtocolError
  | .result _ => none
  | .server (.error failure) _ _ => some (.deserialisationFailed failure.toText)
  | .server (.ok .ping) _ _ => none
  | .server (.ok (.certificatePush _)) _ _ => none
  | .server (.ok (.setReconnectionData _)) _ _ => none
  | .server (.ok (.clientHelloAck proposed)) _ _ =>
      if complete then some .handshakeDuplicateAck
      else if proposed.id = uuidV8Digest prim proposed.serverNonce nonce then none
      else some .handshakeConnectionIdRejected
  | .server (.ok (.dispatch correlationId _ signature)) _ _ =>
      if complete = false then some (.dispatchBeforeHandshake correlationId)
      else match signature with
        | none => some (.dispatchMissingSignature correlationId)
        | some signed =>
            if signed.signature = [] then some (.dispatchMissingSignature correlationId)
            else if 16 ≤ signed.certId.length ∧ signed.certId.length ≤ 64 then none
            else some (.certIdInvalidLength signed.certId.length)

/-- The messages an input is answered with while nothing was violated. -/
def reply : ActorInput → List ClientToServer
  | .server (.ok .ping) _ _ => [.pong]
  | .server _ _ _ => []
  | .result value => [value.toResponse]

def response? : ActorInput → Option ClientToServer
  | .server _ _ _ => none
  | .result value => some value.toResponse

@[simp] theorem response?_server (input : ServerInput) (draw : Draw) (admitted : Bool) :
    response? (.server input draw admitted) = none := rfl

@[simp] theorem response?_result (value : DispatchResult) :
    response? (.result value) = some value.toResponse := rfl

def request? : ActorInput → Option Dispatch
  | .server (.ok (.dispatch correlationId payload _)) _ _ => some ⟨correlationId, payload⟩
  | _ => none

/-- Messages sent after the hello, for inputs that follow `history`. -/
def sends (prim : Primitives) (nonce : Bytes) (history : List ActorInput) :
    List ActorInput → List ClientToServer
  | [] => []
  | input :: rest =>
      match violation prim nonce (established prim nonce history) input with
      | some reason =>
          .protocolError reason (established prim nonce history) :: rest.filterMap response?
      | none => reply input ++ sends prim nonce (history ++ [input]) rest

/-- Requests handed on, for inputs that follow `history`. -/
def dispatches (prim : Primitives) (nonce : Bytes) (history : List ActorInput) :
    List ActorInput → List Dispatch
  | [] => []
  | input :: rest =>
      match violation prim nonce (established prim nonce history) input with
      | some _ => []
      | none => (request? input).toList ++ dispatches prim nonce (history ++ [input]) rest

/-- No input of the list violates anything at the point where it arrives. -/
def Clean (prim : Primitives) (nonce : Bytes) (inputs : List ActorInput) : Prop :=
  ∀ before input after, inputs = before ++ input :: after →
    violation prim nonce (established prim nonce before) input = none

/-! ## The shape of the reference -/

section Shape

variable {prim : Primitives} {nonce : Bytes}

/-- Nothing in `segment` violates anything, when it follows `history`. -/
private def CleanAfter (prim : Primitives) (nonce : Bytes) (history segment : List ActorInput) :
    Prop :=
  ∀ before input after, segment = before ++ input :: after →
    violation prim nonce (established prim nonce (history ++ before)) input = none

private theorem CleanAfter.head {history rest : List ActorInput} {input : ActorInput}
    (clean : CleanAfter prim nonce history (input :: rest)) :
    violation prim nonce (established prim nonce history) input = none := by
  simpa using clean [] input rest rfl

private theorem CleanAfter.tail {history rest : List ActorInput} {input : ActorInput}
    (clean : CleanAfter prim nonce history (input :: rest)) :
    CleanAfter prim nonce (history ++ [input]) rest := by
  intro before other after split
  have here := clean (input :: before) other after (by rw [split]; rfl)
  simpa using here

private theorem sends_cleanAfter_append (history segment rest : List ActorInput)
    (clean : CleanAfter prim nonce history segment) :
    sends prim nonce history (segment ++ rest) =
      segment.flatMap reply ++ sends prim nonce (history ++ segment) rest := by
  induction segment generalizing history with
  | nil => simp
  | cons input segment ih =>
      rw [List.cons_append, sends, clean.head]
      dsimp only
      rw [ih _ clean.tail, List.flatMap_cons, List.append_assoc, List.append_assoc]
      rfl

private theorem dispatches_cleanAfter_append (history segment rest : List ActorInput)
    (clean : CleanAfter prim nonce history segment) :
    dispatches prim nonce history (segment ++ rest) =
      segment.filterMap request? ++ dispatches prim nonce (history ++ segment) rest := by
  induction segment generalizing history with
  | nil => simp
  | cons input segment ih =>
      rw [List.cons_append, dispatches, clean.head]
      dsimp only
      rw [ih _ clean.tail, List.append_assoc]
      cases carried : request? input <;> simp [carried]

private theorem Clean.cleanAfter {inputs : List ActorInput} (clean : Clean prim nonce inputs) :
    CleanAfter prim nonce [] inputs := by
  simpa [CleanAfter, Clean] using clean

theorem sends_clean {inputs : List ActorInput} (clean : Clean prim nonce inputs) :
    sends prim nonce [] inputs = inputs.flatMap reply := by
  simpa [sends] using sends_cleanAfter_append [] inputs [] clean.cleanAfter

theorem dispatches_clean {inputs : List ActorInput} (clean : Clean prim nonce inputs) :
    dispatches prim nonce [] inputs = inputs.filterMap request? := by
  simpa [dispatches] using dispatches_cleanAfter_append [] inputs [] clean.cleanAfter

/-- At the first violation the reason is reported once; afterwards only
results are answered. -/
theorem sends_violated {before after : List ActorInput} {input : ActorInput}
    {reason : ProtocolError} (clean : Clean prim nonce before)
    (violated : violation prim nonce (established prim nonce before) input = some reason) :
    sends prim nonce [] (before ++ input :: after) = before.flatMap reply ++
      .protocolError reason (established prim nonce before) :: after.filterMap response? := by
  rw [sends_cleanAfter_append [] before (input :: after) clean.cleanAfter, List.nil_append, sends,
    violated]

theorem dispatches_violated {before after : List ActorInput} {input : ActorInput}
    {reason : ProtocolError} (clean : Clean prim nonce before)
    (violated : violation prim nonce (established prim nonce before) input = some reason) :
    dispatches prim nonce [] (before ++ input :: after) = before.filterMap request? := by
  rw [dispatches_cleanAfter_append [] before (input :: after) clean.cleanAfter, List.nil_append,
    dispatches, violated]
  simp

/-- A message the reference sends is a pong, a response to a result, or the
report of a violation found in some input. -/
theorem mem_sends {message : ClientToServer} (history inputs : List ActorInput)
    (member : message ∈ sends prim nonce history inputs) :
    message = .pong ∨ (∃ value : DispatchResult, message = value.toResponse) ∨
      ∃ complete input reason, violation prim nonce complete input = some reason ∧
        message = .protocolError reason complete := by
  induction inputs generalizing history with
  | nil => simp [sends] at member
  | cons input rest ih =>
      simp only [sends] at member
      cases found : violation prim nonce (established prim nonce history) input with
      | some reason =>
          rw [found] at member
          rcases List.mem_cons.mp member with rfl | later
          · exact .inr (.inr ⟨_, input, reason, found, rfl⟩)
          · obtain ⟨other, _, answered⟩ := List.mem_filterMap.mp later
            cases other with
            | server => simp [response?] at answered
            | result value =>
                cases answered
                exact .inr (.inl ⟨value, rfl⟩)
      | none =>
          rw [found] at member
          rcases List.mem_append.mp member with now | later
          · cases input with
            | result value =>
                rw [reply, List.mem_singleton] at now
                exact .inr (.inl ⟨value, now⟩)
            | server decoded draw admitted =>
                rcases decoded with failure | message
                · simp [reply] at now
                · cases message <;> simp [reply] at now
                  exact .inl now
          · exact ih _ later

theorem violation_ne_ackBeforeHello {complete : Bool} {input : ActorInput} :
    violation prim nonce complete input ≠ some .handshakeAckBeforeHello := by
  cases input with
  | result value => simp [violation]
  | server decoded draw admitted =>
      rcases decoded with failure | message
      · simp [violation]
      · cases message with
        | ping | certificatePush | setReconnectionData => simp [violation]
        | clientHelloAck proposed => simp only [violation]; split_ifs <;> simp
        | dispatch correlationId payload signature =>
            cases signature with
            | none => simp only [violation]; split_ifs <;> simp
            | some signed => simp only [violation]; split_ifs <;> simp

private theorem responses_reply (input : ActorInput) :
    (reply input).filter (fun message => message.respondsTo?.isSome) =
      (response? input).toList := by
  cases input with
  | result value => simp [reply, response?]
  | server decoded draw admitted =>
      rcases decoded with failure | message
      · rfl
      · cases message <;> rfl

/-- Responses leave in the order their results arrived. -/
theorem responses_in_order (history inputs : List ActorInput) :
    (sends prim nonce history inputs).filter (fun message => message.respondsTo?.isSome) =
      inputs.filterMap response? := by
  induction inputs generalizing history with
  | nil => rfl
  | cons input rest ih =>
      have restOnly : (rest.filterMap response?).filter
          (fun message => message.respondsTo?.isSome) = rest.filterMap response? := by
        rw [List.filter_eq_self]
        intro message member
        obtain ⟨other, _, answered⟩ := List.mem_filterMap.mp member
        cases other with
        | server => simp [response?] at answered
        | result value => cases answered; rfl
      simp only [sends]
      cases found : violation prim nonce (established prim nonce history) input with
      | some reason =>
          cases input with
          | result value => simp [violation] at found
          | server decoded draw admitted => 
              rw [List.filter_cons_of_neg (by simp [ClientToServer.respondsTo?]),
                List.filterMap_cons_none (by simp)]
              exact restOnly
      | none =>
          rw [List.filter_append, responses_reply, ih]
          cases answered : response? input <;> simp [answered]

end Shape

/-! ## The actor follows the reference -/

def Usable : ActorInput → Prop
  | .server _ draw _ => draw.Usable
  | .result _ => True

/-- A healthy actor is in the phase that the history of its inputs calls for. -/
private def Tracks (prim : Primitives) (nonce : IdNonce) (history : List ActorInput)
    (actor : Actor) : Prop :=
  (actor.phase = .handshaking nonce ∧ established prim nonce.asBytes history = false) ∨
  (∃ connectionId, actor.phase = .active connectionId ∧
    established prim nonce.asBytes history = true)

private theorem established_snoc (prim : Primitives) (nonce : Bytes) (history : List ActorInput)
    (input : ActorInput) : established prim nonce (history ++ [input]) =
      (established prim nonce history || validAck prim nonce input) := by
  simp [established, List.any_append]

/-- The two ways to describe a violation agree for a connection that has sent
its hello. -/
private theorem violation_of_violates {prim : Primitives} {nonce : IdNonce}
    {history : List ActorInput} {actor : Actor} {decoded : ServerInput} {reason : ProtocolError}
    (draw : Draw) (admitted : Bool) (tracks : Tracks prim nonce history actor)
    (violates : Violates prim actor.phase decoded reason) :
    violation prim nonce.asBytes (established prim nonce.asBytes history)
        (.server decoded draw admitted) = some reason ∧
      actor.phase.isHandshakeComplete = established prim nonce.asBytes history := by
  rcases tracks with ⟨phase, pending⟩ | ⟨connectionId, phase, complete⟩
  · rw [phase] at violates ⊢
    rw [pending]
    refine ⟨?_, rfl⟩
    cases violates with
    | undecodable => rfl
    | rejected different => simp [violation, different]
    | early _ => rfl
  · rw [phase] at violates ⊢
    rw [complete]
    refine ⟨?_, rfl⟩
    cases violates with
    | undecodable => rfl
    | duplicateAck => rfl
    | early pending => cases pending
    | @unsigned _ correlationId payload signature missing =>
        cases signature with
        | none => rfl
        | some signed => simp [violation, missing signed rfl]
    | badCertId present outside => simp [violation, present, outside]

/-- An actor in the error phase answers results and does nothing else. -/
private theorem run_error {prim : Primitives} (inputs : List ActorInput) {actor final : Actor}
    (failed : actor.phase = .error) (ran : actor.run prim inputs = .ok final) :
    final.sent = actor.sent ++ inputs.filterMap response? ∧
      final.dispatched = actor.dispatched := by
  induction inputs generalizing actor with
  | nil => cases ran; simp
  | cons input rest ih =>
      cases input with
      | result value =>
          obtain ⟨sent, dispatched⟩ := @ih { actor with
            sent := actor.sent ++ [value.toResponse] } failed ran
          exact ⟨by simp [sent], dispatched⟩
      | server decoded draw admitted =>
          have quiet : actor.deliver prim (.server decoded draw admitted) = .ok actor := by
            obtain ⟨phase, sent, dispatched, published⟩ := actor
            cases failed
            rfl
          rw [Actor.run, quiet] at ran
          obtain ⟨sent, dispatched⟩ := ih failed ran
          exact ⟨by simp [sent, List.filterMap_cons], dispatched⟩

private theorem run_follows {prim : Primitives} (nonce : IdNonce) (inputs history : List ActorInput)
    {actor final : Actor} (tracks : Tracks prim nonce history actor)
    (ran : actor.run prim inputs = .ok final) :
    final.sent = actor.sent ++ sends prim nonce.asBytes history inputs ∧
      final.dispatched = actor.dispatched ++ dispatches prim nonce.asBytes history inputs := by
  induction inputs generalizing history actor with
  | nil => cases ran; simp [sends, dispatches]
  | cons input rest ih =>
      cases delivered : actor.deliver prim input with
      | error panic => simp [Actor.run, delivered, bind, Except.bind] at ran
      | ok after =>
          rw [Actor.run, delivered] at ran
          -- an input that violates nothing: the next actor tracks the longer history
          have continues : violation prim nonce.asBytes (established prim nonce.asBytes history)
                input = none → Tracks prim nonce (history ++ [input]) after →
              after.sent = actor.sent ++ reply input →
              after.dispatched = actor.dispatched ++ (request? input).toList →
              final.sent = actor.sent ++ sends prim nonce.asBytes history (input :: rest) ∧
              final.dispatched =
                actor.dispatched ++ dispatches prim nonce.asBytes history (input :: rest) := by
            intro fine next sent dispatched
            obtain ⟨finalSent, finalDispatched⟩ := ih (history ++ [input]) next ran
            rw [sends, dispatches, fine, finalSent, finalDispatched, sent, dispatched]
            simp [List.append_assoc]
          have sameTracks : after.phase = actor.phase → validAck prim nonce.asBytes input = false →
              Tracks prim nonce (history ++ [input]) after := by
            intro same silent
            simpa [Tracks, same, established_snoc, silent] using tracks
          rcases Actor.deliver_cases delivered with ⟨value, rfl, rfl⟩ | ⟨decoded, draw, admitted,
              turn, rfl, reaction, rfl⟩
          · exact continues rfl (sameTracks rfl rfl) rfl (by simp [request?])
          · obtain ⟨phase, sent, dispatched, published⟩ := actor
            cases reaction with
            | ignored => simp [Tracks] at tracks
            | pong _ => exact continues rfl (sameTracks rfl rfl) rfl (by simp [request?])
            | certificates _ =>
                exact continues rfl (sameTracks rfl rfl) (by simp [reply]) (by simp [request?])
            | reconnection _ =>
                exact continues rfl (sameTracks rfl rfl) (by simp [reply]) (by simp [request?])
            | @accepted current proposed connectionId derived =>
                rcases tracks with ⟨same, pending⟩ | ⟨_, ⟨⟩, _⟩
                cases same
                refine continues (by simp [violation, pending, derived]) ?_ (by simp [reply])
                  (by simp [request?])
                exact .inr ⟨connectionId, rfl, by simp [established_snoc, validAck, derived]⟩
            | @dispatched connectionId correlationId payload signed present least most =>
                rcases tracks with ⟨⟨⟩, _⟩ | ⟨_, same, complete⟩
                refine continues (by simp [violation, complete, present, least, most]) ?_
                  (by simp [reply]) (by simp [request?])
                exact .inr ⟨connectionId, rfl, by simp [established_snoc, complete]⟩
            | @violated _ _ reason _ violates =>
                obtain ⟨found, marker⟩ := violation_of_violates draw admitted tracks violates
                obtain ⟨finalSent, finalDispatched⟩ := run_error rest rfl ran
                rw [sends, dispatches, found, finalSent, finalDispatched]
                simp only [Actor.take_protocolError] at marker ⊢
                rw [marker]
                simp

private theorem run_total (prim : Primitives) (inputs : List ActorInput) (actor : Actor)
    (usable : ∀ input ∈ inputs, Usable input) : ∃ final, actor.run prim inputs = .ok final := by
  induction inputs generalizing actor with
  | nil => exact ⟨actor, rfl⟩
  | cons input rest ih =>
      have restUsable : ∀ other ∈ rest, Usable other := fun other member =>
        usable other (List.mem_cons_of_mem _ member)
      cases input with
      | result value => exact ih _ restUsable
      | server decoded draw admitted =>
          obtain ⟨turn, processed⟩ := Phase.processImpl_total prim
            (usable (.server decoded draw admitted) List.mem_cons_self) actor.phase decoded
          simp only [Actor.run, Actor.deliver, processed, bind, Except.bind, pure, Except.pure]
          exact ih _ restUsable

/-- A running actor sends exactly what the reference protocol says, whatever
the interleaving of server inputs and dispatch results, and never panics. -/
theorem actor_follows_reference (prim : Primitives) (metrics : InstanceMetrics) (appInfo : AppInfo)
    (draw : Draw) (inputs : List ActorInput) (drawn : draw.Usable)
    (usable : ∀ input ∈ inputs, Usable input) :
    ∃ hello first final, Actor.start metrics appInfo draw = .ok first ∧
      first.run prim inputs = .ok final ∧
      -- the hello comes first and only once
      final.sent = .clientHello hello :: sends prim hello.clientNonce [] inputs ∧
      (∀ message ∈ sends prim hello.clientNonce [] inputs, ∀ other, message ≠ .clientHello other) ∧
      -- while nothing is violated: a pong for each ping, a response for each result
      (Clean prim hello.clientNonce inputs →
        final.sent = .clientHello hello :: inputs.flatMap reply ∧
        final.dispatched = inputs.filterMap request?) ∧
      -- the first violation is reported once, and only responses follow
      (∀ before input after reason, inputs = before ++ input :: after →
        Clean prim hello.clientNonce before →
        violation prim hello.clientNonce (established prim hello.clientNonce before) input =
          some reason →
        final.sent = .clientHello hello :: (before.flatMap reply ++
          .protocolError reason (established prim hello.clientNonce before) ::
            after.filterMap response?) ∧
        final.dispatched = before.filterMap request?) ∧
      -- responses follow the order of the reply queue
      final.sent.filter (fun message => message.respondsTo?.isSome) = inputs.filterMap response? ∧
      (∀ complete, .protocolError .handshakeAckBeforeHello complete ∉ final.sent) := by
  obtain ⟨first, started⟩ := Actor.start_total metrics appInfo drawn
  obtain ⟨final, ran⟩ := run_total prim inputs first usable
  obtain ⟨nonce, hello, carried, rfl⟩ := Actor.start_ok started
  have follows := run_follows nonce inputs [] (.inl ⟨rfl, rfl⟩) ran
  rw [← carried] at follows
  obtain ⟨sent, dispatched⟩ := follows
  rw [List.singleton_append] at sent
  rw [List.nil_append] at dispatched
  refine ⟨hello, _, final, started, ran, sent, ?_, ?_, ?_, ?_, ?_⟩
  · rintro message member other rfl
    rcases mem_sends [] inputs member with same | ⟨value, same⟩ | ⟨_, _, _, _, same⟩
    · cases same
    · simp [DispatchResult.toResponse] at same
    · cases same
  · intro clean
    rw [sent, dispatched, sends_clean clean, dispatches_clean clean]
    exact ⟨rfl, rfl⟩
  · rintro before input after reason rfl clean violated
    rw [sent, dispatched, sends_violated clean violated, dispatches_violated clean violated]
    exact ⟨rfl, rfl⟩
  · rw [sent]
    simpa [ClientToServer.respondsTo?] using responses_in_order [] inputs
  · intro complete member
    rw [sent] at member
    rcases List.mem_cons.mp member with same | later
    · cases same
    · rcases mem_sends [] inputs later with same | ⟨value, same⟩ | ⟨_, input, reason, found, same⟩
      · cases same
      · simp [DispatchResult.toResponse] at same
      · cases same
        exact violation_ne_ackBeforeHello found

def duplicateAckScript : List ActorInput :=
  [Actor.fixtureAck, .server (.ok .ping) Actor.fixtureDraw true, Actor.fixtureAck]

theorem actor_follows_reference_duplicateAck :
    Actor.fixtureDraw.Usable ∧ (∀ input ∈ duplicateAckScript, Usable input) ∧
    ∃ final, Actor.fixtureFirst.run fixturePrimitives duplicateAckScript = .ok final ∧
      final.sent = .clientHello Actor.fixtureHello ::
        sends fixturePrimitives Actor.fixtureHello.clientNonce [] duplicateAckScript ∧
      final.sent = [.clientHello Actor.fixtureHello, .pong,
        .protocolError .handshakeDuplicateAck true] := by
  have drawn : Actor.fixtureDraw.Usable := ⟨_, rfl, by decide⟩
  have usable : ∀ input ∈ duplicateAckScript, Usable input := by
    intro input member
    simp only [duplicateAckScript, List.mem_cons, List.not_mem_nil, or_false] at member
    rcases member with rfl | rfl | rfl <;> exact drawn
  obtain ⟨hello, first, final, started, ran, sent, _⟩ := actor_follows_reference fixturePrimitives
    Actor.fixtureMetrics Actor.fixtureApp Actor.fixtureDraw duplicateAckScript drawn usable
  have began : Actor.start Actor.fixtureMetrics Actor.fixtureApp Actor.fixtureDraw =
    .ok Actor.fixtureFirst := by rfl
  cases started.symm.trans began
  cases ran
  cases sent
  exact ⟨drawn, usable, _, rfl, rfl, rfl⟩

end Reference

end LibddRc
