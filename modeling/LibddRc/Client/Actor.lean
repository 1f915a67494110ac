import Mathlib.Data.List.Induction
import LibddRc.Client.Delegate

/-! The connection actor as a function of what it is given: the hello, then any
interleaving of server inputs and dispatch results. Sends are logged as they
are handed to `retry_send`; a dispatch is published when the request queue
admits it, which the host decides. -/

set_option autoImplicit false

namespace LibddRc

/-- One item the actor's loop takes. A server input comes with the generator
outcome it may need and with whether the request queue would admit a request
at that moment. -/
inductive ActorInput
  | server (input : ServerInput) (draw : Draw) (admitted : Bool)
  | result (value : DispatchResult)

/-- The actor between two loop iterations, with what it did so far: messages
given to `retry_send`, requests given to `DispatchPublisher::dispatch`, and the
requests among them that the queue admitted. -/
structure Actor where
  phase : Phase
  sent : List ClientToServer
  dispatched : List Dispatch
  published : List Dispatch

namespace Actor

def perform (admitted : Bool) (actor : Actor) : Effect → Actor
  | .send message => { actor with sent := actor.sent ++ [message] }
  | .dispatch request => { actor with
      dispatched := actor.dispatched ++ [request]
      published := if admitted then actor.published ++ [request] else actor.published }

def take (admitted : Bool) (actor : Actor) (turn : Turn) : Actor :=
  { turn.effects.foldl (perform admitted) actor with phase := turn.next }

/-- `ConnectionActor::server_message` and `ConnectionActor::dispatch_response`. -/
def deliver (prim : Primitives) (actor : Actor) : ActorInput → Except Panic Actor
  | .server input draw admitted => do
      let turn ← actor.phase.processImpl prim draw input
      pure (actor.take admitted turn)
  | .result value => .ok { actor with sent := actor.sent ++ [value.toResponse] }

/-- The start of `run_loop`: a fresh delegate sends its hello. -/
def start (metrics : InstanceMetrics) (appInfo : AppInfo) (draw : Draw) : Except Panic Actor := do
  let fresh : Actor :=
    { phase := .preHandshake appInfo, sent := [], dispatched := [], published := [] }
  let turn ← fresh.phase.sendHello metrics draw
  pure (fresh.take false turn)

/-- The loop of `run_loop` over finitely many items. -/
def run (prim : Primitives) (actor : Actor) : List ActorInput → Except Panic Actor
  | [] => .ok actor
  | input :: rest => do
      let next ← actor.deliver prim input
      next.run prim rest

theorem run_append (prim : Primitives) (actor : Actor) (first second : List ActorInput) :
    actor.run prim (first ++ second) =
      (actor.run prim first >>= fun next => next.run prim second) := by
  induction first generalizing actor with
  | nil => rfl
  | cons input rest ih =>
      cases delivered : actor.deliver prim input with
      | error panic => simp [run, delivered, bind, Except.bind]
      | ok next =>
          simp only [List.cons_append, run, delivered, bind, Except.bind]
          exact ih next

theorem run_snoc_ok {prim : Primitives} {actor final : Actor} {inputs : List ActorInput}
    {input : ActorInput} (ran : actor.run prim (inputs ++ [input]) = .ok final) :
    ∃ before, actor.run prim inputs = .ok before ∧ before.deliver prim input = .ok final := by
  rw [run_append] at ran
  obtain ⟨before, earlier, rest⟩ := except_bind_ok ran
  obtain ⟨after, delivered, finished⟩ := except_bind_ok rest
  cases finished
  exact ⟨before, earlier, delivered⟩

theorem start_ok {metrics : InstanceMetrics} {appInfo : AppInfo} {draw : Draw} {first : Actor}
    (started : start metrics appInfo draw = .ok first) :
    ∃ nonce hello, hello.clientNonce = nonce.asBytes ∧ first = {
      phase := .handshaking nonce
      sent := [.clientHello hello]
      dispatched := []
      published := [] } := by
  unfold start at started
  obtain ⟨turn, helloSent, taken⟩ := except_bind_ok started
  obtain ⟨⟨nonce, hello⟩, built, shape⟩ := except_bind_ok helloSent
  obtain ⟨drawn, _, packed⟩ := except_bind_ok built
  cases packed
  cases shape
  cases taken
  exact ⟨_, _, rfl, rfl⟩

theorem start_total (metrics : InstanceMetrics) (appInfo : AppInfo) {draw : Draw}
    (usable : draw.Usable) : ∃ first, start metrics appInfo draw = .ok first := by
  obtain ⟨nonce, drawn⟩ := IdNonce.default_ok_iff.mpr usable
  simp only [start, Phase.sendHello, buildHello, drawn, bind, Except.bind, pure, Except.pure]
  exact ⟨_, rfl⟩

theorem deliver_cases {prim : Primitives} {actor after : Actor} {input : ActorInput}
    (delivered : actor.deliver prim input = .ok after) :
    (∃ value, input = .result value ∧
      after = { actor with sent := actor.sent ++ [value.toResponse] }) ∨
    (∃ message draw admitted turn, input = .server message draw admitted ∧
      Reaction prim actor.phase message turn ∧ after = actor.take admitted turn) := by
  cases input with
  | result value =>
      cases delivered
      exact .inl ⟨value, rfl, rfl⟩
  | server message draw admitted =>
      obtain ⟨turn, processed, taken⟩ := except_bind_ok delivered
      cases taken
      exact .inr ⟨message, draw, admitted, turn, rfl, Phase.processImpl_reaction processed, rfl⟩

@[simp] theorem take_phase (admitted : Bool) (actor : Actor) (turn : Turn) :
    (actor.take admitted turn).phase = turn.next := rfl

@[simp] theorem take_quiet (admitted : Bool) (actor : Actor) (phase : Phase) :
    actor.take admitted ⟨[], phase⟩ = { actor with phase } := rfl

@[simp] theorem take_send (admitted : Bool) (actor : Actor) (message : ClientToServer)
    (phase : Phase) : actor.take admitted ⟨[.send message], phase⟩ =
      { actor with phase, sent := actor.sent ++ [message] } := rfl

@[simp] theorem take_dispatch (admitted : Bool) (actor : Actor) (request : Dispatch)
    (phase : Phase) : actor.take admitted ⟨[.dispatch request], phase⟩ =
      { actor with
        phase
        dispatched := actor.dispatched ++ [request]
        published := if admitted then actor.published ++ [request] else actor.published } := rfl

@[simp] theorem take_protocolError (admitted : Bool) (actor : Actor) (complete : Bool)
    (reason : ProtocolError) : actor.take admitted (protocolError complete reason) =
      { actor with
        phase := .error, sent := actor.sent ++ [.protocolError reason complete] } := rfl

/-! ## Where published requests come from -/

/-- The item at `position` is an acknowledgement that moved the actor from
handshaking to active. -/
structure AcceptsAt (prim : Primitives) (first : Actor) (inputs : List ActorInput)
    (position : Nat) (proposed : UntrustedConnectionId) : Prop where
  input : ∃ draw admitted,
    inputs[position]? = some (.server (.ok (.clientHelloAck proposed)) draw admitted)
  before : ∃ actor nonce,
    first.run prim (inputs.take position) = .ok actor ∧ actor.phase = .handshaking nonce
  after : ∃ actor connectionId,
    first.run prim (inputs.take (position + 1)) = .ok actor ∧ actor.phase = .active connectionId

/-- Exactly one acknowledgement was accepted, and it carried the identifier
derived from `nonce`. -/
def AcceptedOnce (prim : Primitives) (first : Actor) (nonce : Bytes)
    (inputs : List ActorInput) : Prop :=
  ∃ position proposed, AcceptsAt prim first inputs position proposed ∧
    proposed.id = uuidV8Digest prim proposed.serverNonce nonce ∧
    ∀ other another, AcceptsAt prim first inputs other another → other = position

def ReportedNothing (actor : Actor) : Prop :=
  ∀ reason complete, ClientToServer.protocolError reason complete ∉ actor.sent

/-- The item at `position` is a signed request with an acceptable certificate
id, it carries `request`, and it arrived after exactly one accepted
acknowledgement and before any protocol error. -/
structure Provenance (prim : Primitives) (first : Actor) (nonce : Bytes)
    (inputs : List ActorInput) (position : Nat) (request : Dispatch) : Prop where
  input : ∃ signed draw admitted, inputs[position]? = some (.server (.ok (.dispatch
      request.correlationId request.payload (some signed))) draw admitted) ∧
    signed.signature ≠ [] ∧ 16 ≤ signed.certId.length ∧ signed.certId.length ≤ 64
  acknowledged : AcceptedOnce prim first nonce (inputs.take position)
  healthy : ∃ before, first.run prim (inputs.take position) = .ok before ∧ before.ReportedNothing

/-- The link between the current phase and the past that produced it. -/
def PhaseFacts (prim : Primitives) (first : Actor) (nonce : IdNonce) (inputs : List ActorInput)
    (actor : Actor) : Prop :=
  match actor.phase with
  | .preHandshake _ => False
  | .handshaking current => current = nonce ∧ actor.ReportedNothing ∧
      ∀ position proposed, ¬ AcceptsAt prim first inputs position proposed
  | .active _ => actor.ReportedNothing ∧ AcceptedOnce prim first nonce.asBytes inputs
  | .error => True

private theorem acceptsAt_lt {prim : Primitives} {first : Actor} {inputs : List ActorInput}
    {position : Nat} {proposed : UntrustedConnectionId}
    (accepts : AcceptsAt prim first inputs position proposed) : position < inputs.length := by
  obtain ⟨_, _, found⟩ := accepts.input
  exact (List.getElem?_eq_some_iff.mp found).1

private theorem acceptsAt_snoc_iff {prim : Primitives} {first : Actor} {inputs : List ActorInput}
    {input : ActorInput} {position : Nat} {proposed : UntrustedConnectionId}
    (earlier : position < inputs.length) :
    AcceptsAt prim first (inputs ++ [input]) position proposed ↔
      AcceptsAt prim first inputs position proposed := by
  constructor
  · rintro ⟨found, before, after⟩
    rw [List.getElem?_append_left earlier] at found
    rw [List.take_append_of_le_length earlier.le] at before
    rw [List.take_append_of_le_length earlier] at after
    exact ⟨found, before, after⟩
  · rintro ⟨found, before, after⟩
    refine ⟨?_, ?_, ?_⟩
    · rwa [List.getElem?_append_left earlier]
    · rwa [List.take_append_of_le_length earlier.le]
    · rwa [List.take_append_of_le_length earlier]

/-- An item that is not itself accepted leaves the accepted ones as they were. -/
private theorem acceptsAt_snoc_old {prim : Primitives} {first before after : Actor}
    {inputs : List ActorInput} {input : ActorInput}
    (ran : first.run prim inputs = .ok before)
    (ended : first.run prim (inputs ++ [input]) = .ok after)
    (kept : ∀ nonce connectionId, before.phase = .handshaking nonce →
      after.phase ≠ .active connectionId)
    {position : Nat} {proposed : UntrustedConnectionId}
    (accepts : AcceptsAt prim first (inputs ++ [input]) position proposed) :
    AcceptsAt prim first inputs position proposed := by
  have bound := acceptsAt_lt accepts
  rw [List.length_append, List.length_singleton] at bound
  by_cases earlier : position < inputs.length
  · exact (acceptsAt_snoc_iff earlier).mp accepts
  · have last : position = inputs.length := by omega
    subst last
    obtain ⟨_, ⟨actor, nonce, reached, handshaking⟩, ⟨later, connectionId, finished, active⟩⟩ :=
      accepts
    rw [List.take_left, ran] at reached
    rw [List.take_of_length_le (by simp), ended] at finished
    cases reached
    cases finished
    exact absurd active (kept nonce connectionId handshaking)

private theorem acceptedOnce_snoc {prim : Primitives} {first before after : Actor} {nonce : Bytes}
    {inputs : List ActorInput} {input : ActorInput}
    (ran : first.run prim inputs = .ok before)
    (ended : first.run prim (inputs ++ [input]) = .ok after)
    (kept : ∀ nonce connectionId, before.phase = .handshaking nonce →
      after.phase ≠ .active connectionId)
    (once : AcceptedOnce prim first nonce inputs) :
    AcceptedOnce prim first nonce (inputs ++ [input]) := by
  obtain ⟨position, proposed, accepts, derived, only⟩ := once
  refine ⟨position, proposed, (acceptsAt_snoc_iff (acceptsAt_lt accepts)).mpr accepts, derived, ?_⟩
  intro other another again
  exact only other another (acceptsAt_snoc_old ran ended kept again)

private theorem reportedNothing_append {actor : Actor} {message : ClientToServer}
    (healthy : actor.ReportedNothing)
    (other : ∀ reason complete, message ≠ .protocolError reason complete) :
    ∀ reason complete, ClientToServer.protocolError reason complete ∉ actor.sent ++ [message] := by
  intro reason complete member
  rcases List.mem_append.mp member with earlier | last
  · exact healthy reason complete earlier
  · exact other reason complete (List.mem_singleton.mp last).symm

/-- Facts about the phase survive an item that leaves the phase alone and
reports no violation. -/
private theorem phaseFacts_same {prim : Primitives} {first before after : Actor} {nonce : IdNonce}
    {inputs : List ActorInput} {input : ActorInput}
    (ran : first.run prim inputs = .ok before)
    (ended : first.run prim (inputs ++ [input]) = .ok after)
    (same : after.phase = before.phase)
    (healthy : before.ReportedNothing → after.ReportedNothing)
    (facts : PhaseFacts prim first nonce inputs before) :
    PhaseFacts prim first nonce (inputs ++ [input]) after := by
  have kept : ∀ nonce connectionId, before.phase = .handshaking nonce →
      after.phase ≠ .active connectionId := by
    intro nonce connectionId handshaking active
    rw [same, handshaking] at active
    cases active
  unfold PhaseFacts at facts ⊢
  rw [same]
  cases phase : before.phase with
  | preHandshake appInfo => simp [phase] at facts
  | handshaking current =>
      simp only [phase] at facts
      obtain ⟨current, reported, none⟩ := facts
      exact ⟨current, healthy reported, fun position proposed accepts =>
        none position proposed (acceptsAt_snoc_old ran ended kept accepts)⟩
  | active connectionId =>
      simp only [phase] at facts
      exact ⟨healthy facts.1, acceptedOnce_snoc ran ended kept facts.2⟩
  | error => trivial

private theorem phaseFacts_step {prim : Primitives} {first before after : Actor} {nonce : IdNonce}
    {inputs : List ActorInput} {input : ActorInput}
    (ran : first.run prim inputs = .ok before) (delivered : before.deliver prim input = .ok after)
    (ended : first.run prim (inputs ++ [input]) = .ok after)
    (facts : PhaseFacts prim first nonce inputs before) :
    PhaseFacts prim first nonce (inputs ++ [input]) after := by
  rcases deliver_cases delivered with ⟨value, rfl, rfl⟩ | ⟨message, draw, admitted, turn, rfl,
      reaction, rfl⟩
  · refine phaseFacts_same ran ended rfl (fun healthy => ?_) facts
    exact reportedNothing_append healthy (by simp [DispatchResult.toResponse])
  · obtain ⟨phase, sent, dispatched, published⟩ := before
    cases reaction with
    | ignored => simp [PhaseFacts]
    | pong _ =>
        refine phaseFacts_same ran ended rfl (fun healthy => ?_) facts
        exact reportedNothing_append healthy (by simp)
    | certificates _ => exact phaseFacts_same ran ended rfl id facts
    | reconnection _ => exact phaseFacts_same ran ended rfl id facts
    | dispatched _ _ _ => exact phaseFacts_same ran ended rfl id facts
    | violated _ _ => simp [PhaseFacts]
    | @accepted current proposed connectionId derived =>
        obtain ⟨rfl, healthy, none⟩ : current = nonce ∧ _ := facts
        refine ⟨healthy, inputs.length, proposed, ⟨⟨draw, admitted, by simp⟩, ?_, ?_⟩, derived, ?_⟩
        · exact ⟨_, current, by rw [List.take_left]; exact ran, rfl⟩
        · exact ⟨_, connectionId, by rw [List.take_of_length_le (by simp)]; exact ended, rfl⟩
        · intro other another again
          have bound := acceptsAt_lt again
          rw [List.length_append, List.length_singleton] at bound
          by_contra different
          exact none other another ((acceptsAt_snoc_iff (by omega)).mp again)

private theorem phaseFacts_run {prim : Primitives} {first : Actor} {nonce : IdNonce}
    (initial : first.phase = .handshaking nonce) (healthy : first.ReportedNothing)
    (inputs : List ActorInput) {final : Actor} (ran : first.run prim inputs = .ok final) :
    PhaseFacts prim first nonce inputs final := by
  induction inputs using List.reverseRecOn generalizing final with
  | nil =>
      cases ran
      simp only [PhaseFacts, initial, true_and]
      refine ⟨healthy, fun position proposed accepts => ?_⟩
      exact absurd (acceptsAt_lt accepts) (by simp)
  | append_singleton inputs input ih =>
      obtain ⟨before, earlier, delivered⟩ := run_snoc_ok ran
      exact phaseFacts_step earlier delivered ran (ih earlier)

private theorem Provenance.snoc {prim : Primitives} {first : Actor} {nonce : Bytes}
    {inputs : List ActorInput} {position : Nat} {request : Dispatch}
    (source : Provenance prim first nonce inputs position request) (input : ActorInput) :
    Provenance prim first nonce (inputs ++ [input]) position request := by
  obtain ⟨⟨signed, draw, admitted, found, checks⟩, acknowledged, healthy⟩ := source
  have bound : position < inputs.length := (List.getElem?_eq_some_iff.mp found).1
  refine ⟨⟨signed, draw, admitted, ?_, checks⟩, ?_, ?_⟩
  · rwa [List.getElem?_append_left bound]
  · rwa [List.take_append_of_le_length bound.le]
  · rwa [List.take_append_of_le_length bound.le]

private theorem provenance_lt {prim : Primitives} {first : Actor} {nonce : Bytes}
    {inputs : List ActorInput} {position : Nat} {request : Dispatch}
    (source : Provenance prim first nonce inputs position request) : position < inputs.length := by
  obtain ⟨_, _, _, found, _⟩ := source.input
  exact (List.getElem?_eq_some_iff.mp found).1

/-- A published list, each entry with the position of the item it came from. -/
def Explained (prim : Primitives) (first : Actor) (nonce : Bytes) (inputs : List ActorInput)
    (published : List Dispatch) : Prop :=
  ∃ sources : List (Nat × Dispatch), sources.map Prod.snd = published ∧
    (sources.map Prod.fst).Pairwise (· < ·) ∧
    ∀ source ∈ sources, Provenance prim first nonce inputs source.1 source.2

private theorem explained_snoc_same {prim : Primitives} {first : Actor} {nonce : Bytes}
    {inputs : List ActorInput} {published : List Dispatch}
    (explained : Explained prim first nonce inputs published) (input : ActorInput) :
    Explained prim first nonce (inputs ++ [input]) published := by
  obtain ⟨sources, listed, ordered, each⟩ := explained
  exact ⟨sources, listed, ordered, fun source member => (each source member).snoc input⟩

private theorem explained_snoc_new {prim : Primitives} {first : Actor} {nonce : Bytes}
    {inputs : List ActorInput} {published : List Dispatch} {input : ActorInput} {request : Dispatch}
    (explained : Explained prim first nonce inputs published)
    (new : Provenance prim first nonce (inputs ++ [input]) inputs.length request) :
    Explained prim first nonce (inputs ++ [input]) (published ++ [request]) := by
  obtain ⟨sources, listed, ordered, each⟩ := explained
  refine ⟨sources ++ [(inputs.length, request)], by simp [listed], ?_, ?_⟩
  · rw [List.map_append, List.pairwise_append]
    refine ⟨ordered, by simp, ?_⟩
    intro earlier member later single
    obtain ⟨source, belongs, rfl⟩ := List.mem_map.mp member
    have last : later = inputs.length := by simpa using single
    exact last ▸ provenance_lt (each source belongs)
  · intro source member
    rcases List.mem_append.mp member with old | added
    · exact (each source old).snoc input
    · rw [List.mem_singleton.mp added]
      exact new

private theorem explained_run {prim : Primitives} {first : Actor} {nonce : IdNonce}
    (initial : first.phase = .handshaking nonce) (healthy : first.ReportedNothing)
    (empty : first.published = []) (inputs : List ActorInput) {final : Actor}
    (ran : first.run prim inputs = .ok final) :
    Explained prim first nonce.asBytes inputs final.published := by
  induction inputs using List.reverseRecOn generalizing final with
  | nil =>
      cases ran
      exact ⟨[], by simp [empty], by simp, by simp⟩
  | append_singleton inputs input ih =>
      obtain ⟨before, earlier, delivered⟩ := run_snoc_ok ran
      have explained := ih earlier
      have facts := phaseFacts_run initial healthy inputs earlier
      rcases deliver_cases delivered with ⟨value, rfl, rfl⟩ | ⟨message, draw, admitted, turn, rfl,
          reaction, rfl⟩
      · exact explained_snoc_same explained _
      · obtain ⟨phase, sent, dispatched, published⟩ := before
        cases reaction with
        | ignored | pong _ | certificates _ | reconnection _ | accepted _ | violated _ _ =>
            exact explained_snoc_same explained _
        | @dispatched connectionId correlationId payload signed present least most =>
            cases admitted with
            | false => exact explained_snoc_same explained _
            | true =>
                refine explained_snoc_new explained ⟨?_, ?_, ?_⟩
                · exact ⟨signed, draw, true, by simp, present, least, most⟩
                · rw [List.take_left]
                  exact facts.2
                · rw [List.take_left]
                  exact ⟨_, earlier, facts.1⟩

/-- Every published request comes, unchanged and in arrival order, from a
signed request with an acceptable certificate id, received after exactly one
accepted acknowledgement of this connection's hello and before any protocol
error. -/
theorem published_provenance (prim : Primitives) (metrics : InstanceMetrics) (appInfo : AppInfo)
    (draw : Draw) (first final : Actor) (inputs : List ActorInput)
    (started : Actor.start metrics appInfo draw = .ok first)
    (ran : first.run prim inputs = .ok final) :
    ∃ hello, first.sent = [.clientHello hello] ∧
      ∃ sources : List (Nat × Dispatch), sources.map Prod.snd = final.published ∧
        (sources.map Prod.fst).Pairwise (· < ·) ∧
        ∀ source ∈ sources, Provenance prim first hello.clientNonce inputs source.1 source.2 := by
  obtain ⟨nonce, hello, carried, rfl⟩ := start_ok started
  refine ⟨hello, rfl, ?_⟩
  rw [carried]
  exact explained_run rfl (by simp [ReportedNothing]) rfl inputs ran

/-- The crate's fixture as a connection: its client nonce is drawn for the
hello, and the acknowledgement proposes the matching identifier. -/
def fixtureDraw : Draw := some (Vector.replicate 16 13)

def fixtureAck : ActorInput :=
  .server (.ok (.clientHelloAck ⟨List.replicate 16 42, fixtureId⟩)) fixtureDraw true

def fixtureDispatch (id : UInt64) : ActorInput :=
  .server (.ok (.dispatch ⟨id⟩ ⟨[1]⟩ (some ⟨List.replicate 16 7, [1]⟩))) none true

def fixtureMetrics : InstanceMetrics := ⟨⟨none, 0, 1, 0, none⟩, 0, 0, 0⟩

def fixtureApp : AppInfo := ⟨"bananas", "1.0.0"⟩

def fixtureNonce : IdNonce := ⟨Vector.replicate 16 13, by decide⟩

def fixtureHello : ClientHello :=
  ⟨List.replicate 16 13, 0, 0, 0, none, ⟨none, 0, 1, 0, none⟩, "bananas", "1.0.0"⟩

def fixtureFirst : Actor := ⟨.handshaking fixtureNonce, [.clientHello fixtureHello], [], []⟩

theorem published_provenance_fixture :
    Actor.start fixtureMetrics fixtureApp fixtureDraw = .ok fixtureFirst ∧
    ∃ final, fixtureFirst.run fixturePrimitives [fixtureAck, fixtureDispatch 5] = .ok final ∧
      final.published = [⟨⟨5⟩, ⟨[1]⟩⟩] ∧ ∃ hello, fixtureFirst.sent = [.clientHello hello] ∧
      ∃ sources : List (Nat × Dispatch), sources.map Prod.snd = final.published ∧
        (sources.map Prod.fst).Pairwise (· < ·) ∧
        ∀ source ∈ sources, Provenance fixturePrimitives fixtureFirst hello.clientNonce
          [fixtureAck, fixtureDispatch 5] source.1 source.2 := by
  have started : Actor.start fixtureMetrics fixtureApp fixtureDraw = .ok fixtureFirst := by rfl
  refine ⟨started, _, rfl, rfl, ?_⟩
  exact published_provenance fixturePrimitives fixtureMetrics fixtureApp fixtureDraw fixtureFirst _
    _ started rfl

end Actor

end LibddRc
