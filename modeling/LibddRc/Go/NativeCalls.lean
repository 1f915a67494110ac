import LibddRc.Connection.Model

/-! The calls of the client library that a Go connection makes, and the order
the library demands: the connection is created and configured, then connected,
fed and disconnected or none of these, then freed. Dispatch results are only
reported in between. -/

set_option autoImplicit false

namespace LibddRc.Go

/-- A call on one `FFIConnection`. A call of `rc_conn_connected` is recorded with
whether it succeeded. -/
inductive NativeCall
  | new
  | sendCallback
  | connected (endpointHostname : String) (success : Bool)
  | recv (data : Bytes)
  | dispatch (correlationID : UInt64) (answer : HostAnswer)
  | disconnected
  | free
  deriving DecidableEq

namespace NativeCall

/-- A call of `rc_conn_dispatch_result` or `rc_conn_dispatch_error`. -/
def isDispatch : NativeCall → Bool
  | .dispatch _ _ => true
  | _ => false

def isRecv : NativeCall → Bool
  | .recv _ => true
  | _ => false

def isConnected : NativeCall → Bool
  | .connected _ _ => true
  | _ => false

end NativeCall

/-- How far a connection is, by the calls made for it. -/
inductive NativePhase
  | fresh
  | created
  | configured
  | connected
  | disconnected
  | freed
  deriving DecidableEq

/-- The calls allowed in each phase. -/
def NativePhase.next : NativePhase → NativeCall → Option NativePhase
  | .fresh, .new => some .created
  | .created, .sendCallback => some .configured
  | .configured, .connected _ _ => some .connected
  | .configured, .dispatch _ _ => some .configured
  | .configured, .free => some .freed
  | .connected, .recv _ => some .connected
  | .connected, .dispatch _ _ => some .connected
  | .connected, .disconnected => some .disconnected
  | .disconnected, .free => some .freed
  | _, _ => none

/-- The phase after a log, if each of its calls was allowed. -/
def phaseAfter (log : List NativeCall) : Option NativePhase := log.foldlM NativePhase.next .fresh

theorem phaseAfter_append (log : List NativeCall) (call : NativeCall) :
    phaseAfter (log ++ [call]) = (phaseAfter log).bind fun phase => phase.next call := by
  simp [phaseAfter]

/-- The calls of a log other than dispatch results. -/
def lifecycleCalls (log : List NativeCall) : List NativeCall :=
  log.filter fun call => !call.isDispatch

/-- A log in the order the library demands: one of the two lifecycles or a part
of it, a connected one disconnected before it is freed, and nothing after
`free`. -/
structure Ordered (log : List NativeCall) : Prop where
  shape : lifecycleCalls log <+: [.new, .sendCallback, .free] ∨
    ∃ endpointHostname success recvs, (∀ call ∈ recvs, call.isRecv = true) ∧
      lifecycleCalls log <+: .new :: .sendCallback :: .connected endpointHostname success ::
        (recvs ++ [.disconnected, .free])
  paired : .free ∈ log → (.disconnected ∈ log ↔ ∃ call ∈ log, call.isConnected = true)
  last : ∀ before rest, log = before ++ .free :: rest → rest = []

/-- What the calls of a log are in each phase. -/
def NativePhase.Reads (calls : List NativeCall) : NativePhase → Prop
  | .fresh => calls = []
  | .created => calls = [.new]
  | .configured => calls = [.new, .sendCallback]
  | .connected => ∃ endpointHostname success recvs, (∀ call ∈ recvs, call.isRecv = true) ∧
      calls = .new :: .sendCallback :: .connected endpointHostname success :: recvs
  | .disconnected => ∃ endpointHostname success recvs, (∀ call ∈ recvs, call.isRecv = true) ∧
      calls = .new :: .sendCallback :: .connected endpointHostname success ::
        (recvs ++ [.disconnected])
  | .freed => calls = [.new, .sendCallback, .free] ∨
      ∃ endpointHostname success recvs, (∀ call ∈ recvs, call.isRecv = true) ∧
        calls = .new :: .sendCallback :: .connected endpointHostname success ::
          (recvs ++ [.disconnected, .free])

theorem lifecycleCalls_append (log : List NativeCall) (call : NativeCall) :
    lifecycleCalls (log ++ [call]) =
      lifecycleCalls log ++ if call.isDispatch then [] else [call] := by
  cases dispatch : call.isDispatch <;> simp [lifecycleCalls, dispatch]

private theorem reads_next {calls : List NativeCall} {phase next : NativePhase} {call : NativeCall}
    (reads : phase.Reads calls) (allowed : phase.next call = some next) :
    next.Reads (calls ++ if call.isDispatch then [] else [call]) := by
  cases phase with
  | fresh =>
      cases call with
      | new =>
          cases allowed
          simp only [NativePhase.Reads] at reads
          simp [NativePhase.Reads, NativeCall.isDispatch, reads]
      | sendCallback | connected | recv | dispatch | disconnected | free => cases allowed
  | created =>
      cases call with
      | sendCallback =>
          cases allowed
          simp only [NativePhase.Reads] at reads
          simp [NativePhase.Reads, NativeCall.isDispatch, reads]
      | new | connected | recv | dispatch | disconnected | free => cases allowed
  | configured =>
      simp only [NativePhase.Reads] at reads
      cases call with
      | connected endpointHostname success =>
          cases allowed
          exact ⟨endpointHostname, success, [], by simp, by simp [NativeCall.isDispatch, reads]⟩
      | dispatch =>
          cases allowed
          simp [NativePhase.Reads, NativeCall.isDispatch, reads]
      | free =>
          cases allowed
          exact .inl (by simp [NativeCall.isDispatch, reads])
      | new | sendCallback | recv | disconnected => cases allowed
  | connected =>
      obtain ⟨endpointHostname, success, recvs, received, rfl⟩ := reads
      cases call with
      | recv data =>
          cases allowed
          refine ⟨endpointHostname, success, recvs ++ [.recv data], ?_, ?_⟩
          · simpa [or_imp, forall_and, NativeCall.isRecv] using received
          · simp [NativeCall.isDispatch]
      | dispatch =>
          cases allowed
          exact ⟨endpointHostname, success, recvs, received, by simp [NativeCall.isDispatch]⟩
      | disconnected =>
          cases allowed
          exact ⟨endpointHostname, success, recvs, received, by simp [NativeCall.isDispatch]⟩
      | new | sendCallback | connected | free => cases allowed
  | disconnected =>
      obtain ⟨endpointHostname, success, recvs, received, rfl⟩ := reads
      cases call with
      | free =>
          cases allowed
          right
          exact ⟨endpointHostname, success, recvs, received, by simp [NativeCall.isDispatch]⟩
      | new | sendCallback | connected | recv | dispatch | disconnected => cases allowed
  | freed => cases allowed

theorem reads_of_phase {log : List NativeCall} {phase : NativePhase}
    (reached : phaseAfter log = some phase) : phase.Reads (lifecycleCalls log) := by
  induction log using List.reverseRecOn generalizing phase with
  | nil =>
      cases reached
      rfl
  | append_singleton log call ih =>
      rw [phaseAfter_append] at reached
      obtain ⟨before, earlier, allowed⟩ := Option.bind_eq_some_iff.mp reached
      rw [lifecycleCalls_append]
      exact reads_next (ih earlier) allowed

private theorem mem_lifecycleCalls {log : List NativeCall} {call : NativeCall}
    (kept : call.isDispatch = false) : call ∈ lifecycleCalls log ↔ call ∈ log := by
  simp [lifecycleCalls, kept]

/-- A connection is freed once `free` was called for it. -/
theorem freed_of_mem {log : List NativeCall} {phase : NativePhase}
    (reached : phaseAfter log = some phase) (freed : .free ∈ log) : phase = .freed := by
  have reads := reads_of_phase reached
  have called : NativeCall.free ∈ lifecycleCalls log := (mem_lifecycleCalls rfl).mpr freed
  cases phase with
  | fresh | created | configured =>
      simp only [NativePhase.Reads] at reads
      simp [reads] at called
  | connected | disconnected =>
      obtain ⟨_, _, recvs, received, calls⟩ := reads
      have among : NativeCall.free ∈ recvs := by simpa [calls] using called
      cases received .free among
  | freed => rfl

theorem free_mem {log : List NativeCall} (reached : phaseAfter log = some .freed) :
    .free ∈ log := by
  rw [← mem_lifecycleCalls rfl]
  rcases reads_of_phase reached with calls | ⟨_, _, _, _, calls⟩ <;> simp [calls]

private theorem paired_of_phase {log : List NativeCall}
    (reached : phaseAfter log = some .freed) :
    .disconnected ∈ log ↔ ∃ call ∈ log, call.isConnected = true := by
  rw [← mem_lifecycleCalls rfl]
  have connects : (∃ call ∈ log, call.isConnected = true) ↔
      ∃ call ∈ lifecycleCalls log, call.isConnected = true := by
    constructor
    · rintro ⟨call, member, connected⟩
      refine ⟨call, (mem_lifecycleCalls ?_).mpr member, connected⟩
      cases call <;> first | rfl | cases connected
    · rintro ⟨call, member, connected⟩
      exact ⟨call, List.mem_of_mem_filter member, connected⟩
  rw [connects]
  rcases reads_of_phase reached with calls | ⟨endpointHostname, success, recvs, _, calls⟩
  · simp [calls, NativeCall.isConnected]
  · rw [calls]
    refine iff_of_true (by simp) ⟨.connected endpointHostname success, by simp, rfl⟩

private theorem nothing_after_free {before rest : List NativeCall} {phase : NativePhase}
    (reached : phaseAfter (before ++ .free :: rest) = some phase) : rest = [] := by
  rcases List.eq_nil_or_concat rest with none | ⟨earlier, call, rfl⟩
  · exact none
  · rw [List.concat_eq_append, ← List.cons_append, ← List.append_assoc,
      phaseAfter_append] at reached
    obtain ⟨middle, allowedBefore, allowed⟩ := Option.bind_eq_some_iff.mp reached
    cases freed_of_mem allowedBefore (by simp)
    cases allowed

/-- Every log of allowed calls is in order. -/
theorem ordered_of_phase {log : List NativeCall} {phase : NativePhase}
    (reached : phaseAfter log = some phase) : Ordered log := by
  have reads := reads_of_phase reached
  refine ⟨?_, ?_, ?_⟩
  · cases phase with
    | fresh | created | configured =>
        left
        simp only [NativePhase.Reads] at reads
        simp [reads]
    | connected =>
        obtain ⟨endpointHostname, success, recvs, received, calls⟩ := reads
        exact .inr ⟨endpointHostname, success, recvs, received, by simp [calls]⟩
    | disconnected =>
        obtain ⟨endpointHostname, success, recvs, received, calls⟩ := reads
        exact .inr ⟨endpointHostname, success, recvs, received, by simp [calls]⟩
    | freed =>
        rcases reads with calls | ⟨endpointHostname, success, recvs, received, calls⟩
        · exact .inl (by simp [calls])
        · exact .inr ⟨endpointHostname, success, recvs, received, by simp [calls]⟩
  · intro freed
    cases freed_of_mem reached freed
    exact paired_of_phase reached
  · rintro before rest rfl
    exact nothing_after_free reached

end LibddRc.Go
