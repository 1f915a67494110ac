import LibddRc.Go.Context

/-! Calls of `Connected`, `Recv` and `Close` on one connection, one after the
other as its mutex makes them, and the native calls they lead to. A native call
may fail. What the invoke pool reports in the meantime is left out. -/

set_option autoImplicit false

namespace LibddRc.Go

/-- A call with its arguments, and whether the native call succeeds if the call
gets that far. -/
inductive ConnectionCall
  | connected (endpointHostname : String) (succeeds : Bool)
  | recv (data : Bytes) (succeeds : Bool)
  | close
  deriving DecidableEq

/-- What a call on a connection of a context returns. -/
def ConnectionCall.result (index : Nat) (err : Option ApiError) : ConnectionCall → ApiResult
  | .connected _ _ => .connected index err
  | .recv _ _ => .recv index err
  | .close => .close index err

/-- A connection as far as these calls read and change it. -/
structure SerialConnection where
  lifecycle : ConnLifecycle
  native : List NativeCall
  deriving DecidableEq

namespace SerialConnection

/-- What `NewConnection` returns. -/
def new : SerialConnection := ⟨.init, [.new, .sendCallback]⟩

def connected (conn : SerialConnection) (endpointHostname : String) (succeeds : Bool) :
    SerialConnection × Option ApiError :=
  if endpointHostname = "" then
    (conn, some (.text "libddrc: endpointHostname must not be empty"))
  else if maxStringLen < endpointHostname.utf8ByteSize then
    (conn, some (.text "libddrc: endpointHostname must not be longer than 255 bytes"))
  else
    match conn.lifecycle.markConnected with
    | .error err => (conn, some (.lifecycle err))
    | .ok lifecycle => (⟨lifecycle, conn.native ++ [.connected endpointHostname succeeds]⟩,
        if succeeds then none else some (.returned "rc_conn_connected"))

def recv (conn : SerialConnection) (data : Bytes) (succeeds : Bool) :
    SerialConnection × Option ApiError :=
  if data = [] then (conn, some .emptyPayload)
  else
    match conn.lifecycle.checkRecvable with
    | .error err => (conn, some (.lifecycle err))
    | .ok () => ({ conn with native := conn.native ++ [.recv data] },
        if succeeds then none else some (.returned "rc_conn_recv"))

def close (conn : SerialConnection) : SerialConnection × Option ApiError :=
  match conn.lifecycle.markClosed with
  | .error err => (conn, some (.lifecycle err))
  | .ok (wasConnected, lifecycle) =>
      (⟨lifecycle, conn.native ++ (if wasConnected then [.disconnected] else []) ++ [.free]⟩, none)

def call (conn : SerialConnection) : ConnectionCall → SerialConnection × Option ApiError
  | .connected endpointHostname succeeds => conn.connected endpointHostname succeeds
  | .recv data succeeds => conn.recv data succeeds
  | .close => conn.close

def calls (conn : SerialConnection) (calls : List ConnectionCall) : SerialConnection :=
  calls.foldl (fun conn call => (conn.call call).1) conn

/-- What calls that follow one another return. -/
def results (index : Nat) : SerialConnection → List ConnectionCall → List ApiResult
  | _, [] => []
  | conn, call :: rest =>
      call.result index (conn.call call).2 :: results index (conn.call call).1 rest

end SerialConnection

/-- Calls that the native connection must be connected for. -/
def NativeCall.needsConnected : NativeCall → Bool
  | .recv _ | .disconnected => true
  | .new | .sendCallback | .connected _ _ | .dispatch _ _ | .free => false

/-- Such calls are made only after a call of `connected` that succeeded. -/
def AfterConnected (log : List NativeCall) : Prop :=
  ∀ before call after, log = before ++ call :: after → call.needsConnected = true →
    ∃ endpointHostname, .connected endpointHostname true ∈ before

/-- A host name that `Connected` passes on. -/
def acceptsHostname (endpointHostname : String) : Bool :=
  endpointHostname ≠ "" ∧ endpointHostname.utf8ByteSize ≤ maxStringLen

/-- Calls that reach the native connection once `Connected` was called. -/
def ConnectionCall.reaches : ConnectionCall → Bool
  | .connected _ _ => false
  | .recv data _ => data ≠ []
  | .close => true

/-- The first `Connected` with a proper host name comes before any `Close`, its
native call fails, and a `Recv` with data or a `Close` follows. -/
def UsedAfterFailure : List ConnectionCall → Prop
  | [] => False
  | .connected endpointHostname succeeds :: rest =>
      if acceptsHostname endpointHostname then
        succeeds = false ∧ ∃ call ∈ rest, call.reaches = true
      else UsedAfterFailure rest
  | .recv _ _ :: rest => UsedAfterFailure rest
  | .close :: _ => False

/-! ## Logs -/

section Logs

variable {log more : List NativeCall} {call : NativeCall}

theorem AfterConnected.nil : AfterConnected [] := by
  intro before call after split
  simp at split

theorem AfterConnected.of_append (ordered : AfterConnected (log ++ more)) : AfterConnected log := by
  intro before call after split needs
  apply ordered before call (after ++ more) _ needs
  rw [split, List.append_assoc, List.cons_append]

/-- Such a call is out of order if nothing before it has succeeded. -/
theorem not_afterConnected
    (unconnected : ∀ endpointHostname, .connected endpointHostname true ∉ log)
    (needs : call.needsConnected = true) : ¬ AfterConnected (log ++ [call] ++ more) := by
  intro ordered
  obtain ⟨endpointHostname, connected⟩ := ordered.of_append log call [] rfl needs
  exact unconnected endpointHostname connected

theorem AfterConnected.append (ordered : AfterConnected log)
    (last : call.needsConnected = true →
      ∃ endpointHostname, .connected endpointHostname true ∈ log) :
    AfterConnected (log ++ [call]) := by
  intro before other after split needs
  rcases List.eq_nil_or_concat after with nil | ⟨earlier, final, concat⟩
  · subst nil
    obtain ⟨rfl, same⟩ := List.append_inj' split rfl
    cases same
    exact last needs
  · subst concat
    rw [List.concat_eq_append, ← List.cons_append, ← List.append_assoc] at split
    exact ordered before other earlier (List.append_inj' split rfl).1 needs

end Logs

/-! ## Calls -/

namespace SerialConnection

variable {native : List NativeCall} {serial : SerialConnection}

/-- A connection on which nothing but `NewConnection` has taken effect. -/
abbrev fresh (native : List NativeCall) : SerialConnection := ⟨⟨false, false⟩, native⟩

/-- A connection whose `Connected` was called, whatever came of it. -/
abbrev marked (native : List NativeCall) : SerialConnection := ⟨⟨false, true⟩, native⟩

theorem connected_refused {conn : SerialConnection} {err : LifecycleError}
    (refused : conn.lifecycle.markConnected = .error err) (endpointHostname : String)
    (succeeds : Bool) : (conn.connected endpointHostname succeeds).1 = conn := by
  unfold connected
  rw [refused]
  split
  · rfl
  · split
    · rfl
    · rfl

theorem recv_refused {conn : SerialConnection} {err : LifecycleError}
    (refused : conn.lifecycle.checkRecvable = .error err) (data : Bytes) (succeeds : Bool) :
    (conn.recv data succeeds).1 = conn := by
  unfold recv
  rw [refused]
  split
  · rfl
  · rfl

theorem call_unnamed (conn : SerialConnection) (succeeds : Bool) :
    conn.call (.connected "" succeeds) =
      (conn, some (.text "libddrc: endpointHostname must not be empty")) := rfl

theorem call_overlong (conn : SerialConnection) {endpointHostname : String}
    (named : endpointHostname ≠ "") (long : maxStringLen < endpointHostname.utf8ByteSize)
    (succeeds : Bool) : conn.call (.connected endpointHostname succeeds) =
      (conn, some (.text "libddrc: endpointHostname must not be longer than 255 bytes")) := by
  simp [call, connected, named, long]

theorem call_emptyPayload (conn : SerialConnection) (succeeds : Bool) :
    conn.call (.recv [] succeeds) = (conn, some .emptyPayload) := rfl

theorem call_closed (wasConnected : Bool) (call : ConnectionCall) :
    (SerialConnection.call ⟨⟨true, wasConnected⟩, native⟩ call).1 =
      ⟨⟨true, wasConnected⟩, native⟩ := by
  cases call with
  | connected endpointHostname succeeds => exact connected_refused rfl endpointHostname succeeds
  | recv data succeeds => exact recv_refused rfl data succeeds
  | close => rfl

theorem calls_closed (wasConnected : Bool) (calls : List ConnectionCall) :
    SerialConnection.calls ⟨⟨true, wasConnected⟩, native⟩ calls =
      ⟨⟨true, wasConnected⟩, native⟩ := by
  induction calls with
  | nil => rfl
  | cons call calls ih => rw [SerialConnection.calls, List.foldl_cons, call_closed]; exact ih

theorem connected_fresh (endpointHostname : String) (succeeds : Bool) :
    ((fresh native).connected endpointHostname succeeds).1 =
      if acceptsHostname endpointHostname then
        marked (native ++ [.connected endpointHostname succeeds])
      else fresh native := by
  unfold connected acceptsHostname
  by_cases empty : endpointHostname = ""
  · simp [empty]
  · by_cases long : maxStringLen < endpointHostname.utf8ByteSize
    · simp [empty, long]
    · simp [empty, long, Nat.not_lt.mp long, ConnLifecycle.markConnected]

theorem recv_marked {data : Bytes} (succeeds : Bool) (nonempty : data ≠ []) :
    ((marked native).recv data succeeds).1 = marked (native ++ [.recv data]) := by
  simp [recv, nonempty, ConnLifecycle.checkRecvable]

theorem close_marked :
    (marked native).close.1 = ⟨⟨true, true⟩, native ++ [.disconnected] ++ [.free]⟩ := rfl

theorem close_fresh : (fresh native).close.1 = ⟨⟨true, false⟩, native ++ [] ++ [.free]⟩ := rfl

theorem calls_cons (conn : SerialConnection) (call : ConnectionCall)
    (calls : List ConnectionCall) :
    conn.calls (call :: calls) = (conn.call call).1.calls calls := rfl

theorem calls_append (conn : SerialConnection) (calls : List ConnectionCall)
    (call : ConnectionCall) :
    conn.calls (calls ++ [call]) = ((conn.calls calls).call call).1 := by
  simp [SerialConnection.calls]

theorem calls_call {conn after : SerialConnection} {calls : List ConnectionCall}
    {call : ConnectionCall} {err : Option ApiError}
    (effect : (conn.calls calls).call call = (after, err)) :
    conn.calls (calls ++ [call]) = after := by
  rw [calls_append, effect]

theorem results_append (index : Nat) (conn : SerialConnection) (calls : List ConnectionCall)
    (call : ConnectionCall) :
    results index conn (calls ++ [call]) =
      results index conn calls ++ [call.result index ((conn.calls calls).call call).2] := by
  induction calls generalizing conn with
  | nil => rfl
  | cons first rest ih =>
      rw [List.cons_append, results, ih, calls_cons]
      rfl

theorem connected_refuses {endpointHostname : String} {err : LifecycleError}
    (accepted : acceptsHostname endpointHostname = true)
    (refused : serial.lifecycle.markConnected = .error err) (succeeds : Bool) :
    serial.call (.connected endpointHostname succeeds) = (serial, some (.lifecycle err)) := by
  simp only [acceptsHostname, decide_eq_true_eq] at accepted
  rw [call, connected, if_neg accepted.1, if_neg (not_lt.mpr accepted.2), refused]

theorem connected_reaches {endpointHostname : String}
    (accepted : acceptsHostname endpointHostname = true) (fresh : serial.lifecycle = .init)
    (succeeds : Bool) :
    serial.call (.connected endpointHostname succeeds) =
      (⟨⟨false, true⟩, serial.native ++ [.connected endpointHostname succeeds]⟩,
        if succeeds then none else some (.returned "rc_conn_connected")) := by
  simp only [acceptsHostname, decide_eq_true_eq] at accepted
  rw [call, connected, if_neg accepted.1, if_neg (not_lt.mpr accepted.2), fresh]
  rfl

theorem recv_refuses {data : Bytes} {err : LifecycleError} (filled : data ≠ [])
    (refused : serial.lifecycle.checkRecvable = .error err) (succeeds : Bool) :
    serial.call (.recv data succeeds) = (serial, some (.lifecycle err)) := by
  rw [call, recv, if_neg filled, refused]

theorem recv_reaches {data : Bytes} (filled : data ≠ [])
    (connected : serial.lifecycle = ⟨false, true⟩) (succeeds : Bool) :
    serial.call (.recv data succeeds) =
      (⟨⟨false, true⟩, serial.native ++ [.recv data]⟩,
        if succeeds then none else some (.returned "rc_conn_recv")) := by
  obtain ⟨lifecycle, native⟩ := serial
  cases connected
  rw [call, recv, if_neg filled]
  rfl

theorem close_refuses (closed : serial.lifecycle.closed = true) :
    serial.call .close = (serial, some (.lifecycle .connectionClosed)) := by
  simp [call, close, ConnLifecycle.markClosed, closed]

theorem close_frees {wasConnected : Bool} (unclosed : serial.lifecycle = ⟨false, wasConnected⟩) :
    serial.call .close = (⟨⟨true, wasConnected⟩,
      serial.native ++ (if wasConnected then [.disconnected] else []) ++ [.free]⟩, none) := by
  simp [call, close, ConnLifecycle.markClosed, unclosed]

theorem close_calls_marked (calls : List ConnectionCall) :
    ((marked native).calls (.close :: calls)).native = native ++ [.disconnected] ++ [.free] := by
  rw [calls_cons, call, close_marked, calls_closed]

/-- Native calls are added and never taken back. -/
theorem marked_calls_grow (calls : List ConnectionCall) :
    ∃ more, ((marked native).calls calls).native = native ++ more := by
  induction calls generalizing native with
  | nil => exact ⟨[], (List.append_nil _).symm⟩
  | cons call calls ih =>
      cases call with
      | connected endpointHostname succeeds =>
          rw [calls_cons, SerialConnection.call, connected_refused rfl]
          exact ih
      | recv data succeeds =>
          by_cases empty : data = []
          · subst empty
            exact ih
          · rw [calls_cons, SerialConnection.call, recv_marked succeeds empty]
            obtain ⟨more, same⟩ := @ih (native ++ [.recv data])
            exact ⟨.recv data :: more, by simpa using same⟩
      | close =>
          rw [close_calls_marked, List.append_assoc]
          exact ⟨_, rfl⟩

/-- Once the native `connected` call has succeeded, every later call is in order. -/
theorem calls_connected {calls : List ConnectionCall} (ordered : AfterConnected native)
    {endpointHostname : String} (connected : .connected endpointHostname true ∈ native) :
    AfterConnected ((marked native).calls calls).native := by
  induction calls generalizing native with
  | nil => exact ordered
  | cons call calls ih =>
      cases call with
      | connected another succeeds =>
          rw [calls_cons, SerialConnection.call, connected_refused rfl]
          exact ih ordered connected
      | recv data succeeds =>
          by_cases empty : data = []
          · subst empty
            exact ih ordered connected
          · rw [calls_cons, SerialConnection.call, recv_marked succeeds empty]
            apply ih
            · exact ordered.append fun _ => ⟨endpointHostname, connected⟩
            · exact List.mem_append_left _ connected
      | close =>
          rw [close_calls_marked]
          apply AfterConnected.append
          · exact ordered.append fun _ => ⟨endpointHostname, connected⟩
          · simp [NativeCall.needsConnected]

/-- After a failed one, the first call that reaches the native connection is out
of order, and none is if there is no such call. -/
theorem calls_failed_iff {calls : List ConnectionCall} (ordered : AfterConnected native)
    (unconnected : ∀ endpointHostname, .connected endpointHostname true ∉ native) :
    AfterConnected ((marked native).calls calls).native ↔
      ¬ ∃ call ∈ calls, call.reaches = true := by
  induction calls with
  | nil => simpa [SerialConnection.calls] using ordered
  | cons call calls ih =>
      cases call with
      | connected another succeeds =>
          rw [calls_cons, SerialConnection.call, connected_refused rfl, ih]
          simp [ConnectionCall.reaches]
      | recv data succeeds =>
          by_cases empty : data = []
          · subst empty
            rw [show (marked native).calls (.recv [] succeeds :: calls) =
              (marked native).calls calls from rfl, ih]
            simp [ConnectionCall.reaches]
          · rw [calls_cons, SerialConnection.call, recv_marked succeeds empty]
            obtain ⟨more, grown⟩ := @marked_calls_grow (native ++ [.recv data]) calls
            have reaches : ConnectionCall.reaches (.recv data succeeds) = true := by
              simpa [ConnectionCall.reaches] using empty
            rw [grown]
            apply iff_of_false
            · exact not_afterConnected unconnected rfl
            · exact not_not_intro ⟨_, List.mem_cons_self, reaches⟩
      | close =>
          rw [close_calls_marked]
          apply iff_of_false
          · exact not_afterConnected unconnected rfl
          · exact not_not_intro ⟨_, List.mem_cons_self, rfl⟩

theorem calls_fresh_iff {calls : List ConnectionCall} (ordered : AfterConnected native)
    (unconnected : ∀ endpointHostname, .connected endpointHostname true ∉ native) :
    AfterConnected ((fresh native).calls calls).native ↔ ¬ UsedAfterFailure calls := by
  induction calls with
  | nil => simpa [SerialConnection.calls, UsedAfterFailure] using ordered
  | cons call calls ih =>
      cases call with
      | recv data succeeds =>
          rw [calls_cons, SerialConnection.call, recv_refused rfl, ih]
          rfl
      | close =>
          rw [calls_cons, SerialConnection.call, close_fresh, calls_closed]
          simp only [UsedAfterFailure, not_false_eq_true, iff_true, List.append_nil]
          exact ordered.append (by simp [NativeCall.needsConnected])
      | connected endpointHostname succeeds =>
          rw [calls_cons, SerialConnection.call, connected_fresh, UsedAfterFailure]
          have still : AfterConnected (native ++ [.connected endpointHostname succeeds]) :=
            ordered.append (by simp [NativeCall.needsConnected])
          cases acceptsHostname endpointHostname with
          | false => simpa using ih
          | true =>
              cases succeeds with
              | true =>
                  have connected := @calls_connected _ calls still endpointHostname
                    (List.mem_append_right _ List.mem_cons_self)
                  simpa using connected
              | false =>
                  have failed := @calls_failed_iff _ calls still (by simpa using unconnected)
                  simpa using failed

end SerialConnection

/-- Native `recv` and `disconnected` follow a native `connected` that succeeded,
unless the native call of the first proper `Connected` fails and the connection
is used or closed after that. -/
theorem native_calls_after_connected_iff (calls : List ConnectionCall) :
    AfterConnected (SerialConnection.new.calls calls).native ↔ ¬ UsedAfterFailure calls := by
  have created : AfterConnected ([] ++ [.new] ++ [.sendCallback]) := by
    apply AfterConnected.append
    · exact AfterConnected.nil.append (by simp [NativeCall.needsConnected])
    · simp [NativeCall.needsConnected]
  exact SerialConnection.calls_fresh_iff created (by simp)

/-- `rc_conn_connected` fails, and `Recv` calls `rc_conn_recv` all the same. -/
theorem recv_after_failed_connected :
    ¬ AfterConnected (SerialConnection.new.calls
      [.connected "config.datadoghq.com" false, .recv [1] true]).native := by
  intro ordered
  obtain ⟨endpointHostname, connected⟩ := ordered
    [.new, .sendCallback, .connected "config.datadoghq.com" false] (.recv [1]) [] rfl rfl
  simp at connected

end LibddRc.Go
