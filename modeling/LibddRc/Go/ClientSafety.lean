import LibddRc.Go.Client

/-! What holds for one client under any interleaving of `Start` and `Close`
calls: one goroutine at most runs the loop, and the goroutine that closes the
client waits for it before it touches the FFI context. -/

set_option autoImplicit false

namespace LibddRc.Go

open Foundation

/-- Between `c.mu.Lock` and `c.mu.Unlock`. -/
def ClientPc.locked : ClientPc → Bool
  | .startCheckingClosed | .startCheckingStarted | .startSettingCancel | .startAdding
  | .startUnlocking | .startRefusing _ | .closeCheckingClosed | .closeReadingCancel
  | .closeUnlocking _ | .closeRefusing => true
  | .idle | .startLocking | .running _ | .runReturned | .closeLocking | .closeCancelling _
  | .closeWaiting | .closeCallingFfi | .closeInsideFfi => false

/-- Inside `run`. -/
def ClientPc.InLoop (point : ClientPc) : Prop := ∃ pc, point = .running pc

/-- A `Close` call that returns anything but `ErrClientClosed`. -/
def ClientOutcome.decides : ClientOutcome → Bool
  | .close (some .clientClosed) | .start _ => false
  | .close none | .close (some .alreadyStarted) | .close (some .ffi) => true

namespace Client

def decided (client : Client) : Nat := client.outcomes.countP ClientOutcome.decides

/-- The records agree with the flags, and everything that happens once has
happened at most once. -/
structure Consistent (client : Client) : Prop where
  starter : client.starter = none ↔ client.started = false
  closer : client.closer = none ↔ client.closed = false
  unstarted : client.started = false → client.wg = 0 ∧ client.loops = 0
  unclosed : client.closed = false → client.ffiCloses = 0 ∧ client.decided = 0
  loops : client.loops ≤ 1
  ffiCloses : client.ffiCloses ≤ 1
  decided : client.decided ≤ 1
  shut : 0 < client.decided → client.closed = true ∧ client.wg = 0

/-- What goroutine `id` knows at each of its points, apart from the mutex. -/
def At (id : Nat) (client : Client) : ClientPc → Prop
  | .startCheckingStarted => client.closed = false
  | .startSettingCancel | .startAdding => client.closed = false ∧ client.starter = some id ∧
      client.loops = 0 ∧ client.wg = 0
  | .startUnlocking => client.starter = some id ∧ client.loops = 0 ∧ client.wg = 1
  | .running _ | .runReturned => client.starter = some id ∧ client.wg = 1
  | .closeReadingCancel | .closeUnlocking _ | .closeCancelling _ | .closeWaiting =>
      client.closer = some id ∧ client.ffiCloses = 0 ∧ client.decided = 0
  | .closeCallingFfi =>
      client.closer = some id ∧ client.ffiCloses = 0 ∧ client.decided = 0 ∧ client.wg = 0
  | .closeInsideFfi => client.closer = some id ∧ client.decided = 0 ∧ client.wg = 0
  | .idle | .startLocking | .startCheckingClosed | .startRefusing _ | .closeLocking
  | .closeCheckingClosed | .closeRefusing => True

def Knows (id : Nat) (client : Client) (point : ClientPc) : Prop :=
  (point.locked = true ↔ client.mu = some id) ∧ client.At id point

end Client

section Steps

variable {id other : Nat} {client after : Client} {point next elsewhere : ClientPc}

private theorem decided_append (client : Client) {outcome : ClientOutcome}
    (undecided : outcome.decides = false) :
    ({ client with outcomes := client.outcomes ++ [outcome] } : Client).decided =
      client.decided := by
  simp [Client.decided, undecided]

theorem Client.Consistent.started_of (consistent : client.Consistent)
    (starter : client.starter = some id) : client.started = true := by
  rw [← Bool.not_eq_false, ← consistent.starter]
  simp [starter]

theorem Client.Consistent.closed_of (consistent : client.Consistent)
    (closer : client.closer = some id) : client.closed = true := by
  rw [← Bool.not_eq_false, ← consistent.closer]
  simp [closer]

/-- An outcome that decides nothing changes nothing else. -/
private theorem Client.Consistent.append {mu : Option Nat} {outcome : ClientOutcome}
    (consistent : client.Consistent) (undecided : outcome.decides = false) :
    ({ client with mu, outcomes := client.outcomes ++ [outcome] } : Client).Consistent := by
  have same := decided_append client undecided
  exact { consistent with
    unclosed := fun unclosed => ⟨(consistent.unclosed unclosed).1,
      same.trans (consistent.unclosed unclosed).2⟩
    decided := Nat.le_trans (Nat.le_of_eq same) consistent.decided
    shut := fun decided => consistent.shut (same ▸ decided) }

theorem ClientMove.consistent (move : ClientMove id client point after next)
    (consistent : client.Consistent) (knows : client.Knows id point) : after.Consistent := by
  obtain ⟨_, known⟩ := knows
  cases move with
  | startCalled | closeCalled | startLocked | startClosed | startOpen | startAgain | cancelSet
  | ran | exited | closeLocked | closeAgain | cancelRead | closeUnlocked | cancelled | waited =>
      exact { consistent with }
  | startRefused | closeRefused => exact consistent.append rfl
  | startFirst => exact { consistent with starter := by simp, unstarted := by simp }
  | added =>
      obtain ⟨unclosed, starter, _, _⟩ := known
      have started := consistent.started_of starter
      refine { consistent with unstarted := ?_, shut := ?_ }
      · intro unstarted
        simp [started] at unstarted
      · intro decided
        have closed := (consistent.shut decided).1
        simp [unclosed] at closed
  | entered =>
      obtain ⟨starter, loops, _⟩ := known
      have started := consistent.started_of starter
      refine { consistent with unstarted := ?_, loops := ?_ }
      · intro unstarted
        simp [started] at unstarted
      · simp [loops]
  | finished =>
      obtain ⟨starter, wg⟩ := known
      have started := consistent.started_of starter
      have appended : ({ client with outcomes := client.outcomes ++ [.start none] } :
        Client).Consistent := consistent.append rfl
      refine { appended with unstarted := ?_, shut := ?_ }
      · intro unstarted
        simp [started] at unstarted
      · intro decided
        have drained := (appended.shut decided).2
        simp [wg] at drained
  | closeFirst unclosed =>
      obtain ⟨ffiCloses, undecided⟩ := consistent.unclosed unclosed
      refine { consistent with closer := by simp, unclosed := by simp, shut := ?_ }
      intro decided
      exact absurd undecided (Nat.ne_of_gt decided)
  | ffiCalled =>
      obtain ⟨closer, ffiCloses, _, _⟩ := known
      have closed := consistent.closed_of closer
      refine { consistent with unclosed := ?_, ffiCloses := ?_ }
      · intro unclosed
        simp [closed] at unclosed
      · simp [ffiCloses]
  | ffiReturned =>
      obtain ⟨closer, undecided, wg⟩ := known
      have closed := consistent.closed_of closer
      refine { consistent with unclosed := ?_, decided := ?_, shut := fun _ => ⟨closed, wg⟩ }
      · intro unclosed
        simp [closed] at unclosed
      · simp only [Client.decided] at undecided ⊢
        rw [List.countP_append, undecided, Nat.zero_add]
        exact List.countP_le_length

theorem ClientMove.knows (move : ClientMove id client point after next)
    (consistent : client.Consistent) (knows : client.Knows id point) : after.Knows id next := by
  obtain ⟨mutex, known⟩ := knows
  cases move with
  | startCalled | closeCalled | startClosed | startAgain | closeAgain => exact ⟨mutex, trivial⟩
  | startOpen unclosed => exact ⟨mutex, unclosed⟩
  | cancelSet | ran | exited | cancelRead | cancelled => exact ⟨mutex, known⟩
  | startLocked | closeLocked => exact ⟨by simp [ClientPc.locked], trivial⟩
  | startRefused | closeRefused => exact ⟨by simp [ClientPc.locked], trivial⟩
  | startFirst unstarted =>
      obtain ⟨wg, loops⟩ := consistent.unstarted unstarted
      exact ⟨mutex, known, rfl, loops, wg⟩
  | added =>
      obtain ⟨_, starter, loops, wg⟩ := known
      exact ⟨mutex, starter, loops, by simp [wg]⟩
  | entered =>
      obtain ⟨starter, _, wg⟩ := known
      exact ⟨by simp [ClientPc.locked], starter, wg⟩
  | finished => exact ⟨mutex, trivial⟩
  | closeFirst unclosed =>
      obtain ⟨ffiCloses, undecided⟩ := consistent.unclosed unclosed
      exact ⟨mutex, rfl, ffiCloses, undecided⟩
  | closeUnlocked => exact ⟨by simp [ClientPc.locked], known⟩
  | waited drained =>
      obtain ⟨closer, ffiCloses, undecided⟩ := known
      exact ⟨mutex, closer, ffiCloses, undecided, drained⟩
  | ffiCalled =>
      obtain ⟨closer, _, undecided, wg⟩ := known
      exact ⟨mutex, closer, undecided, wg⟩
  | ffiReturned => exact ⟨mutex, trivial⟩

/-- What another goroutine knows is kept if `closed` is only set while it does
not hold the mutex, and the rest only while it has not passed the gate the
field belongs to. -/
private theorem Client.At.frame (known : client.At other elsewhere)
    (closed : elsewhere.locked = true → after.closed = client.closed)
    (starter : client.starter = some other →
      after.starter = client.starter ∧ after.loops = client.loops ∧ after.wg = client.wg)
    (closer : client.closer = some other → after.closer = client.closer ∧
      after.ffiCloses = client.ffiCloses ∧ after.decided = client.decided ∧
      (client.wg = 0 → after.wg = 0)) : after.At other elsewhere := by
  cases elsewhere with
  | idle | startLocking | startCheckingClosed | startRefusing | closeLocking
  | closeCheckingClosed | closeRefusing => trivial
  | startCheckingStarted => exact (closed rfl).trans known
  | startSettingCancel | startAdding =>
      obtain ⟨unclosed, mine, unlooped, unadded⟩ := known
      obtain ⟨sameStarter, loops, wg⟩ := starter mine
      exact ⟨(closed rfl).trans unclosed, sameStarter.trans mine, loops.trans unlooped,
        wg.trans unadded⟩
  | startUnlocking =>
      obtain ⟨mine, unlooped, counted⟩ := known
      obtain ⟨sameStarter, loops, wg⟩ := starter mine
      exact ⟨sameStarter.trans mine, loops.trans unlooped, wg.trans counted⟩
  | running | runReturned =>
      obtain ⟨mine, counted⟩ := known
      obtain ⟨sameStarter, _, wg⟩ := starter mine
      exact ⟨sameStarter.trans mine, wg.trans counted⟩
  | closeReadingCancel | closeUnlocking | closeCancelling | closeWaiting =>
      obtain ⟨mine, uncalled, undecided⟩ := known
      obtain ⟨sameCloser, ffiCloses, decided, _⟩ := closer mine
      exact ⟨sameCloser.trans mine, ffiCloses.trans uncalled, decided.trans undecided⟩
  | closeCallingFfi =>
      obtain ⟨mine, uncalled, undecided, drained⟩ := known
      obtain ⟨sameCloser, ffiCloses, decided, wg⟩ := closer mine
      exact ⟨sameCloser.trans mine, ffiCloses.trans uncalled, decided.trans undecided,
        wg drained⟩
  | closeInsideFfi =>
      obtain ⟨mine, undecided, drained⟩ := known
      obtain ⟨sameCloser, _, decided, wg⟩ := closer mine
      exact ⟨sameCloser.trans mine, decided.trans undecided, wg drained⟩

/-- Two goroutines do not both pass the gate of `started`, nor that of `closed`,
and what one changes under the mutex no other relies on. -/
theorem ClientMove.others (move : ClientMove id client point after next) (apart : other ≠ id)
    (consistent : client.Consistent) (knows : client.Knows id point)
    (known : client.Knows other elsewhere) : after.Knows other elsewhere := by
  obtain ⟨mutex, mine⟩ := knows
  obtain ⟨theirMutex, theirs⟩ := known
  have unshared {owner : Option Nat} (isMine : owner = some id) : owner ≠ some other := by
    rintro isTheirs
    exact apart (Option.some.inj (isTheirs.symm.trans isMine))
  cases move with
  | startCalled | closeCalled | startClosed | startOpen | startAgain | exited | closeAgain
  | cancelRead | waited | cancelSet | ran | cancelled => exact ⟨theirMutex, theirs⟩
  | startLocked free | closeLocked free =>
      refine ⟨?_, theirs⟩
      simpa [free, apart.symm] using theirMutex
  | closeUnlocked =>
      have held := mutex.mp rfl
      refine ⟨?_, theirs⟩
      simpa [held, apart.symm] using theirMutex
  | startRefused | closeRefused =>
      have held := mutex.mp rfl
      refine ⟨?_, theirs.frame (fun _ => rfl) (fun _ => ⟨rfl, rfl, rfl⟩)
        fun _ => ⟨rfl, rfl, decided_append _ rfl, fun zero => zero⟩⟩
      simpa [held, apart.symm] using theirMutex
  | startFirst unstarted =>
      have nobody := consistent.starter.mpr unstarted
      refine ⟨theirMutex, theirs.frame (fun _ => rfl) ?_ fun _ => ⟨rfl, rfl, rfl, fun zero => zero⟩⟩
      simp [nobody]
  | added =>
      obtain ⟨unclosed, starter, _, _⟩ := mine
      refine ⟨theirMutex, theirs.frame (fun _ => rfl) ?_ ?_⟩
      · intro theirStarter
        exact absurd theirStarter (unshared starter)
      · simp [consistent.closer.mpr unclosed]
  | entered =>
      have held := mutex.mp rfl
      refine ⟨?_, theirs.frame (fun _ => rfl) ?_ fun _ => ⟨rfl, rfl, rfl, fun zero => zero⟩⟩
      · simpa [held, apart.symm] using theirMutex
      · intro theirStarter
        exact absurd theirStarter (unshared mine.1)
  | finished =>
      obtain ⟨starter, wg⟩ := mine
      refine ⟨theirMutex, theirs.frame (fun _ => rfl) ?_ ?_⟩
      · intro theirStarter
        exact absurd theirStarter (unshared starter)
      · refine fun _ => ⟨rfl, rfl, decided_append _ rfl, ?_⟩
        simp [wg]
  | closeFirst unclosed =>
      have nobody := consistent.closer.mpr unclosed
      refine ⟨theirMutex, theirs.frame ?_ (fun _ => ⟨rfl, rfl, rfl⟩) ?_⟩
      · intro held
        exact absurd (theirMutex.mp held) (unshared (mutex.mp rfl))
      · simp [nobody]
  | ffiCalled | ffiReturned =>
      refine ⟨theirMutex, theirs.frame (fun _ => rfl) (fun _ => ⟨rfl, rfl, rfl⟩) ?_⟩
      intro theirCloser
      exact absurd theirCloser (unshared mine.1)

end Steps

/-! ## Every run -/

/-- The proof outline of `Start` and `Close`. -/
def clientOutline : rcx509.Outline where
  invariant := Client.Consistent
  assertion := Client.Knows
  start := by
    rintro _ rfl
    refine ⟨?_, fun id => ⟨by simp [rcx509, ClientPc.locked, Client.init], trivial⟩⟩
    constructor <;> simp [Client.init, Client.decided]
  own consistent knows stepped :=
    have move := Client.step_move stepped
    ⟨move.consistent consistent knows, move.knows consistent knows⟩
  others apart consistent knows known stepped :=
    (Client.step_move stepped).others apart consistent knows known
  environment := by
    intro _ event
    exact event.elim

section Runs

variable {state later : Threads Client ClientPc}

/-- Once a `Close` call has returned anything but `ErrClientClosed`, no goroutine
is inside `run`. -/
private theorem no_loop_of_decided (reached : rcx509.threads.Reachable state)
    (decided : 0 < state.shared.decided) (id : Nat) : ¬ (state.points id).InLoop := by
  rintro ⟨pc, running⟩
  obtain ⟨consistent, knows⟩ := clientOutline.holds reached
  obtain ⟨_, known⟩ := knows id
  rw [running] at known
  have drained := (consistent.shut decided).2
  simp [known.2] at drained

private theorem ClientMove.decided_le {id : Nat} {client after : Client}
    {point next : ClientPc} (move : ClientMove id client point after next) :
    client.decided ≤ after.decided := by
  cases move with
  | startRefused | finished | closeRefused | ffiReturned => simp [Client.decided]
  | _ => exact Nat.le_refl _

/-- Only `run` creates connections and runs sessions. -/
private theorem ClientMove.created {id : Nat} {client after : Client}
    {point next : ClientPc} (move : ClientMove id client point after next)
    (outside : ¬ point.InLoop) :
    after.created = client.created ∧ after.sessions = client.sessions := by
  cases move with
  | ran => exact absurd ⟨_, rfl⟩ outside
  | _ => exact ⟨rfl, rfl⟩

private theorem quiet_after_decided (reached : rcx509.threads.Reachable state)
    (decided : 0 < state.shared.decided)
    (path : rcx509.threads.Steps (fun _ _ => True) state later) :
    later.shared.created = state.shared.created ∧
      later.shared.sessions = state.shared.sessions ∧ ∀ id, ¬ (later.points id).InLoop := by
  have kept := path.preserves (fun other => rcx509.threads.Reachable other ∧
      0 < other.shared.decided ∧ other.shared.created = state.shared.created ∧
      other.shared.sessions = state.shared.sessions) ?_ ⟨reached, decided, rfl, rfl⟩
  · obtain ⟨reachedLater, still, created, sessions⟩ := kept
    exact ⟨created, sessions, no_loop_of_decided reachedLater still⟩
  · rintro middle action after ⟨earlier, holds, created, sessions⟩ _ stepped
    cases action with
    | environment event => exact event.elim
    | thread id choice =>
        obtain ⟨point, moved, _⟩ := Program.step_thread stepped
        have move := Client.step_move moved
        obtain ⟨sameCreated, sameSessions⟩ :=
          move.created (no_loop_of_decided earlier holds id)
        exact ⟨earlier.step stepped, Nat.lt_of_lt_of_le holds move.decided_le,
          sameCreated.trans created, sameSessions.trans sessions⟩

end Runs

/-- However `Start` and `Close` calls interleave, `run` is entered at most once,
`ffiCtx.Close` is called at most once and never while a loop is active, and at
most one `Close` call returns anything but `ErrClientClosed`; after it has, no
connection is created and no session runs. -/
theorem client_closes_once (state : Threads Client ClientPc)
    (reached : rcx509.threads.Reachable state) :
    state.shared.loops ≤ 1 ∧ state.shared.ffiCloses ≤ 1 ∧
    (∀ id, state.points id = .closeCallingFfi ∨ state.points id = .closeInsideFfi →
      ∀ other, ¬ (state.points other).InLoop) ∧
    (state.shared.outcomes.filter ClientOutcome.decides).length ≤ 1 ∧
    ((∃ outcome ∈ state.shared.outcomes, outcome.decides = true) → ∀ later,
      rcx509.threads.Steps (fun _ _ => True) state later →
        later.shared.created = state.shared.created ∧
        later.shared.sessions = state.shared.sessions ∧ ∀ id, ¬ (later.points id).InLoop) := by
  obtain ⟨consistent, knows⟩ := clientOutline.holds reached
  refine ⟨consistent.loops, consistent.ffiCloses, ?_, ?_, ?_⟩
  · rintro id closing other ⟨pc, running⟩
    obtain ⟨_, closer⟩ := knows id
    obtain ⟨_, runner⟩ := knows other
    rw [running] at runner
    have drained : state.shared.wg = 0 := by
      rcases closing with calling | inside
      · rw [calling] at closer
        exact closer.2.2.2
      · rw [inside] at closer
        exact closer.2.2
    simp [runner.2] at drained
  · rw [← List.countP_eq_length_filter]
    exact consistent.decided
  · intro decided later path
    exact quiet_after_decided reached (List.countP_pos_iff.mpr decided) path

/-- Goroutine 0 starts the client and runs a session, which goroutine 1 ends by
closing the client. -/
def startAndClose : List (ThreadAct ClientChoice Empty) :=
  ThreadAct.thread 0 ClientChoice.start :: List.replicate 9 (.thread 0 .ok) ++
    ThreadAct.thread 1 ClientChoice.close :: List.replicate 5 (.thread 1 .ok) ++
    ThreadAct.thread 0 ClientChoice.done :: List.replicate 3 (.thread 0 .ok) ++
    List.replicate 3 (ThreadAct.thread 1 ClientChoice.ok)

theorem client_closes_once_startAndClose : ∃ state : Threads Client ClientPc,
    rcx509.threads.run ⟨.init, fun _ => .idle⟩ startAndClose = some state ∧
      state.shared.outcomes = [.start none, .close none] ∧ state.shared.ffiCloses = 1 ∧
      ∀ later, rcx509.threads.Steps (fun _ _ => True) state later →
        later.shared.created = 1 ∧ later.shared.sessions = 1 ∧
          ∀ id, ¬ (later.points id).InLoop := by
  obtain ⟨state, ran, outcomes, ffiCloses, created, sessions⟩ : ∃ state,
      rcx509.threads.run ⟨.init, fun _ => .idle⟩ startAndClose = some state ∧
        state.shared.outcomes = [.start none, .close none] ∧ state.shared.ffiCloses = 1 ∧
        state.shared.created = 1 ∧ state.shared.sessions = 1 := ⟨_, rfl, rfl, rfl, rfl, rfl⟩
  have initial : rcx509.threads.initial ⟨.init, fun _ => .idle⟩ := ⟨rfl, fun _ => rfl⟩
  obtain ⟨_, _, _, _, quiet⟩ := client_closes_once state (System.reachable_of_run initial ran)
  rw [created, sessions] at quiet
  exact ⟨state, ran, outcomes, ffiCloses, quiet ⟨.close none, by simp [outcomes], rfl⟩⟩

end LibddRc.Go
