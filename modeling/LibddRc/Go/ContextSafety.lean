import LibddRc.Foundation.Table
import LibddRc.Go.ContextMoves
import LibddRc.Go.Jobs

/-! The proof outline of `X509Context` and `Connection`: what a goroutine knows
at each statement, which no other goroutine and no pool can take from it. A
connection's mutex protects its lifecycle and its phase, the context's mutex the
creation of connections, and a connection that is closed stays freed. -/

set_option autoImplicit false

namespace LibddRc.Go

open Foundation

/-! ## One connection -/

/-- The phase of a connection while no call is inside it. -/
def ConnLifecycle.phase : ConnLifecycle → NativePhase
  | ⟨true, _⟩ => .freed
  | ⟨false, true⟩ => .connected
  | ⟨false, false⟩ => .configured

theorem ConnLifecycle.phase_closed {lifecycle : ConnLifecycle}
    (closed : lifecycle.closed = true) : lifecycle.phase = .freed := by
  cases lifecycle
  cases closed
  rfl

namespace Connection

def phase (conn : Connection) : Option NativePhase := phaseAfter conn.native

/-- The calls made for a connection fit its lifecycle. -/
def Settled (conn : Connection) : Prop := conn.phase = some conn.lifecycle.phase

structure Sound (conn : Connection) : Prop where
  reachable : invokePool.Reachable conn.pool
  started : conn.started = true → conn.phase = some .configured ∨ conn.phase = some .connected ∨
    (conn.phase = some .disconnected ∨ conn.phase = some .freed) ∧ conn.pool.shutdown = .returned
  unstarted : conn.started = false →
    (conn.phase = some .created ∨ conn.phase = some .configured) ∧ conn.lifecycle = .init ∧
      conn.mu = none
  settled : conn.started = true → conn.mu = none → conn.Settled

/-- Equal in all that a goroutine relies on. The pool may move on, but a pool
that was shut down stays so. -/
structure Alike (conn next : Connection) : Prop where
  mu : next.mu = conn.mu
  lifecycle : next.lifecycle = conn.lifecycle
  phase : next.phase = conn.phase
  started : next.started = conn.started
  down : conn.pool.shutdown = .returned → next.pool.shutdown = .returned

theorem Alike.refl (conn : Connection) : conn.Alike conn := ⟨rfl, rfl, rfl, rfl, id⟩

theorem Alike.settled {conn next : Connection} (alike : conn.Alike next)
    (settled : conn.Settled) : next.Settled := by
  simpa only [Settled, alike.lifecycle, alike.phase] using settled

theorem Sound.alike {conn next : Connection} (sound : conn.Sound) (alike : conn.Alike next)
    (reachable : invokePool.Reachable next.pool) : next.Sound := by
  refine ⟨reachable, ?_, ?_, ?_⟩
  · intro started
    rw [alike.phase]
    exact (sound.started (alike.started ▸ started)).imp_right fun later =>
      later.imp_right fun gone => ⟨gone.1, alike.down gone.2⟩
  · intro unstarted
    rw [alike.phase, alike.lifecycle, alike.mu]
    exact sound.unstarted (alike.started ▸ unstarted)
  · intro started free
    exact alike.settled (sound.settled (alike.started ▸ started) (alike.mu ▸ free))

theorem phase_call {conn : Connection} {call : NativeCall} {before after : NativePhase}
    (phase : conn.phase = some before) (allowed : before.next call = some after) :
    (conn.call call).phase = some after := by
  have appended := phaseAfter_append conn.native call
  rw [show phaseAfter conn.native = some before from phase] at appended
  exact appended.trans allowed

theorem phase_free {conn : Connection}
    (phase : conn.phase = some .disconnected ∨ conn.phase = some .configured) :
    (conn.call .free).phase = some .freed := by
  rcases phase with disconnected | configured
  · exact phase_call disconnected rfl
  · exact phase_call configured rfl

end Connection

/-! ## Pools -/

section Pools

variable {pool next : Pool} {action : PoolAct}

theorem PoolMove.shutdown_kept (move : PoolMove pool action next) (other : action ≠ .shutdown) :
    next.shutdown = pool.shutdown := by
  cases move with
  | shutdownLocked | shutdownCleared | shutdownClosed | shutdownReturned => exact absurd rfl other
  | locked | refused | offered | added | took | sawStop | drained | watched => rfl
  | worked =>
      unfold Pool.resume
      split <;> rfl

/-- A step that returns from a sink call is recorded as an answer. -/
private theorem sinking_answered {sinking : DispatchJob × SinkCall}
    (sinks : pool.sinking? action = some sinking) (move : PoolMove pool action next) :
    next.answered ≠ pool.answered := by
  unfold Pool.sinking? at sinks
  split at sinks
  · cases move with
    | worked _ _ _ stepped =>
        rw [resume_answered, place_answered (Invocation.step_frame stepped).2]
        simp
  · cases move with
    | watched _ _ stepped =>
        rw [place_answered (Invocation.step_frame stepped).2]
        simp
  · cases sinks

end Pools

/-- A pool's step keeps the connection's phase: once the pool is shut down it
reports nothing, and before that a report is allowed. -/
theorem Connection.alike_pool {env : HostEnv} {conn : Connection} {pool : Pool}
    {action : PoolAct} (sound : conn.Sound) (started : conn.started = true)
    (other : action ≠ .shutdown) (stepped : conn.pool.step action = some pool) :
    conn.Alike { conn with pool, native := conn.native ++ conn.dispatches env action } := by
  have move := (Pool.step_move stepped).2
  refine ⟨rfl, rfl, ?_, rfl, fun returned => (move.shutdown_kept other).trans returned⟩
  simp only [Connection.phase, Connection.dispatches]
  cases sinks : conn.pool.sinking? action with
  | none => rw [List.append_nil]
  | some sinking =>
      cases answer : env.answerTo sinking.2 with
      | none => simp [answer]
      | some answer =>
          simp only [answer, Option.map_some, Option.toList_some, phaseAfter_append]
          rcases sound.started started with configured | connected | ⟨_, returned⟩
          · simp only [Connection.phase] at configured
            simp [configured, NativePhase.next]
          · simp only [Connection.phase] at connected
            simp [connected, NativePhase.next]
          · have silent := (Pool.silent_after_returned sound.reachable returned stepped).2.2
            exact absurd silent (sinking_answered sinks move)

/-! ## What a goroutine knows -/

/-- Between `Lock` and `Unlock` of the context's mutex. -/
def ContextPc.holdsContext : ContextPc → Bool
  | .newChecking | .newCreating | .newSendCallback _ | .newRegistering _ | .newUnlocking _
  | .newRefusing _ | .closing _ .forgetting _ | .closing _ .forgetUnlocking _ | .contextChecking
  | .contextRefusing | .contextSnapshotting | .contextUnlocking _ | .contextFreeing
  | .contextFreeUnlocking => true
  | _ => false

namespace X509Context

/-- Goroutine `id` is inside a connection, of which `property` holds. -/
def Held (ctx : X509Context) (id index : Nat) (property : Connection → Prop) : Prop :=
  ∃ conn, ctx.connections index = some conn ∧ conn.started = true ∧ conn.mu = some id ∧
    property conn

def Started (ctx : X509Context) (index : Nat) : Prop :=
  ∃ conn, ctx.connections index = some conn ∧ conn.started = true

def Freed (ctx : X509Context) (index : Nat) : Prop :=
  ∃ conn, ctx.connections index = some conn ∧ conn.phase = some .freed

/-- No connection is being created. -/
def AllStarted (ctx : X509Context) : Prop :=
  ∀ index conn, ctx.connections index = some conn → conn.started = true

/-- The connection that is being created is in a phase, and it is the only one. -/
def Creating (ctx : X509Context) (index : Nat) (phase : NativePhase) : Prop :=
  (∃ conn, ctx.connections index = some conn ∧ conn.started = false ∧ conn.phase = some phase) ∧
    ∀ other conn, other ≠ index → ctx.connections other = some conn → conn.started = true

/-- Every connection is freed or still to be closed. -/
def Covered (ctx : X509Context) (rest : List Nat) : Prop :=
  ∀ index conn, ctx.connections index = some conn → conn.phase = some .freed ∨ index ∈ rest

/-- What is left of the snapshot that `X509Context.Close` works through. -/
def Remaining (ctx : X509Context) (rest : List Nat) : Prop :=
  ctx.Covered rest ∧ ∀ index ∈ rest, ctx.Started index

/-- Goroutine `id` closes the context and has not called `rc_free`. -/
def ClosedBy (ctx : X509Context) (id : Nat) : Prop := ctx.closer = some id ∧ ctx.rcFrees = 0

/-- What the caller of `Connection.Close` knows. -/
def Owed (ctx : X509Context) (id index : Nat) : CloseCaller → Prop
  | .user => True
  | .context rest => ctx.ClosedBy id ∧ ctx.Remaining (index :: rest)

/-- What is known inside `Connection.Close`. -/
def AtClose (ctx : X509Context) (id index : Nat) : CloseCallPc → Prop
  | .locking => ctx.Started index
  | .marking => ctx.Held id index Connection.Settled
  | .shuttingDown wasConnected => ctx.Held id index fun conn =>
      conn.lifecycle.closed = true ∧ conn.phase = some (ConnLifecycle.phase ⟨false, wasConnected⟩)
  | .disconnecting wasConnected => ctx.Held id index fun conn =>
      conn.lifecycle.closed = true ∧ conn.phase = some (ConnLifecycle.phase ⟨false, wasConnected⟩) ∧
        conn.pool.shutdown = .returned
  | .freeing => ctx.Held id index fun conn => conn.lifecycle.closed = true ∧
      (conn.phase = some .disconnected ∨ conn.phase = some .configured) ∧
        conn.pool.shutdown = .returned
  | .unlocking | .refusing _ => ctx.Held id index fun conn =>
      conn.lifecycle.closed = true ∧ conn.phase = some .freed
  | .forgetLocking => ctx.Freed index
  | .forgetting | .forgetUnlocking => ctx.AllStarted ∧ ctx.Freed index

/-- What is known at each statement, apart from who holds the context's mutex. -/
def At (id : Nat) (ctx : X509Context) : ContextPc → Prop
  | .idle | .newLocking | .contextLocking => True
  | .newChecking | .newRefusing _ | .contextChecking | .contextRefusing
  | .contextFreeUnlocking => ctx.AllStarted
  | .newCreating => ctx.AllStarted ∧ ctx.closed = false
  | .newSendCallback index => ctx.Creating index .created ∧ ctx.closed = false
  | .newRegistering index => ctx.Creating index .configured ∧ ctx.closed = false
  | .newUnlocking index => ctx.AllStarted ∧ ctx.Started index
  | .connectedLocking index _ | .recvLocking index _ => ctx.Started index
  | .connectedMarking index _ | .recvChecking index _ | .connUnlocking index _ =>
      ctx.Held id index Connection.Settled
  | .connectedCalling index _ => ctx.Held id index fun conn =>
      conn.lifecycle = ⟨false, true⟩ ∧ conn.phase = some .configured
  | .recvCalling index _ => ctx.Held id index fun conn =>
      conn.lifecycle = ⟨false, true⟩ ∧ conn.phase = some .connected
  | .closing index pc caller => ctx.Owed id index caller ∧ ctx.AtClose id index pc
  | .contextSnapshotting => ctx.AllStarted ∧ ctx.ClosedBy id
  | .contextUnlocking order => ctx.AllStarted ∧ ctx.ClosedBy id ∧ ctx.Remaining order
  | .contextClosing rest => ctx.ClosedBy id ∧ ctx.Remaining rest
  | .contextFreeLocking => ctx.ClosedBy id ∧ ctx.Covered []
  | .contextFreeing => ctx.AllStarted ∧ ctx.ClosedBy id ∧ ctx.Covered []

structure Knows (id : Nat) (ctx : X509Context) (point : ContextPc) : Prop where
  mutex : point.holdsContext = true → ctx.mu = some id
  at_ : ctx.At id point

/-- The connections are sound and listed until they are freed, and what happens
once has happened at most once. -/
structure Consistent (ctx : X509Context) : Prop where
  fresh : ∀ index, ctx.count ≤ index → ctx.connections index = none
  sound : ∀ index conn, ctx.connections index = some conn → conn.Sound
  listed : ∀ index conn, ctx.connections index = some conn → conn.started = true →
    index ∈ ctx.conns ∨ conn.phase = some .freed
  started : ∀ index, index ∈ ctx.handed ∨ index ∈ ctx.conns → ctx.Started index
  unlocked : ctx.mu = none → ctx.AllStarted
  closer : ctx.closer = none ↔ ctx.closed = false
  unfreed : ctx.closed = false → ctx.rcFrees = 0
  rcFrees : ctx.rcFrees ≤ 1
  freed : 0 < ctx.rcFrees → ctx.Covered []

end X509Context

/-! ## Interference -/

/-- What a step of another goroutine or of a pool leaves to goroutine `id`. -/
structure Undisturbed (id : Nat) (ctx after : X509Context) : Prop where
  mu : ctx.mu = some id → after.mu = some id
  conns : ∀ index conn, ctx.connections index = some conn →
    ∃ next, after.connections index = some next ∧
      (conn.started = true → next.started = true) ∧
      (conn.phase = some .freed → next.phase = some .freed) ∧
      (conn.started = true → conn.mu = some id → conn.Alike next) ∧
      (ctx.mu = some id → conn.started = false → conn.Alike next)
  created : ctx.mu = some id ∨ ctx.closed = true → ∀ index,
    ctx.connections index = none → after.connections index = none
  closed : ctx.mu = some id → after.closed = ctx.closed
  closer : ctx.closer = some id → after.closer = some id ∧ after.rcFrees = ctx.rcFrees

section Interference

variable {id index : Nat} {ctx after : X509Context} {point : ContextPc}

private theorem Undisturbed.held {property : Connection → Prop}
    (undisturbed : Undisturbed id ctx after)
    (respects : ∀ conn next, conn.Alike next → property conn → property next)
    (held : ctx.Held id index property) : after.Held id index property := by
  obtain ⟨conn, found, started, mu, holds⟩ := held
  obtain ⟨next, lookup, _, _, alike, _⟩ := undisturbed.conns index conn found
  have same := alike started mu
  exact ⟨next, lookup, same.started.trans started, same.mu.trans mu, respects conn next same holds⟩

theorem Undisturbed.started (undisturbed : Undisturbed id ctx after)
    (started : ctx.Started index) : after.Started index := by
  obtain ⟨conn, found, holds⟩ := started
  obtain ⟨next, lookup, kept, _⟩ := undisturbed.conns index conn found
  exact ⟨next, lookup, kept holds⟩

private theorem Undisturbed.freed (undisturbed : Undisturbed id ctx after)
    (freed : ctx.Freed index) : after.Freed index := by
  obtain ⟨conn, found, holds⟩ := freed
  obtain ⟨next, lookup, _, kept, _⟩ := undisturbed.conns index conn found
  exact ⟨next, lookup, kept holds⟩

/-- A connection seen afterwards was there before, if `id` may rely on that. -/
private theorem Undisturbed.before (undisturbed : Undisturbed id ctx after)
    (known : ctx.mu = some id ∨ ctx.closed = true) {next : Connection}
    (lookup : after.connections index = some next) :
    ∃ conn, ctx.connections index = some conn ∧
      (conn.started = true → next.started = true) ∧
      (conn.phase = some .freed → next.phase = some .freed) := by
  cases found : ctx.connections index with
  | none => simp [undisturbed.created known index found] at lookup
  | some conn =>
      obtain ⟨same, again, started, freed, _⟩ := undisturbed.conns index conn found
      rw [lookup] at again
      cases again
      exact ⟨conn, rfl, started, freed⟩

private theorem Undisturbed.allStarted (undisturbed : Undisturbed id ctx after)
    (mu : ctx.mu = some id) (all : ctx.AllStarted) : after.AllStarted := by
  intro index next lookup
  obtain ⟨conn, found, started, _⟩ := undisturbed.before (.inl mu) lookup
  exact started (all index conn found)

private theorem Undisturbed.creating {phase : NativePhase} (undisturbed : Undisturbed id ctx after)
    (mu : ctx.mu = some id) (creating : ctx.Creating index phase) :
    after.Creating index phase := by
  obtain ⟨⟨conn, found, unstarted, reads⟩, others⟩ := creating
  obtain ⟨next, lookup, _, _, _, alike⟩ := undisturbed.conns index conn found
  have same := alike mu unstarted
  refine ⟨⟨next, lookup, same.started.trans unstarted, same.phase.trans reads⟩, ?_⟩
  intro other peer elsewhere lookup
  obtain ⟨before, found, started, _⟩ := undisturbed.before (.inl mu) lookup
  exact started (others other before elsewhere found)

private theorem Undisturbed.covered {rest : List Nat} (undisturbed : Undisturbed id ctx after)
    (closed : ctx.closed = true) (covered : ctx.Covered rest) : after.Covered rest := by
  intro index next lookup
  obtain ⟨conn, found, _, freed⟩ := undisturbed.before (.inr closed) lookup
  exact (covered index conn found).imp_left freed

private theorem Undisturbed.remaining {rest : List Nat} (undisturbed : Undisturbed id ctx after)
    (closed : ctx.closed = true) (remaining : ctx.Remaining rest) : after.Remaining rest :=
  ⟨undisturbed.covered closed remaining.1,
    fun index member => undisturbed.started (remaining.2 index member)⟩

private theorem Undisturbed.closedBy (undisturbed : Undisturbed id ctx after)
    (closedBy : ctx.ClosedBy id) : after.ClosedBy id := by
  obtain ⟨closer, rcFrees⟩ := undisturbed.closer closedBy.1
  exact ⟨closer, rcFrees.trans closedBy.2⟩

theorem X509Context.Consistent.closed_of (consistent : ctx.Consistent)
    (closedBy : ctx.ClosedBy id) : ctx.closed = true := by
  rw [← Bool.not_eq_false, ← consistent.closer]
  simp [closedBy.1]

private theorem Undisturbed.owed {caller : CloseCaller} (undisturbed : Undisturbed id ctx after)
    (consistent : ctx.Consistent) (owed : ctx.Owed id index caller) :
    after.Owed id index caller := by
  cases caller with
  | user => trivial
  | context rest =>
      exact ⟨undisturbed.closedBy owed.1,
        undisturbed.remaining (consistent.closed_of owed.1) owed.2⟩

private theorem Undisturbed.atClose {pc : CloseCallPc} {caller : CloseCaller}
    (undisturbed : Undisturbed id ctx after)
    (mutex : (ContextPc.closing index pc caller).holdsContext = true → ctx.mu = some id)
    (known : ctx.AtClose id index pc) : after.AtClose id index pc := by
  cases pc with
  | locking => exact undisturbed.started known
  | marking => exact undisturbed.held (fun _ _ alike => alike.settled) known
  | shuttingDown =>
      refine undisturbed.held ?_ known
      rintro conn next alike ⟨closed, phase⟩
      exact ⟨alike.lifecycle ▸ closed, alike.phase.trans phase⟩
  | disconnecting =>
      refine undisturbed.held ?_ known
      rintro conn next alike ⟨closed, phase, down⟩
      exact ⟨alike.lifecycle ▸ closed, alike.phase.trans phase, alike.down down⟩
  | freeing =>
      refine undisturbed.held ?_ known
      rintro conn next alike ⟨closed, phase, down⟩
      exact ⟨alike.lifecycle ▸ closed, alike.phase ▸ phase, alike.down down⟩
  | unlocking | refusing =>
      refine undisturbed.held ?_ known
      rintro conn next alike ⟨closed, phase⟩
      exact ⟨alike.lifecycle ▸ closed, alike.phase.trans phase⟩
  | forgetLocking => exact undisturbed.freed known
  | forgetting | forgetUnlocking =>
      exact ⟨undisturbed.allStarted (mutex rfl) known.1, undisturbed.freed known.2⟩

/-- What a goroutine knows survives a step that leaves it undisturbed. -/
theorem X509Context.Knows.undisturbed (knows : ctx.Knows id point)
    (consistent : ctx.Consistent) (undisturbed : Undisturbed id ctx after) :
    after.Knows id point := by
  obtain ⟨mutex, known⟩ := knows
  refine ⟨fun holds => undisturbed.mu (mutex holds), ?_⟩
  cases point with
  | idle | newLocking | contextLocking => trivial
  | newChecking | newRefusing | contextChecking | contextRefusing | contextFreeUnlocking =>
      exact undisturbed.allStarted (mutex rfl) known
  | newCreating =>
      have held := mutex rfl
      exact ⟨undisturbed.allStarted held known.1, (undisturbed.closed held).trans known.2⟩
  | newSendCallback | newRegistering =>
      have held := mutex rfl
      exact ⟨undisturbed.creating held known.1, (undisturbed.closed held).trans known.2⟩
  | newUnlocking =>
      exact ⟨undisturbed.allStarted (mutex rfl) known.1, undisturbed.started known.2⟩
  | connectedLocking | recvLocking => exact undisturbed.started known
  | connectedMarking | recvChecking | connUnlocking =>
      exact undisturbed.held (fun _ _ alike => alike.settled) known
  | connectedCalling | recvCalling =>
      refine undisturbed.held ?_ known
      rintro conn next alike ⟨lifecycle, phase⟩
      exact ⟨alike.lifecycle.trans lifecycle, alike.phase.trans phase⟩
  | closing =>
      exact ⟨undisturbed.owed consistent known.1, undisturbed.atClose mutex known.2⟩
  | contextSnapshotting =>
      exact ⟨undisturbed.allStarted (mutex rfl) known.1, undisturbed.closedBy known.2⟩
  | contextUnlocking =>
      obtain ⟨all, closedBy, remaining⟩ := known
      exact ⟨undisturbed.allStarted (mutex rfl) all, undisturbed.closedBy closedBy,
        undisturbed.remaining (consistent.closed_of closedBy) remaining⟩
  | contextClosing =>
      obtain ⟨closedBy, remaining⟩ := known
      exact ⟨undisturbed.closedBy closedBy,
        undisturbed.remaining (consistent.closed_of closedBy) remaining⟩
  | contextFreeLocking =>
      obtain ⟨closedBy, covered⟩ := known
      exact ⟨undisturbed.closedBy closedBy,
        undisturbed.covered (consistent.closed_of closedBy) covered⟩
  | contextFreeing =>
      obtain ⟨all, closedBy, covered⟩ := known
      exact ⟨undisturbed.allStarted (mutex rfl) all, undisturbed.closedBy closedBy,
        undisturbed.covered (consistent.closed_of closedBy) covered⟩

end Interference

/-! ## Moves inside a connection -/

/-- A change of one connection that the context need not know of. -/
structure Change (conn next : Connection) : Prop where
  sound : next.Sound
  started : next.started = conn.started
  freed : conn.phase = some .freed → next.phase = some .freed

/-- A goroutine only changes a connection that it creates, takes the free mutex
of or is inside. -/
structure OwnChange (id : Nat) (ctx : X509Context) (conn next : Connection) : Prop
    extends Change conn next where
  mine : if conn.started then conn.mu = none ∨ conn.mu = some id else ctx.mu = some id

section Changes

variable {id index : Nat} {ctx : X509Context} {conn next : Connection} {point after : ContextPc}

theorem X509Context.Held.of {property : Connection → Prop}
    (held : ctx.Held id index property) (found : ctx.connections index = some conn) :
    conn.started = true ∧ conn.mu = some id ∧ property conn := by
  obtain ⟨same, lookup, rest⟩ := held
  rw [found] at lookup
  cases lookup
  exact rest

theorem X509Context.Creating.of {phase : NativePhase} (creating : ctx.Creating index phase)
    (found : ctx.connections index = some conn) :
    conn.started = false ∧ conn.phase = some phase := by
  obtain ⟨⟨same, lookup, rest⟩, _⟩ := creating
  rw [found] at lookup
  cases lookup
  exact rest

theorem X509Context.Freed.of (freed : ctx.Freed index)
    (found : ctx.connections index = some conn) : conn.phase = some .freed := by
  obtain ⟨same, lookup, phase⟩ := freed
  rw [found] at lookup
  cases lookup
  exact phase

theorem X509Context.Started.of (started : ctx.Started index)
    (found : ctx.connections index = some conn) : conn.started = true := by
  obtain ⟨same, lookup, holds⟩ := started
  rw [found] at lookup
  cases lookup
  exact holds

namespace Connection

/-- The holder of the mutex moves a connection on. -/
private theorem Sound.hold {pool : Pool} {lifecycle : ConnLifecycle} {native : List NativeCall}
    (started : conn.started = true) (mu : conn.mu = some id)
    (reachable : invokePool.Reachable pool)
    (phase : phaseAfter native = some .configured ∨ phaseAfter native = some .connected ∨
      (phaseAfter native = some .disconnected ∨ phaseAfter native = some .freed) ∧
        pool.shutdown = .returned) :
    ({ conn with pool, lifecycle, native } : Connection).Sound :=
  ⟨reachable, fun _ => phase, fun unstarted => by simp [started] at unstarted,
    fun _ free => by simp [mu] at free⟩

private theorem Sound.lock (sound : conn.Sound) (started : conn.started = true) :
    ({ conn with mu := some id } : Connection).Sound :=
  ⟨sound.reachable, sound.started, fun unstarted => by simp [started] at unstarted,
    fun _ free => by cases free⟩

theorem Sound.unlock (sound : conn.Sound) (started : conn.started = true)
    (settled : conn.Settled) : ({ conn with mu := none } : Connection).Sound :=
  ⟨sound.reachable, sound.started, fun unstarted => by simp [started] at unstarted,
    fun _ _ => settled⟩

theorem settled_freed (closed : conn.lifecycle.closed = true)
    (phase : conn.phase = some .freed) : conn.Settled := by
  rw [Settled, phase, ConnLifecycle.phase_closed closed]

end Connection

private theorem change_lock (sound : conn.Sound) (started : conn.started = true)
    (free : conn.mu = none) : OwnChange id ctx conn { conn with mu := some id } :=
  ⟨⟨sound.lock started, rfl, fun freed => freed⟩, by simp [started, free]⟩

theorem change_held (sound : next.Sound) (started : conn.started = true)
    (mu : conn.mu = some id) (same : next.started = conn.started)
    (phase : conn.phase ≠ some .freed ∨ next.phase = conn.phase) :
    OwnChange id ctx conn next := by
  refine ⟨⟨sound, same, ?_⟩, by simp [started, mu]⟩
  intro freed
  rcases phase with other | kept
  · exact absurd freed other
  · exact kept.trans freed

theorem ConnMove.change (move : ConnMove id index conn point next after)
    (found : ctx.connections index = some conn) (consistent : ctx.Consistent)
    (knows : ctx.Knows id point) : OwnChange id ctx conn next := by
  have sound := consistent.sound index conn found
  obtain ⟨mutex, known⟩ := knows
  cases move with
  | configured =>
      obtain ⟨unstarted, phase⟩ := known.1.of found
      obtain ⟨_, lifecycle, mu⟩ := sound.unstarted unstarted
      have configured : (conn.call .sendCallback).phase = some .configured :=
        Connection.phase_call phase rfl
      refine ⟨⟨⟨sound.reachable, ?_, fun _ => ⟨.inr configured, lifecycle, mu⟩, ?_⟩, rfl, ?_⟩, ?_⟩
      · exact fun _ => .inl configured
      · intro started
        exact absurd started (by simp [Connection.call, unstarted])
      · intro freed
        simp [phase] at freed
      · simp [unstarted, mutex rfl]
  | connectedLocked free | recvLocked free => exact change_lock sound (known.of found) free
  | closeLocked free => exact change_lock sound (known.2.of found) free
  | connectedRefused | recvRefused | recvAllowed =>
      obtain ⟨started, mu, _⟩ := known.of found
      exact change_held sound started mu rfl (.inr rfl)
  | closeRefused | neverConnected | shutdownReturned =>
      obtain ⟨started, mu, _⟩ := known.2.of found
      exact change_held sound started mu rfl (.inr rfl)
  | connectedMarked =>
      obtain ⟨started, mu, _⟩ := known.of found
      exact change_held (.hold started mu sound.reachable (sound.started started)) started mu rfl
        (.inr rfl)
  | closeMarked =>
      obtain ⟨started, mu, _⟩ := known.2.of found
      exact change_held (.hold started mu sound.reachable (sound.started started)) started mu rfl
        (.inr rfl)
  | @connected endpointHostname success =>
      obtain ⟨started, mu, _, phase⟩ := known.of found
      have connected : (conn.call (.connected endpointHostname success)).phase =
          some .connected := Connection.phase_call phase rfl
      exact change_held (.hold started mu sound.reachable (.inr (.inl connected))) started mu rfl
        (.inl (by simp [phase]))
  | @received data =>
      obtain ⟨started, mu, _, phase⟩ := known.of found
      have connected : (conn.call (.recv data)).phase = some .connected :=
        Connection.phase_call phase rfl
      exact change_held (.hold started mu sound.reachable (.inr (.inl connected))) started mu rfl
        (.inl (by simp [phase]))
  | @shutdownStepped caller wasConnected pool shut =>
      obtain ⟨started, mu, _, phase⟩ := known.2.of found
      have reachable : invokePool.Reachable pool := sound.reachable.step shut
      refine change_held (.hold started mu reachable ?_) started mu rfl (.inr rfl)
      cases wasConnected with
      | true => exact .inr (.inl phase)
      | false => exact .inl phase
  | disconnected =>
      obtain ⟨started, mu, _, phase, returned⟩ := known.2.of found
      have disconnected : (conn.call .disconnected).phase = some .disconnected :=
        Connection.phase_call phase rfl
      exact change_held (.hold started mu sound.reachable (.inr (.inr ⟨.inl disconnected,
        returned⟩))) started mu rfl (.inl (by simp [phase, ConnLifecycle.phase]))
  | freed =>
      obtain ⟨started, mu, _, phase, returned⟩ := known.2.of found
      have freed := Connection.phase_free phase
      refine change_held (.hold started mu sound.reachable (.inr (.inr ⟨.inr freed, returned⟩)))
        started mu rfl (.inl ?_)
      rcases phase with phase | phase <;> simp [phase]
  | unlocked =>
      obtain ⟨started, mu, closed, phase⟩ := known.2.of found
      exact change_held (sound.unlock started (Connection.settled_freed closed phase)) started mu
        rfl (.inr rfl)

/-! ### The context around a changed connection -/

@[simp] theorem setConn_self : (ctx.setConn index next).connections index = some next := by
  simp [X509Context.setConn]

theorem setConn_of_ne {other : Nat} (elsewhere : other ≠ index) :
    (ctx.setConn index next).connections other = ctx.connections other :=
  Function.update_of_ne elsewhere _ _

theorem setConn_absent {other : Nat} (found : ctx.connections index = some conn)
    (absent : ctx.connections other = none) :
    (ctx.setConn index next).connections other = none :=
  absent_update found absent

theorem lookup_conn {other : Nat} {peer : Connection}
    (lookup : (ctx.setConn index next).connections other = some peer) :
    (other = index ∧ peer = next) ∨ (other ≠ index ∧ ctx.connections other = some peer) :=
  lookup_update lookup

theorem Change.allStarted (change : Change conn next)
    (found : ctx.connections index = some conn) (all : ctx.AllStarted) :
    (ctx.setConn index next).AllStarted := by
  intro other peer lookup
  rcases lookup_conn lookup with ⟨rfl, rfl⟩ | ⟨_, lookup⟩
  · exact change.started.trans (all other conn found)
  · exact all other peer lookup

theorem Change.covered {rest : List Nat} (change : Change conn next)
    (found : ctx.connections index = some conn) (covered : ctx.Covered rest) :
    (ctx.setConn index next).Covered rest := by
  intro other peer lookup
  rcases lookup_conn lookup with ⟨rfl, rfl⟩ | ⟨_, lookup⟩
  · exact (covered other conn found).imp_left change.freed
  · exact covered other peer lookup

theorem Change.started_of {other : Nat} (change : Change conn next)
    (found : ctx.connections index = some conn) (started : ctx.Started other) :
    (ctx.setConn index next).Started other :=
  exists_update_of found (fun before => change.started.trans before) started

theorem Change.remaining {rest : List Nat} (change : Change conn next)
    (found : ctx.connections index = some conn) (remaining : ctx.Remaining rest) :
    (ctx.setConn index next).Remaining rest :=
  ⟨change.covered found remaining.1,
    fun other member => change.started_of found (remaining.2 other member)⟩

theorem Change.owed {caller : CloseCaller} (change : Change conn next)
    (found : ctx.connections index = some conn) (owed : ctx.Owed id index caller) :
    (ctx.setConn index next).Owed id index caller := by
  cases caller with
  | user => trivial
  | context rest => exact ⟨owed.1, change.remaining found owed.2⟩

theorem X509Context.Consistent.sound_set (consistent : ctx.Consistent) (sound : next.Sound)
    {other : Nat} {peer : Connection}
    (lookup : (ctx.setConn index next).connections other = some peer) : peer.Sound := by
  rcases lookup_conn lookup with ⟨_, rfl⟩ | ⟨_, lookup⟩
  · exact sound
  · exact consistent.sound other peer lookup

theorem Change.consistent (change : Change conn next)
    (found : ctx.connections index = some conn) (consistent : ctx.Consistent) :
    (ctx.setConn index next).Consistent := by
  refine { consistent with
    fresh := ?_, sound := ?_, listed := ?_, started := ?_, unlocked := ?_, freed := ?_ }
  · intro other late
    exact setConn_absent found (consistent.fresh other late)
  · intro other peer lookup
    exact consistent.sound_set change.sound lookup
  · intro other peer lookup started
    rcases lookup_conn lookup with ⟨rfl, rfl⟩ | ⟨_, lookup⟩
    · exact (consistent.listed other conn found (change.started.symm.trans started)).imp_right
        change.freed
    · exact consistent.listed other peer lookup started
  · intro other known
    exact change.started_of found (consistent.started other known)
  · intro free
    exact change.allStarted found (consistent.unlocked free)
  · intro released
    exact change.covered found (consistent.freed released)

/-- A changed connection disturbs a goroutine only if it is inside the connection
or creates it. -/
theorem undisturbed_setConn {other : Nat} (found : ctx.connections index = some conn)
    (started : conn.started = true → next.started = true)
    (freed : conn.phase = some .freed → next.phase = some .freed)
    (held : conn.started = true → conn.mu = some other → conn.Alike next)
    (creating : ctx.mu = some other → conn.started = false → conn.Alike next) :
    Undisturbed other ctx (ctx.setConn index next) := by
  refine ⟨fun mu => mu, ?_, ?_, fun _ => rfl, fun closer => ⟨closer, rfl⟩⟩
  · intro position peer lookup
    by_cases same : position = index
    · subst same
      rw [found] at lookup
      cases lookup
      exact ⟨next, setConn_self, started, freed, held, creating⟩
    · exact ⟨peer, (setConn_of_ne same).trans lookup, fun started => started,
        fun freed => freed, fun _ _ => .refl peer, fun _ _ => .refl peer⟩
  · intro _ position absent
    exact setConn_absent found absent

theorem OwnChange.undisturbed {other : Nat} (change : OwnChange id ctx conn next)
    (apart : other ≠ id) (found : ctx.connections index = some conn) :
    Undisturbed other ctx (ctx.setConn index next) := by
  have mine := change.mine
  refine undisturbed_setConn found (fun started => change.started.trans started) change.freed ?_ ?_
  · intro started mu
    simp [started, mu, apart] at mine
  · intro mu unstarted
    simp [unstarted, mu, apart] at mine

end Changes

end LibddRc.Go
