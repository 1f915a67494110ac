import LibddRc.Client.EventHandler
import LibddRc.Foundation.TransitionSystem

/-! `handle_connection_events` together with the actors it spawns. Updates come
in any order, the shutdown signal and the end of the stream at any time, and
actors also end on their own. -/

set_option autoImplicit false

namespace LibddRc

open Foundation

structure EventLoop where
  handler : EventHandler
  /-- `expect("first call")` on a dispatch stream that was already taken. -/
  panicked : Bool
  /-- The shutdown signal. It cancels every stop token with it. -/
  shutdown : Bool
  /-- Handles whose dispatch stream has been taken. -/
  taken : List Nat
  /-- Stop tokens that were cancelled one by one. -/
  cancelled : List Nat
  running : List Nat
  /-- Actors that `ActiveConn::stop` has seen end. -/
  awaited : List Nat
  /-- The updates received so far. -/
  history : List Update
  deriving DecidableEq

inductive LoopAct
  | signal
  | update (update : Update)
  | streamClosed
  | shutdown
  | finish (actor : Nat)
  | joined
  deriving DecidableEq

/-- The handles that an update brings. -/
def Update.handles : Update → List Nat
  | .connected io => [io]
  | .init | .disconnected | .release => []

/-- The connection of the latest `Connected` that no `Disconnected` has
followed. -/
def latestConnected (history : List Update) : Option Nat :=
  history.foldl (fun latest update =>
    match update with
    | .connected io => some io
    | .disconnected => none
    | .init | .release => latest) none

namespace EventLoop

def init : EventLoop where
  handler := .init
  panicked := false
  shutdown := false
  taken := []
  cancelled := []
  running := []
  awaited := []
  history := []

def apply (loop : EventLoop) : HandlerEffect → EventLoop
  | .spawn actor => { loop with running := loop.running ++ [actor] }
  | .cancel actor => { loop with cancelled := loop.cancelled ++ [actor] }

/-- The loop waits in `select!` for an update or the signal. -/
def selecting (loop : EventLoop) : Bool :=
  loop.handler.pc = .waiting ∧ loop.panicked = false

def receive (loop : EventLoop) (update : Update) : EventLoop :=
  if update.handles.any (· ∈ loop.taken) then { loop with panicked := true }
  else
    let (handler, effects) := loop.handler.onUpdate update
    effects.foldl apply { loop with
      handler
      taken := loop.taken ++ update.handles
      history := loop.history ++ [update] }

def close (loop : EventLoop) : EventLoop :=
  let (handler, effects) := loop.handler.onClose
  effects.foldl apply { loop with handler }

def step (loop : EventLoop) : LoopAct → Option EventLoop
  | .signal => some { loop with shutdown := true }
  | .update update => if loop.selecting then some (loop.receive update) else none
  | .streamClosed => if loop.selecting then some loop.close else none
  | .shutdown => if loop.selecting ∧ loop.shutdown then some loop.close else none
  | .finish actor =>
      if actor ∈ loop.running then
        some { loop with running := loop.running.filter (· ≠ actor) }
      else none
  | .joined =>
      match loop.handler.pc with
      | .stopping actor last =>
          if actor ∈ loop.running then none
          else some { loop with
            handler := loop.handler.onStopped last
            awaited := loop.awaited ++ [actor] }
      | _ => none

def system : System EventLoop LoopAct where
  initial loop := loop = init
  step := step

/-- Each `Connected` carries handles of its own. -/
def Fresh (loop : EventLoop) : LoopAct → Prop
  | .update update => ∀ io ∈ update.handles, io ∉ loop.taken
  | _ => True

instance (loop : EventLoop) (act : LoopAct) : Decidable (loop.Fresh act) :=
  match act with
  | .update update => inferInstanceAs (Decidable (∀ io ∈ update.handles, io ∉ loop.taken))
  | .signal | .streamClosed | .shutdown | .finish _ | .joined => isTrue trivial

/-! ## Moves -/

/-- What a step can do when handles are fresh. -/
inductive Move (loop : EventLoop) : EventLoop → Prop
  | signalled : Move loop { loop with shutdown := true }
  | ignored {update : Update} (waiting : loop.handler.pc = .waiting)
      (inert : update = .init ∨ update = .release ∨
        update = .disconnected ∧ loop.handler.activeConn = none) :
      Move loop { loop with history := loop.history ++ [update] }
  | opened {io : Nat} (waiting : loop.handler.pc = .waiting)
      (inactive : loop.handler.activeConn = none) (fresh : io ∉ loop.taken) :
      Move loop { loop with
        handler := ⟨.waiting, some io⟩
        taken := loop.taken ++ [io]
        running := loop.running ++ [io]
        history := loop.history ++ [.connected io] }
  | replaced {io old : Nat} (waiting : loop.handler.pc = .waiting)
      (active : loop.handler.activeConn = some old) (fresh : io ∉ loop.taken) :
      Move loop { loop with
        handler := ⟨.stopping old false, some io⟩
        taken := loop.taken ++ [io]
        running := loop.running ++ [io]
        cancelled := loop.cancelled ++ [old]
        history := loop.history ++ [.connected io] }
  | takenDown {old : Nat} (waiting : loop.handler.pc = .waiting)
      (active : loop.handler.activeConn = some old) :
      Move loop { loop with
        handler := ⟨.stopping old false, none⟩
        cancelled := loop.cancelled ++ [old]
        history := loop.history ++ [.disconnected] }
  | closedIdle (waiting : loop.handler.pc = .waiting)
      (inactive : loop.handler.activeConn = none) :
      Move loop { loop with handler := ⟨.returned, none⟩ }
  | closing {old : Nat} (waiting : loop.handler.pc = .waiting)
      (active : loop.handler.activeConn = some old) :
      Move loop { loop with
        handler := ⟨.stopping old true, none⟩
        cancelled := loop.cancelled ++ [old] }
  | finished {actor : Nat} :
      Move loop { loop with running := loop.running.filter (· ≠ actor) }
  | joined {actor : Nat} {last : Bool} (stopping : loop.handler.pc = .stopping actor last)
      (ended : actor ∉ loop.running) :
      Move loop { loop with
        handler := loop.handler.onStopped last
        awaited := loop.awaited ++ [actor] }

variable {loop next : EventLoop} {act : LoopAct}

theorem receive_moves {update : Update} (waiting : loop.handler.pc = .waiting)
    (fresh : ∀ io ∈ update.handles, io ∉ loop.taken) : loop.Move (loop.receive update) := by
  have accepted : ¬ update.handles.any (· ∈ loop.taken) = true := by simpa using fresh
  unfold receive
  rw [if_neg accepted]
  cases update with
  | init =>
      simp only [EventHandler.onUpdate, Update.handles, List.append_nil]
      exact .ignored waiting (.inl rfl)
  | release =>
      simp only [EventHandler.onUpdate, Update.handles, List.append_nil]
      exact .ignored waiting (.inr (.inl rfl))
  | connected io =>
      have unused : io ∉ loop.taken := fresh io List.mem_cons_self
      cases active : loop.handler.activeConn with
      | none =>
          simp only [EventHandler.onUpdate, active, waiting]
          exact .opened waiting active unused
      | some old =>
          simp only [EventHandler.onUpdate, active]
          exact .replaced waiting active unused
  | disconnected =>
      cases active : loop.handler.activeConn with
      | none =>
          simp only [EventHandler.onUpdate, active, Update.handles, List.append_nil]
          exact .ignored waiting (.inr (.inr ⟨rfl, active⟩))
      | some old =>
          simp only [EventHandler.onUpdate, active, Update.handles, List.append_nil]
          exact .takenDown waiting active

theorem close_moves (waiting : loop.handler.pc = .waiting) : loop.Move loop.close := by
  unfold close
  cases active : loop.handler.activeConn with
  | none =>
      simp only [EventHandler.onClose, active]
      exact .closedIdle waiting active
  | some old =>
      simp only [EventHandler.onClose, active]
      exact .closing waiting active

theorem selecting_iff : loop.selecting = true ↔
    loop.handler.pc = .waiting ∧ loop.panicked = false := by
  simp [selecting]

theorem step_moves (fresh : loop.Fresh act) (stepped : system.step loop act = some next) :
    loop.Move next := by
  simp only [system] at stepped
  cases act with
  | signal =>
      cases stepped
      exact .signalled
  | update update =>
      obtain ⟨selecting, same⟩ := Option.ite_none_right_eq_some.mp stepped
      cases same
      exact receive_moves (selecting_iff.mp selecting).1 fresh
  | streamClosed =>
      obtain ⟨selecting, same⟩ := Option.ite_none_right_eq_some.mp stepped
      cases same
      exact close_moves (selecting_iff.mp selecting).1
  | shutdown =>
      obtain ⟨⟨selecting, _⟩, same⟩ := Option.ite_none_right_eq_some.mp stepped
      cases same
      exact close_moves (selecting_iff.mp selecting).1
  | finish actor =>
      obtain ⟨_, same⟩ := Option.ite_none_right_eq_some.mp stepped
      cases same
      exact .finished
  | joined =>
      simp only [step] at stepped
      split at stepped
      · next actor last stopping =>
          obtain ⟨ended, same⟩ := Option.ite_none_left_eq_some.mp stepped
          cases same
          exact .joined stopping ended
      · cases stepped

/-! ## Ownership -/

/-- The actor is the active one, or its end is being waited for. -/
def Owns (loop : EventLoop) (actor : Nat) : Prop :=
  loop.handler.activeConn = some actor ∨ ∃ last, loop.handler.pc = .stopping actor last

/-- Where the handler is, and which connection is then the active one. -/
def Placed (loop : EventLoop) : Prop :=
  match loop.handler.pc with
  | .waiting => loop.handler.activeConn = latestConnected loop.history
  | .stopping actor last => actor ∈ loop.cancelled ∧
      if last then loop.handler.activeConn = none
      else loop.handler.activeConn = latestConnected loop.history
  | .returned => loop.handler.activeConn = none

/-- Every actor that was spawned is owned by the handler or has been stopped and
awaited. -/
structure Owned (loop : EventLoop) : Prop where
  calm : loop.panicked = false
  recorded : ∀ io, .connected io ∈ loop.history ↔ io ∈ loop.taken
  spawned : ∀ actor ∈ loop.running, actor ∈ loop.taken
  accounted : ∀ actor ∈ loop.taken, loop.Owns actor ∨ actor ∈ loop.awaited
  known : ∀ actor, loop.Owns actor ∨ actor ∈ loop.awaited → actor ∈ loop.taken
  stopped : ∀ actor ∈ loop.awaited, actor ∈ loop.cancelled ∧ actor ∉ loop.running
  placed : loop.Placed

theorem latestConnected_append (history : List Update) (update : Update) :
    latestConnected (history ++ [update]) =
      match update with
      | .connected io => some io
      | .disconnected => none
      | .init | .release => latestConnected history := by
  rw [latestConnected, List.foldl_append]
  rfl

theorem Owned.init : Owned init := by
  constructor <;> simp [EventLoop.init, Owns, Placed, EventHandler.init, latestConnected]

theorem Owned.waiting_active (owned : Owned loop) (waiting : loop.handler.pc = .waiting) :
    loop.handler.activeConn = latestConnected loop.history := by
  have placed := owned.placed
  simpa only [Placed, waiting] using placed

theorem Owned.move (owned : Owned loop) (move : loop.Move next) : Owned next := by
  have active_latest := owned.waiting_active
  obtain ⟨calm, recorded, spawned, accounted, known, stopped, placed⟩ := owned
  cases move with
  | signalled => exact ⟨calm, recorded, spawned, accounted, known, stopped, placed⟩
  | @ignored update waiting inert =>
      have still : latestConnected (loop.history ++ [update]) = latestConnected loop.history := by
        rw [latestConnected_append]
        rcases inert with rfl | rfl | ⟨rfl, inactive⟩
        · rfl
        · rfl
        · exact inactive.symm.trans (active_latest waiting)
      constructor
      case placed => simpa only [Placed, waiting, still] using placed
      case recorded => grind
      all_goals assumption
  | @opened io waiting inactive fresh =>
      constructor
      case placed => simp [Placed, latestConnected_append]
      case calm => exact calm
      all_goals grind [Owns]
  | @replaced io old waiting active fresh =>
      -- For a while both actors run: the new one is active, the end of the old one
      -- is waited for.
      constructor
      case placed => simp [Placed, latestConnected_append]
      case calm => exact calm
      all_goals grind [Owns]
  | takenDown waiting active =>
      constructor
      case placed => simp [Placed, latestConnected_append]
      case calm => exact calm
      all_goals grind [Owns]
  | closedIdle waiting inactive =>
      constructor
      case placed => simp [Placed]
      case accounted => grind [Owns]
      case known => grind [Owns]
      all_goals assumption
  | closing waiting active =>
      constructor
      case placed => simp [Placed]
      case accounted => grind [Owns]
      case known => grind [Owns]
      case stopped => grind
      all_goals assumption
  | finished =>
      constructor
      case spawned => grind
      case stopped => grind
      all_goals assumption
  | @joined actor last stopping ended =>
      obtain ⟨cancelled, active⟩ : actor ∈ loop.cancelled ∧ if last then
          loop.handler.activeConn = none
        else loop.handler.activeConn = latestConnected loop.history := by
        simpa only [Placed, stopping] using placed
      constructor
      case placed =>
        cases last with
        | true => simpa [Placed, EventHandler.onStopped] using active
        | false => simpa [Placed, EventHandler.onStopped] using active
      case accounted => grind [Owns, EventHandler.onStopped]
      case known => grind [Owns, EventHandler.onStopped]
      case stopped => grind
      all_goals assumption

theorem owned (reached : system.ReachableBy Fresh loop) : Owned loop := by
  apply reached.invariant
  · intro state initial
    rw [initial]
    exact Owned.init
  · intro state act after _ before fresh stepped
    exact before.move (step_moves fresh stepped)

/-- Between updates only the actor of the latest `Connected` that no
`Disconnected` has followed may run, and all others have been stopped and
awaited. None runs once the handler has returned. It does not panic, and a wait
ends as soon as the cancelled actor has. -/
theorem actors_owned (reached : system.ReachableBy Fresh loop) :
    loop.panicked = false ∧
    (loop.handler.pc = .waiting →
      (∀ actor ∈ loop.running, latestConnected loop.history = some actor) ∧
      ∀ io, .connected io ∈ loop.history → latestConnected loop.history ≠ some io →
        io ∈ loop.cancelled ∧ io ∈ loop.awaited ∧ io ∉ loop.running) ∧
    (loop.handler.pc = .returned →
      loop.running = [] ∧
      ∀ io, .connected io ∈ loop.history → io ∈ loop.cancelled ∧ io ∈ loop.awaited) ∧
    ∀ actor last, loop.handler.pc = .stopping actor last → actor ∈ loop.cancelled ∧
      (actor ∉ loop.running → ∃ next, system.step loop .joined = some next ∧
        next.handler.pc = if last then .returned else .waiting) := by
  have owned := owned reached
  have disowned : ∀ io ∈ loop.taken, ¬ loop.Owns io →
      io ∈ loop.cancelled ∧ io ∈ loop.awaited ∧ io ∉ loop.running := by
    intro io member foreign
    have awaited := (owned.accounted io member).resolve_left foreign
    exact ⟨(owned.stopped io awaited).1, awaited, (owned.stopped io awaited).2⟩
  refine ⟨owned.calm, ?_, ?_, ?_⟩
  · intro waiting
    have foreign : ∀ io, latestConnected loop.history ≠ some io → ¬ loop.Owns io := by
      intro io other owns
      simp only [Owns, waiting, owned.waiting_active waiting] at owns
      simp [other] at owns
    constructor
    · intro actor running
      by_contra other
      exact (disowned actor (owned.spawned actor running) (foreign actor other)).2.2 running
    · intro io connected other
      exact disowned io ((owned.recorded io).mp connected) (foreign io other)
  · intro returned
    have foreign : ∀ io, ¬ loop.Owns io := by
      intro io owns
      have inactive : loop.handler.activeConn = none := by
        simpa only [Placed, returned] using owned.placed
      simp [Owns, inactive, returned] at owns
    constructor
    · apply List.eq_nil_iff_forall_not_mem.mpr
      intro actor running
      exact (disowned actor (owned.spawned actor running) (foreign actor)).2.2 running
    · intro io connected
      have apart := disowned io ((owned.recorded io).mp connected) (foreign io)
      exact ⟨apart.1, apart.2.1⟩
  · intro actor last stopping
    have placed := owned.placed
    simp only [Placed, stopping] at placed
    refine ⟨placed.1, ?_⟩
    intro ended
    refine ⟨{ loop with
      handler := loop.handler.onStopped last
      awaited := loop.awaited ++ [actor] }, ?_, rfl⟩
    simp only [system, step, stopping, ended, if_false]

/-- A second `Connected` without a `Disconnected`, a `Disconnected` too many, and
a shutdown. -/
theorem actors_owned_disorder :
    ∃ loop, system.ReachableBy Fresh loop ∧ loop.handler.pc = .returned ∧ loop.running = [] ∧
      loop.awaited = [1, 2, 3] := by
  obtain ⟨loop, ran, conforms, returned, awaited⟩ : ∃ loop,
      let acts := [.update .disconnected, .update (.connected 1), .update (.connected 2),
        .finish 1, .joined, .update .release, .update .disconnected, .finish 2, .joined,
        .update .disconnected, .update (.connected 3), .signal, .shutdown, .finish 3, .joined]
      system.run init acts = some loop ∧ system.Conforms Fresh init acts ∧
        loop.handler.pc = .returned ∧ loop.awaited = [1, 2, 3] :=
    ⟨_, rfl, by decide, rfl, rfl⟩
  have reached := System.reachableBy_of_run rfl conforms ran
  exact ⟨loop, reached, returned, ((actors_owned reached).2.2.1 returned).1, awaited⟩

end EventLoop

end LibddRc
