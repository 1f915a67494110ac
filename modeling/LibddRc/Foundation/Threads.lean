import Mathlib.Logic.Function.Basic
import LibddRc.Foundation.TransitionSystem

/-! Any number of threads that run one program over shared state, each at its
own point, and an environment that changes the shared state between their steps.
An outline says what holds at each point. It holds in every run once each
step establishes it for the thread that makes the step and keeps it for the
others. -/

set_option autoImplicit false

namespace Foundation

structure Program (Shared Point Choice Event : Type) where
  initial : Shared → Prop
  entry : Point
  step : Nat → Shared → Point → Choice → Option (Shared × Point)
  environment : Shared → Event → Option Shared

structure Threads (Shared Point : Type) where
  shared : Shared
  points : Nat → Point

inductive ThreadAct (Choice Event : Type)
  | thread (id : Nat) (choice : Choice)
  | environment (event : Event)

namespace Program

variable {Shared Point Choice Event : Type} (program : Program Shared Point Choice Event)

/-- All interleavings of the threads and the environment. -/
def threads : System (Threads Shared Point) (ThreadAct Choice Event) where
  initial state := program.initial state.shared ∧ ∀ id, state.points id = program.entry
  step state
    | .thread id choice =>
        (program.step id state.shared (state.points id) choice).map fun (shared, point) =>
          ⟨shared, Function.update state.points id point⟩
    | .environment event =>
        (program.environment state.shared event).map fun shared => { state with shared }

/-- What holds of the shared state, and of the shared state for a thread at a
point. `others` is freedom from interference. -/
structure Outline where
  invariant : Shared → Prop
  assertion : Nat → Shared → Point → Prop
  start : ∀ {shared}, program.initial shared →
    invariant shared ∧ ∀ id, assertion id shared program.entry
  own : ∀ {id shared point choice after next}, invariant shared → assertion id shared point →
    program.step id shared point choice = some (after, next) →
      invariant after ∧ assertion id after next
  others : ∀ {id shared point choice after next other elsewhere}, other ≠ id →
    invariant shared → assertion id shared point → assertion other shared elsewhere →
    program.step id shared point choice = some (after, next) → assertion other after elsewhere
  environment : ∀ {shared event after}, invariant shared →
    program.environment shared event = some after →
      invariant after ∧ ∀ id point, assertion id shared point → assertion id after point

variable {program}

theorem step_thread {state after : Threads Shared Point} {id : Nat} {choice : Choice}
    (stepped : program.threads.step state (.thread id choice) = some after) :
    ∃ point, program.step id state.shared (state.points id) choice = some (after.shared, point) ∧
      after.points = Function.update state.points id point := by
  obtain ⟨⟨shared, point⟩, moved, rfl⟩ := Option.map_eq_some_iff.mp stepped
  exact ⟨point, moved, rfl⟩

theorem step_environment {state after : Threads Shared Point} {event : Event}
    (stepped : program.threads.step state (.environment event) = some after) :
    program.environment state.shared event = some after.shared ∧ after.points = state.points := by
  obtain ⟨shared, moved, rfl⟩ := Option.map_eq_some_iff.mp stepped
  exact ⟨moved, rfl⟩

/-- The outline is an invariant of the threads. -/
theorem Outline.holds (outline : program.Outline) {state : Threads Shared Point}
    (reached : program.threads.Reachable state) :
    outline.invariant state.shared ∧
      ∀ id, outline.assertion id state.shared (state.points id) := by
  refine System.Reachable.invariant (fun state => outline.invariant state.shared ∧
    ∀ id, outline.assertion id state.shared (state.points id)) ?_ ?_ reached
  · rintro state ⟨initial, entry⟩
    obtain ⟨invariant, assertions⟩ := outline.start initial
    exact ⟨invariant, fun id => entry id ▸ assertions id⟩
  · rintro state action after _ ⟨invariant, assertions⟩ stepped
    cases action with
    | environment event =>
        obtain ⟨moved, same⟩ := step_environment stepped
        obtain ⟨still, kept⟩ := outline.environment invariant moved
        exact ⟨still, fun id => same ▸ kept id _ (assertions id)⟩
    | thread id choice =>
        obtain ⟨point, moved, updated⟩ := step_thread stepped
        obtain ⟨still, reachedPoint⟩ := outline.own invariant (assertions id) moved
        refine ⟨still, fun other => ?_⟩
        rw [updated]
        by_cases same : other = id
        · subst same
          rw [Function.update_self]
          exact reachedPoint
        · rw [Function.update_of_ne same]
          exact outline.others same invariant (assertions id) (assertions other) moved

/-- One thread makes its steps while the others rest. -/
def alone (program : Program Shared Point Choice Event) (id : Nat) :
    List Choice → Shared × Point → Option (Shared × Point)
  | [], at_ => some at_
  | choice :: rest, (shared, point) =>
      (program.step id shared point choice).bind (program.alone id rest)

theorem alone_append {id : Nat} {first second : List Choice} {start middle : Shared × Point}
    (ran : program.alone id first start = some middle) :
    program.alone id (first ++ second) start = program.alone id second middle := by
  induction first generalizing start with
  | nil =>
      cases ran
      rfl
  | cons choice rest ih =>
      obtain ⟨between, stepped, onward⟩ := Option.bind_eq_some_iff.mp ran
      rw [List.cons_append, alone, stepped, Option.bind_some]
      exact ih onward

theorem run_alone {id : Nat} {choices : List Choice} {state : Threads Shared Point}
    {shared : Shared} {point : Point}
    (ran : program.alone id choices (state.shared, state.points id) = some (shared, point)) :
    program.threads.run state (choices.map (.thread id)) =
      some ⟨shared, Function.update state.points id point⟩ := by
  induction choices generalizing state with
  | nil =>
      cases ran
      rw [Function.update_eq_self]
      rfl
  | cons choice rest ih =>
      obtain ⟨⟨middle, between⟩, stepped, onward⟩ := Option.bind_eq_some_iff.mp ran
      have first : program.threads.step state (.thread id choice) =
          some ⟨middle, Function.update state.points id between⟩ := by
        simp [threads, stepped]
      have reached : program.alone id rest (middle, Function.update state.points id between id) =
          some (shared, point) := by
        rw [Function.update_self]
        exact onward
      rw [List.map_cons, System.run_cons, first, Option.bind_some, ih reached,
        Function.update_idem]

end Program

end Foundation
