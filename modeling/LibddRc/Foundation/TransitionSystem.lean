import Mathlib.Data.List.Basic
import Mathlib.Data.List.Induction

/-! Transition systems given by a guarded, executable step function, with the
run and invariant rules shared by every concurrent model. Nothing here depends
on the systems it is used for. -/

set_option autoImplicit false

namespace Foundation

/-- A transition system. `step state action` is `none` exactly when `action`
is not enabled in `state`. -/
structure System (State Action : Type) where
  initial : State → Prop
  step : State → Action → Option State

namespace System

variable {State Action : Type} (sys : System State Action)

/-- Replay a schedule. The result is `none` when some action was not enabled. -/
def run (state : State) : List Action → Option State
  | [] => some state
  | action :: rest => (sys.step state action).bind fun next => run next rest

/-- Finitely many steps, each of which meets `guard` in the state it starts
from. -/
inductive Steps (guard : State → Action → Prop) : State → State → Prop
  | refl {state : State} : Steps guard state state
  | tail {start state next : State} {action : Action} :
      Steps guard start state → guard state action →
      sys.step state action = some next → Steps guard start next

/-- States reached from an initial one by steps that all meet `guard`. -/
def ReachableBy (guard : State → Action → Prop) (state : State) : Prop :=
  ∃ start, sys.initial start ∧ sys.Steps guard start state

def Reachable (state : State) : Prop :=
  sys.ReachableBy (fun _ _ => True) state

/-- Every action of a schedule meets `guard` in the state it is taken in. -/
def Conforms (guard : State → Action → Prop) (state : State) : List Action → Prop
  | [] => True
  | action :: rest => guard state action ∧
      match sys.step state action with
      | none => True
      | some next => Conforms guard next rest

instance Conforms.decidable (guard : State → Action → Prop)
    [∀ state action, Decidable (guard state action)] (state : State) (actions : List Action) :
    Decidable (sys.Conforms guard state actions) :=
  match actions with
  | [] => isTrue trivial
  | action :: rest =>
      match stepped : sys.step state action with
      | none => decidable_of_iff (guard state action) (by simp [Conforms, stepped])
      | some next =>
          have := Conforms.decidable guard next rest
          decidable_of_iff (guard state action ∧ sys.Conforms guard next rest)
            (by simp [Conforms, stepped])

@[simp] theorem run_nil (state : State) : sys.run state [] = some state := rfl

@[simp] theorem run_cons (state : State) (action : Action) (rest : List Action) :
    sys.run state (action :: rest) =
      (sys.step state action).bind fun next => sys.run next rest := rfl

theorem run_append (state : State) (first second : List Action) :
    sys.run state (first ++ second) =
      (sys.run state first).bind fun next => sys.run next second := by
  induction first generalizing state with
  | nil => rfl
  | cons action rest ih =>
      cases stepped : sys.step state action with
      | none => simp [stepped]
      | some next => simp [stepped, ih next]

theorem run_append_of_eq {start middle : State} {first : List Action}
    (ran : sys.run start first = some middle) (second : List Action) :
    sys.run start (first ++ second) = sys.run middle second := by
  rw [run_append, ran, Option.bind_some]

theorem run_trans {start middle finish : State} {first second : List Action}
    (earlier : sys.run start first = some middle) (later : sys.run middle second = some finish) :
    sys.run start (first ++ second) = some finish :=
  (sys.run_append_of_eq earlier second).trans later

theorem run_single {start finish : State} {action : Action}
    (stepped : sys.step start action = some finish) : sys.run start [action] = some finish := by
  rw [run_cons, stepped, Option.bind_some, run_nil]

/-- Repeating one round of actions walks along a family of states that the
round advances by one. -/
theorem run_rounds (family : Nat → State) (round : List Action) (count : Nat)
    (advance : ∀ position < count,
      sys.run (family position) round = some (family (position + 1))) :
    sys.run (family 0) (List.replicate count round).flatten = some (family count) := by
  induction count with
  | zero => rfl
  | succ count ih =>
      rw [List.replicate_succ', List.flatten_append, run_append,
        ih fun position bound => advance position (by omega)]
      simpa using advance count (by omega)

variable {sys}
variable {guard weaker : State → Action → Prop}

theorem Steps.trans {start middle finish : State}
    (first : sys.Steps guard start middle) (second : sys.Steps guard middle finish) :
    sys.Steps guard start finish := by
  induction second with
  | refl => exact first
  | tail _ meets stepped ih => exact .tail ih meets stepped

theorem Steps.weaken (implies : ∀ state action, guard state action → weaker state action)
    {start finish : State} (path : sys.Steps guard start finish) :
    sys.Steps weaker start finish := by
  induction path with
  | refl => exact .refl
  | tail _ meets stepped ih => exact .tail ih (implies _ _ meets) stepped

/-- The induction rule for what finitely many guarded steps preserve. -/
theorem Steps.preserves (invariant : State → Prop)
    (next : ∀ state action after, invariant state → guard state action →
      sys.step state action = some after → invariant after)
    {start finish : State} (path : sys.Steps guard start finish) (holds : invariant start) :
    invariant finish := by
  induction path with
  | refl => exact holds
  | tail _ meets stepped ih => exact next _ _ _ ih meets stepped

theorem ReachableBy.weaken (implies : ∀ state action, guard state action → weaker state action)
    {state : State} (reached : sys.ReachableBy guard state) : sys.ReachableBy weaker state := by
  obtain ⟨start, initial, path⟩ := reached
  exact ⟨start, initial, path.weaken implies⟩

theorem ReachableBy.reachable {state : State} (reached : sys.ReachableBy guard state) :
    sys.Reachable state :=
  reached.weaken fun _ _ _ => trivial

theorem ReachableBy.step {state next : State} {action : Action}
    (reached : sys.ReachableBy guard state) (meets : guard state action)
    (stepped : sys.step state action = some next) : sys.ReachableBy guard next := by
  obtain ⟨start, initial, path⟩ := reached
  exact ⟨start, initial, .tail path meets stepped⟩

theorem Reachable.step {state next : State} {action : Action} (reached : sys.Reachable state)
    (stepped : sys.step state action = some next) : sys.Reachable next :=
  ReachableBy.step reached trivial stepped

/-- An invariant holds in every state that guarded steps reach once it holds
initially and every guarded step keeps it. The step obligation may use that
its source state is itself reachable. -/
theorem ReachableBy.invariant (invariant : State → Prop)
    (start : ∀ state, sys.initial state → invariant state)
    (next : ∀ state action after, sys.ReachableBy guard state → invariant state →
      guard state action → sys.step state action = some after → invariant after)
    {state : State} (reached : sys.ReachableBy guard state) : invariant state := by
  obtain ⟨first, initial, path⟩ := reached
  induction path with
  | refl => exact start _ initial
  | tail earlier meets stepped ih =>
      exact next _ _ _ ⟨first, initial, earlier⟩ ih meets stepped

theorem Reachable.invariant (invariant : State → Prop)
    (start : ∀ state, sys.initial state → invariant state)
    (next : ∀ state action after, sys.Reachable state → invariant state →
      sys.step state action = some after → invariant after)
    {state : State} (reached : sys.Reachable state) : invariant state :=
  ReachableBy.invariant invariant start
    (fun _ _ _ earlier holds _ stepped => next _ _ _ earlier holds stepped) reached

/-- A composite system seen as one of its components: as long as `scope` holds,
each step of the composite is a step of the component or leaves it alone. -/
theorem ReachableBy.project {Part PartAction : Type} {part : System Part PartAction}
    {partGuard : Part → PartAction → Prop} (view : State → Part) (scope : State → Prop)
    (start : ∀ state, sys.initial state → part.initial (view state))
    (next : ∀ state action after, sys.ReachableBy guard state → guard state action →
      sys.step state action = some after → scope after → scope state ∧
        (view after = view state ∨ ∃ partAction, partGuard (view state) partAction ∧
          part.step (view state) partAction = some (view after)))
    {state : State} (reached : sys.ReachableBy guard state) (inside : scope state) :
    part.ReachableBy partGuard (view state) := by
  revert inside
  refine reached.invariant (fun state => scope state → part.ReachableBy partGuard (view state))
    (fun state initial _ => ⟨view state, start state initial, .refl⟩) ?_
  intro state action after earlier before meets stepped inside
  obtain ⟨still, moved⟩ := next state action after earlier meets stepped inside
  rcases moved with same | ⟨partAction, allowed, partStepped⟩
  · exact same ▸ before still
  · exact (before still).step allowed partStepped

theorem conforms_of_forall {start : State} {actions : List Action}
    (meets : ∀ action ∈ actions, ∀ state, guard state action) :
    sys.Conforms guard start actions := by
  induction actions generalizing start with
  | nil => trivial
  | cons action rest ih =>
      refine ⟨meets action List.mem_cons_self start, ?_⟩
      split
      · trivial
      · exact ih fun other member => meets other (List.mem_cons_of_mem _ member)

theorem forall_mem_rounds {meets : Action → Prop} {round : List Action} (count : Nat)
    (each : ∀ action ∈ round, meets action) :
    ∀ action ∈ (List.replicate count round).flatten, meets action := by
  intro action member
  obtain ⟨_, copies, inside⟩ := List.mem_flatten.mp member
  exact each action (List.eq_of_mem_replicate copies ▸ inside)

theorem Conforms.append {start middle : State} {first second : List Action}
    (conforms : sys.Conforms guard start first) (ran : sys.run start first = some middle)
    (rest : sys.Conforms guard middle second) : sys.Conforms guard start (first ++ second) := by
  induction first generalizing start with
  | nil =>
      cases ran
      exact rest
  | cons action others ih =>
      obtain ⟨next, stepped, remaining⟩ := Option.bind_eq_some_iff.mp ran
      obtain ⟨meets, later⟩ := conforms
      rw [stepped] at later
      refine ⟨meets, ?_⟩
      rw [stepped]
      exact ih later remaining

theorem steps_of_run {start finish : State} {actions : List Action}
    (conforms : sys.Conforms guard start actions) (ran : sys.run start actions = some finish) :
    sys.Steps guard start finish := by
  induction actions generalizing start with
  | nil =>
      cases ran
      exact .refl
  | cons action rest ih =>
      obtain ⟨next, stepped, remaining⟩ := Option.bind_eq_some_iff.mp ran
      obtain ⟨meets, others⟩ := conforms
      rw [stepped] at others
      exact (Steps.tail .refl meets stepped).trans (ih others remaining)

/-- Guarded steps along a family of states that a conforming round advances by
one. -/
theorem steps_rounds (family : Nat → State) (round : List Action) (count : Nat)
    (conforms : ∀ position < count, sys.Conforms guard (family position) round)
    (advance : ∀ position < count,
      sys.run (family position) round = some (family (position + 1))) :
    sys.Steps guard (family 0) (family count) := by
  induction count with
  | zero => exact .refl
  | succ count ih =>
      have earlier := ih (fun position bound => conforms position (by omega))
        fun position bound => advance position (by omega)
      exact earlier.trans (steps_of_run (conforms count (by omega)) (advance count (by omega)))

/-- The induction rule for what a run keeps between the actions taken so far and
the state they lead to. -/
theorem run_invariant (invariant : List Action → State → Prop) {start : State}
    (initially : invariant [] start)
    (next : ∀ past state action after, sys.run start past = some state → invariant past state →
      sys.step state action = some after → invariant (past ++ [action]) after)
    {actions : List Action} {finish : State} (ran : sys.run start actions = some finish) :
    invariant actions finish := by
  induction actions using List.reverseRecOn generalizing finish with
  | nil =>
      cases ran
      exact initially
  | append_singleton past action ih =>
      rw [run_append] at ran
      obtain ⟨state, earlier, last⟩ := Option.bind_eq_some_iff.mp ran
      obtain ⟨after, stepped, same⟩ := Option.bind_eq_some_iff.mp last
      cases same
      exact next past state action finish earlier (ih earlier) stepped

/-- A run of a composite system is one of its component, with the same labels, if
each step of the composite is a step of the component or has no label and leaves
it alone. -/
theorem run_project {Part PartAction Label : Type} {part : System Part PartAction}
    (view : State → Part) (label : Action → List Label) (partLabel : PartAction → List Label)
    (simulates : ∀ state action after, sys.step state action = some after →
      view after = view state ∧ label action = [] ∨
        ∃ partAction, part.step (view state) partAction = some (view after) ∧
          partLabel partAction = label action)
    {start finish : State} {actions : List Action} (ran : sys.run start actions = some finish) :
    ∃ partActions, part.run (view start) partActions = some (view finish) ∧
      partActions.flatMap partLabel = actions.flatMap label := by
  induction actions generalizing start with
  | nil =>
      cases ran
      exact ⟨[], rfl, rfl⟩
  | cons action rest ih =>
      obtain ⟨next, stepped, remaining⟩ := Option.bind_eq_some_iff.mp ran
      obtain ⟨partActions, partRan, labels⟩ := ih remaining
      rcases simulates start action next stepped with ⟨same, quiet⟩ | ⟨partAction, moved, labelled⟩
      · refine ⟨partActions, same ▸ partRan, ?_⟩
        rw [labels, List.flatMap_cons, quiet, List.nil_append]
      · refine ⟨partAction :: partActions, ?_, ?_⟩
        · rw [run_cons, moved]
          exact partRan
        · rw [List.flatMap_cons, List.flatMap_cons, labels, labelled]

theorem Reachable.run {state finish : State} (reached : sys.Reachable state)
    {actions : List Action} (ran : sys.run state actions = some finish) : sys.Reachable finish := by
  obtain ⟨start, initial, path⟩ := reached
  have onward := steps_of_run (conforms_of_forall fun _ _ _ => trivial) ran
  exact ⟨start, initial, path.trans onward⟩

/-- Forward simulation. Each step is answered by a run of the other system, which
may be empty, so that what every run of the other system keeps holds of the images. -/
theorem Reachable.simulated {Other OtherAction : Type} {other : System Other OtherAction}
    (related : State → Other → Prop)
    (start : ∀ state, sys.initial state → ∃ image, other.Reachable image ∧ related state image)
    (next : ∀ state action after image, sys.Reachable state → other.Reachable image →
      related state image → sys.step state action = some after →
        ∃ actions later, other.run image actions = some later ∧ related after later)
    {state : State} (reached : sys.Reachable state) :
    ∃ image, other.Reachable image ∧ related state image := by
  refine reached.invariant (fun state => ∃ image, other.Reachable image ∧ related state image)
    start ?_
  rintro state action after earlier ⟨image, imageReached, relates⟩ stepped
  obtain ⟨actions, later, ran, holds⟩ :=
    next state action after image earlier imageReached relates stepped
  exact ⟨later, imageReached.run ran, holds⟩

theorem reachableBy_of_run {start finish : State} (initial : sys.initial start)
    {actions : List Action} (conforms : sys.Conforms guard start actions)
    (ran : sys.run start actions = some finish) : sys.ReachableBy guard finish :=
  ⟨start, initial, steps_of_run conforms ran⟩

theorem reachable_of_run {start finish : State} (initial : sys.initial start)
    {actions : List Action} (ran : sys.run start actions = some finish) :
    sys.Reachable finish :=
  reachableBy_of_run initial (conforms_of_forall fun _ _ _ => trivial) ran

end System

end Foundation
