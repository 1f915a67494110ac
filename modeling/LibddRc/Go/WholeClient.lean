import LibddRc.Go.ClientSafety
import LibddRc.Go.Handles

/-! The whole of `rcx509.Client`: the goroutines that call `Start` and `Close`,
and the connection loop that one of them runs on the client library. `Start` is
inside `run` until the loop returns, and the loop sees the cancel function that
`Close` calls. -/

set_option autoImplicit false

namespace LibddRc.Go

open Foundation Ffi

structure WholeClient where
  calls : Threads Client ClientPc
  loop : RunLoop

/-- A statement of `Start` or `Close`, or a step of the loop, its session or the
library. -/
inductive WholeAct
  | call (id : ℕ) (choice : ClientChoice)
  | loop (action : LoopAct)

def ClientPc.inLoop : ClientPc → Bool
  | .running _ => true
  | _ => false

namespace WholeClient

def init : WholeClient where
  calls := ⟨.init, fun _ => .idle⟩
  loop := .init

/-- Some `Start` call is inside `run`. -/
def running (whole : WholeClient) : Bool :=
  whole.calls.shared.starter.any fun id => (whole.calls.points id).inLoop

def callStep (env : LoopEnv) (whole : WholeClient) (id : ℕ) (choice : ClientChoice) :
    Option WholeClient :=
  match whole.calls.points id with
  | .running _ =>
      if whole.loop.pc = .returned then some { whole with
        calls := { whole.calls with
          points := Function.update whole.calls.points id .runReturned } }
      else none
  | .closeCancelling (some _) =>
      (rcx509.threads.step whole.calls (.thread id choice)).bind fun calls =>
        (whole.loop.step env .cancel).map fun loop => ⟨calls, loop⟩
  | _ => (rcx509.threads.step whole.calls (.thread id choice)).map fun calls =>
      { whole with calls }

/-- The library's own steps need nobody inside `run`. -/
def loopStep (env : LoopEnv) (whole : WholeClient) (action : LoopAct) : Option WholeClient :=
  match action with
  | .cancel => none
  | .library action => (whole.loop.step env (.library action)).map fun loop => { whole with loop }
  | action =>
      if whole.running then (whole.loop.step env action).map fun loop => { whole with loop }
      else none

def step (env : LoopEnv) (whole : WholeClient) : WholeAct → Option WholeClient
  | .call id choice => whole.callStep env id choice
  | .loop action => whole.loopStep env action

end WholeClient

def wholeClient (env : LoopEnv) : System WholeClient WholeAct where
  initial whole := whole = .init
  step := WholeClient.step env

/-! ## Moves -/

inductive WholeMove (env : LoopEnv) (whole : WholeClient) : WholeClient → Prop
  | called {id : ℕ} {choice : ClientChoice} {calls : Threads Client ClientPc}
      (outside : (whole.calls.points id).inLoop = false)
      (uncancelled : ∀ ctx, whole.calls.points id ≠ .closeCancelling (some ctx))
      (stepped : rcx509.threads.step whole.calls (.thread id choice) = some calls) :
      WholeMove env whole { whole with calls }
  | cancelled {id ctx : ℕ} {choice : ClientChoice} {calls : Threads Client ClientPc}
      {loop : RunLoop} (at_ : whole.calls.points id = .closeCancelling (some ctx))
      (stepped : rcx509.threads.step whole.calls (.thread id choice) = some calls)
      (told : whole.loop.step env .cancel = some loop) : WholeMove env whole ⟨calls, loop⟩
  | exited {id : ℕ} {pc : RunPc} (at_ : whole.calls.points id = .running pc)
      (returned : whole.loop.pc = .returned) :
      WholeMove env whole { whole with
        calls := { whole.calls with
          points := Function.update whole.calls.points id .runReturned } }
  | library {action : InstanceAct} {loop : RunLoop}
      (stepped : whole.loop.step env (.library action) = some loop) :
      WholeMove env whole { whole with loop }
  | looped {action : LoopAct} {loop : RunLoop} (running : whole.running = true)
      (uncancelled : action ≠ .cancel) (stepped : whole.loop.step env action = some loop) :
      WholeMove env whole { whole with loop }

section Moves

variable {env : LoopEnv} {whole next : WholeClient}

theorem WholeClient.step_move {action : WholeAct} (stepped : whole.step env action = some next) :
    WholeMove env whole next := by
  cases action with
  | call id choice =>
      simp only [step, callStep] at stepped
      split at stepped
      · next pc at_ =>
        obtain ⟨returned, same⟩ := Option.ite_none_right_eq_some.mp stepped
        cases same
        exact .exited at_ returned
      · next ctx at_ =>
        obtain ⟨calls, called, rest⟩ := Option.bind_eq_some_iff.mp stepped
        obtain ⟨loop, told, rfl⟩ := Option.map_eq_some_iff.mp rest
        exact .cancelled at_ called told
      · next notRunning notCancelling =>
        obtain ⟨calls, called, rfl⟩ := Option.map_eq_some_iff.mp stepped
        refine .called ?_ notCancelling called
        cases point : whole.calls.points id with
        | running pc => exact absurd point (notRunning pc)
        | _ => rfl
  | loop action =>
      simp only [step, loopStep] at stepped
      split at stepped
      · cases stepped
      · obtain ⟨loop, moved, rfl⟩ := Option.map_eq_some_iff.mp stepped
        exact .library moved
      · next notCancel _ =>
        obtain ⟨running, rest⟩ := Option.ite_none_right_eq_some.mp stepped
        obtain ⟨loop, moved, rfl⟩ := Option.map_eq_some_iff.mp rest
        exact .looped running notCancel moved

end Moves

end LibddRc.Go
