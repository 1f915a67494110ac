import LibddRc.Foundation.Threads

/-! `rcx509.Client`: any number of concurrent `Start` and `Close` calls over a
mutex, a cancel function and a wait group. The goroutine whose `Start` call
finds the client new runs the connection loop itself. -/

set_option autoImplicit false

namespace LibddRc.Go

open Foundation

/-- `ffi` is an error of `ffiCtx.Close`, wrapped. -/
inductive ClientError
  | clientClosed
  | alreadyStarted
  | ffi
  deriving DecidableEq

/-- What a call returned. -/
inductive ClientOutcome
  | start (err : Option ClientError)
  | close (err : Option ClientError)
  deriving DecidableEq

/-- Where `run` stands. The first four are `establishConnection`, the next two
`runSession` and its deferred cleanup; `checking` looks at `ctx.Err`. -/
inductive RunPc
  | creating
  | dialing (conn : Nat)
  | marking (conn : Nat)
  | abandoning (conn : Nat)
  | serving (conn : Nat)
  | cleaning (conn : Nat)
  | checking
  | sleeping
  deriving DecidableEq

/-- Where a goroutine stands, between two statements of a call. -/
inductive ClientPc
  | idle
  | startLocking
  | startCheckingClosed
  | startCheckingStarted
  | startSettingCancel
  | startAdding
  | startUnlocking
  | startRefusing (err : ClientError)
  | running (pc : RunPc)
  | runReturned
  | closeLocking
  | closeCheckingClosed
  | closeReadingCancel
  | closeUnlocking (cancel : Option Nat)
  | closeRefusing
  | closeCancelling (cancel : Option Nat)
  | closeWaiting
  | closeCallingFfi
  | closeInsideFfi
  deriving DecidableEq

/-- The client, with a record of the goroutines that set `started` and `closed`,
of how often `run`, `ffiCtx.NewConnection`, `runSession` and `ffiCtx.Close` were
called, and of what the calls returned. A context is known by the goroutine that
made it. -/
structure Client where
  mu : Option Nat
  started : Bool
  closed : Bool
  cancel : Option Nat
  cancelled : Nat → Bool
  wg : Int
  starter : Option Nat
  closer : Option Nat
  loops : Nat
  created : Nat
  sessions : Nat
  ffiCloses : Nat
  outcomes : List ClientOutcome

def Client.init : Client where
  mu := none
  started := false
  closed := false
  cancel := none
  cancelled _ := false
  wg := 0
  starter := none
  closer := none
  loops := 0
  created := 0
  sessions := 0
  ffiCloses := 0
  outcomes := []

/-- Which call a goroutine makes, and how a call of another package comes back:
well, with an error, or because the context is done. It is not looked at where
there is nothing to choose. -/
inductive ClientChoice
  | start
  | close
  | ok
  | err
  | done
  deriving DecidableEq

namespace Client

/-- The loop of `run` under the context of goroutine `id`. -/
def runStep (id : Nat) (client : Client) (choice : ClientChoice) :
    RunPc → Option (Client × ClientPc)
  | .creating =>
      if choice = .ok then some ({ client with created := client.created + 1 },
        .running (.dialing client.created))
      else some (client, .running .checking)
  | .dialing conn =>
      some (client, .running (if choice = .ok then .marking conn else .abandoning conn))
  | .marking conn =>
      if choice = .ok then
        some ({ client with sessions := client.sessions + 1 }, .running (.serving conn))
      else some (client, .running (.abandoning conn))
  | .abandoning _ => some (client, .running .checking)
  | .serving conn =>
      -- a message is moved on, the context is done, or the session fails
      match choice with
      | .ok => some (client, .running (.serving conn))
      | .done => if client.cancelled id then some (client, .running (.cleaning conn)) else none
      | .start | .close | .err => some (client, .running (.cleaning conn))
  | .cleaning _ => some (client, .running .checking)
  | .checking =>
      if client.cancelled id then some (client, .runReturned)
      else some (client, .running .sleeping)
  | .sleeping =>
      if choice = .ok then some (client, .running .creating)
      else if client.cancelled id then some (client, .runReturned) else none

/-- One statement. A negative wait group counter would panic. -/
def step (id : Nat) (client : Client) (point : ClientPc) (choice : ClientChoice) :
    Option (Client × ClientPc) :=
  match point with
  | .idle => some (client, if choice = .start then .startLocking else .closeLocking)
  | .startLocking =>
      if client.mu = none then some ({ client with mu := some id }, .startCheckingClosed) else none
  | .startCheckingClosed =>
      if client.closed then some (client, .startRefusing .clientClosed)
      else some (client, .startCheckingStarted)
  | .startCheckingStarted =>
      if client.started then some (client, .startRefusing .alreadyStarted)
      else some ({ client with started := true, starter := some id }, .startSettingCancel)
  | .startSettingCancel => some ({ client with cancel := some id }, .startAdding)
  | .startAdding => some ({ client with wg := client.wg + 1 }, .startUnlocking)
  | .startUnlocking =>
      some ({ client with mu := none, loops := client.loops + 1 }, .running .creating)
  | .startRefusing err =>
      some ({ client with mu := none, outcomes := client.outcomes ++ [.start (some err)] }, .idle)
  | .running pc => client.runStep id choice pc
  | .runReturned =>
      if 0 < client.wg then some ({ client with
        wg := client.wg - 1, outcomes := client.outcomes ++ [.start none] }, .idle)
      else none
  | .closeLocking =>
      if client.mu = none then some ({ client with mu := some id }, .closeCheckingClosed) else none
  | .closeCheckingClosed =>
      if client.closed then some (client, .closeRefusing)
      else some ({ client with closed := true, closer := some id }, .closeReadingCancel)
  | .closeReadingCancel => some (client, .closeUnlocking client.cancel)
  | .closeUnlocking cancel => some ({ client with mu := none }, .closeCancelling cancel)
  | .closeRefusing => some ({ client with
      mu := none, outcomes := client.outcomes ++ [.close (some .clientClosed)] }, .idle)
  | .closeCancelling none => some (client, .closeWaiting)
  | .closeCancelling (some ctx) =>
      some ({ client with cancelled := Function.update client.cancelled ctx true }, .closeWaiting)
  | .closeWaiting => if client.wg = 0 then some (client, .closeCallingFfi) else none
  | .closeCallingFfi =>
      some ({ client with ffiCloses := client.ffiCloses + 1 }, .closeInsideFfi)
  | .closeInsideFfi => some ({ client with
      outcomes := client.outcomes ++ [.close (if choice = .ok then none else some .ffi)] }, .idle)

end Client

/-- The goroutines that use one client. Nothing else touches its fields. -/
def rcx509 : Program Client ClientPc ClientChoice Empty where
  initial client := client = .init
  entry := .idle
  step := Client.step
  environment _ := Empty.elim

/-! ## Moves -/

/-- Every move of a goroutine, with the guards it was made under. -/
inductive ClientMove (id : Nat) (client : Client) : ClientPc → Client → ClientPc → Prop
  | startCalled : ClientMove id client .idle client .startLocking
  | closeCalled : ClientMove id client .idle client .closeLocking
  | startLocked : client.mu = none →
      ClientMove id client .startLocking { client with mu := some id } .startCheckingClosed
  | startClosed :
      ClientMove id client .startCheckingClosed client (.startRefusing .clientClosed)
  | startOpen : client.closed = false →
      ClientMove id client .startCheckingClosed client .startCheckingStarted
  | startAgain :
      ClientMove id client .startCheckingStarted client (.startRefusing .alreadyStarted)
  | startFirst : client.started = false →
      ClientMove id client .startCheckingStarted
        { client with started := true, starter := some id } .startSettingCancel
  | cancelSet :
      ClientMove id client .startSettingCancel { client with cancel := some id } .startAdding
  | added : ClientMove id client .startAdding { client with wg := client.wg + 1 } .startUnlocking
  | entered : ClientMove id client .startUnlocking
      { client with mu := none, loops := client.loops + 1 } (.running .creating)
  | startRefused {err : ClientError} : ClientMove id client (.startRefusing err)
      { client with mu := none, outcomes := client.outcomes ++ [.start (some err)] } .idle
  | ran {pc next : RunPc} {created sessions : Nat} :
      ClientMove id client (.running pc) { client with created, sessions } (.running next)
  | exited {pc : RunPc} : client.cancelled id = true →
      ClientMove id client (.running pc) client .runReturned
  | finished : ClientMove id client .runReturned
      { client with wg := client.wg - 1, outcomes := client.outcomes ++ [.start none] } .idle
  | closeLocked : client.mu = none →
      ClientMove id client .closeLocking { client with mu := some id } .closeCheckingClosed
  | closeAgain : ClientMove id client .closeCheckingClosed client .closeRefusing
  | closeFirst : client.closed = false → ClientMove id client .closeCheckingClosed
      { client with closed := true, closer := some id } .closeReadingCancel
  | cancelRead :
      ClientMove id client .closeReadingCancel client (.closeUnlocking client.cancel)
  | closeUnlocked {cancel : Option Nat} : ClientMove id client (.closeUnlocking cancel)
      { client with mu := none } (.closeCancelling cancel)
  | closeRefused : ClientMove id client .closeRefusing { client with
      mu := none, outcomes := client.outcomes ++ [.close (some .clientClosed)] } .idle
  | cancelled {cancel : Option Nat} {contexts : Nat → Bool} :
      ClientMove id client (.closeCancelling cancel)
        { client with cancelled := contexts } .closeWaiting
  | waited : client.wg = 0 → ClientMove id client .closeWaiting client .closeCallingFfi
  | ffiCalled : ClientMove id client .closeCallingFfi
      { client with ffiCloses := client.ffiCloses + 1 } .closeInsideFfi
  | ffiReturned {err : Option ClientError} : err ≠ some .clientClosed →
      ClientMove id client .closeInsideFfi
        { client with outcomes := client.outcomes ++ [.close err] } .idle

section Moves

variable {id : Nat} {client after : Client} {next : ClientPc}

private theorem runStep_move {pc : RunPc} {choice : ClientChoice}
    (stepped : client.runStep id choice pc = some (after, next)) :
    ClientMove id client (.running pc) after next := by
  cases pc with
  | creating | marking =>
      simp only [Client.runStep] at stepped
      split at stepped <;> cases stepped <;> exact .ran
  | dialing | abandoning | cleaning =>
      cases stepped
      exact .ran
  | serving conn =>
      simp only [Client.runStep] at stepped
      split at stepped
      · cases stepped
        exact .ran
      · obtain ⟨_, same⟩ := Option.ite_none_right_eq_some.mp stepped
        cases same
        exact .ran
      all_goals
        cases stepped
        exact .ran
  | checking =>
      simp only [Client.runStep] at stepped
      split at stepped
      · next gone =>
        cases stepped
        exact .exited gone
      · cases stepped
        exact .ran
  | sleeping =>
      simp only [Client.runStep] at stepped
      split at stepped
      · cases stepped
        exact .ran
      · obtain ⟨gone, same⟩ := Option.ite_none_right_eq_some.mp stepped
        cases same
        exact .exited gone

theorem Client.step_move {point : ClientPc} {choice : ClientChoice}
    (stepped : client.step id point choice = some (after, next)) :
    ClientMove id client point after next := by
  cases point with
  | idle =>
      cases stepped
      split
      · exact .startCalled
      · exact .closeCalled
  | startLocking =>
      obtain ⟨free, same⟩ := Option.ite_none_right_eq_some.mp stepped
      cases same
      exact .startLocked free
  | startCheckingClosed =>
      simp only [Client.step] at stepped
      split at stepped
      · cases stepped
        exact .startClosed
      · next unclosed =>
        cases stepped
        exact .startOpen (by simpa using unclosed)
  | startCheckingStarted =>
      simp only [Client.step] at stepped
      split at stepped
      · cases stepped
        exact .startAgain
      · next unstarted =>
        cases stepped
        exact .startFirst (by simpa using unstarted)
  | startSettingCancel =>
      cases stepped
      exact .cancelSet
  | startAdding =>
      cases stepped
      exact .added
  | startUnlocking =>
      cases stepped
      exact .entered
  | startRefusing err =>
      cases stepped
      exact .startRefused
  | running pc => exact runStep_move stepped
  | runReturned =>
      obtain ⟨_, same⟩ := Option.ite_none_right_eq_some.mp stepped
      cases same
      exact .finished
  | closeLocking =>
      obtain ⟨free, same⟩ := Option.ite_none_right_eq_some.mp stepped
      cases same
      exact .closeLocked free
  | closeCheckingClosed =>
      simp only [Client.step] at stepped
      split at stepped
      · cases stepped
        exact .closeAgain
      · next unclosed =>
        cases stepped
        exact .closeFirst (by simpa using unclosed)
  | closeReadingCancel =>
      cases stepped
      exact .cancelRead
  | closeUnlocking cancel =>
      cases stepped
      exact .closeUnlocked
  | closeRefusing =>
      cases stepped
      exact .closeRefused
  | closeCancelling cancel =>
      cases cancel with
      | none =>
          cases stepped
          exact .cancelled
      | some ctx =>
          cases stepped
          exact .cancelled
  | closeWaiting =>
      obtain ⟨drained, same⟩ := Option.ite_none_right_eq_some.mp stepped
      cases same
      exact .waited drained
  | closeCallingFfi =>
      cases stepped
      exact .ffiCalled
  | closeInsideFfi =>
      cases stepped
      exact .ffiReturned (by split <;> simp)

end Moves

end LibddRc.Go
