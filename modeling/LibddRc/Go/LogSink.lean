import LibddRc.Foundation.Threads

/-! `EnableLogSink`: any number of concurrent calls that duplicate a file
descriptor and offer it to the client library, which takes the first for good.
Descriptor numbers are used again once they are closed, so that a descriptor
closed twice, or by the wrong party, would be somebody else's. -/

set_option autoImplicit false

namespace LibddRc.Go

open Foundation

/-- Whose an open descriptor is. The code does not know it. -/
inductive FdOwner
  | others
  | call (id : ℕ)
  | library
  deriving DecidableEq

inductive LogSinkRet
  | success
  | alreadySet
  | unsupported
  deriving DecidableEq

/-- `dup` is an error of `dupLogSinkFile`. -/
inductive LogSinkError
  | dup
  | alreadySet
  | unexpected (ret : LogSinkRet)
  deriving DecidableEq

def LogSinkRet.error? : LogSinkRet → Option LogSinkError
  | .success => none
  | .alreadySet => some .alreadySet
  | .unsupported => some (.unexpected .unsupported)

/-- The process: `LOG_SINK_INSTALLED`, whether `tracing` has its global subscriber,
the open descriptors, and the one that the subscriber writes to. The last three
fields only record which call's exchange succeeded, what the calls returned, and
whose descriptor each call closed. -/
structure LogSink where
  installed : Bool
  subscribed : Bool
  fds : ℕ → Option FdOwner
  sink : Option ℕ
  installer : Option ℕ
  outcomes : List (Option LogSinkError)
  closes : List (ℕ × Option FdOwner)

/-- Where a call stands. The second and the third are inside
`rc_enable_log_sink`. -/
inductive LogSinkPc
  | idle
  | exchanging (fd : ℕ)
  | installing (fd : ℕ)
  | returned (fd : ℕ) (ret : LogSinkRet)
  | reporting (ret : LogSinkRet)
  deriving DecidableEq

/-- What the rest of the process does: it opens and closes descriptors of its own,
or has a subscriber of its own. -/
inductive ProcessEvent
  | opens (fd : ℕ)
  | closes (fd : ℕ)
  | subscribes

namespace LogSink

def init (fds : ℕ → Option FdOwner) : LogSink where
  installed := false
  subscribed := false
  fds := fds
  sink := none
  installer := none
  outcomes := []
  closes := []

/-- One statement of call `id`. The choice is what the duplication returns: a number
that is not in use, or nothing. A second subscriber panics, which ends the
process. -/
def step (id : ℕ) (process : LogSink) (point : LogSinkPc) (duplicate : Option ℕ) :
    Option (LogSink × LogSinkPc) :=
  match point with
  | .idle =>
      match duplicate with
      | none => some ({ process with outcomes := process.outcomes ++ [some .dup] }, .idle)
      | some fd =>
          if process.fds fd = none then some ({ process with
            fds := Function.update process.fds fd (some (.call id)) }, .exchanging fd)
          else none
  | .exchanging fd =>
      if process.installed then some (process, .returned fd .alreadySet)
      else some ({ process with installed := true, installer := some id }, .installing fd)
  | .installing fd =>
      if process.subscribed then none
      else some ({ process with
        subscribed := true
        sink := some fd
        fds := Function.update process.fds fd (some .library) }, .returned fd .success)
  | .returned fd ret =>
      if ret = .success then some (process, .reporting ret)
      else some ({ process with
        fds := Function.update process.fds fd none
        closes := process.closes ++ [(id, process.fds fd)] }, .reporting ret)
  | .reporting ret =>
      some ({ process with outcomes := process.outcomes ++ [ret.error?] }, .idle)

def environment (process : LogSink) : ProcessEvent → Option LogSink
  | .opens fd =>
      if process.fds fd = none then
        some { process with fds := Function.update process.fds fd (some .others) }
      else none
  | .closes fd =>
      if process.fds fd = some .others then
        some { process with fds := Function.update process.fds fd none }
      else none
  | .subscribes =>
      if process.subscribed then none else some { process with subscribed := true }

end LogSink

/-- The process starts with some descriptors open, none of them from a call. -/
def logSink : Program LogSink LogSinkPc (Option ℕ) ProcessEvent where
  initial process := ∃ fds, process = .init fds ∧ ∀ fd, fds fd = none ∨ fds fd = some .others
  entry := .idle
  step := LogSink.step
  environment := LogSink.environment

/-! ## Moves -/

inductive LogSinkMove (id : ℕ) (process : LogSink) : LogSinkPc → LogSink → LogSinkPc → Prop
  | failed : LogSinkMove id process .idle
      { process with outcomes := process.outcomes ++ [some .dup] } .idle
  | duplicated {fd : ℕ} (free : process.fds fd = none) : LogSinkMove id process .idle
      { process with fds := Function.update process.fds fd (some (.call id)) } (.exchanging fd)
  | late {fd : ℕ} (installed : process.installed = true) :
      LogSinkMove id process (.exchanging fd) process (.returned fd .alreadySet)
  | first {fd : ℕ} (uninstalled : process.installed = false) :
      LogSinkMove id process (.exchanging fd)
        { process with installed := true, installer := some id } (.installing fd)
  | installed {fd : ℕ} : LogSinkMove id process (.installing fd) { process with
      subscribed := true
      sink := some fd
      fds := Function.update process.fds fd (some .library) } (.returned fd .success)
  | kept {fd : ℕ} :
      LogSinkMove id process (.returned fd .success) process (.reporting .success)
  | closed {fd : ℕ} {ret : LogSinkRet} (refused : ret ≠ .success) :
      LogSinkMove id process (.returned fd ret) { process with
        fds := Function.update process.fds fd none
        closes := process.closes ++ [(id, process.fds fd)] } (.reporting ret)
  | reported {ret : LogSinkRet} : LogSinkMove id process (.reporting ret)
      { process with outcomes := process.outcomes ++ [ret.error?] } .idle

theorem LogSink.step_move {id : ℕ} {process after : LogSink} {point next : LogSinkPc}
    {duplicate : Option ℕ} (stepped : process.step id point duplicate = some (after, next)) :
    LogSinkMove id process point after next := by
  cases point with
  | idle =>
      cases duplicate with
      | none =>
          cases stepped
          exact .failed
      | some fd =>
          obtain ⟨free, same⟩ := Option.ite_none_right_eq_some.mp stepped
          cases same
          exact .duplicated free
  | exchanging fd =>
      simp only [step] at stepped
      split at stepped
      · next installed =>
        cases stepped
        exact .late installed
      · next uninstalled =>
        cases stepped
        exact .first (Bool.eq_false_iff.mpr uninstalled)
  | installing fd =>
      obtain ⟨_, same⟩ := Option.ite_none_left_eq_some.mp stepped
      cases same
      exact .installed
  | returned fd ret =>
      simp only [step] at stepped
      split at stepped
      · next success =>
        subst success
        cases stepped
        exact .kept
      · next refused =>
        cases stepped
        exact .closed refused
  | reporting ret =>
      cases stepped
      exact .reported

/-! ## Ownership -/

/-- The descriptor that a call still has to give away or to close. -/
def LogSinkPc.held : LogSinkPc → Option ℕ
  | .exchanging fd | .installing fd | .returned fd .alreadySet | .returned fd .unsupported =>
      some fd
  | .idle | .returned _ .success | .reporting _ => none

theorem LogSinkPc.held_refused {fd : ℕ} {ret : LogSinkRet} (refused : ret ≠ .success) :
    (LogSinkPc.returned fd ret).held = some fd := by
  cases ret with
  | success => exact absurd rfl refused
  | alreadySet | unsupported => rfl

namespace LogSink

def successes (process : LogSink) : ℕ := process.outcomes.count none

structure Sound (process : LogSink) : Prop where
  sunk : ∀ fd, process.sink = some fd ↔ process.fds fd = some .library
  installer : process.installer = none ↔ process.installed = false
  unsunk : process.installed = false → process.sink = none ∧ process.successes = 0
  once : process.successes ≤ 1
  succeeded : 0 < process.successes → process.sink.isSome = true
  own : ∀ entry ∈ process.closes, entry.2 = some (.call entry.1)

/-- What a call knows of the one exchange that succeeds. -/
def At (id : ℕ) (process : LogSink) : LogSinkPc → Prop
  | .installing _ =>
      process.installer = some id ∧ process.sink = none ∧ process.successes = 0
  | .returned _ .success | .reporting .success =>
      process.installer = some id ∧ process.sink.isSome = true ∧ process.successes = 0
  | .idle | .exchanging _ | .returned _ _ | .reporting _ => True

def Knows (id : ℕ) (process : LogSink) (point : LogSinkPc) : Prop :=
  (∀ fd, process.fds fd = some (.call id) ↔ point.held = some fd) ∧ process.At id point

end LogSink

section Steps

variable {id other : ℕ} {process after : LogSink} {point next elsewhere : LogSinkPc}

/-- A party's descriptors stay the same when a descriptor changes hands between
others. -/
private theorem owns_update {fds : ℕ → Option FdOwner} {fd : ℕ} {owner : Option FdOwner}
    {party : FdOwner} (before : fds fd ≠ some party) (later : owner ≠ some party) (own : ℕ) :
    Function.update fds fd owner own = some party ↔ fds own = some party := by
  by_cases same : own = fd
  · subst same
    rw [Function.update_self]
    exact iff_of_false later before
  · rw [Function.update_of_ne same]

/-- A call that gives its descriptor away has none. -/
private theorem owns_given {fds : ℕ → Option FdOwner} {fd : ℕ} {owner : Option FdOwner}
    (holds : ∀ own, fds own = some (.call id) ↔ some fd = some own)
    (given : owner ≠ some (.call id)) (own : ℕ) :
    Function.update fds fd owner own = some (.call id) ↔ (none : Option ℕ) = some own := by
  refine iff_of_false ?_ (by simp)
  by_cases same : own = fd
  · rw [same, Function.update_self]
    exact given
  · rw [Function.update_of_ne same, holds own]
    simp [Ne.symm same]

private theorem successes_append (process : LogSink) (error : LogSinkError) :
    ({ process with outcomes := process.outcomes ++ [some error] } : LogSink).successes =
      process.successes := by
  simp [LogSink.successes]

theorem LogSink.Sound.installed_of (sound : process.Sound)
    (installer : process.installer = some id) : process.installed = true := by
  rw [← Bool.not_eq_false, ← sound.installer]
  simp [installer]

/-- An outcome that is an error changes nothing else. -/
private theorem LogSink.Sound.append (sound : process.Sound) (error : LogSinkError) :
    ({ process with outcomes := process.outcomes ++ [some error] } : LogSink).Sound := by
  have same := successes_append process error
  refine { sound with unsunk := ?_, once := ?_, succeeded := ?_ }
  · intro uninstalled
    rw [same]
    exact sound.unsunk uninstalled
  · rw [same]
    exact sound.once
  · rw [same]
    exact sound.succeeded

theorem LogSinkMove.sound (move : LogSinkMove id process point after next)
    (sound : process.Sound) (knows : process.Knows id point) : after.Sound := by
  obtain ⟨holds, known⟩ := knows
  cases move with
  | late | kept => exact sound
  | failed => exact sound.append .dup
  | duplicated free =>
      refine { sound with sunk := ?_ }
      intro fd
      rw [sound.sunk fd]
      exact (owns_update (by simp [free]) (by simp) fd).symm
  | first => exact { sound with installer := by simp, unsunk := by simp }
  | @installed fd =>
      obtain ⟨installer, unsunk, _⟩ := known
      have installed := sound.installed_of installer
      refine { sound with sunk := ?_, unsunk := by simp [installed], succeeded := by simp }
      intro own
      by_cases same : own = fd
      · simp [same]
      · simp [Function.update_of_ne same, Ne.symm same, ← sound.sunk own, unsunk]
  | @closed fd ret refused =>
      have own := (holds fd).mpr (LogSinkPc.held_refused refused)
      refine { sound with sunk := ?_, own := ?_ }
      · intro other
        rw [sound.sunk other]
        exact (owns_update (by simp [own]) (by simp) other).symm
      · intro entry member
        rcases List.mem_append.mp member with earlier | single
        · exact sound.own entry earlier
        · cases List.mem_singleton.mp single
          exact own
  | @reported ret =>
      cases ret with
      | alreadySet => exact sound.append .alreadySet
      | unsupported => exact sound.append (.unexpected .unsupported)
      | success =>
          obtain ⟨installer, sunk, unreported⟩ := known
          have installed := sound.installed_of installer
          refine { sound with
            unsunk := by simp [installed]
            once := ?_
            succeeded := fun _ => sunk }
          simp only [LogSink.successes] at unreported ⊢
          simp [LogSinkRet.error?, unreported]

theorem LogSinkMove.knows (move : LogSinkMove id process point after next)
    (sound : process.Sound) (knows : process.Knows id point) : after.Knows id next := by
  obtain ⟨holds, known⟩ := knows
  cases move with
  | failed | late | kept => exact ⟨holds, known⟩
  | @duplicated fd free =>
      refine ⟨?_, trivial⟩
      intro own
      by_cases same : own = fd
      · simp [same, LogSinkPc.held]
      · have unheld := holds own
        simp [Function.update_of_ne same, unheld, LogSinkPc.held, Ne.symm same]
  | first uninstalled =>
      obtain ⟨unsunk, unreported⟩ := sound.unsunk uninstalled
      exact ⟨holds, rfl, unsunk, unreported⟩
  | @installed fd =>
      obtain ⟨installer, _, unreported⟩ := known
      exact ⟨owns_given holds (by simp), installer, rfl, unreported⟩
  | @closed fd ret refused =>
      cases ret with
      | success => exact absurd rfl refused
      | alreadySet | unsupported => exact ⟨owns_given holds (by simp), trivial⟩
  | @reported ret => exact ⟨holds, trivial⟩

/-- What another call knows is kept while the one exchange stays its own. -/
private theorem LogSink.At.frame (known : process.At other elsewhere)
    (kept : process.installer = some other → after.installer = process.installer ∧
      after.sink = process.sink ∧ after.successes = process.successes) :
    after.At other elsewhere := by
  cases elsewhere with
  | idle | exchanging => trivial
  | installing =>
      obtain ⟨installer, unsunk, unreported⟩ := known
      obtain ⟨sameInstaller, sameSink, sameSuccesses⟩ := kept installer
      exact ⟨sameInstaller.trans installer, sameSink.trans unsunk, sameSuccesses.trans unreported⟩
  | returned fd ret | reporting ret =>
      cases ret with
      | success =>
          obtain ⟨installer, sunk, unreported⟩ := known
          obtain ⟨sameInstaller, sameSink, sameSuccesses⟩ := kept installer
          exact ⟨sameInstaller.trans installer, sameSink ▸ sunk, sameSuccesses.trans unreported⟩
      | alreadySet | unsupported => trivial

theorem LogSinkMove.others (move : LogSinkMove id process point after next) (apart : other ≠ id)
    (sound : process.Sound) (knows : process.Knows id point)
    (known : process.Knows other elsewhere) : after.Knows other elsewhere := by
  obtain ⟨holds, mine⟩ := knows
  obtain ⟨theirHolds, theirs⟩ := known
  have differs : FdOwner.call id ≠ .call other := by simp [Ne.symm apart]
  cases move with
  | late | kept => exact ⟨theirHolds, theirs⟩
  | failed =>
      refine ⟨theirHolds, theirs.frame fun _ => ⟨rfl, rfl, ?_⟩⟩
      exact successes_append process .dup
  | duplicated free =>
      refine ⟨fun own => ?_, theirs.frame fun _ => ⟨rfl, rfl, rfl⟩⟩
      exact (owns_update (by simp [free]) (by simpa using differs) own).trans (theirHolds own)
  | first uninstalled =>
      refine ⟨theirHolds, theirs.frame ?_⟩
      intro installer
      have installed := sound.installed_of installer
      simp [uninstalled] at installed
  | installed =>
      have own := (holds _).mpr rfl
      refine ⟨fun fd => ?_, theirs.frame ?_⟩
      · exact (owns_update (by simpa [own] using differs) (by simp) fd).trans (theirHolds fd)
      · intro installer
        rw [mine.1] at installer
        exact absurd (Option.some.inj installer).symm apart
  | @closed fd ret refused =>
      have own := (holds fd).mpr (LogSinkPc.held_refused refused)
      refine ⟨fun other => ?_, theirs.frame fun _ => ⟨rfl, rfl, rfl⟩⟩
      exact (owns_update (by simpa [own] using differs) (by simp) other).trans (theirHolds other)
  | @reported ret =>
      refine ⟨theirHolds, theirs.frame ?_⟩
      intro installer
      cases ret with
      | success =>
          rw [mine.1] at installer
          exact absurd (Option.some.inj installer).symm apart
      | alreadySet => exact ⟨rfl, rfl, successes_append process .alreadySet⟩
      | unsupported => exact ⟨rfl, rfl, successes_append process (.unexpected .unsupported)⟩

/-- The rest of the process leaves alone what is not its own. -/
theorem LogSink.environment_keeps {event : ProcessEvent}
    (stepped : process.environment event = some after) :
    (∀ party, party ≠ .others → ∀ fd,
      after.fds fd = some party ↔ process.fds fd = some party) ∧
    ∃ subscribed fds, after = { process with subscribed, fds } := by
  cases event with
  | opens fd =>
      obtain ⟨free, same⟩ := Option.ite_none_right_eq_some.mp stepped
      cases same
      refine ⟨fun party foreign => owns_update (by simp [free]) (by simp [Ne.symm foreign]), ?_⟩
      exact ⟨_, _, rfl⟩
  | closes fd =>
      obtain ⟨others, same⟩ := Option.ite_none_right_eq_some.mp stepped
      cases same
      refine ⟨fun party foreign => owns_update (by simp [others, Ne.symm foreign]) (by simp), ?_⟩
      exact ⟨_, _, rfl⟩
  | subscribes =>
      obtain ⟨_, same⟩ := Option.ite_none_left_eq_some.mp stepped
      cases same
      exact ⟨fun _ _ _ => Iff.rfl, _, _, rfl⟩

end Steps

/-! ## Every run -/

theorem LogSink.start {process : LogSink} (initial : logSink.initial process) :
    process.Sound ∧ ∀ id, process.Knows id .idle := by
  obtain ⟨fds, rfl, foreign⟩ := initial
  have unowned : ∀ fd party, party ≠ .others → fds fd ≠ some party := by
    intro fd party other
    rcases foreign fd with closed | others
    · simp [closed]
    · simp [others, Ne.symm other]
  refine ⟨⟨?_, by simp [init], by simp [init, successes], by simp [init, successes],
    by simp [init, successes], by simp [init]⟩, ?_⟩
  · intro fd
    exact iff_of_false (by simp [init]) (unowned fd .library (by simp))
  · intro id
    refine ⟨fun fd => ?_, trivial⟩
    exact iff_of_false (unowned fd (.call id) (by simp)) (by simp [LogSinkPc.held])

theorem LogSink.environment_sound {process after : LogSink} {event : ProcessEvent}
    (sound : process.Sound) (stepped : process.environment event = some after) :
    after.Sound ∧ ∀ id point, process.Knows id point → after.Knows id point := by
  obtain ⟨kept, subscribed, fds, rfl⟩ := LogSink.environment_keeps stepped
  refine ⟨{ sound with sunk := ?_ }, ?_⟩
  · intro fd
    rw [sound.sunk fd]
    exact (kept .library (by simp) fd).symm
  · intro id point knows
    exact ⟨fun fd => (kept (.call id) (by simp) fd).trans (knows.1 fd), knows.2⟩

/-- The proof outline of `EnableLogSink`. -/
def logSinkOutline : logSink.Outline where
  invariant := LogSink.Sound
  assertion := LogSink.Knows
  start := LogSink.start
  own sound knows stepped :=
    have move := LogSink.step_move stepped
    ⟨move.sound sound knows, move.knows sound knows⟩
  others apart sound knows known stepped :=
    (LogSink.step_move stepped).others apart sound knows known
  environment := LogSink.environment_sound

/-- Whatever calls of `EnableLogSink` run at the same time, and whatever the process
does with descriptors of its own: one call at most succeeds, the library's
descriptor stays open, a call closes only the descriptor that it duplicated, and
no call leaves a descriptor behind. -/
theorem log_sink_owned (state : Threads LogSink LogSinkPc)
    (reached : logSink.threads.Reachable state) :
    state.shared.outcomes.count none ≤ 1 ∧
    (none ∈ state.shared.outcomes → state.shared.sink.isSome = true) ∧
    (∀ fd, state.shared.sink = some fd ↔ state.shared.fds fd = some .library) ∧
    (∀ id owner, (id, owner) ∈ state.shared.closes → owner = some (.call id)) ∧
    ∀ id fd, state.shared.fds fd = some (.call id) ↔ (state.points id).held = some fd := by
  obtain ⟨sound, knows⟩ := logSinkOutline.holds reached
  refine ⟨sound.once, ?_, sound.sunk, fun id owner => sound.own (id, owner), ?_⟩
  · intro succeeded
    exact sound.succeeded (List.count_pos_iff.mpr succeeded)
  · exact fun id => (knows id).1

/-- Two calls at a time, of which the second finds the sink installed. -/
def enableTwice : List (ThreadAct (Option ℕ) ProcessEvent) :=
  [.thread 0 (some 3), .thread 1 (some 4), .thread 0 none, .thread 1 none, .thread 0 none,
    .thread 1 none, .thread 0 none, .thread 0 none, .thread 1 none]

theorem log_sink_owned_second : ∃ state,
    logSink.threads.run ⟨.init fun _ => none, fun _ => .idle⟩ enableTwice = some state ∧
      state.shared.outcomes = [none, some .alreadySet] ∧
      state.shared.closes = [(1, some (.call 1))] ∧ state.shared.fds 3 = some .library := by
  obtain ⟨state, ran, outcomes, closes, sunk⟩ : ∃ state,
      logSink.threads.run ⟨.init fun _ => none, fun _ => .idle⟩ enableTwice = some state ∧
        state.shared.outcomes = [none, some .alreadySet] ∧
        state.shared.closes = [(1, some (.call 1))] ∧ state.shared.sink = some 3 :=
    ⟨_, rfl, rfl, rfl, rfl⟩
  have reached : logSink.threads.Reachable state :=
    System.reachable_of_run ⟨⟨fun _ => none, rfl, fun _ => .inl rfl⟩, fun _ => rfl⟩ ran
  obtain ⟨_, _, library, _⟩ := log_sink_owned state reached
  exact ⟨state, ran, outcomes, closes, (library 3).mp sunk⟩

end LibddRc.Go
