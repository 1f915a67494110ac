import LibddRc.Go.RunLoop

/-! The pace of the connection loop. Every new connection comes after a delay, and
the delays grow with the attempts in a row that did not give a lasting session. -/

set_option autoImplicit false

namespace LibddRc.Go

open Foundation Ffi

/-- How many delays there were since the backoff was last reset. -/
def delaysSinceReset (attempts : List AttemptEnd) : ℕ :=
  attempts.foldl (fun count attempt => if attempt.resets then 1 else count + 1) 0

@[simp] theorem delaysSinceReset_append (attempts : List AttemptEnd) (attempt : AttemptEnd) :
    delaysSinceReset (attempts ++ [attempt]) =
      if attempt.resets then 1 else delaysSinceReset attempts + 1 := by
  simp [delaysSinceReset]

def defaultBackoff : Backoff :=
  newBackoff defaultInitialBackoff defaultMaxBackoff defaultBackoffMultiplier

/-- A delay that the default backoff gives after those attempts. -/
def DelayAfter (attempts : List AttemptEnd) (delay : Option ℕ) : Prop :=
  ∃ wait exponent, delay = some wait ∧ delaysSinceReset attempts = exponent + 1 ∧
    defaultBackoff.longest exponent / 2 ≤ wait ∧ wait ≤ defaultBackoff.longest exponent

theorem longest_default_bounds (attempt : ℕ) :
    1 * second ≤ defaultBackoff.longest attempt ∧ defaultBackoff.longest attempt ≤ 30 * second := by
  have power : 1 ≤ 2 ^ attempt := Nat.one_le_two_pow
  have grown : 1 * second ≤ 1 * second * 2 ^ attempt := Nat.le_mul_of_pos_right _ power
  exact ⟨le_min grown (by decide), min_le_right _ _⟩

/-- 1 while the loop has yet to make the connection of the next attempt. -/
def LoopPc.unmade : LoopPc → ℕ
  | .creating | .sleeping _ => 1
  | _ => 0

/-- The connection that was made and that the loop has yet to dial for. -/
def LoopPc.undialed? : LoopPc → Option ℕ
  | .configuring conn | .dialing conn => some conn
  | _ => none

namespace RunLoop

def attempts (loop : RunLoop) : List AttemptEnd := loop.waits.map Prod.fst

structure Paced (loop : RunLoop) : Prop where
  backoff : loop.backoff = { defaultBackoff with attempt := delaysSinceReset loop.attempts }
  delays : ∀ index attempt delay, loop.waits[index]? = some (attempt, delay) →
    DelayAfter (loop.attempts.take (index + 1)) delay
  made : loop.inst.count + loop.pc.unmade ≤ loop.waits.length + 1

/-- The connections of the `Dial` calls, and the one that is still to come, are
different connections, each of them made before. -/
structure DialsOnce (loop : RunLoop) : Prop where
  once : (loop.dials ++ loop.pc.undialed?.toList).Nodup
  made : ∀ conn ∈ loop.dials ++ loop.pc.undialed?.toList, conn < loop.inst.count
  dialed : loop.dialed ≤ loop.dials.length

section Paced

variable {env : LoopEnv} {loop next : RunLoop}

theorem paced_init : RunLoop.init.Paced := by
  refine ⟨rfl, ?_, le_rfl⟩
  intro index attempt delay found
  cases found

/-- A step that neither waits nor makes a connection. -/
private theorem Paced.keeps (paced : loop.Paced) (backoff : next.backoff = loop.backoff)
    (waits : next.waits = loop.waits) (count : next.inst.count = loop.inst.count)
    (unmade : next.pc.unmade ≤ loop.pc.unmade) : next.Paced := by
  obtain ⟨before, delays, made⟩ := paced
  refine ⟨?_, ?_, ?_⟩
  · rw [backoff, attempts, waits]
    exact before
  · rw [attempts, waits]
    exact delays
  · rw [waits]
    omega

/-- The default backoff after some attempts gives the delay of the next one. -/
private theorem next_delay (attempts : List AttemptEnd) (attempt : AttemptEnd)
    {backoff : Backoff}
    (before : backoff = { defaultBackoff with attempt := delaysSinceReset attempts })
    (bits : Fin (2 ^ 53)) :
    let wait := (if attempt.resets then backoff.reset else backoff).next bits
    wait.2 = { defaultBackoff with attempt := delaysSinceReset (attempts ++ [attempt]) } ∧
      DelayAfter (attempts ++ [attempt]) wait.1 := by
  subst before
  simp only [DelayAfter, delaysSinceReset_append]
  cases attempt.resets with
  | true =>
      obtain ⟨wait, given, bounds⟩ :=
        Backoff.next_bounds (Backoff.default_doubling.withAttempt 0) bits
      exact ⟨rfl, wait, 0, given, rfl, bounds⟩
  | false =>
      obtain ⟨wait, given, bounds⟩ :=
        Backoff.next_bounds (Backoff.default_doubling.withAttempt (delaysSinceReset attempts)) bits
      exact ⟨rfl, wait, _, given, rfl, bounds⟩

private theorem Paced.waiting (paced : loop.Paced) {attempt : AttemptEnd} (bits : Fin (2 ^ 53))
    (at_ : loop.pc = .ended attempt) :
    let wait := (if attempt.resets then loop.backoff.reset else loop.backoff).next bits
    ({ loop with
      backoff := wait.2, pc := .sleeping wait.1, waits := loop.waits ++ [(attempt, wait.1)] } :
        RunLoop).Paced := by
  obtain ⟨before, delays, made⟩ := paced
  obtain ⟨backoff, delay⟩ := next_delay loop.attempts attempt before bits
  have ends : ∀ delay, (loop.waits ++ [(attempt, delay)]).map Prod.fst =
      loop.attempts ++ [attempt] := by
    simp [attempts]
  have length : loop.attempts.length = loop.waits.length := by simp [attempts]
  rw [at_] at made
  refine ⟨?_, ?_, ?_⟩
  · rw [attempts, ends]
    exact backoff
  · intro index other wait found
    rw [attempts, ends]
    rcases Nat.lt_trichotomy index loop.waits.length with earlier | rfl | late
    · rw [List.getElem?_append_left earlier] at found
      rw [List.take_append_of_le_length (by omega)]
      exact delays index other wait found
    · rw [List.getElem?_concat_length] at found
      cases found
      rw [List.take_of_length_le (by simp [length])]
      exact delay
    · rw [List.getElem?_eq_none (by simp; omega)] at found
      cases found
  · simp only [LoopPc.unmade, List.length_append, List.length_singleton] at made ⊢
    omega

private theorem Paced.attempt (paced : loop.Paced) (move : AttemptMove env loop next) :
    next.Paced := by
  cases move with
  | created at_ stepped =>
      obtain ⟨count, _⟩ := Instance.step_create stepped
      obtain ⟨backoff, delays, made⟩ := paced
      rw [at_] at made
      simp only [LoopPc.unmade] at made
      refine ⟨backoff, delays, ?_⟩
      simp only [LoopPc.unmade, count]
      omega
  | marking _ stepped => exact paced.keeps rfl rfl (Instance.step_call_count stepped) le_rfl
  | notCreated at_ | notDialed at_ | refused at_ | wsClosed at_ | dialed at_ =>
      exact paced.keeps rfl rfl rfl (by simp [at_, LoopPc.unmade])
  | configured at_ stepped | established at_ stepped =>
      exact paced.keeps rfl rfl (Instance.step_call_count stepped) (by simp [LoopPc.unmade])
  | called at_ _ _ _ stepped =>
      refine paced.keeps rfl rfl (Instance.step_call_count stepped) ?_
      dsimp only
      split <;> simp [LoopPc.unmade]

private theorem Paced.closing (paced : loop.Paced) (move : ClosingMove env loop next) :
    next.Paced := by
  cases move with
  | closing | shutDown | neverConnected => exact paced.keeps rfl rfl rfl (by simp [LoopPc.unmade])
  | disconnecting _ stepped | disconnected _ stepped =>
      exact paced.keeps rfl rfl (Instance.step_call_count stepped) (by simp [LoopPc.unmade])
  | closedBefore _ _ went =>
      cases went <;> exact paced.keeps rfl rfl rfl (by simp [LoopPc.unmade])
  | freed _ stepped went =>
      have count := Instance.step_call_count stepped
      cases went <;> exact paced.keeps rfl rfl count (by simp [LoopPc.unmade])

theorem Paced.go (paced : loop.Paced) (move : RunMove env loop next) : next.Paced := by
  cases move with
  | reported _ stepped => exact paced.keeps rfl rfl (Instance.step_call_count stepped) le_rfl
  | attempt moved => exact paced.attempt moved
  | close moved => exact paced.closing moved
  | serve moved =>
      cases moved with
      | session | background | hungUp => exact paced.keeps rfl rfl rfl le_rfl
      | delivered _ _ _ stepped =>
          exact paced.keeps rfl rfl (Instance.step_call_count stepped) le_rfl
      | ended at_ => exact paced.keeps rfl rfl rfl (by simp [at_, LoopPc.unmade])
  | pause moved =>
      cases moved with
      | waiting at_ => exact paced.waiting _ at_
      | stopped at_ | woken at_ | interrupted at_ =>
          exact paced.keeps rfl rfl rfl (by simp [at_, LoopPc.unmade])

theorem paced (reached : (runLoop env).Reachable loop) : loop.Paced := by
  refine reached.invariant Paced ?_ ?_
  · rintro _ rfl
    exact paced_init
  · intro before action after _ paced stepped
    cases step_move stepped with
    | cancelled => exact paced.keeps rfl rfl rfl le_rfl
    | go moved => exact paced.go moved
    | tasks own moved =>
        obtain ⟨count, _⟩ := Instance.step_tasks own moved
        exact paced.keeps rfl rfl count le_rfl

end Paced

/-! ## One call of `Dial` for a connection -/

section DialsOnce

variable {env : LoopEnv} {loop next : RunLoop}

/-- A step without a call of `Dial` that makes no connection. -/
private theorem DialsOnce.keeps (dials : loop.DialsOnce) (same : next.dials = loop.dials)
    (dialed : next.dialed = loop.dialed) (count : next.inst.count = loop.inst.count)
    (undialed : ∀ conn, next.pc.undialed? = some conn → loop.pc.undialed? = some conn) :
    next.DialsOnce := by
  obtain ⟨once, made, fewer⟩ := dials
  have sublist : next.pc.undialed?.toList.Sublist loop.pc.undialed?.toList := by
    cases pending : next.pc.undialed? with
    | none => exact List.nil_sublist _
    | some conn => rw [undialed conn pending]
  have within := sublist.append_left loop.dials
  refine ⟨?_, ?_, ?_⟩
  · rw [same]
    exact once.sublist within
  · rw [same, count]
    exact fun conn member => made conn (within.subset member)
  · rw [same, dialed]
    exact fewer

/-- `NewConnection` gives a connection that nothing was dialed for. -/
private theorem DialsOnce.created (dials : loop.DialsOnce) (at_ : loop.pc = .creating)
    (same : next.dials = loop.dials) (dialed : next.dialed = loop.dialed)
    (count : next.inst.count = loop.inst.count + 1)
    (pc : next.pc = .configuring loop.inst.count) : next.DialsOnce := by
  obtain ⟨once, made, fewer⟩ := dials
  rw [at_] at once made
  simp only [LoopPc.undialed?, Option.toList_none, List.append_nil] at once made
  have fresh : loop.inst.count ∉ loop.dials := by
    intro member
    exact lt_irrefl _ (made _ member)
  refine ⟨?_, ?_, ?_⟩
  · simp only [same, pc, LoopPc.undialed?, Option.toList_some]
    rw [← List.concat_eq_append]
    exact once.concat fresh
  · intro conn member
    simp only [same, pc, LoopPc.undialed?, Option.toList_some, List.mem_append,
      List.mem_singleton] at member
    rw [count]
    rcases member with before | rfl
    · exact (made conn before).trans (Nat.lt_succ_self _)
    · exact Nat.lt_succ_self _
  · rw [same, dialed]
    exact fewer

/-- A call of `Dial`, whatever it returns. -/
private theorem DialsOnce.calls (dials : loop.DialsOnce) {conn : ℕ}
    (at_ : loop.pc = .dialing conn) (called : next.dials = loop.dials ++ [conn])
    (dialed : next.dialed ≤ loop.dialed + 1) (count : next.inst.count = loop.inst.count)
    (undialed : next.pc.undialed? = none) : next.DialsOnce := by
  obtain ⟨once, made, fewer⟩ := dials
  rw [at_] at once made
  simp only [LoopPc.undialed?, Option.toList_some] at once made
  refine ⟨?_, ?_, ?_⟩
  · rw [undialed, called, Option.toList_none, List.append_nil]
    exact once
  · rw [undialed, called, Option.toList_none, List.append_nil, count]
    exact made
  · rw [called, List.length_append, List.length_singleton]
    omega

private theorem DialsOnce.attempt (dials : loop.DialsOnce) (move : AttemptMove env loop next) :
    next.DialsOnce := by
  cases move with
  | created at_ stepped =>
      obtain ⟨count, _⟩ := Instance.step_create stepped
      exact dials.created at_ rfl rfl count rfl
  | dialed at_ => exact dials.calls at_ rfl le_rfl rfl rfl
  | notDialed at_ => exact dials.calls at_ rfl (Nat.le_succ _) rfl rfl
  | configured at_ stepped =>
      refine dials.keeps rfl rfl (Instance.step_call_count stepped) ?_
      rw [at_]
      exact fun _ pending => pending
  | marking _ stepped =>
      exact dials.keeps rfl rfl (Instance.step_call_count stepped) fun _ pending => pending
  | notCreated | refused | wsClosed => exact dials.keeps rfl rfl rfl (by simp [LoopPc.undialed?])
  | established _ stepped =>
      exact dials.keeps rfl rfl (Instance.step_call_count stepped) (by simp [LoopPc.undialed?])
  | called _ _ _ _ stepped =>
      refine dials.keeps rfl rfl (Instance.step_call_count stepped) ?_
      dsimp only
      split <;> simp [LoopPc.undialed?]

private theorem DialsOnce.closing (dials : loop.DialsOnce) (move : ClosingMove env loop next) :
    next.DialsOnce := by
  cases move with
  | closing | shutDown | neverConnected =>
      exact dials.keeps rfl rfl rfl (by simp [LoopPc.undialed?])
  | disconnecting _ stepped | disconnected _ stepped =>
      exact dials.keeps rfl rfl (Instance.step_call_count stepped) (by simp [LoopPc.undialed?])
  | closedBefore _ _ went =>
      cases went <;> exact dials.keeps rfl rfl rfl (by simp [LoopPc.undialed?])
  | freed _ stepped went =>
      have count := Instance.step_call_count stepped
      cases went <;> exact dials.keeps rfl rfl count (by simp [LoopPc.undialed?])

theorem DialsOnce.go (dials : loop.DialsOnce) (move : RunMove env loop next) :
    next.DialsOnce := by
  cases move with
  | reported _ stepped =>
      exact dials.keeps rfl rfl (Instance.step_call_count stepped) fun _ pending => pending
  | attempt moved => exact dials.attempt moved
  | close moved => exact dials.closing moved
  | serve moved =>
      cases moved with
      | session | background | hungUp => exact dials.keeps rfl rfl rfl fun _ pending => pending
      | delivered _ _ _ stepped =>
          exact dials.keeps rfl rfl (Instance.step_call_count stepped) fun _ pending => pending
      | ended => exact dials.keeps rfl rfl rfl (by simp [LoopPc.undialed?])
  | pause moved =>
      cases moved with
      | stopped | waiting | woken | interrupted =>
          exact dials.keeps rfl rfl rfl (by simp [LoopPc.undialed?])

theorem dialsOnce (reached : (runLoop env).Reachable loop) : loop.DialsOnce := by
  refine reached.invariant DialsOnce ?_ ?_
  · rintro _ rfl
    exact ⟨List.nodup_nil, by simp [init, LoopPc.undialed?], le_rfl⟩
  · intro before action after _ dials stepped
    cases step_move stepped with
    | cancelled => exact dials.keeps rfl rfl rfl fun _ pending => pending
    | go moved => exact dials.go moved
    | tasks own moved =>
        obtain ⟨count, _⟩ := Instance.step_tasks own moved
        exact dials.keeps rfl rfl count fun _ pending => pending

theorem DialsOnce.nodup (dials : loop.DialsOnce) : loop.dials.Nodup := dials.once.of_append_left

theorem DialsOnce.lt_count (dials : loop.DialsOnce) {conn : ℕ} (called : conn ∈ loop.dials) :
    conn < loop.inst.count := dials.made conn (List.mem_append_left _ called)

theorem DialsOnce.length_le (dials : loop.DialsOnce) : loop.dials.length ≤ loop.inst.count := by
  have within : loop.dials ⊆ List.range loop.inst.count :=
    fun _ called => List.mem_range.mpr (dials.lt_count called)
  calc loop.dials.length ≤ (List.range loop.inst.count).length :=
        (dials.nodup.subperm within).length_le
    _ = loop.inst.count := List.length_range

end DialsOnce

end RunLoop

/-- The loop calls `Dial` once for a connection at most, whether the call gives a
websocket or an error, and each new connection comes after a delay; so there are
no more calls than delays but for the first one. A delay is at least half a second
and at most half a minute. It follows the attempts in a row that were not sessions
of five seconds: up to one second after the first of them or after such a session,
and twice as long, but for its random part, with each further one. -/
theorem reconnect_paced (env : LoopEnv) (loop : RunLoop)
    (reached : (runLoop env).Reachable loop) :
    (∀ conn, loop.dials.count conn ≤ 1 ∧ (conn ∈ loop.dials → conn < loop.inst.count)) ∧
    loop.dialed ≤ loop.dials.length ∧ loop.dials.length ≤ loop.inst.count ∧
    loop.inst.count ≤ loop.waits.length + 1 ∧
    ∀ index attempt delay, loop.waits[index]? = some (attempt, delay) →
      ∃ wait exponent, delay = some wait ∧
        delaysSinceReset (loop.attempts.take (index + 1)) = exponent + 1 ∧
        defaultBackoff.longest exponent / 2 ≤ wait ∧ wait ≤ defaultBackoff.longest exponent ∧
        second / 2 ≤ wait ∧ wait ≤ 30 * second := by
  obtain ⟨_, delays, made⟩ := RunLoop.paced reached
  have dials := RunLoop.dialsOnce reached
  refine ⟨?_, dials.dialed, dials.length_le, by omega, ?_⟩
  · intro conn
    exact ⟨List.nodup_iff_count_le_one.mp dials.nodup conn, dials.lt_count⟩
  · intro index attempt delay found
    obtain ⟨wait, exponent, known, streak, lower, upper⟩ := delays index attempt delay found
    obtain ⟨least, most⟩ := longest_default_bounds exponent
    exact ⟨wait, exponent, known, streak, lower, upper, by omega, by omega⟩

/-- An attempt that makes a connection, dials in vain, and gives the connection up. -/
def dialInVain : List LoopAct :=
  [.loop .ok, .loop .ok, .loop .err, .loop .ok, .loop .ok, .loop .ok, .loop .ok]

/-- Two attempts that dial in vain, and the start of a third one. -/
def failTwice : List LoopAct :=
  dialInVain ++ [.loop (.draw 5), .loop .timer] ++ dialInVain ++
    [.loop (.draw 7), .loop .timer, .loop .ok, .loop .ok]

theorem reconnect_paced_failTwice : ∃ loop wait,
    (runLoop fixtureLoopEnv).run .init failTwice = some loop ∧
      loop.dials = [0, 1] ∧ loop.pc = .dialing 2 ∧ loop.dials.count 1 ≤ 1 ∧
      loop.inst.count ≤ 3 ∧
      loop.waits[1]? = some (.failed, some wait) ∧ second ≤ wait ∧ wait ≤ 2 * second := by
  obtain ⟨loop, delay, ran, dials, at_, length, found, attempts⟩ : ∃ loop delay,
      (runLoop fixtureLoopEnv).run .init failTwice = some loop ∧
        loop.dials = [0, 1] ∧ loop.pc = .dialing 2 ∧ loop.waits.length = 2 ∧
        loop.waits[1]? = some (.failed, delay) ∧ loop.attempts = [.failed, .failed] :=
    ⟨_, _, rfl, rfl, rfl, rfl, rfl, rfl⟩
  have reached := System.reachable_of_run rfl ran
  obtain ⟨once, _, _, paced, delays⟩ := reconnect_paced fixtureLoopEnv loop reached
  obtain ⟨wait, exponent, rfl, streak, lower, upper, _⟩ := delays 1 .failed delay found
  rw [attempts] at streak
  cases streak
  exact ⟨loop, wait, ran, dials, at_, (once 1).1, by omega, found, lower, upper⟩

end LibddRc.Go
