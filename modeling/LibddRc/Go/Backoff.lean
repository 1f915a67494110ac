import Mathlib.Data.List.Induction
import Mathlib.Data.Nat.Cast.Order.Field
import LibddRc.Foundation.Rounding

/-! The delays between reconnection attempts: `Next` and `Reset` over binary64
arithmetic as Go carries it out. -/

set_option autoImplicit false

namespace LibddRc.Go

open Foundation

theorem float64_precision : 0 < 53 := by decide

def float64 : FloatFormat where
  precision := 53
  minExponent := -1074
  maxExponent := 1024
  precision_pos := float64_precision

/-- Nanoseconds. -/
def second : ℕ := 1000000000

def defaultInitialBackoff : ℕ := 1 * second

def defaultMaxBackoff : ℕ := 30 * second

def defaultBackoffMultiplier : FloatValue := .finite 2

/-- `rand.Float64()`, from 53 random bits. -/
def randFloat64 (bits : Fin (2 ^ 53)) : FloatValue := .finite (bits.val / 2 ^ 53)

/-- `float64(d)` for a duration that is not negative. -/
def ofDuration (duration : ℕ) : FloatValue := .ofExact float64 duration

/-- `time.Duration(x)`. Go leaves open what a value out of range becomes. -/
def toDuration : FloatValue → Option ℕ
  | .finite x => if ⌊x⌋ < 2 ^ 63 then some ⌊x⌋.toNat else none
  | .infinite | .nan => none

/-- Durations are nanoseconds and not negative. The source's `attempt` is an `int`
of 64 bits, which it never leaves within `2 ^ 63 - 1` calls (`after_attempt_le`). -/
structure Backoff where
  initial : ℕ
  max : ℕ
  multiplier : FloatValue
  attempt : ℕ

def newBackoff (initial max : ℕ) (multiplier : FloatValue) : Backoff where
  initial := initial
  max := max
  multiplier := multiplier
  attempt := 0

namespace Backoff

/-- The delay before it is jittered. `math.Pow` is exact on the powers of two. -/
def capped (backoff : Backoff) : FloatValue :=
  let d := (ofDuration backoff.initial).mul float64 (backoff.multiplier.pow float64 backoff.attempt)
  if d.gt (ofDuration backoff.max) then ofDuration backoff.max else d

def next (backoff : Backoff) (bits : Fin (2 ^ 53)) : Option ℕ × Backoff :=
  let d := backoff.capped
  let jittered := (d.div float64 (.finite 2)).add float64
    (((randFloat64 bits).mul float64 d).div float64 (.finite 2))
  (toDuration jittered, { backoff with attempt := backoff.attempt + 1 })

def reset (backoff : Backoff) : Backoff := { backoff with attempt := 0 }

/-! ## One call -/

/-- A delay that doubles, between durations that binary64 has no trouble with:
less than 2 ^ 53 nanoseconds are some hundred days. -/
structure Doubling (backoff : Backoff) : Prop where
  multiplier : backoff.multiplier = .finite 2
  initial_pos : 0 < backoff.initial
  initial : backoff.initial < 2 ^ 53
  max : backoff.max < 2 ^ 53

/-- The longest delay after `attempt` delays since the last reset. -/
def longest (backoff : Backoff) (attempt : ℕ) : ℕ := min (backoff.initial * 2 ^ attempt) backoff.max

private theorem representable_scaled {significand : ℕ} (small : significand < 2 ^ 53) (exponent : ℤ)
    (least : -1074 ≤ exponent) : float64.Representable (significand * 2 ^ exponent) :=
  ⟨significand, exponent, small, least, rfl⟩

private theorem representable_nat {n : ℕ} (small : n < 2 ^ 53) : float64.Representable n := by
  simpa using representable_scaled small 0 (by norm_num)

private theorem representable_half {n : ℕ} (small : n < 2 ^ 53) :
    float64.Representable (n / 2) := by
  simpa [div_eq_mul_inv] using representable_scaled small (-1) (by norm_num)

private theorem small_fits {n : ℕ} (small : n < 2 ^ 53) : float64.Fits n := by
  have wide : (n : ℚ) < 2 ^ (53 : ℤ) := by exact_mod_cast small
  exact wide.trans (zpow_lt_zpow_right₀ (by norm_num) (by norm_num [float64]))

theorem ofDuration_eq {duration : ℕ} (small : duration < 2 ^ 53) :
    ofDuration duration = .finite duration := by
  rw [ofDuration, FloatValue.ofExact_representable (representable_nat small),
    if_pos (small_fits small)]

/-- A small duration doubled some times, which overflows where it has to. -/
private theorem doubled {initial : ℕ} (positive : 0 < initial) (small : initial < 2 ^ 53)
    (attempt : ℕ) :
    (ofDuration initial).mul float64 ((FloatValue.finite 2).pow float64 attempt) =
      if float64.Fits (initial * 2 ^ attempt : ℕ)
      then .finite (initial * 2 ^ attempt : ℕ) else .infinite := by
  have exact : float64.Representable ((initial * 2 ^ attempt : ℕ) : ℚ) := by
    simpa using representable_scaled small attempt (by omega)
  have power : float64.Representable ((2 : ℚ) ^ attempt) := by
    simpa using representable_scaled (by norm_num : 1 < 2 ^ 53) attempt (by omega)
  have pow : (FloatValue.finite 2).pow float64 attempt =
      if float64.Fits (2 ^ attempt) then .finite (2 ^ attempt) else .infinite := by
    cases attempt with
    | zero =>
        rw [pow_zero, if_pos (by simpa using small_fits (by norm_num : 1 < 2 ^ 53))]
        rfl
    | succ attempt => exact FloatValue.ofExact_representable power
  rw [ofDuration_eq small, pow]
  split
  · simp only [FloatValue.mul]
    rw [← FloatValue.ofExact_representable exact]
    push_cast
    rfl
  · next overflow =>
    have large : ¬ float64.Fits (initial * 2 ^ attempt : ℕ) := by
      have one : (1 : ℚ) ≤ initial := by exact_mod_cast positive
      have grown : (2 : ℚ) ^ attempt ≤ (initial * 2 ^ attempt : ℕ) := by
        push_cast
        exact le_mul_of_one_le_left (by positivity) one
      exact fun fits => overflow (fits.of_le grown)
    rw [if_neg large]
    exact if_neg (by exact_mod_cast positive.ne')

theorem capped_eq {backoff : Backoff} (doubling : backoff.Doubling) :
    backoff.capped = .finite (backoff.longest backoff.attempt) := by
  have limit := ofDuration_eq doubling.max
  have scaled := doubled doubling.initial_pos doubling.initial backoff.attempt
  simp only [capped, doubling.multiplier, limit, scaled, longest]
  split
  · by_cases beyond : backoff.max < backoff.initial * 2 ^ backoff.attempt
    · rw [min_eq_right beyond.le]
      exact if_pos (decide_eq_true (by exact_mod_cast beyond))
    · rw [min_eq_left (not_lt.mp beyond)]
      refine if_neg ?_
      simpa [FloatValue.gt] using (by exact_mod_cast not_lt.mp beyond)
  · next overflow =>
    have beyond : backoff.max ≤ backoff.initial * 2 ^ backoff.attempt := by
      by_contra within
      refine overflow ((small_fits doubling.max).of_le ?_)
      exact_mod_cast (not_le.mp within).le
    rw [min_eq_right beyond]
    exact if_pos rfl

/-- Half of a delay is fixed and half is random, and no rounding leaves the
interval. -/
private theorem jitter_bounds {longest : ℕ} (small : longest < 2 ^ 53) (bits : Fin (2 ^ 53)) :
    ∃ jittered : ℚ,
      ((FloatValue.finite longest).div float64 (.finite 2)).add float64
        (((randFloat64 bits).mul float64 (.finite longest)).div float64 (.finite 2)) =
          .finite jittered ∧ (longest : ℚ) / 2 ≤ jittered ∧ jittered ≤ longest := by
  have halfFits : float64.Fits (longest / 2) :=
    (small_fits small).of_le (half_le_self (by positivity))
  have half : FloatValue.div float64 (.finite longest) (.finite 2) = .finite (longest / 2) := by
    rw [FloatValue.div, if_neg (by norm_num),
      FloatValue.ofExact_representable (representable_half small), if_pos halfFits]
  have zero : float64.Representable 0 := by simpa using representable_nat (n := 0) (by norm_num)
  have drawn : (bits.val : ℚ) / 2 ^ 53 ≤ 1 := by
    rw [div_le_one (by norm_num)]
    exact_mod_cast bits.isLt.le
  have share : (bits.val : ℚ) / 2 ^ 53 * longest ≤ longest :=
    mul_le_of_le_one_left (by positivity) drawn
  obtain ⟨random, scaled, randomNonneg, randomLe⟩ := FloatValue.ofExact_between le_rfl
    (by positivity) share zero (representable_nat small) (small_fits small)
  obtain ⟨part, halved, partNonneg, partLe⟩ := FloatValue.ofExact_between le_rfl
    (by positivity : 0 ≤ random / 2) (by linarith) zero (representable_half small) halfFits
  obtain ⟨jittered, sum, lower, upper⟩ := FloatValue.ofExact_between
    (by positivity : 0 ≤ (longest : ℚ) / 2) (by linarith : _ ≤ (longest : ℚ) / 2 + part)
    (by linarith) (representable_half small) (representable_nat small) (small_fits small)
  refine ⟨jittered, ?_, lower, upper⟩
  have randomHalf : FloatValue.div float64 (.finite random) (.finite 2) = .finite part := by
    rw [FloatValue.div, if_neg (by norm_num), halved]
  have product : (randFloat64 bits).mul float64 (.finite longest) = .finite random := scaled
  rw [half, product, randomHalf]
  exact sum

/-- The delay lies between half of the longest one and the longest one. -/
theorem next_bounds {backoff : Backoff} (doubling : backoff.Doubling) (bits : Fin (2 ^ 53)) :
    ∃ delay, (backoff.next bits).1 = some delay ∧
      backoff.longest backoff.attempt / 2 ≤ delay ∧ delay ≤ backoff.longest backoff.attempt := by
  have whole : backoff.longest backoff.attempt < 2 ^ 53 := (min_le_right _ _).trans_lt doubling.max
  simp only [next, capped_eq doubling]
  generalize backoff.longest backoff.attempt = longest at whole ⊢
  obtain ⟨jittered, value, lower, upper⟩ := jitter_bounds whole bits
  have below : ⌊jittered⌋ ≤ longest := Int.cast_le.mp ((Int.floor_le jittered).trans (by simpa))
  have above : ((longest / 2 : ℕ) : ℤ) ≤ ⌊jittered⌋ := by
    refine Int.le_floor.mpr (le_trans ?_ lower)
    exact_mod_cast Nat.cast_div_le
  have range : ⌊jittered⌋ < 2 ^ 63 := by
    have : (longest : ℤ) < 2 ^ 53 := by exact_mod_cast whole
    omega
  refine ⟨⌊jittered⌋.toNat, ?_, by omega, by omega⟩
  rw [value]
  exact if_pos range

/-! ## Any sequence of calls -/

end Backoff

inductive BackoffCall
  | next (bits : Fin (2 ^ 53))
  | reset

def BackoffCall.isNext : BackoffCall → Bool
  | .next _ => true
  | .reset => false

/-- How many delays were asked for since the last reset, or at all. -/
def nextsSinceReset (calls : List BackoffCall) : ℕ :=
  (calls.reverse.takeWhile BackoffCall.isNext).length

@[simp] theorem nextsSinceReset_next (calls : List BackoffCall) (bits : Fin (2 ^ 53)) :
    nextsSinceReset (calls ++ [.next bits]) = nextsSinceReset calls + 1 := by
  simp [nextsSinceReset, List.takeWhile_cons, BackoffCall.isNext]

theorem nextsSinceReset_le (calls : List BackoffCall) : nextsSinceReset calls ≤ calls.length := by
  rw [nextsSinceReset, ← calls.length_reverse]
  exact (List.takeWhile_sublist _).length_le

@[simp] theorem nextsSinceReset_reset (calls : List BackoffCall) :
    nextsSinceReset (calls ++ [.reset]) = 0 := by
  simp [nextsSinceReset, BackoffCall.isNext]

namespace Backoff

def call (backoff : Backoff) : BackoffCall → Backoff
  | .next bits => (backoff.next bits).2
  | .reset => backoff.reset

def after (backoff : Backoff) (calls : List BackoffCall) : Backoff := calls.foldl call backoff

theorem after_eq {backoff : Backoff} (fresh : backoff.attempt = 0) (calls : List BackoffCall) :
    backoff.after calls = { backoff with attempt := nextsSinceReset calls } := by
  induction calls using List.reverseRecOn with
  | nil =>
      cases backoff
      cases fresh
      rfl
  | append_singleton calls last ih =>
      rw [after, List.foldl_append, List.foldl_cons, List.foldl_nil, ← after, ih]
      cases last with
      | next bits => simp [call, next]
      | reset => simp [call, reset]

/-- No attempt is counted without a call, so the source's `int` does not wrap. -/
theorem after_attempt_le {backoff : Backoff} (fresh : backoff.attempt = 0)
    (calls : List BackoffCall) : (backoff.after calls).attempt ≤ calls.length := by
  rw [after_eq fresh]
  exact nextsSinceReset_le calls

theorem Doubling.withAttempt {backoff : Backoff} (doubling : backoff.Doubling) (attempt : ℕ) :
    { backoff with attempt }.Doubling :=
  ⟨doubling.multiplier, doubling.initial_pos, doubling.initial, doubling.max⟩

/-- However the backoff was used before, the delay it gives is at least half of
the capped power of two that its calls since the last reset stand for, and no
more than that power. The attempts it counts are never more than its calls. -/
theorem jittered_delay_bounds (backoff : Backoff) (doubling : backoff.Doubling)
    (fresh : backoff.attempt = 0) (calls : List BackoffCall) (bits : Fin (2 ^ 53)) :
    (backoff.after calls).attempt ≤ calls.length ∧
      ∃ delay, ((backoff.after calls).next bits).1 = some delay ∧
        backoff.longest (nextsSinceReset calls) / 2 ≤ delay ∧
          delay ≤ backoff.longest (nextsSinceReset calls) := by
  refine ⟨after_attempt_le fresh calls, ?_⟩
  rw [after_eq fresh]
  exact next_bounds (doubling.withAttempt _) bits

theorem default_doubling :
    (newBackoff defaultInitialBackoff defaultMaxBackoff defaultBackoffMultiplier).Doubling :=
  ⟨rfl, by decide, by decide, by decide⟩

/-- The third delay in a row, of two to four seconds. -/
theorem jittered_delay_bounds_third : ∃ delay,
    (((newBackoff defaultInitialBackoff defaultMaxBackoff defaultBackoffMultiplier).after
      [.reset, .next 5, .next 7]).next 9).1 = some delay ∧
        2 * second ≤ delay ∧ delay ≤ 4 * second :=
  (jittered_delay_bounds _ default_doubling rfl [.reset, .next 5, .next 7] 9).2

end Backoff

end LibddRc.Go
