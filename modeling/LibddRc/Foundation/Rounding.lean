import Mathlib.Data.Rat.Floor
import Mathlib.Data.Int.Log
import Mathlib.Tactic.Linarith
import Mathlib.Tactic.NormNum

/-! Binary floating point numbers that are not negative, as exact rationals:
rounding to the nearest number of a format with ties to even, and arithmetic
that rounds once per operation. Rounding is monotone and leaves the numbers of
the format alone, and the bounds below come from these two facts. -/

set_option autoImplicit false

namespace Foundation

/-! ## Whole numbers -/

/-- The nearest integer, the even one of two. -/
def roundEven (x : ℚ) : ℤ :=
  if x - ⌊x⌋ < 1 / 2 then ⌊x⌋
  else if 1 / 2 < x - ⌊x⌋ then ⌊x⌋ + 1
  else ⌊x⌋ + ⌊x⌋ % 2

@[simp] theorem roundEven_intCast (n : ℤ) : roundEven n = n := by
  simp [roundEven]

theorem roundEven_bounds (x : ℚ) : ⌊x⌋ ≤ roundEven x ∧ roundEven x ≤ ⌊x⌋ + 1 := by
  unfold roundEven
  split
  · omega
  · split <;> omega

theorem roundEven_mono {x y : ℚ} (le : x ≤ y) : roundEven x ≤ roundEven y := by
  rcases (Int.floor_le_floor le).lt_or_eq with below | same
  · have upper := (roundEven_bounds x).2
    have lower := (roundEven_bounds y).1
    omega
  · -- with the same floor only the fractions are compared
    have fractions : x - ⌊y⌋ ≤ y - ⌊y⌋ := sub_le_sub_right le _
    unfold roundEven
    rw [same]
    split_ifs
    all_goals first
      | omega
      | exfalso; linarith

/-! ## Formats -/

/-- A binary format: the bits of a significand, the exponent of the smallest
positive number, and the first power of two that is too large. -/
structure FloatFormat where
  precision : ℕ
  minExponent : ℤ
  maxExponent : ℤ
  precision_pos : 0 < precision

namespace FloatFormat

variable (format : FloatFormat)

/-- The exponent of the last place of a number. -/
def exponent (x : ℚ) : ℤ := max (Int.log 2 x + 1 - format.precision) format.minExponent

def ulp (x : ℚ) : ℚ := 2 ^ format.exponent x

/-- The nearest number of the format, were there no largest one. -/
def round (x : ℚ) : ℚ := roundEven (x / format.ulp x) * format.ulp x

/-- The numbers of the format, were there no largest one. -/
def Representable (x : ℚ) : Prop :=
  ∃ (significand : ℕ) (exponent : ℤ),
    significand < 2 ^ format.precision ∧ format.minExponent ≤ exponent ∧
      x = significand * 2 ^ exponent

/-- Below the first power of two that is too large. -/
def Fits (x : ℚ) : Prop := x < 2 ^ format.maxExponent

instance (x : ℚ) : Decidable (format.Fits x) :=
  inferInstanceAs (Decidable (x < 2 ^ format.maxExponent))

variable {format}

theorem Fits.of_le {x y : ℚ} (fits : format.Fits y) (le : x ≤ y) : format.Fits x := le.trans_lt fits

theorem ulp_pos (x : ℚ) : 0 < format.ulp x := zpow_pos (by norm_num) _

theorem round_le_multiple {x : ℚ} {n : ℤ} (le : x ≤ n * format.ulp x) :
    format.round x ≤ n * format.ulp x := by
  have scaled : x / format.ulp x ≤ n := (div_le_iff₀ (ulp_pos x)).mpr le
  have rounded : roundEven (x / format.ulp x) ≤ n := by
    simpa using roundEven_mono scaled
  exact mul_le_mul_of_nonneg_right (by exact_mod_cast rounded) (ulp_pos x).le

theorem multiple_le_round {x : ℚ} {n : ℤ} (le : n * format.ulp x ≤ x) :
    n * format.ulp x ≤ format.round x := by
  have scaled : n ≤ x / format.ulp x := (le_div_iff₀ (ulp_pos x)).mpr le
  have rounded : n ≤ roundEven (x / format.ulp x) := by
    simpa using roundEven_mono scaled
  exact mul_le_mul_of_nonneg_right (by exact_mod_cast rounded) (ulp_pos x).le

theorem round_multiple {x : ℚ} {n : ℤ} (eq : x = n * format.ulp x) : format.round x = x :=
  le_antisymm ((round_le_multiple eq.le).trans eq.ge) (eq.le.trans (multiple_le_round eq.ge))

/-- A power of two from the last place on is a multiple of it. -/
private theorem zpow_multiple {x : ℚ} {exponent : ℤ} (le : format.exponent x ≤ exponent) :
    ∃ n : ℤ, (2 : ℚ) ^ exponent = n * format.ulp x := by
  obtain ⟨gap, split⟩ := Int.le.dest le
  refine ⟨2 ^ gap, ?_⟩
  rw [ulp, ← split, zpow_add₀ (by norm_num), zpow_natCast]
  push_cast
  ring

theorem round_le_zpow {x : ℚ} {exponent : ℤ} (le : format.exponent x ≤ exponent)
    (bound : x ≤ 2 ^ exponent) : format.round x ≤ 2 ^ exponent := by
  obtain ⟨n, multiple⟩ := zpow_multiple le
  rw [multiple] at bound ⊢
  exact round_le_multiple bound

theorem zpow_le_round {x : ℚ} {exponent : ℤ} (le : format.exponent x ≤ exponent)
    (bound : 2 ^ exponent ≤ x) : 2 ^ exponent ≤ format.round x := by
  obtain ⟨n, multiple⟩ := zpow_multiple le
  rw [multiple] at bound ⊢
  exact multiple_le_round bound

@[simp] theorem round_zero : format.round 0 = 0 :=
  round_multiple (n := 0) (by simp)

theorem round_mono {x y : ℚ} (nonneg : 0 ≤ x) (le : x ≤ y) : format.round x ≤ format.round y := by
  rcases nonneg.eq_or_lt with rfl | positive
  · have bound : ((0 : ℤ) : ℚ) * format.ulp y ≤ y := by simpa using le
    simpa using multiple_le_round bound
  have logs : Int.log 2 x ≤ Int.log 2 y := Int.log_mono_right positive le
  by_cases same : format.exponent x = format.exponent y
  · unfold round
    rw [ulp, ulp, same]
    have positive : 0 < format.ulp y := ulp_pos y
    have scaled := roundEven_mono (div_le_div_of_nonneg_right le positive.le)
    exact mul_le_mul_of_nonneg_right (by exact_mod_cast scaled) positive.le
  · -- a power of two separates numbers whose last places differ
    have precision := format.precision_pos
    have below : max (Int.log 2 x + 1) (format.exponent x) ≤ Int.log 2 y := by
      unfold exponent at same ⊢
      omega
    have upper : x ≤ 2 ^ max (Int.log 2 x + 1) (format.exponent x) := by
      refine (Int.lt_zpow_succ_log_self (b := 2) (by norm_num) x).le.trans ?_
      exact_mod_cast zpow_le_zpow_right₀ (by norm_num : (1 : ℚ) ≤ 2) (le_max_left _ _)
    have lower : (2 : ℚ) ^ Int.log 2 y ≤ y := by
      exact_mod_cast Int.zpow_log_le_self (b := 2) (by norm_num) (positive.trans_le le)
    have place : format.exponent y ≤ Int.log 2 y := by
      unfold exponent at same ⊢
      omega
    calc format.round x ≤ 2 ^ max (Int.log 2 x + 1) (format.exponent x) :=
          round_le_zpow (le_max_right _ _) upper
      _ ≤ 2 ^ Int.log 2 y := zpow_le_zpow_right₀ (by norm_num) below
      _ ≤ format.round y := zpow_le_round place lower

theorem Representable.round_eq {x : ℚ} (representable : format.Representable x) :
    format.round x = x := by
  obtain ⟨significand, exponent, small, least, rfl⟩ := representable
  rcases Nat.eq_zero_or_pos significand with rfl | positive
  · simp
  have power : (0 : ℚ) < 2 ^ exponent := zpow_pos (by norm_num) _
  have wide : ((significand : ℚ) * 2 ^ exponent) < 2 ^ (format.precision + exponent) := by
    rw [zpow_add₀ (by norm_num), zpow_natCast]
    exact mul_lt_mul_of_pos_right (by exact_mod_cast small) power
  have log : Int.log 2 ((significand : ℚ) * 2 ^ exponent) < format.precision + exponent :=
    (Int.lt_zpow_iff_log_lt (by norm_num)
      (mul_pos (by exact_mod_cast positive) power)).mp (by exact_mod_cast wide)
  have place : format.exponent ((significand : ℚ) * 2 ^ exponent) ≤ exponent := by
    unfold FloatFormat.exponent
    omega
  obtain ⟨n, multiple⟩ := zpow_multiple place
  refine round_multiple (n := significand * n) ?_
  push_cast
  rw [mul_assoc, ← multiple]

end FloatFormat

/-! ## Arithmetic -/

/-- What an operation on numbers that are not negative can come to. -/
inductive FloatValue
  | finite (x : ℚ)
  | infinite
  | nan
  deriving DecidableEq

namespace FloatValue

/-- An exact result, rounded. -/
def ofExact (format : FloatFormat) (x : ℚ) : FloatValue :=
  if format.Fits (format.round x) then .finite (format.round x) else .infinite

def add (format : FloatFormat) : FloatValue → FloatValue → FloatValue
  | .finite x, .finite y => ofExact format (x + y)
  | .nan, _ | _, .nan => .nan
  | .infinite, _ | _, .infinite => .infinite

def mul (format : FloatFormat) : FloatValue → FloatValue → FloatValue
  | .finite x, .finite y => ofExact format (x * y)
  | .nan, _ | _, .nan => .nan
  | .finite x, .infinite | .infinite, .finite x => if x = 0 then .nan else .infinite
  | .infinite, .infinite => .infinite

def div (format : FloatFormat) : FloatValue → FloatValue → FloatValue
  | .finite x, .finite y =>
      if y = 0 then (if x = 0 then .nan else .infinite) else ofExact format (x / y)
  | .nan, _ | _, .nan => .nan
  | .finite _, .infinite => .finite 0
  | .infinite, .finite _ => .infinite
  | .infinite, .infinite => .nan

/-- A power with a whole exponent, rounded once. -/
def pow (format : FloatFormat) : FloatValue → ℕ → FloatValue
  | _, 0 => .finite 1
  | .finite x, n + 1 => ofExact format (x ^ (n + 1))
  | .infinite, _ + 1 => .infinite
  | .nan, _ + 1 => .nan

/-- Whether the first is greater. Nothing is greater or less than a `nan`. -/
def gt : FloatValue → FloatValue → Bool
  | .finite x, .finite y => y < x
  | .infinite, .finite _ => true
  | _, _ => false

variable {format : FloatFormat} {x : ℚ}

/-- Between two numbers of the format rounding stays between them. -/
theorem ofExact_between {low high : ℚ} (nonneg : 0 ≤ low) (lower : low ≤ x) (upper : x ≤ high)
    (lowest : format.Representable low) (highest : format.Representable high)
    (fits : format.Fits high) :
    ∃ rounded, ofExact format x = .finite rounded ∧ low ≤ rounded ∧ rounded ≤ high := by
  have below : format.round x ≤ high := by
    simpa [highest.round_eq] using
      @FloatFormat.round_mono format x high (nonneg.trans lower) upper
  have above : low ≤ format.round x := by
    simpa [lowest.round_eq] using @FloatFormat.round_mono format low x nonneg lower
  exact ⟨format.round x, if_pos (fits.of_le below), above, below⟩

theorem ofExact_representable (representable : format.Representable x) :
    ofExact format x = if format.Fits x then .finite x else .infinite := by
  rw [ofExact, representable.round_eq]

end FloatValue

end Foundation
