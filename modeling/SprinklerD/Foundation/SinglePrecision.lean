import Mathlib.Algebra.Order.Floor.Ring
import Mathlib.Data.Rat.Floor
import Mathlib.Data.Nat.Log
import Mathlib.Tactic.FieldSimp
import Mathlib.Tactic.Linarith
import Mathlib.Tactic.NormNum
import Mathlib.Tactic.Positivity
import Mathlib.Tactic.Ring

/-!
# Rounding to single precision

A value is rounded to the nearest multiple of its spacing, the power of two that
leaves it twenty-four significant bits, with ties to even. Exponents have no bounds
here: values too large or too small for the format are not considered. An integer
survives rounding exactly when it has no more than twenty-four significant bits.
-/

namespace Foundation.SinglePrecision

set_option autoImplicit false

def roundEven (value : ℚ) : Int :=
  let below := ⌊value⌋
  if value - below < 1 / 2 then below
  else if 1 / 2 < value - below then below + 1
  else below + below % 2

def binaryExponent (value : ℚ) : Int :=
  let estimate : Int := (Nat.log2 value.num.natAbs : Int) - Nat.log2 value.den
  if |value| < 2 ^ estimate then estimate - 1 else estimate

def spacing (value : ℚ) : ℚ := 2 ^ (binaryExponent value - 23)

def roundSingle (value : ℚ) : ℚ := roundEven (value / spacing value) * spacing value

/-- An integer with at most twenty-four significant bits. -/
def SingleExact (value : Int) : Prop :=
  ∃ mantissa : Int, ∃ exponent : Nat, |mantissa| < 2 ^ 24 ∧ value = mantissa * 2 ^ exponent

theorem le_round_even {bound : Int} {value : ℚ} (above : (bound : ℚ) ≤ value) :
    bound ≤ roundEven value := by
  have floor : bound ≤ ⌊value⌋ := Int.le_floor.mpr above
  simp only [roundEven]
  split_ifs <;> omega

theorem round_even_le {bound : Int} {value : ℚ} (below : value ≤ (bound : ℚ)) :
    roundEven value ≤ bound := by
  have lower := Int.floor_le value
  have floor : ⌊value⌋ ≤ bound := by exact_mod_cast lower.trans below
  simp only [roundEven]
  rcases floor.lt_or_eq with strict | same
  · split_ifs <;> omega
  · have half : value - (⌊value⌋ : ℚ) < 1 / 2 := by
      rw [same]
      linarith
    rw [if_pos half]
    exact floor

theorem round_even_int (value : Int) : roundEven value = value :=
  le_antisymm (round_even_le le_rfl) (le_round_even le_rfl)

theorem spacing_pos (value : ℚ) : 0 < spacing value := zpow_pos (by norm_num) _

/-- A value survives when it is a multiple of its spacing. -/
theorem round_single_eq (value : ℚ) :
    roundSingle value = value ↔ ∃ units : Int, value = units * spacing value := by
  have positive := spacing_pos value
  constructor
  · intro same
    exact ⟨roundEven (value / spacing value), same.symm⟩
  · rintro ⟨units, multiple⟩
    have quotient : value / spacing value = units := by
      rw [div_eq_iff positive.ne']
      exact multiple
    rw [roundSingle, quotient, round_even_int, ← multiple]

theorem binary_exponent_int {value : Int} (nonzero : value ≠ 0) :
    binaryExponent value = (Nat.log2 value.natAbs : Int) := by
  have lower : 2 ^ Nat.log2 value.natAbs ≤ value.natAbs :=
    Nat.log2_self_le (Int.natAbs_ne_zero.mpr nonzero)
  have size : ((2 : ℚ) ^ Nat.log2 value.natAbs) ≤ |(value : ℚ)| := by
    rw [← Int.cast_abs, Int.abs_eq_natAbs]
    exact_mod_cast lower
  have estimate : (Nat.log2 (value : ℚ).num.natAbs : Int) - Nat.log2 (value : ℚ).den =
      Nat.log2 value.natAbs := by
    have one : Nat.log2 1 = 0 := by decide
    rw [Rat.num_intCast, Rat.den_intCast, one, Nat.cast_zero, sub_zero]
  unfold binaryExponent
  simp only [estimate, zpow_natCast]
  exact if_neg (not_lt.mpr size)

theorem nat_abs_lt_pow (value : Int) : |value| < 2 ^ (Nat.log2 value.natAbs + 1) := by
  rw [Int.abs_eq_natAbs]
  exact_mod_cast Nat.lt_log2_self

theorem exact_of_small {value : Int} (small : |value| < 2 ^ 24) : SingleExact value :=
  ⟨value, 0, small, by ring⟩

/-- The spacing of an integer with at least twenty-four bits. -/
theorem spacing_int {value : Int} {shift : Nat} (large : Nat.log2 value.natAbs = 23 + shift) :
    spacing value = 2 ^ shift := by
  have nonzero : value ≠ 0 := by
    rintro rfl
    simp at large
    omega
  rw [spacing, binary_exponent_int nonzero, large]
  push_cast
  rw [add_sub_cancel_left, zpow_natCast]

theorem round_single_zero : roundSingle 0 = 0 := by
  rw [roundSingle, zero_div]
  simp [roundEven]

theorem small_of_log {value : Int} (low : Nat.log2 value.natAbs ≤ 23) : |value| < 2 ^ 24 :=
  calc |value| < 2 ^ (Nat.log2 value.natAbs + 1) := nat_abs_lt_pow value
    _ ≤ 2 ^ 24 := pow_le_pow_right₀ (by norm_num) (by omega)

theorem round_single_small {value : Int} (low : Nat.log2 value.natAbs ≤ 23) :
    roundSingle value = value := by
  rcases eq_or_ne value 0 with rfl | nonzero
  · exact_mod_cast round_single_zero
  rw [round_single_eq]
  refine ⟨value * 2 ^ (23 - Nat.log2 value.natAbs), ?_⟩
  have opposite : (Nat.log2 value.natAbs : Int) - 23 = -((23 - Nat.log2 value.natAbs : Nat) : Int) := by
    omega
  rw [spacing, binary_exponent_int nonzero, opposite, zpow_neg, zpow_natCast]
  push_cast
  field_simp

/-- The rounding of an integer of at least twenty-four bits, in units of its spacing. -/
theorem round_single_large {value : Int} {shift : Nat}
    (large : Nat.log2 value.natAbs = 23 + shift) :
    ∃ units : Int, roundSingle value = units * 2 ^ shift ∧ 2 ^ 23 ≤ |units| ∧
      |units| ≤ 2 ^ 24 := by
  have nonzero : value ≠ 0 := by
    rintro rfl
    simp at large
    omega
  have positive : (0 : ℚ) < 2 ^ shift := by positivity
  have upper := nat_abs_lt_pow value
  have lower : (2 : Int) ^ Nat.log2 value.natAbs ≤ |value| := by
    rw [Int.abs_eq_natAbs]
    exact_mod_cast Nat.log2_self_le (Int.natAbs_ne_zero.mpr nonzero)
  rw [large] at upper lower
  have upperUnits : |(value : ℚ)| ≤ 2 ^ 24 * 2 ^ shift := by
    have bound : |value| ≤ 2 ^ 24 * 2 ^ shift := by
      calc |value| ≤ 2 ^ (23 + shift + 1) := upper.le
        _ = 2 ^ 24 * 2 ^ shift := by ring
    exact_mod_cast bound
  have lowerUnits : 2 ^ 23 * 2 ^ shift ≤ |(value : ℚ)| := by
    have bound : 2 ^ 23 * 2 ^ shift ≤ |value| := by
      calc (2 : Int) ^ 23 * 2 ^ shift = 2 ^ (23 + shift) := by ring
        _ ≤ |value| := lower
    exact_mod_cast bound
  refine ⟨roundEven (value / 2 ^ shift), ?_, ?_, ?_⟩
  · rw [roundSingle, spacing_int large]
  · rcases abs_cases (value : ℚ) with ⟨same, sign⟩ | ⟨same, sign⟩
    · have above : (((2 ^ 23 : Int)) : ℚ) ≤ value / 2 ^ shift := by
        rw [le_div_iff₀ positive]
        push_cast
        linarith
      exact (le_round_even above).trans (le_abs_self _)
    · have below : value / 2 ^ shift ≤ ((-2 ^ 23 : Int) : ℚ) := by
        rw [div_le_iff₀ positive]
        push_cast
        linarith
      have rounded := round_even_le below
      exact (by linarith : (2 : Int) ^ 23 ≤ -roundEven (value / 2 ^ shift)).trans (neg_le_abs _)
  · rw [abs_le]
    rw [abs_le] at upperUnits
    constructor
    · apply le_round_even
      rw [le_div_iff₀ positive]
      push_cast
      linarith
    · apply round_even_le
      rw [div_le_iff₀ positive]
      push_cast
      linarith

theorem round_single_int (value : Int) : roundSingle value = value ↔ SingleExact value := by
  by_cases low : Nat.log2 value.natAbs ≤ 23
  · exact iff_of_true (round_single_small low) (exact_of_small (small_of_log low))
  obtain ⟨shift, large⟩ : ∃ shift, Nat.log2 value.natAbs = 23 + shift :=
    ⟨Nat.log2 value.natAbs - 23, by omega⟩
  rw [round_single_eq, spacing_int large]
  constructor
  · rintro ⟨units, multiple⟩
    have product : value = units * 2 ^ shift := by exact_mod_cast multiple
    refine ⟨units, shift, ?_, product⟩
    have upper := nat_abs_lt_pow value
    rw [large, product, abs_mul, abs_pow, abs_two] at upper
    have split : (2 : Int) ^ (23 + shift + 1) = 2 ^ 24 * 2 ^ shift := by ring
    rw [split] at upper
    exact lt_of_mul_lt_mul_right upper (by positivity)
  · rintro ⟨mantissa, exponent, short, rfl⟩
    have fits : shift ≤ exponent := by
      by_contra shorter
      have lower : (2 : Int) ^ Nat.log2 (mantissa * 2 ^ exponent).natAbs ≤
          |mantissa * 2 ^ exponent| := by
        rw [Int.abs_eq_natAbs]
        have nonzero : (mantissa * 2 ^ exponent).natAbs ≠ 0 := by
          intro zero
          rw [zero, Nat.log2_zero] at large
          omega
        exact_mod_cast Nat.log2_self_le nonzero
      have upper : |mantissa * 2 ^ exponent| < 2 ^ 24 * 2 ^ exponent := by
        rw [abs_mul, abs_pow, abs_two]
        exact mul_lt_mul_of_pos_right short (by positivity)
      have powers : (2 : Int) ^ 24 * 2 ^ exponent ≤ 2 ^ (23 + shift) := by
        rw [← pow_add]
        exact pow_le_pow_right₀ (by norm_num) (by omega)
      rw [large] at lower
      linarith
    refine ⟨mantissa * 2 ^ (exponent - shift), ?_⟩
    push_cast
    rw [mul_assoc, ← pow_add, Nat.sub_add_cancel fits]

/-- What rounding makes of an integer: the integer, or another one of at least
twenty-four bits and at most one bit more than it had. -/
theorem round_single_other {value : Int} (inexact : ¬ SingleExact value) :
    ∃ other : Int, roundSingle value = other ∧ other ≠ value ∧ 2 ^ 23 ≤ |other| ∧
      |other| ≤ 2 ^ (Nat.log2 value.natAbs + 1) := by
  have high : ¬ Nat.log2 value.natAbs ≤ 23 := fun low => inexact (exact_of_small (small_of_log low))
  obtain ⟨shift, large⟩ : ∃ shift, Nat.log2 value.natAbs = 23 + shift :=
    ⟨Nat.log2 value.natAbs - 23, by omega⟩
  obtain ⟨units, rounded, lower, upper⟩ := round_single_large large
  have power : (1 : Int) ≤ 2 ^ shift := one_le_pow₀ (by norm_num)
  refine ⟨units * 2 ^ shift, by exact_mod_cast rounded, ?_, ?_, ?_⟩
  · intro same
    apply inexact
    rw [← round_single_int, rounded]
    exact_mod_cast same
  · rw [abs_mul, abs_pow, abs_two]
    nlinarith
  · rw [abs_mul, abs_pow, abs_two, large]
    calc |units| * 2 ^ shift ≤ 2 ^ 24 * 2 ^ shift :=
          mul_le_mul_of_nonneg_right upper (by positivity)
      _ = 2 ^ (23 + shift + 1) := by ring

end Foundation.SinglePrecision
