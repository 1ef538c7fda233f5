import SprinklerD.Foundation.MachineInt
import SprinklerD.Foundation.SinglePrecision
import Mathlib.Algebra.Order.Archimedean.Basic
import Mathlib.Data.Int.Log

/-!
# Rounding to a format

A binary format has a number of significant bits, a finest unit and a bound for its largest
exponent. Rounding to the nearest number of a format keeps the order, and a number that goes
through a finer format on its way keeps it too, so that whether the result is zero or out of
range is decided by the size of the number alone.
-/

namespace Foundation.FloatFormat

open Foundation.MachineInt Foundation.SinglePrecision

set_option autoImplicit false

section Rounding

theorem round_even_mono {less more : ℚ} (ordered : less ≤ more) :
    roundEven less ≤ roundEven more := by
  rcases (Int.floor_mono ordered).lt_or_eq with below | same
  · have upper : (⌊less⌋ + 1 : Int) ≤ ⌊more⌋ := below
    have first : roundEven less ≤ ⌊less⌋ + 1 := by
      apply round_even_le
      push_cast
      exact (Int.lt_floor_add_one less).le
    exact first.trans (upper.trans (le_round_even (Int.floor_le more)))
  · simp only [roundEven, same]
    split_ifs
    all_goals first | omega | linarith

end Rounding

section Format

variable (bits : Nat) (least : Int)

/-- The unit of the last place. No number is finer than `2 ^ least`. -/
def lastPlace (value : ℚ) : ℚ := 2 ^ max (Int.log 2 value - bits + 1) least

def nearest (value : ℚ) : ℚ :=
  roundEven (value / lastPlace bits least value) * lastPlace bits least value

variable {bits least}

theorem last_place_pos (value : ℚ) : 0 < lastPlace bits least value :=
  zpow_pos (by norm_num) _

theorem nearest_nonneg {value : ℚ} (nonneg : 0 ≤ value) : 0 ≤ nearest bits least value := by
  have positive := @last_place_pos bits least value
  apply mul_nonneg _ positive.le
  have above : (0 : Int) ≤ roundEven (value / lastPlace bits least value) := by
    apply le_round_even
    push_cast
    exact div_nonneg nonneg positive.le
  exact_mod_cast above

theorem nearest_zero : nearest bits least 0 = 0 := by
  have none : roundEven 0 = 0 := by
    have whole := round_even_int 0
    simpa using whole
  rw [nearest, zero_div, none]
  simp

/-- Where a power of two is a multiple of the unit, a number does not pass it by rounding. -/
theorem power_multiple {value : ℚ} {exponent : Int}
    (coarse : max (Int.log 2 value - bits + 1) least ≤ exponent) :
    ∃ units : Int, (2 : ℚ) ^ exponent = units * lastPlace bits least value := by
  obtain ⟨more, rfl⟩ := Int.le.dest coarse
  refine ⟨2 ^ more, ?_⟩
  rw [lastPlace, zpow_add₀ (by norm_num), zpow_natCast]
  push_cast
  ring

theorem nearest_le_power {value : ℚ} {exponent : Int} (below : value ≤ 2 ^ exponent)
    (coarse : max (Int.log 2 value - bits + 1) least ≤ exponent) :
    nearest bits least value ≤ 2 ^ exponent := by
  have positive := @last_place_pos bits least value
  obtain ⟨units, multiple⟩ := power_multiple coarse
  rw [multiple] at below ⊢
  apply mul_le_mul_of_nonneg_right _ positive.le
  exact_mod_cast round_even_le ((div_le_iff₀ positive).mpr below)

theorem power_le_nearest {value : ℚ} {exponent : Int} (above : 2 ^ exponent ≤ value)
    (coarse : max (Int.log 2 value - bits + 1) least ≤ exponent) :
    2 ^ exponent ≤ nearest bits least value := by
  have positive := @last_place_pos bits least value
  obtain ⟨units, multiple⟩ := power_multiple coarse
  rw [multiple] at above ⊢
  apply mul_le_mul_of_nonneg_right _ positive.le
  exact_mod_cast le_round_even ((le_div_iff₀ positive).mpr above)

theorem nearest_mono (some : 0 < bits) {less more : ℚ} (nonneg : 0 ≤ less)
    (ordered : less ≤ more) : nearest bits least less ≤ nearest bits least more := by
  rcases nonneg.eq_or_lt with zero | positive
  · rw [← zero, nearest_zero]
    exact nearest_nonneg (nonneg.trans ordered)
  have logs := Int.log_mono_right (b := 2) positive ordered
  rcases eq_or_ne (max (Int.log 2 less - bits + 1) least) (max (Int.log 2 more - bits + 1) least)
    with same | other
  · have place : lastPlace bits least less = lastPlace bits least more := by
      rw [lastPlace, lastPlace, same]
    have unit := @last_place_pos bits least more
    rw [nearest, nearest, place]
    apply mul_le_mul_of_nonneg_right _ unit.le
    exact_mod_cast round_even_mono (div_le_div_of_nonneg_right ordered unit.le)
  · -- The two have different units, and the power of two at the larger one is between them.
    have below : less ≤ 2 ^ Int.log 2 more := by
      have next := Int.lt_zpow_succ_log_self (b := 2) (by norm_num) less
      apply next.le.trans
      push_cast
      apply zpow_le_zpow_right₀ (by norm_num)
      omega
    have above := Int.zpow_log_le_self (b := 2) (by norm_num) (positive.trans_le ordered)
    push_cast at above
    exact (nearest_le_power below (by omega)).trans (power_le_nearest above (by omega))

/-- A power of two that is not too small is in the format. -/
theorem nearest_power (some : 0 < bits) {exponent : Int} (fine : least ≤ exponent) :
    nearest bits least (2 ^ exponent) = 2 ^ exponent := by
  have log : Int.log 2 ((2 : ℚ) ^ exponent) = exponent := by
    have power := Int.log_zpow (R := ℚ) (b := 2) (by norm_num) exponent
    exact_mod_cast power
  have coarse : max (Int.log 2 ((2 : ℚ) ^ exponent) - bits + 1) least ≤ exponent := by
    rw [log]
    omega
  exact le_antisymm (nearest_le_power le_rfl coarse) (power_le_nearest le_rfl coarse)

/-- What is below half of the finest unit is rounded to zero. -/
theorem nearest_tiny (some : 0 < bits) {value : ℚ} (nonneg : 0 ≤ value)
    (tiny : value ≤ 2 ^ (least - 2)) : nearest bits least value = 0 := by
  apply le_antisymm _ (nearest_nonneg nonneg)
  apply (nearest_mono some nonneg tiny).trans
  have log : Int.log 2 ((2 : ℚ) ^ (least - 2)) = least - 2 := by
    have power := Int.log_zpow (R := ℚ) (b := 2) (by norm_num) (least - 2)
    exact_mod_cast power
  have place : lastPlace bits least ((2 : ℚ) ^ (least - 2)) = 2 ^ least := by
    rw [lastPlace, log, max_eq_right (by omega)]
  have quarter : (2 : ℚ) ^ (least - 2) / 2 ^ least = 1 / 4 := by
    rw [zpow_sub₀ (by norm_num)]
    field_simp
    norm_num
  have none : roundEven (1 / 4) = 0 := by
    norm_num [roundEven]
  rw [nearest, place, quarter, none]
  simp

end Format

section Single

/-- A magnitude as a `double` and then as a `float`; `none` is out of range. -/
def toFloat (magnitude : ℚ) : Option ℚ :=
  let double := nearest 53 (-1074) magnitude
  let single := nearest 24 (-149) double
  if 2 ^ 1024 ≤ double ∨ 2 ^ 128 ≤ single then none else some single

theorem to_float_none {magnitude : ℚ} : toFloat magnitude = none ↔
    2 ^ 1024 ≤ nearest 53 (-1074) magnitude ∨
      2 ^ 128 ≤ nearest 24 (-149) (nearest 53 (-1074) magnitude) := by
  rw [toFloat]
  split_ifs with large
  · exact iff_of_true rfl large
  · exact iff_of_false (fun same => by cases same) large

variable {less more : ℚ}

theorem singles_ordered (nonneg : 0 ≤ less) (ordered : less ≤ more) :
    nearest 53 (-1074) less ≤ nearest 53 (-1074) more ∧
      nearest 24 (-149) (nearest 53 (-1074) less) ≤
        nearest 24 (-149) (nearest 53 (-1074) more) := by
  have doubles := @nearest_mono 53 (-1074) (by decide) less more nonneg ordered
  exact ⟨doubles, nearest_mono (by decide) (nearest_nonneg nonneg) doubles⟩

theorem to_float_none_mono (nonneg : 0 ≤ less) (ordered : less ≤ more)
    (large : toFloat less = none) : toFloat more = none := by
  obtain ⟨doubles, singles⟩ := singles_ordered nonneg ordered
  rw [to_float_none] at large ⊢
  exact large.imp (fun double => double.trans doubles) fun single => single.trans singles

theorem to_float_zero_mono (nonneg : 0 ≤ less) (ordered : less ≤ more)
    (small : toFloat more = some 0) : toFloat less = some 0 := by
  obtain ⟨doubles, singles⟩ := singles_ordered nonneg ordered
  have lower := @nearest_nonneg 24 (-149) _ (@nearest_nonneg 53 (-1074) _ nonneg)
  rw [toFloat] at small ⊢
  split_ifs at small with large
  have zero := Option.some.inj small
  rw [zero] at singles
  rw [if_neg, le_antisymm singles lower]
  rintro (double | single)
  · exact large (Or.inl (double.trans doubles))
  · exact absurd (single.trans singles) (by norm_num)

theorem to_float_huge (huge : 2 ^ (1024 : Int) ≤ more) : toFloat more = none := by
  rw [to_float_none]
  have power := @nearest_power 53 (-1074) (by decide) 1024 (by decide)
  have rounded := @nearest_mono 53 (-1074) (by decide) _ _ (zpow_pos two_pos _).le huge
  rw [power] at rounded
  exact Or.inl (by exact_mod_cast rounded)

theorem to_float_tiny (nonneg : 0 ≤ less) (tiny : less ≤ 2 ^ (-1076 : Int)) :
    toFloat less = some 0 := by
  have double : nearest 53 (-1074) less = 0 := nearest_tiny (by decide) nonneg tiny
  rw [toFloat]
  simp only [double, nearest_zero]
  rw [if_neg (by norm_num)]

theorem to_float_zero : toFloat 0 = some 0 := to_float_tiny le_rfl (zpow_pos two_pos _).le

/-- A power of the radix that is large enough takes any number out of range, and the other way to
zero. -/
theorem to_float_scaled {radix : ℚ} (two : 2 ≤ radix) (positive : 0 < more) :
    ∃ least : Nat, ∀ exponent, least ≤ exponent → toFloat (more * radix ^ exponent) = none ∧
      toFloat (more / radix ^ exponent) = some 0 := by
  obtain ⟨up, above⟩ := pow_unbounded_of_one_lt (2 ^ (1024 : Int) / more) (one_lt_two (α := ℚ))
  obtain ⟨down, below⟩ := pow_unbounded_of_one_lt (more / 2 ^ (-1076 : Int)) (one_lt_two (α := ℚ))
  refine ⟨max up down, fun exponent late => ?_⟩
  have grows {bound : Nat} (reached : bound ≤ exponent) :
      (2 : ℚ) ^ bound ≤ radix ^ exponent :=
    (pow_le_pow_right₀ one_le_two reached).trans (pow_le_pow_left₀ (by norm_num) two exponent)
  have scale : 0 < radix ^ exponent := pow_pos (by linarith) exponent
  constructor
  · apply to_float_huge
    rw [← div_le_iff₀' positive]
    exact above.le.trans (grows (by omega))
  · apply to_float_tiny (div_nonneg positive.le scale.le)
    rw [div_le_iff₀ scale, ← div_le_iff₀' (zpow_pos two_pos _)]
    exact below.le.trans (grows (by omega))

end Single

end Foundation.FloatFormat
