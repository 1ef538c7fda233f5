import SprinklerD.JsonMessages

/-!
# The status line

`build_sprinkler_JSON` prints the line into an array of fifty bytes. Its length is the number of
digits in it, and for a record of a run these are few; an amount of rain can have too many.
-/

namespace SprinklerD.StatusLine

open Foundation.MachineInt Foundation.Decimal Foundation.SinglePrecision
open SprinklerD.Config SprinklerD.ZoneCtrl SprinklerD.Broadcast SprinklerD.JsonMessages

set_option autoImplicit false

section Numbers

def twoSize (value : Int) : Nat := if 0 ≤ value ∧ value < 10 then 2 else decimalSize value

def signSize (negative : Bool) : Nat := if negative then 1 else 0

/-- The point, the digits before it and so many behind it. -/
def fixedDigitsSize (places : Nat) (magnitude : ℚ) : Nat :=
  Nat.log 10 ((roundEven (magnitude * 10 ^ places)).toNat / 10 ^ places) + 1 + (places + 1)

def fixedSize (places : Nat) : CFloat → Nat
  | .nan negative => signSize negative + 3
  | .negInf => 4
  | .negZero => 1 + fixedDigitsSize places 0
  | .finite value => signSize (value < 0) + fixedDigitsSize places |value|
  | .posInf => 3

def clockSize (hour minute : Int) : Nat := twoSize hour + 1 + twoSize minute

theorem length_print_two (value : Int) : (printTwo value).length = twoSize value := by
  unfold printTwo twoSize
  split_ifs with small
  · have one : decimalSize value = 1 := by
      obtain ⟨lower, upper⟩ := small
      rw [decimalSize, if_neg (by omega), Nat.log_of_lt (by omega)]
    rw [List.length_cons, length_print_int, one]
  · exact length_print_int value

theorem length_minus_sign (negative : Bool) :
    (minusSign negative).length = signSize negative := by
  cases negative <;> rfl

theorem length_fixed_digits {places : Nat} (positive : 0 < places) (magnitude : ℚ) :
    (fixedDigits places magnitude).length = fixedDigitsSize places magnitude := by
  have digits (number : Nat) : Nat.log 10 (number % 10 ^ places) + 1 ≤ places := by
    rw [← length_print_nat]
    exact (length_print_nat_le positive).mpr (Nat.mod_lt _ (Nat.pow_pos (by decide)))
  simp only [fixedDigits, fixedDigitsSize, List.length_append, List.length_cons,
    List.length_replicate, length_print_nat, Nat.sub_add_cancel (digits _)]

theorem length_print_fixed {places : Nat} (positive : 0 < places) (value : CFloat) :
    (printFixed places value).length = fixedSize places value := by
  cases value with
  | nan negative =>
      rw [printFixed, List.length_append, length_minus_sign]
      rfl
  | negInf => rfl
  | negZero =>
      rw [printFixed, List.length_append, length_minus_sign, length_fixed_digits positive]
      rfl
  | finite value =>
      rw [printFixed, List.length_append, length_minus_sign, length_fixed_digits positive]
      rfl
  | posInf => rfl

theorem length_clock (hour minute : Int) : (clock hour minute).length = clockSize hour minute := by
  simp only [clock, clockSize, List.length_append, length_print_two, String.reduceToList,
    List.length_cons, List.length_nil]

end Numbers

section Line

variable (cfg : SprinklerdCfg) (labels : Labels) (st : SprinklerdState)

def statusSize : Nat :=
  if st.currentZone.type ≠ .zcNone then
    26 + decimalSize st.currentZone.zone +
      clockSize (st.currentZone.timeleft.tdiv 60) (st.currentZone.timeleft.tmod 60)
  else if 0 < st.todayRainChance ∨ CFloat.zero.lt st.todayRainTotal then
    42 + decimalSize st.todayRainChance + fixedSize 2 st.todayRainTotal
  else 0

def StatusFits : Prop := statusSize st < 50

instance : Decidable (StatusFits st) := inferInstanceAs (Decidable (_ < _))

theorem length_status : (statusText st).length = statusSize st := by
  unfold statusText statusSize
  split_ifs
  · simp only [List.length_append, length_print_int, length_clock]
    simp only [String.reduceToList]
    simp only [List.length_cons, List.length_nil]
    omega
  · simp only [List.length_append, length_print_int, length_print_fixed Nat.two_pos]
    simp only [String.reduceToList]
    simp only [List.length_cons, List.length_nil]
    omega
  · rfl

/-- The document is printed exactly where the line fits. -/
theorem build_sprinkler_eq : buildSprinklerJSON cfg labels st =
    if StatusFits st then some (sprinklerText cfg labels st (statusText st)) else none := by
  unfold buildSprinklerJSON sprintf
  rw [length_status]
  by_cases fits : statusSize st < 50
  · rw [if_pos fits, if_pos (show StatusFits st from fits)]
    rfl
  · rw [if_neg fits, if_neg (show ¬ StatusFits st from fits)]
    rfl

theorem build_sprinkler_cal_eq : buildSprinklerCalJSON cfg labels st =
    if StatusFits st then
      some (sprinklerCalText cfg labels st (sprinklerText cfg labels st (statusText st)))
    else none := by
  rw [buildSprinklerCalJSON, build_sprinkler_eq]
  split_ifs <;> rfl

end Line

end SprinklerD.StatusLine
