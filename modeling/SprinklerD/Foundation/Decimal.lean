import Mathlib.Algebra.Order.Ring.Nat
import Mathlib.Data.List.Basic
import Mathlib.Data.Nat.Log

/-!
# Decimal numbers as text

What `%d` prints, and what a loop over leading digits reads back. Printing uses
the digits of the standard library, so only the reading side is new here.
-/

namespace Foundation.Decimal

set_option autoImplicit false

def printNat (value : Nat) : List Char := Nat.toDigits 10 value

def printInt (value : Int) : List Char :=
  if value < 0 then '-' :: printNat value.natAbs else printNat value.toNat

def digitValue (char : Char) : Nat := char.toNat - '0'.toNat

/-- Reads digits until the text ends or something else comes, continuing from `sofar`. -/
def readDigits : Nat → List Char → Nat
  | sofar, [] => sofar
  | sofar, char :: rest =>
      if char.isDigit then readDigits (10 * sofar + digitValue char) rest else sofar

theorem print_int_nat (value : Nat) : printInt value = printNat value := by
  rw [printInt, if_neg (by omega), Int.toNat_natCast]

theorem is_digit_of_mem_print_nat {value : Nat} {char : Char} (member : char ∈ printNat value) :
    char.isDigit = true :=
  Nat.isDigit_of_mem_toDigits (by decide) (by decide) member

theorem print_nat_ne_nil (value : Nat) : printNat value ≠ [] := Nat.toDigits_ne_nil

theorem length_print_nat_le {value count : Nat} (positive : 0 < count) :
    (printNat value).length ≤ count ↔ value < 10 ^ count :=
  Nat.length_toDigits_le_iff (by decide) positive

def decimalSize (value : Int) : Nat := Nat.log 10 value.natAbs + 1 + if value < 0 then 1 else 0

theorem length_print_nat (value : Nat) : (printNat value).length = Nat.log 10 value + 1 := by
  apply le_antisymm
  · exact (length_print_nat_le (Nat.succ_pos _)).mpr (Nat.lt_pow_succ_log_self (by decide) value)
  · by_contra short
    have some := List.length_pos_of_ne_nil (print_nat_ne_nil value)
    have below := (@length_print_nat_le value (Nat.log 10 value) (by omega)).mp (by omega)
    have positive : value ≠ 0 := by
      rintro rfl
      rw [Nat.log_zero_right] at short
      omega
    exact absurd below (not_lt.mpr (Nat.pow_log_le_self 10 positive))

theorem length_print_int (value : Int) : (printInt value).length = decimalSize value := by
  rw [printInt, decimalSize]
  split_ifs with negative
  · rw [List.length_cons, length_print_nat]
  · rw [length_print_nat, show value.toNat = value.natAbs by omega, Nat.add_zero]

/-- An `int` has at most ten digits and a sign. -/
theorem length_print_int_le {value : Int} (lower : -2 ^ 31 ≤ value) (upper : value < 2 ^ 31) :
    (printInt value).length ≤ 11 := by
  have size : Nat.log 10 value.natAbs < 10 := Nat.log_lt_of_lt_pow' (by decide) (by omega)
  rw [length_print_int, decimalSize]
  split_ifs <;> omega

theorem read_digits_eq {digits : List Char} (sofar : Nat) (rest : List Char)
    (all : ∀ char ∈ digits, char.isDigit = true) :
    readDigits sofar (digits ++ rest) = readDigits (Nat.ofDigitChars 10 digits sofar) rest := by
  induction digits generalizing sofar with
  | nil => simp
  | cons char digits ih =>
      rw [List.cons_append, readDigits, if_pos (all char (by simp)),
        ih _ fun later member => all later (List.mem_cons_of_mem _ member),
        Nat.ofDigitChars_cons]
      rfl

theorem read_print_nat (value : Nat) : readDigits 0 (printNat value) = value := by
  have read := read_digits_eq 0 [] fun char (member : char ∈ printNat value) =>
    is_digit_of_mem_print_nat member
  rw [List.append_nil] at read
  rw [read, readDigits]
  exact Nat.ofDigitChars_ten_toDigits

theorem print_int_injective : Function.Injective printInt := by
  have naturals {value other : Nat} (same : printNat value = printNat other) : value = other := by
    rw [← read_print_nat value, same, read_print_nat]
  have noSign {value other : Nat} (same : printNat value = '-' :: printNat other) : False := by
    have member : '-' ∈ printNat value := same ▸ List.mem_cons_self
    exact absurd (is_digit_of_mem_print_nat member) (by decide)
  intro value other same
  unfold printInt at same
  split_ifs at same with negative otherNegative otherNegative
  · have size := naturals (List.cons.inj same).2
    omega
  · exact (noSign same.symm).elim
  · exact (noSign same).elim
  · have size := naturals same
    omega

theorem of_mem_print_int {value : Int} {char : Char} (member : char ∈ printInt value) :
    char = '-' ∨ char.isDigit = true := by
  unfold printInt at member
  split_ifs at member
  · exact (List.mem_cons.mp member).imp_right is_digit_of_mem_print_nat
  · exact Or.inr (is_digit_of_mem_print_nat member)

/-- A printed number ends where a character comes that no number has. -/
theorem print_int_delimited {first second : Int} {stop : Char} {rest rest' : List Char}
    (noSign : stop ≠ '-') (noDigit : stop.isDigit = false)
    (same : printInt first ++ stop :: rest = printInt second ++ stop :: rest') :
    first = second ∧ rest = rest' := by
  have number : ∀ (value : Int) (later : List Char),
      (printInt value ++ stop :: later).takeWhile (· ≠ stop) = printInt value := by
    intro value later
    have inside : ∀ char ∈ printInt value, decide (char ≠ stop) = true := by
      intro char member
      apply decide_eq_true
      rintro rfl
      rcases of_mem_print_int member with sign | digit
      · exact noSign sign
      · rw [noDigit] at digit
        cases digit
    rw [List.takeWhile_append_of_pos inside]
    simp
  have values : first = second := print_int_injective (by rw [← number first rest, same, number])
  subst values
  exact ⟨rfl, (List.cons.inj (List.append_cancel_left same)).2⟩

theorem digit_value_lt {char : Char} (digit : char.isDigit = true) : digitValue char < 10 := by
  simp only [Char.isDigit, Bool.and_eq_true, decide_eq_true_eq, digitValue] at *
  have upper : char.toNat ≤ 57 := digit.2
  change char.toNat - 48 < 10
  omega

theorem read_digits_lt (sofar : Nat) (text : List Char) :
    readDigits sofar text < (sofar + 1) * 10 ^ text.length := by
  induction text generalizing sofar with
  | nil => simp [readDigits]
  | cons char rest ih =>
      rw [readDigits]
      split_ifs with digit
      · have value := digit_value_lt digit
        calc readDigits (10 * sofar + digitValue char) rest
            < (10 * sofar + digitValue char + 1) * 10 ^ rest.length := ih _
          _ ≤ ((sofar + 1) * 10) * 10 ^ rest.length :=
              Nat.mul_le_mul_right _ (by omega)
          _ = (sofar + 1) * 10 ^ (char :: rest).length := by
              rw [List.length_cons, Nat.pow_succ]
              ac_rfl
      · have positive : 0 < 10 ^ (char :: rest).length := Nat.pow_pos (by decide)
        calc sofar < sofar + 1 := Nat.lt_succ_self _
          _ ≤ (sofar + 1) * 10 ^ (char :: rest).length := Nat.le_mul_of_pos_right _ positive

end Foundation.Decimal
