import SprinklerD.Foundation.Decimal
import SprinklerD.Foundation.MachineInt
import Mathlib.Data.List.TakeWhile
import Mathlib.Tactic.SplitIfs

/-!
# Strings in memory

A piece of memory is the list of its characters. A string in it ends before the
first NUL, and past the end of the list memory reads as NUL. Comparisons and
number readers are those of the C library, in the C locale.
-/

namespace Foundation.CString

open Foundation.Decimal Foundation.MachineInt

set_option autoImplicit false

def nul : Char := Char.ofNat 0

def cString (memory : List Char) : List Char := memory.takeWhile (· ≠ nul)

/-- What a comparison of at most `count` characters looks at, the terminator included. -/
def compared (count : Nat) (memory : List Char) : List Char :=
  (cString memory ++ [nul]).take count

/-- `strcmp` answers 0. -/
def strcmpEqual (first second : List Char) : Bool := cString first = cString second

/-- `strncmp` answers 0. -/
def strncmpEqual (first second : List Char) (count : Nat) : Bool :=
  compared count first = compared count second

/-- `strncasecmp` answers 0. -/
def strncasecmpEqual (first second : List Char) (count : Nat) : Bool :=
  (compared count first).map Char.toLower = (compared count second).map Char.toLower

def isSpace (char : Char) : Bool :=
  char = ' ' ∨ (9 ≤ char.toNat ∧ char.toNat ≤ 13)

/-- `strtol` in base ten, which stops at the ends of a `long`. -/
def strtol (memory : List Char) : Int :=
  match memory.dropWhile isSpace with
  | '-' :: digits => max (-2 ^ 63) (-(readDigits 0 digits : Int))
  | '+' :: digits => min (2 ^ 63 - 1) (readDigits 0 digits : Int)
  | digits => min (2 ^ 63 - 1) (readDigits 0 digits : Int)

/-- The `long` is converted to an `int`. -/
def atoi (memory : List Char) : Int := wrap32 (strtol memory)

theorem nul_not_in_c_string (memory : List Char) : nul ∉ cString memory := by
  intro member
  simpa using List.mem_takeWhile_imp member

theorem c_string_terminated {text : List Char} (visible : nul ∉ text) (rest : List Char) :
    cString (text ++ nul :: rest) = text := by
  have shown : ∀ char ∈ text, decide (char ≠ nul) = true :=
    fun char member => decide_eq_true fun same => visible (same ▸ member)
  rw [cString, List.takeWhile_append_of_pos shown, List.takeWhile_cons_of_neg (by simp),
    List.append_nil]

theorem atoi_range (memory : List Char) : -2 ^ 31 ≤ atoi memory ∧ atoi memory < 2 ^ 31 :=
  wrap32_range (strtol memory)

theorem prefix_before {α : Type} {stop : α} {word part later : List α} (plain : stop ∉ word)
    (begins : word <+: part ++ stop :: later) : word <+: part := by
  rcases List.prefix_or_prefix_of_prefix begins (List.prefix_append part _) with inside | longer
  · exact inside
  · obtain ⟨tail, rfl⟩ := longer
    have further := (List.prefix_append_right_inj part).mp begins
    cases tail with
    | nil => exact (List.append_nil part).symm ▸ List.prefix_refl part
    | cons char tail =>
        have same := (List.cons_prefix_cons.mp further).1
        exact absurd (List.mem_append_right _ (same ▸ List.mem_cons_self)) plain

theorem compared_own {memory : List Char} {count : Nat} (inside : count ≤ memory.length)
    (later : List Char) : compared count (memory ++ later) = compared count memory := by
  unfold compared cString
  induction memory generalizing count with
  | nil =>
      rw [Nat.le_zero.mp inside]
      rfl
  | cons char rest ih =>
      cases count with
      | zero => rfl
      | succ count =>
          rw [List.cons_append, List.takeWhile_cons, List.takeWhile_cons]
          split_ifs
          · rw [List.cons_append, List.cons_append, List.take_succ_cons, List.take_succ_cons,
              ih (Nat.le_of_succ_le_succ inside)]
          · rfl

/-- For a word without a terminator the comparison asks for a prefix. -/
theorem strncmp_equal_iff {memory word : List Char} {count : Nat} (visible : nul ∉ word)
    (within : count ≤ word.length) :
    strncmpEqual memory word count = true ↔ word.take count <+: memory := by
  have shown {text : List Char} (clear : nul ∉ text) :
      ∀ char ∈ text, decide (char ≠ nul) = true := by
    intro char member
    apply decide_eq_true
    rintro rfl
    exact clear member
  have whole : compared count word = word.take count := by
    have terminated := @List.takeWhile_append_of_pos _ (· ≠ nul) word [] (shown visible)
    rw [List.append_nil, List.takeWhile_nil, List.append_nil] at terminated
    rw [compared, cString, terminated, List.take_append_of_le_length within]
  rw [strncmpEqual, decide_eq_true_eq, whole]
  constructor
  · intro same
    by_cases short : count ≤ (cString memory).length
    · rw [compared, List.take_append_of_le_length short] at same
      rw [← same]
      exact (List.take_prefix _ _).trans (List.takeWhile_prefix _)
    · have ended : compared count memory = cString memory ++ [nul] := by
        apply List.take_of_length_le
        simp only [List.length_append, List.length_singleton]
        omega
      have member : nul ∈ word.take count := by
        rw [← same, ended]
        exact List.mem_append_right _ List.mem_cons_self
      exact absurd (List.mem_of_mem_take member) visible
  · rintro ⟨rest, rfl⟩
    have clear : nul ∉ word.take count := fun member => visible (List.mem_of_mem_take member)
    have long : count ≤ (word.take count ++ rest.takeWhile (· ≠ nul)).length := by
      rw [List.length_append, List.length_take_of_le within]
      omega
    rw [compared, cString, List.takeWhile_append_of_pos (shown clear),
      List.take_append_of_le_length long, List.take_append_of_le_length
        (List.length_take_of_le within).ge, List.take_take, min_self]

theorem read_digits_stops {stop : Char} (rest : List Char) (noDigit : stop.isDigit = false)
    (sofar : Nat) (number : List Char) :
    readDigits sofar (number ++ stop :: rest) = readDigits sofar number := by
  induction number generalizing sofar with
  | nil => simp [readDigits, noDigit]
  | cons char number ih => rw [List.cons_append, readDigits, readDigits, ih]

/-- A number ends before a character that no number has. -/
theorem atoi_stops {stop : Char} (rest : List Char) (noDigit : stop.isDigit = false)
    (noSpace : isSpace stop = false) (noSign : stop ≠ '-' ∧ stop ≠ '+') (text : List Char) :
    atoi (text ++ stop :: rest) = atoi text := by
  have stopped := read_digits_stops rest noDigit 0
  unfold atoi strtol
  rw [List.dropWhile_append]
  cases text.dropWhile isSpace with
  | nil =>
      have bare := stopped []
      rw [List.nil_append] at bare
      simp [noSpace, noSign.1, noSign.2, bare]
  | cons char number =>
      have whole := stopped (char :: number)
      by_cases minus : char = '-'
      · simp [minus, stopped]
      · by_cases plus : char = '+'
        · simp [plus, stopped]
        · simp [minus, plus] at whole ⊢
          rw [whole]

theorem digit_begins {char : Char} (digit : char.isDigit = true) :
    isSpace char = false ∧ char ≠ '-' ∧ char ≠ '+' := by
  simp only [Char.isDigit, Bool.and_eq_true, decide_eq_true_eq] at digit
  have lower : 48 ≤ char.toNat := digit.1
  refine ⟨decide_eq_false ?_, ?_, ?_⟩
  · rintro (rfl | range)
    · exact absurd lower (by decide)
    · omega
  · rintro rfl
    exact absurd lower (by decide)
  · rintro rfl
    exact absurd lower (by decide)

/-- What `atoi` makes of a number. -/
def atoiValue (value : Int) : Int := wrap32 (max (-2 ^ 63) (min (2 ^ 63 - 1) value))

theorem atoi_value_iff (value : Int) :
    atoiValue value = value ↔ -2 ^ 31 ≤ value ∧ value < 2 ^ 31 := by
  constructor
  · intro same
    rw [← same]
    exact wrap32_range _
  · intro fits
    rw [atoiValue, min_eq_right (by omega), max_eq_right (by omega),
      wrap32_of_fits fits.1 fits.2]

/-- Blanks before a number are passed, and it ends with its digits. -/
theorem atoi_number {blanks : List Char} (negative : Bool) (magnitude : Nat) {stop : Char}
    (rest : List Char) (blank : ∀ char ∈ blanks, isSpace char = true)
    (noDigit : stop.isDigit = false) :
    atoi (blanks ++ ((if negative then ['-'] else []) ++ printNat magnitude ++ stop :: rest)) =
      atoiValue (if negative then -(magnitude : Int) else magnitude) := by
  have read := read_digits_stops rest noDigit 0 (printNat magnitude)
  rw [read_print_nat] at read
  unfold atoi strtol
  rw [List.dropWhile_append_of_pos blank, atoiValue]
  cases negative with
  | true =>
      simp only [if_true]
      rw [List.append_assoc, List.singleton_append, List.dropWhile_cons_of_neg (by decide)]
      simp only [read]
      rw [min_eq_right (a := 2 ^ 63 - 1) (by omega)]
  | false =>
      simp only [Bool.false_eq_true, if_false, List.nil_append]
      obtain ⟨first, others, digits⟩ := List.exists_cons_of_ne_nil (print_nat_ne_nil magnitude)
      obtain ⟨noSpace, noMinus, noPlus⟩ := digit_begins
        (is_digit_of_mem_print_nat (digits ▸ List.mem_cons_self))
      rw [digits, List.cons_append] at read ⊢
      rw [List.dropWhile_cons_of_neg (by rw [noSpace]; exact Bool.false_ne_true)]
      split
      · next same => exact absurd (List.cons.inj same).1 noMinus
      · next same => exact absurd (List.cons.inj same).1 noPlus
      · rw [read, max_eq_right (by omega)]

theorem atoi_print_int (value : Int) {stop : Char} (rest : List Char)
    (noDigit : stop.isDigit = false) :
    atoi (printInt value ++ stop :: rest) = atoiValue value := by
  have noBlank : ∀ char ∈ ([] : List Char), isSpace char = true := fun char member =>
    absurd member List.not_mem_nil
  rw [printInt]
  split_ifs with negative
  · have read := @atoi_number [] true value.natAbs stop rest noBlank noDigit
    rw [if_pos rfl, show -(value.natAbs : Int) = value by omega] at read
    exact read
  · have read := @atoi_number [] false value.toNat stop rest noBlank noDigit
    rw [if_neg Bool.false_ne_true, if_neg Bool.false_ne_true,
      show (value.toNat : Int) = value by omega] at read
    exact read

end Foundation.CString
