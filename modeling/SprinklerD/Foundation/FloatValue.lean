import SprinklerD.Foundation.FloatScan
import SprinklerD.Foundation.FloatFormat

/-!
# The value of a float as text

`atof` takes the longest number at the front of a text, behind blanks, and rounds it to a `float`.
What the automaton has read is kept beside its state, so that the value can be told at any point:
the beginning of an exponent, or of a word, counts for nothing until it is complete. A text is
settled when nothing that may follow it changes the value.
-/

namespace Foundation.FloatValue

open Foundation.CString Foundation.Decimal Foundation.FloatScan
open Foundation.MachineInt Foundation.FloatFormat

set_option autoImplicit false

section Reading

/-- The digits so far, and how many of them stand behind the point. -/
structure Reading where
  state : FloatState := .start
  negative : Bool := false
  hex : Bool := false
  digits : Nat := 0
  places : Nat := 0
  down : Bool := false
  exponent : Nat := 0

def hexValue (char : Char) : Nat :=
  if char.isDigit then digitValue char else char.toLower.toNat - 'a'.toNat + 10

def taken (reading : Reading) (char : Char) (state : FloatState) : Reading :=
  let next := { reading with state := state }
  match state with
  | .sign => { next with negative := char = '-' }
  | .zero | .whole => { next with digits := 10 * reading.digits + digitValue char }
  | .fraction =>
      if char = '.' then next
      else { next with
        digits := 10 * reading.digits + digitValue char, places := reading.places + 1 }
  | .exponent => { next with down := false, exponent := 0 }
  | .exponentSign => { next with down := char = '-' }
  | .exponentDigits => { next with exponent := 10 * reading.exponent + digitValue char }
  | .hex => { next with hex := true }
  | .hexWhole => { next with digits := 16 * reading.digits + hexValue char }
  | .hexFraction =>
      if char = '.' then next
      else { next with
        digits := 16 * reading.digits + hexValue char, places := reading.places + 1 }
  | _ => next

def readChar (reading : Reading) (char : Char) : Option Reading :=
  (nextFloat reading.state char).map (taken reading char)

namespace Reading

variable (reading : Reading)

def mantissa : ℚ := reading.digits / (if reading.hex then 16 else 10) ^ reading.places

def radix : ℚ := if reading.hex then 2 else 10

def magnitude : ℚ :=
  if reading.down then reading.mantissa / reading.radix ^ reading.exponent
  else reading.mantissa * reading.radix ^ reading.exponent

def infinite : CFloat := if reading.negative then .negInf else .posInf

/-- Where nothing can be converted the value is zero. -/
def value : CFloat :=
  match reading.state with
  | .start | .sign | .point | .inf (_ :: _) | .nan (_ :: _) => .zero
  | .inf [] | .infinity _ => reading.infinite
  | .nan [] | .nanChars | .nanClosed => .nan reading.negative
  | _ =>
      match toFloat reading.magnitude with
      | some magnitude => CFloat.signed reading.negative magnitude
      | none => reading.infinite

/-- No digit of an exponent makes a difference any more. -/
def Fixed : Prop :=
  reading.digits = 0 ∨ toFloat reading.magnitude = if reading.down then some 0 else none

/-- The word is complete, or an exponent has begun that no digit can make a difference to. -/
def Settled : Prop :=
  match reading.state with
  | .inf [] | .infinity _ | .nan [] | .nanChars | .nanClosed => True
  | .exponent => reading.digits = 0
  | .exponentSign | .exponentDigits => reading.Fixed
  | _ => False

end Reading

def valueBehind (reading : Reading) (rest : List Char) : CFloat :=
  (takeItem readChar reading rest).state.value

def atof (text : List Char) : CFloat := valueBehind {} (text.dropWhile isSpace)

/-- A number ends in the text, or what follows makes no difference to it. -/
def Settled (text : List Char) : Prop :=
  ∀ reading, feed readChar {} (text.dropWhile isSpace) = some reading → reading.Settled

end Reading

section Values

variable {reading next : Reading}

theorem mantissa_nonneg (reading : Reading) : 0 ≤ reading.mantissa := by
  unfold Reading.mantissa
  split_ifs <;> positivity

theorem two_le_radix (reading : Reading) : 2 ≤ reading.radix := by
  unfold Reading.radix
  split_ifs <;> norm_num

theorem radix_pow_pos (reading : Reading) (exponent : Nat) : 0 < reading.radix ^ exponent :=
  pow_pos (two_pos.trans_le (two_le_radix reading)) exponent

theorem magnitude_nonneg (reading : Reading) : 0 ≤ reading.magnitude := by
  unfold Reading.magnitude
  have scale := radix_pow_pos reading reading.exponent
  split_ifs
  · exact div_nonneg (mantissa_nonneg reading) scale.le
  · exact mul_nonneg (mantissa_nonneg reading) scale.le

theorem magnitude_zero (none : reading.digits = 0) : reading.magnitude = 0 := by
  simp [Reading.magnitude, Reading.mantissa, none]

/-- A later exponent moves the number away from one, to the side of its sign. -/
theorem magnitude_later {exponent : Nat} (state : FloatState)
    (later : reading.exponent ≤ exponent) :
    if reading.down then
      { reading with state := state, exponent := exponent }.magnitude ≤ reading.magnitude
    else reading.magnitude ≤ { reading with state := state, exponent := exponent }.magnitude := by
  have grows : reading.radix ^ reading.exponent ≤ reading.radix ^ exponent :=
    pow_le_pow_right₀ (one_le_two.trans (two_le_radix reading)) later
  cases down : reading.down with
  | true =>
      simp only [if_true, Reading.magnitude, down]
      exact div_le_div_of_nonneg_left (mantissa_nonneg reading)
        (radix_pow_pos reading reading.exponent) grows
  | false =>
      simp only [Bool.false_eq_true, if_false, Reading.magnitude, down]
      exact mul_le_mul_of_nonneg_left grows (mantissa_nonneg reading)

theorem fixed_later {exponent : Nat} (state : FloatState) (later : reading.exponent ≤ exponent)
    (fixed : reading.Fixed) :
    { reading with state := state, exponent := exponent }.Fixed ∧
      toFloat { reading with state := state, exponent := exponent }.magnitude =
        toFloat reading.magnitude := by
  rcases fixed with none | far
  · refine ⟨Or.inl none, ?_⟩
    rw [magnitude_zero none, magnitude_zero (by exact none)]
  · have same : toFloat { reading with state := state, exponent := exponent }.magnitude =
        if reading.down then some 0 else none := by
      have moved := magnitude_later state later
      cases down : reading.down with
      | true =>
          rw [down] at moved far
          exact to_float_zero_mono (magnitude_nonneg _) moved far
      | false =>
          rw [down] at moved far
          exact to_float_none_mono (magnitude_nonneg _) moved far
    exact ⟨Or.inr same, same.trans far.symm⟩

theorem read_char_goes {char : Char} (goes : readChar reading char = some next) :
    ∃ state, nextFloat reading.state char = some state ∧ next = taken reading char state := by
  obtain ⟨state, step, same⟩ := Option.map_eq_some_iff.mp goes
  exact ⟨state, step, same.symm⟩

theorem value_number (numbered : reading.state = .exponentSign ∨ reading.state = .exponentDigits) :
    reading.value = match toFloat reading.magnitude with
      | some magnitude => CFloat.signed reading.negative magnitude
      | none => reading.infinite := by
  rcases numbered with state | state <;> rw [Reading.value, state]

theorem digit_settled {char : Char}
    (numbered : reading.state = .exponentSign ∨ reading.state = .exponentDigits)
    (fixed : reading.Fixed) :
    (taken reading char .exponentDigits).Settled ∧
      (taken reading char .exponentDigits).value = reading.value := by
  have later : reading.exponent ≤ 10 * reading.exponent + digitValue char := by omega
  obtain ⟨still, same⟩ := fixed_later .exponentDigits later fixed
  refine ⟨still, ?_⟩
  rw [value_number numbered, value_number (Or.inr rfl)]
  simp only [taken]
  rw [same]
  rfl

/-- What is settled stays settled, and keeps its value. -/
theorem settled_step {char : Char} (settled : reading.Settled)
    (goes : readChar reading char = some next) : next.Settled ∧ next.value = reading.value := by
  obtain ⟨state, step, rfl⟩ := read_char_goes goes
  obtain ⟨from_, negative, hex, digits, places, down, exponent⟩ := reading
  cases from_ with
  | inf left =>
      cases left with
      | nil =>
          simp only [nextFloat] at step
          split_ifs at step
          cases step
          exact ⟨trivial, rfl⟩
      | cons => exact settled.elim
  | infinity left =>
      cases left with
      | nil => cases step
      | cons =>
          simp only [nextFloat] at step
          split_ifs at step
          cases step
          exact ⟨trivial, rfl⟩
  | nan left =>
      cases left with
      | nil =>
          simp only [nextFloat] at step
          split_ifs at step
          cases step
          exact ⟨trivial, rfl⟩
      | cons => exact settled.elim
  | nanChars =>
      simp only [nextFloat] at step
      split_ifs at step
      all_goals
        cases step
        exact ⟨trivial, rfl⟩
  | nanClosed => cases step
  | exponent =>
      have none : digits = 0 := settled
      subst none
      have zero (reading : Reading) (none : reading.digits = 0) :
          toFloat reading.magnitude = some 0 := by
        rw [magnitude_zero none, to_float_zero]
      simp only [nextFloat] at step
      split_ifs at step
      all_goals
        cases step
        refine ⟨Or.inl rfl, ?_⟩
        simp only [taken, Reading.value]
        rw [zero _ rfl, zero _ rfl]
  | exponentSign =>
      simp only [nextFloat] at step
      split_ifs at step
      cases step
      exact digit_settled (Or.inl rfl) settled
  | exponentDigits =>
      simp only [nextFloat] at step
      split_ifs at step
      cases step
      exact digit_settled (Or.inr rfl) settled
  | _ => exact settled.elim

theorem settled_value (settled : reading.Settled) (rest : List Char) :
    valueBehind reading rest = reading.value := by
  induction rest generalizing reading with
  | nil => rfl
  | cons char rest ih =>
      cases goes : readChar reading char with
      | none => rw [valueBehind, take_item_stops goes]
      | some next =>
          obtain ⟨still, same⟩ := settled_step settled goes
          rw [valueBehind, take_item_more goes]
          exact (ih still).trans same

end Values

section Unsettled

variable {reading next : Reading}

theorem value_behind_fed {text : List Char} (fed : feed readChar reading text = some next)
    (rest : List Char) : valueBehind reading (text ++ rest) = valueBehind next rest := by
  rw [valueBehind, take_item_fed fed]
  rfl

/-- Nines behind an exponent make it as large as one likes. -/
theorem nines_fed (count : Nat) (numbered : nextFloat reading.state '9' = some .exponentDigits) :
    ∃ exponent, reading.exponent + count ≤ exponent ∧
      feed readChar reading (List.replicate (count + 1) '9') =
        some { reading with state := .exponentDigits, exponent := exponent } := by
  have nine : readChar reading '9' = some { reading with
      state := .exponentDigits, exponent := 10 * reading.exponent + 9 } := by
    rw [readChar, numbered]
    rfl
  induction count generalizing reading with
  | zero =>
      refine ⟨10 * reading.exponent + 9, by omega, ?_⟩
      rw [List.replicate_one, feed, nine]
      rfl
  | succ count ih =>
      obtain ⟨exponent, large, fed⟩ := @ih { reading with
        state := .exponentDigits, exponent := 10 * reading.exponent + 9 } rfl rfl
      refine ⟨exponent, by simp only at large; omega, ?_⟩
      rw [List.replicate_succ, feed, nine, Option.bind_some]
      exact fed

/-- Behind the sign of an exponent a number that is not zero can be taken out of range, or to
zero. -/
theorem nines_value (present : reading.digits ≠ 0)
    (numbered : nextFloat reading.state '9' = some .exponentDigits) :
    ∃ count, valueBehind reading (List.replicate (count + 1) '9') =
      if reading.down then CFloat.signed reading.negative 0 else reading.infinite := by
  have positive : 0 < reading.mantissa := by
    have digits : (0 : ℚ) < reading.digits := by exact_mod_cast Nat.pos_of_ne_zero present
    unfold Reading.mantissa
    split_ifs <;> positivity
  obtain ⟨least, far⟩ := to_float_scaled (two_le_radix reading) positive
  obtain ⟨exponent, large, fed⟩ := nines_fed least numbered
  obtain ⟨above, below⟩ := far exponent (by omega)
  refine ⟨least, ?_⟩
  have behind := value_behind_fed fed []
  have shown := @value_number { reading with state := .exponentDigits, exponent := exponent }
    (Or.inr rfl)
  rw [List.append_nil] at behind
  rw [behind]
  refine shown.trans ?_
  by_cases down : reading.down = true
  · have small : toFloat { reading with
        state := .exponentDigits, exponent := exponent }.magnitude = some 0 := by
      rw [← below, Reading.magnitude, if_pos down]
      rfl
    rw [if_pos down, small]
  · have infinite : toFloat { reading with
        state := .exponentDigits, exponent := exponent }.magnitude = none := by
      rw [← above, Reading.magnitude, if_neg down]
      rfl
    rw [if_neg down, infinite]
    rfl

theorem signed_inj {negative : Bool} {first second : ℚ}
    (same : CFloat.signed negative first = CFloat.signed negative second) : first = second := by
  cases negative with
  | true =>
      simp only [CFloat.signed, if_true] at same
      split_ifs at same with zero other
      · rw [zero, other]
      · exact neg_injective (CFloat.finite.inj same)
  | false => exact CFloat.finite.inj same

theorem signed_finite (reading : Reading) (magnitude : ℚ) :
    CFloat.signed reading.negative magnitude ≠ reading.infinite := by
  rw [Reading.infinite]
  cases reading.negative with
  | true =>
      simp only [CFloat.signed, if_true]
      split_ifs
      · exact CFloat.noConfusion
      · exact CFloat.noConfusion
  | false => exact CFloat.noConfusion

/-- Two texts that lead to different values, neither of which begins with a blank. -/
def Differs (reading : Reading) : Prop :=
  ∃ first second : List Char, first.dropWhile isSpace = first ∧
    second.dropWhile isSpace = second ∧
      valueBehind reading first ≠ valueBehind reading second

theorem number_differs (numbered : reading.state = .exponentSign ∨ reading.state = .exponentDigits)
    (unfixed : ¬ reading.Fixed) : Differs reading := by
  obtain ⟨present, near⟩ := not_or.mp unfixed
  have goes : nextFloat reading.state '9' = some .exponentDigits := by
    rcases numbered with state | state <;> rw [state] <;> rfl
  obtain ⟨count, far⟩ := nines_value present goes
  refine ⟨[], List.replicate (count + 1) '9', rfl, rfl, ?_⟩
  rw [far]
  change reading.value ≠ _
  rw [value_number numbered]
  cases down : reading.down with
  | true =>
      rw [down] at near
      cases small : toFloat reading.magnitude with
      | none => exact (signed_finite reading 0).symm
      | some magnitude =>
          intro same
          rw [small, signed_inj same] at near
          exact near rfl
  | false =>
      rw [down] at near
      cases large : toFloat reading.magnitude with
      | none => exact absurd large near
      | some magnitude => exact signed_finite reading magnitude

theorem solid_behind {front : List Char} (solid : front = [] ∨ ∃ rest, front = '1' :: rest)
    {char : Char} (visible : isSpace char = false) (back : List Char) :
    (front ++ [char] ++ back).dropWhile isSpace = front ++ [char] ++ back := by
  rcases solid with rfl | ⟨rest, rfl⟩
  · exact List.dropWhile_cons_of_neg (by rw [visible]; decide)
  · exact List.dropWhile_cons_of_neg (by decide)

/-- Up to the sign of the exponent a number that is not zero is open. -/
theorem exponent_differs {front : List Char} (solid : front = [] ∨ ∃ rest, front = '1' :: rest)
    (fed : feed readChar reading front = some next) (state : next.state = .exponent)
    (present : next.digits ≠ 0) : Differs reading := by
  have sign (char : Char) (isOne : isSign char = true) :
      feed readChar reading (front ++ [char]) =
        some { next with state := .exponentSign, down := char = '-' } := by
    rw [feed_append, fed, Option.bind_some, feed, readChar, state, nextFloat, if_pos isOne]
    rfl
  obtain ⟨up, above⟩ := @nines_value { next with state := .exponentSign, down := '+' = '-' }
    present rfl
  obtain ⟨down, below⟩ := @nines_value { next with state := .exponentSign, down := '-' = '-' }
    present rfl
  refine ⟨front ++ ['+'] ++ List.replicate (up + 1) '9',
    front ++ ['-'] ++ List.replicate (down + 1) '9', solid_behind solid rfl _,
    solid_behind solid rfl _, ?_⟩
  rw [value_behind_fed (sign '+' rfl), value_behind_fed (sign '-' rfl), above, below]
  exact (signed_finite next 0).symm

/-- The letters that are still to come are those of the words. -/
def Spelled : FloatState → Prop
  | .inf left => left = ['n', 'f'] ∨ left = ['f'] ∨ left = []
  | .infinity left => nul ∉ left
  | .nan left => left = ['a', 'n'] ∨ left = ['n'] ∨ left = []
  | _ => True

theorem spelled_next {state after : FloatState} {char : Char} (spelled : Spelled state)
    (goes : nextFloat state char = some after) : Spelled after := by
  cases state with
  | inf left =>
      rcases spelled with rfl | rfl | rfl
      all_goals
        simp only [nextFloat] at goes
        split_ifs at goes
        cases goes
        simp [Spelled, nul]
  | nan left =>
      rcases spelled with rfl | rfl | rfl
      all_goals
        simp only [nextFloat] at goes
        split_ifs at goes
        cases goes
        simp [Spelled]
  | infinity left =>
      cases left with
      | nil => cases goes
      | cons letter left =>
          simp only [nextFloat] at goes
          split_ifs at goes
          cases goes
          exact fun member => spelled (List.mem_cons_of_mem letter member)
  | nanClosed => cases goes
  | _ =>
      simp only [nextFloat, afterSign, afterDigit] at goes
      split_ifs at goes
      all_goals
        cases goes
        simp [Spelled]

theorem taken_state (reading : Reading) (char : Char) (state : FloatState) :
    (taken reading char state).state = state := by
  cases state with
  | fraction => by_cases point : char = '.' <;> simp [taken, point]
  | hexFraction => by_cases point : char = '.' <;> simp [taken, point]
  | _ => rfl

theorem spelled_read {char : Char} (spelled : Spelled reading.state)
    (goes : readChar reading char = some next) : Spelled next.state := by
  obtain ⟨state, step, rfl⟩ := read_char_goes goes
  rw [taken_state]
  exact spelled_next spelled step

theorem spelled_fed {text : List Char} (spelled : Spelled reading.state)
    (fed : feed readChar reading text = some next) : Spelled next.state := by
  induction text generalizing reading with
  | nil =>
      cases fed
      exact spelled
  | cons char rest ih =>
      rw [feed] at fed
      obtain ⟨between, goes, fed⟩ := Option.bind_eq_some_iff.mp fed
      exact ih (spelled_read spelled goes) fed

/-- A word of which letters are missing counts for nothing, and they may follow. -/
theorem word_differs {letters : List Char} (solid : letters.dropWhile isSpace = letters)
    (open_ : reading.value = .zero) (whole : valueBehind reading letters ≠ .zero) :
    Differs reading :=
  ⟨letters, [], solid, rfl, fun same => whole (same.trans open_)⟩

theorem infinite_ne_zero (reading : Reading) : reading.infinite ≠ .zero := by
  rw [Reading.infinite]
  split_ifs <;> exact CFloat.noConfusion

/-- What is not settled can still be given two values. -/
theorem unsettled_differs (spelled : Spelled reading.state) (unsettled : ¬ reading.Settled) :
    Differs reading := by
  have decimal : ['1', 'e'] = [] ∨ ∃ rest, ['1', 'e'] = '1' :: rest := Or.inr ⟨['e'], rfl⟩
  have binary : ['1', 'p'] = [] ∨ ∃ rest, ['1', 'p'] = '1' :: rest := Or.inr ⟨['p'], rfl⟩
  have one (base digits : Nat) : base * digits + 1 ≠ 0 := Nat.succ_ne_zero _
  obtain ⟨state, negative, hex, digits, places, down, exponent⟩ := reading
  cases state with
  | start => exact exponent_differs decimal rfl rfl (one 10 digits)
  | sign => exact exponent_differs decimal rfl rfl (one 10 digits)
  | zero => exact exponent_differs decimal rfl rfl (one 10 digits)
  | whole => exact exponent_differs decimal rfl rfl (one 10 digits)
  | point => exact exponent_differs decimal rfl rfl (one 10 digits)
  | fraction => exact exponent_differs decimal rfl rfl (one 10 digits)
  | exponent => exact exponent_differs (Or.inl rfl) rfl rfl unsettled
  | exponentSign => exact number_differs (Or.inl rfl) unsettled
  | exponentDigits => exact number_differs (Or.inr rfl) unsettled
  | hex => exact exponent_differs binary rfl rfl (one 16 digits)
  | hexWhole => exact exponent_differs binary rfl rfl (one 16 digits)
  | hexPoint => exact exponent_differs binary rfl rfl (one 16 digits)
  | hexFraction => exact exponent_differs binary rfl rfl (one 16 digits)
  | inf left =>
      rcases spelled with rfl | rfl | rfl
      · exact @word_differs _ ['n', 'f'] rfl rfl (infinite_ne_zero _)
      · exact @word_differs _ ['f'] rfl rfl (infinite_ne_zero _)
      · exact (unsettled trivial).elim
  | nan left =>
      rcases spelled with rfl | rfl | rfl
      · exact @word_differs _ ['a', 'n'] rfl rfl CFloat.noConfusion
      · exact @word_differs _ ['n'] rfl rfl CFloat.noConfusion
      · exact (unsettled trivial).elim
  | infinity => exact (unsettled trivial).elim
  | nanChars => exact (unsettled trivial).elim
  | nanClosed => exact (unsettled trivial).elim

end Unsettled

section Texts

theorem atof_behind {text first : List Char} {reading : Reading}
    (fed : feed readChar {} (text.dropWhile isSpace) = some reading)
    (solid : first.dropWhile isSpace = first) :
    atof (text ++ first) = valueBehind reading first := by
  rw [atof, List.dropWhile_append]
  cases blank : text.dropWhile isSpace with
  | nil =>
      rw [blank] at fed
      cases fed
      rw [List.isEmpty_nil, if_pos rfl, solid]
  | cons char rest => exact value_behind_fed (blank ▸ fed) first

/-- Where the automaton has stopped, nothing behind it matters. -/
theorem take_item_stuck {reading : Reading} {text : List Char}
    (stuck : feed readChar reading text = none) (rest : List Char) :
    (takeItem readChar reading (text ++ rest)).state = (takeItem readChar reading text).state := by
  induction text generalizing reading with
  | nil => cases stuck
  | cons char back ih =>
      cases goes : readChar reading char with
      | none => rw [List.cons_append, take_item_stops goes, take_item_stops goes]
      | some next =>
          rw [feed, goes] at stuck
          rw [List.cons_append, take_item_more goes, take_item_more goes]
          exact ih stuck

theorem atof_settled_iff (text : List Char) :
    (∀ first second, atof (text ++ first) = atof (text ++ second)) ↔ Settled text := by
  constructor
  · intro alike reading fed
    by_contra unsettled
    obtain ⟨first, second, solidFirst, solidSecond, differ⟩ :=
      unsettled_differs (@spelled_fed {} _ _ trivial fed) unsettled
    refine differ ?_
    rw [← atof_behind fed solidFirst, ← atof_behind fed solidSecond]
    exact alike first second
  · intro settled first second
    have present : (text.dropWhile isSpace).isEmpty = false := by
      cases blank : text.dropWhile isSpace with
      | nil => exact (settled {} (by rw [blank]; rfl)).elim
      | cons => rfl
    have alone (rest : List Char) : atof (text ++ rest) = atof text := by
      rw [atof, List.dropWhile_append, present, if_neg Bool.false_ne_true, atof]
      cases fed : feed readChar {} (text.dropWhile isSpace) with
      | some reading =>
          have stays := value_behind_fed fed []
          rw [List.append_nil] at stays
          rw [value_behind_fed fed, stays, settled_value (settled reading fed),
            settled_value (settled reading fed)]
      | none => rw [valueBehind, take_item_stuck fed, valueBehind]
    rw [alone first, alone second]

/-- A terminator ends every number. -/
theorem nul_stops {reading : Reading} (spelled : Spelled reading.state) :
    readChar reading nul = none := by
  obtain ⟨state, negative, hex, digits, places, down, exponent⟩ := reading
  cases state with
  | inf left => rcases spelled with rfl | rfl | rfl <;> rfl
  | nan left => rcases spelled with rfl | rfl | rfl <;> rfl
  | infinity left =>
      cases left with
      | nil => rfl
      | cons letter left =>
          have other : nul.toLower ≠ letter := by
            intro same
            apply spelled
            rw [← same]
            exact List.mem_cons_self
          rw [readChar, nextFloat, if_neg other]
          rfl
  | _ => rfl

theorem take_item_c_string {reading : Reading} (spelled : Spelled reading.state)
    (text : List Char) :
    (takeItem readChar reading (cString text)).state = (takeItem readChar reading text).state := by
  induction text generalizing reading with
  | nil => rfl
  | cons char rest ih =>
      by_cases ends : char = nul
      · rw [ends, cString, List.takeWhile_cons_of_neg (by simp),
          take_item_stops (nul_stops spelled)]
        rfl
      · rw [cString, List.takeWhile_cons_of_pos (by simpa using ends)]
        cases goes : readChar reading char with
        | none => rw [take_item_stops goes, take_item_stops goes]
        | some next =>
            rw [take_item_more goes, take_item_more goes]
            exact ih (spelled_read spelled goes)

theorem blanks_c_string (memory : List Char) :
    (cString memory).dropWhile isSpace = cString (memory.dropWhile isSpace) := by
  induction memory with
  | nil => rfl
  | cons char rest ih =>
      by_cases ends : char = nul
      · rw [ends, cString, List.takeWhile_cons_of_neg (by simp),
          List.dropWhile_cons_of_neg (by decide), cString, List.takeWhile_cons_of_neg (by simp)]
        rfl
      · have kept : cString (char :: rest) = char :: cString rest :=
          List.takeWhile_cons_of_pos (by simpa using ends)
        by_cases space : isSpace char = true
        · rw [kept, List.dropWhile_cons_of_pos space, List.dropWhile_cons_of_pos space, ih]
        · rw [kept, List.dropWhile_cons_of_neg space, List.dropWhile_cons_of_neg space, kept]

theorem atof_c_string (memory : List Char) : atof (cString memory) = atof memory := by
  have start : Spelled ({} : Reading).state := trivial
  rw [atof, blanks_c_string]
  exact congrArg Reading.value (take_item_c_string start (memory.dropWhile isSpace))

example : atof " -2.5 in".toList = .finite (-5 / 2) := by decide +kernel

end Texts

end Foundation.FloatValue
