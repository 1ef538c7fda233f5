import SprinklerD.Foundation.CString
import Mathlib.Tactic.IntervalCases

/-!
# Scanning a text for floats

`fscanf` with `%f` skips blanks and takes the longest item that is a number or the beginning of
one. An item that is only the beginning is lost. What may follow what is an automaton.
-/

namespace Foundation.FloatScan

open Foundation.CString Foundation.Decimal

set_option autoImplicit false

section Items

variable {State : Type} (next : State → Char → Option State)

structure Item (State : Type) where
  text : List Char
  state : State
  rest : List Char

def takeItem : State → List Char → Item State
  | state, [] => { text := [], state := state, rest := [] }
  | state, char :: rest =>
      match next state char with
      | some later =>
          let item := takeItem later rest
          { item with text := char :: item.text }
      | none => { text := [], state := state, rest := char :: rest }

def feed : State → List Char → Option State
  | state, [] => some state
  | state, char :: rest => (next state char).bind fun later => feed later rest

variable {next} {state later : State}

theorem take_item_more {char : Char} (goes : next state char = some later) (rest : List Char) :
    takeItem next state (char :: rest) = { takeItem next later rest with
      text := char :: (takeItem next later rest).text } := by
  rw [takeItem, goes]

theorem take_item_stops {char : Char} (stops : next state char = none) (rest : List Char) :
    takeItem next state (char :: rest) = { text := [], state := state, rest := char :: rest } := by
  rw [takeItem, stops]

theorem feed_append (state : State) (front back : List Char) :
    feed next state (front ++ back) =
      (feed next state front).bind fun later => feed next later back := by
  induction front generalizing state with
  | nil => rfl
  | cons char rest ih =>
      rw [List.cons_append, feed, feed]
      cases next state char with
      | some later => exact ih later
      | none => rfl

theorem feed_front {front back : List Char} (fed : feed next state (front ++ back) = some later) :
    ∃ between, feed next state front = some between := by
  rw [feed_append] at fed
  obtain ⟨between, front, -⟩ := Option.bind_eq_some_iff.mp fed
  exact ⟨between, front⟩

theorem take_item_fed {text : List Char} (fed : feed next state text = some later)
    (rest : List Char) :
    takeItem next state (text ++ rest) = { takeItem next later rest with
      text := text ++ (takeItem next later rest).text } := by
  induction text generalizing state with
  | nil =>
      cases fed
      rfl
  | cons char front ih =>
      rw [feed] at fed
      obtain ⟨between, goes, fed⟩ := Option.bind_eq_some_iff.mp fed
      rw [List.cons_append, take_item_more goes, ih fed]
      rfl

end Items

section Floats

/-- How far a float has been read. Of a word the letters that are still to come. -/
inductive FloatState where
  | start
  | sign
  | zero
  | whole
  | point
  | fraction
  | exponent
  | exponentSign
  | exponentDigits
  | hex
  | hexWhole
  | hexPoint
  | hexFraction
  | inf (left : List Char)
  | infinity (left : List Char)
  | nan (left : List Char)
  | nanChars
  | nanClosed
deriving DecidableEq, Repr

def isHexDigit (char : Char) : Bool :=
  char.isDigit || decide ('a' ≤ char.toLower ∧ char.toLower ≤ 'f')

def isSign (char : Char) : Bool := char = '+' ∨ char = '-'

def afterSign (char : Char) : Option FloatState :=
  if char = '0' then some .zero
  else if char.isDigit then some .whole
  else if char = '.' then some .point
  else if char.toLower = 'i' then some (.inf ['n', 'f'])
  else if char.toLower = 'n' then some (.nan ['a', 'n'])
  else none

def afterDigit (char : Char) : Option FloatState :=
  if char.isDigit then some .whole
  else if char = '.' then some .fraction
  else if char.toLower = 'e' then some .exponent
  else none

def nextFloat : FloatState → Char → Option FloatState
  | .start, char => if isSign char then some .sign else afterSign char
  | .sign, char => afterSign char
  | .zero, char => if char.toLower = 'x' then some .hex else afterDigit char
  | .whole, char => afterDigit char
  | .point, char => if char.isDigit then some .fraction else none
  | .fraction, char =>
      if char.isDigit then some .fraction
      else if char.toLower = 'e' then some .exponent else none
  | .exponent, char =>
      if isSign char then some .exponentSign
      else if char.isDigit then some .exponentDigits else none
  | .exponentSign, char => if char.isDigit then some .exponentDigits else none
  | .exponentDigits, char => if char.isDigit then some .exponentDigits else none
  | .hex, char =>
      if isHexDigit char then some .hexWhole else if char = '.' then some .hexPoint else none
  | .hexWhole, char =>
      if isHexDigit char then some .hexWhole else if char = '.' then some .hexFraction
      else if char.toLower = 'p' then some .exponent else none
  | .hexPoint, char => if isHexDigit char then some .hexFraction else none
  | .hexFraction, char =>
      if isHexDigit char then some .hexFraction
      else if char.toLower = 'p' then some .exponent else none
  | .inf (letter :: left), char => if char.toLower = letter then some (.inf left) else none
  | .inf [], char => if char.toLower = 'i' then some (.infinity ['n', 'i', 't', 'y']) else none
  | .infinity (letter :: left), char =>
      if char.toLower = letter then some (.infinity left) else none
  | .infinity [], _ => none
  | .nan (letter :: left), char => if char.toLower = letter then some (.nan left) else none
  | .nan [], char => if char = '(' then some .nanChars else none
  | .nanChars, char =>
      if char.isAlphanum ∨ char = '_' then some .nanChars
      else if char = ')' then some .nanClosed else none
  | .nanClosed, _ => none

def isFloat : FloatState → Bool
  | .zero | .whole | .fraction | .exponentDigits | .hexWhole | .hexFraction => true
  | .inf left | .infinity left | .nan left => left.isEmpty
  | .nanClosed => true
  | _ => false

/-- `EOF`, 0 or 1, with what is read next. -/
inductive Scanned where
  | eof
  | refused (rest : List Char)
  | number (text rest : List Char)
deriving DecidableEq, Repr

/-- `fscanf` with `%f`. -/
def fscanf (input : List Char) : Scanned :=
  match input.dropWhile isSpace with
  | [] => .eof
  | char :: rest =>
      let item := takeItem nextFloat .start (char :: rest)
      if isFloat item.state then .number item.text item.rest else .refused item.rest

/-- Blanks and items: each item is as long as it can be, and begins like a number. -/
inductive Readable : List Char → Prop where
  | blank {input : List Char} (nothing : input.dropWhile isSpace = []) : Readable input
  | item {input : List Char} {char : Char} {rest : List Char}
      (found : input.dropWhile isSpace = char :: rest)
      (begins : (nextFloat .start char).isSome = true)
      (later : Readable (takeItem nextFloat .start (char :: rest)).rest) : Readable input

variable {input rest : List Char} {char : Char}

theorem found_no_space (found : input.dropWhile isSpace = char :: rest) :
    isSpace char = false := by
  have head := List.head?_dropWhile_not isSpace input
  rw [found] at head
  simpa using head

theorem not_readable_again (noSpace : isSpace char = false)
    (stops : nextFloat .start char = none) : ¬ Readable (char :: rest) := by
  have same : (char :: rest).dropWhile isSpace = char :: rest :=
    List.dropWhile_cons_of_neg (by rw [noSpace]; decide)
  intro readable
  cases readable with
  | blank nothing =>
      rw [same] at nothing
      cases nothing
  | item found begins _ =>
      rw [same] at found
      cases found
      rw [stops] at begins
      cases begins

theorem space_begins_nothing (space : isSpace char = true) : nextFloat .start char = none := by
  rw [isSpace, decide_eq_true_eq] at space
  rcases space with rfl | ⟨low, high⟩
  · decide
  · have letter : char = Char.ofNat char.toNat := (Char.ofNat_toNat char).symm
    generalize char.toNat = code at letter low high
    subst letter
    interval_cases code <;> decide

theorem readable_space (space : isSpace char = true) (readable : Readable input) :
    Readable (char :: input) := by
  have skipped : (char :: input).dropWhile isSpace = input.dropWhile isSpace :=
    List.dropWhile_cons_of_pos space
  cases readable with
  | blank nothing => exact .blank (skipped.trans nothing)
  | item found begins later => exact .item (skipped.trans found) begins later

theorem fscanf_space (space : isSpace char = true) (input : List Char) :
    fscanf (char :: input) = fscanf input := by
  rw [fscanf, fscanf, List.dropWhile_cons_of_pos space]

theorem fed_begins {text : List Char} {state : FloatState} (some' : text ≠ [])
    (fed : feed nextFloat .start text = some state) (rest : List Char) :
    ∃ char back, text ++ rest = char :: back ∧ (nextFloat .start char).isSome = true ∧
      (text ++ rest).dropWhile isSpace = char :: back := by
  cases text with
  | nil => exact absurd rfl some'
  | cons char front =>
      rw [feed] at fed
      obtain ⟨later, goes, -⟩ := Option.bind_eq_some_iff.mp fed
      have begins : (nextFloat .start char).isSome = true := by rw [goes]; rfl
      have solid : ¬ isSpace char = true := by
        intro space
        rw [space_begins_nothing space] at goes
        cases goes
      exact ⟨char, front ++ rest, rfl, begins, List.dropWhile_cons_of_neg solid⟩

theorem readable_fed {text : List Char} {state : FloatState}
    (fed : feed nextFloat .start text = some state) (later : Readable rest)
    (stops : (takeItem nextFloat state rest).rest = rest) : Readable (text ++ rest) := by
  cases text with
  | nil => exact later
  | cons char front =>
      obtain ⟨char', back, parts, begins, found⟩ := fed_begins (List.cons_ne_nil _ _) fed rest
      refine .item found begins ?_
      rw [← parts, take_item_fed fed]
      exact stops.symm ▸ later

theorem fscanf_fed {text : List Char} {state : FloatState} (some' : text ≠ [])
    (fed : feed nextFloat .start text = some state) (number : isFloat state = true)
    (stops : nextFloat state char = none) (rest : List Char) :
    fscanf (text ++ char :: rest) = .number text (char :: rest) := by
  obtain ⟨first, back, parts, -, found⟩ := fed_begins some' fed (char :: rest)
  rw [fscanf, found]
  dsimp only
  rw [← parts, take_item_fed fed, take_item_stops stops]
  dsimp only
  rw [if_pos number, List.append_nil]

section Decimals

theorem digit_lower (digit : char.isDigit = true) : char.toLower = char := by
  simp only [Char.isDigit, Bool.and_eq_true, decide_eq_true_eq] at digit
  have low : char.toNat ≤ 57 := digit.2
  unfold Char.toLower
  rw [dif_neg]
  intro upper
  have high : 65 ≤ char.toNat := upper.1
  omega

theorem feed_digits {digits : List Char} (all : ∀ char ∈ digits, char.isDigit = true)
    {state : FloatState} (inside : state = .zero ∨ state = .whole) :
    ∃ later, feed nextFloat state digits = some later ∧ (later = .zero ∨ later = .whole) := by
  induction digits generalizing state with
  | nil => exact ⟨state, rfl, inside⟩
  | cons char rest ih =>
      have digit := all char List.mem_cons_self
      have goes : nextFloat state char = some .whole := by
        have noHex : char.toLower ≠ 'x' := by
          rw [digit_lower digit]
          rintro rfl
          exact absurd digit (by decide)
        rcases inside with rfl | rfl
        · rw [nextFloat, if_neg noHex, afterDigit, if_pos digit]
        · rw [nextFloat, afterDigit, if_pos digit]
      rw [feed, goes]
      exact ih (fun other member => all other (List.mem_cons_of_mem char member)) (Or.inr rfl)

theorem digit_begins (digit : char.isDigit = true) :
    ∃ later, afterSign char = some later ∧ (later = .zero ∨ later = .whole) := by
  rw [afterSign]
  split_ifs
  · exact ⟨.zero, rfl, Or.inl rfl⟩
  · exact ⟨.whole, rfl, Or.inr rfl⟩

theorem feed_nat (value : Nat) {state : FloatState} (begins : state = .start ∨ state = .sign) :
    ∃ later, feed nextFloat state (printNat value) = some later ∧
      (later = .zero ∨ later = .whole) := by
  have all : ∀ char ∈ printNat value, char.isDigit = true :=
    fun char member => is_digit_of_mem_print_nat member
  cases digits : printNat value with
  | nil => exact absurd digits (print_nat_ne_nil value)
  | cons char rest =>
      rw [digits] at all
      have digit := all char List.mem_cons_self
      have noSign : isSign char = false := by
        rw [isSign, decide_eq_false_iff_not]
        rintro (rfl | rfl) <;> exact absurd digit (by decide)
      obtain ⟨later, goes, inside⟩ := digit_begins digit
      have first : nextFloat state char = some later := by
        rcases begins with rfl | rfl
        · rw [nextFloat, if_neg (Bool.eq_false_iff.mp noSign), goes]
        · rw [nextFloat, goes]
      rw [feed, first]
      exact feed_digits (fun other member => all other (List.mem_cons_of_mem char member)) inside

theorem feed_int (value : Int) : ∃ later, feed nextFloat .start (printInt value) = some later ∧
    (later = .zero ∨ later = .whole) := by
  rw [printInt]
  split_ifs
  · exact feed_nat value.natAbs (Or.inr rfl)
  · exact feed_nat value.toNat (Or.inl rfl)

theorem feed_fraction {digits : List Char} (all : ∀ char ∈ digits, char.isDigit = true) :
    feed nextFloat .fraction digits = some .fraction := by
  induction digits with
  | nil => rfl
  | cons char rest ih =>
      rw [feed, nextFloat, if_pos (all char List.mem_cons_self)]
      exact ih fun other member => all other (List.mem_cons_of_mem char member)

theorem feed_point {digits : List Char} (all : ∀ char ∈ digits, char.isDigit = true)
    {state : FloatState} (inside : state = .zero ∨ state = .whole) :
    feed nextFloat state ('.' :: digits) = some .fraction := by
  have goes : nextFloat state '.' = some .fraction := by
    rcases inside with rfl | rfl <;> decide
  rw [feed, goes]
  exact feed_fraction all

end Decimals

end Floats

end Foundation.FloatScan
