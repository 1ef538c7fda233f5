import SprinklerD.Foundation.FlatJson
import Mathlib.Data.List.Chain

/-!
# JSON texts

Syntactic validity in two steps. A scanner with a mode for every place it can be in turns a
text into tokens, and a token is given out at its first character, so that pieces of a text are
scanned one after the other. The grammar speaks of tokens only.
-/

namespace Foundation.Json

open Foundation.Decimal Foundation.FlatJson

set_option autoImplicit false

inductive Token where
  | openBrace
  | closeBrace
  | openBracket
  | closeBracket
  | comma
  | colon
  | string
  | number
  | word
deriving DecidableEq, Repr

/-- Where the scanner is. A number has a mode for each part of it; of an escape the hexadecimal
digits still to come are counted, of a word the letters are kept. -/
inductive Mode where
  | between
  | string
  | escape
  | hex (left : Nat)
  | minus
  | zero
  | digits
  | point
  | fraction
  | exponent
  | exponentSign
  | exponentDigits
  | word (left : List Char)
deriving DecidableEq, Repr

section Scanner

def isHex (char : Char) : Bool :=
  char.isDigit ∨ ('a' ≤ char ∧ char ≤ 'f') ∨ ('A' ≤ char ∧ char ≤ 'F')

def Plain (char : Char) : Prop := char ≠ '"' ∧ char ≠ '\\' ∧ 32 ≤ char.toNat

instance (char : Char) : Decidable (Plain char) := inferInstanceAs (Decidable (_ ∧ _ ∧ _))

def begin (char : Char) : Option (Mode × List Token) :=
  if isBlank char then some (.between, [])
  else if char = '\x7b' then some (.between, [.openBrace])
  else if char = '\x7d' then some (.between, [.closeBrace])
  else if char = '[' then some (.between, [.openBracket])
  else if char = ']' then some (.between, [.closeBracket])
  else if char = ',' then some (.between, [.comma])
  else if char = ':' then some (.between, [.colon])
  else if char = '"' then some (.string, [.string])
  else if char = '-' then some (.minus, [.number])
  else if char = '0' then some (.zero, [.number])
  else if char.isDigit then some (.digits, [.number])
  else if char = 't' then some (.word "rue".toList, [.word])
  else if char = 'f' then some (.word "alse".toList, [.word])
  else if char = 'n' then some (.word "ull".toList, [.word])
  else none

/-- A number that is complete ends with any character that does not continue it. -/
def step : Mode → Char → Option (Mode × List Token)
  | .between, char => begin char
  | .string, char =>
      if char = '"' then some (.between, [])
      else if char = '\\' then some (.escape, [])
      else if 32 ≤ char.toNat then some (.string, [])
      else none
  | .escape, char =>
      if char = 'u' then some (.hex 4, [])
      else if char ∈ ['"', '\\', '/', 'b', 'f', 'n', 'r', 't'] then some (.string, [])
      else none
  | .hex left, char =>
      if isHex char then some (if left ≤ 1 then .string else .hex (left - 1), []) else none
  | .minus, char =>
      if char = '0' then some (.zero, [])
      else if char.isDigit then some (.digits, [])
      else none
  | .zero, char =>
      if char = '.' then some (.point, [])
      else if char = 'e' ∨ char = 'E' then some (.exponent, [])
      else begin char
  | .digits, char =>
      if char.isDigit then some (.digits, [])
      else if char = '.' then some (.point, [])
      else if char = 'e' ∨ char = 'E' then some (.exponent, [])
      else begin char
  | .point, char => if char.isDigit then some (.fraction, []) else none
  | .fraction, char =>
      if char.isDigit then some (.fraction, [])
      else if char = 'e' ∨ char = 'E' then some (.exponent, [])
      else begin char
  | .exponent, char =>
      if char.isDigit then some (.exponentDigits, [])
      else if char = '+' ∨ char = '-' then some (.exponentSign, [])
      else none
  | .exponentSign, char => if char.isDigit then some (.exponentDigits, []) else none
  | .exponentDigits, char => if char.isDigit then some (.exponentDigits, []) else begin char
  | .word [], _ => none
  | .word (next :: left), char =>
      if char = next then some (if left = [] then .between else .word left, []) else none

def scan : Mode → List Char → Option (Mode × List Token)
  | mode, [] => some (mode, [])
  | mode, char :: rest =>
      match step mode char with
      | none => none
      | some (next, token) => (scan next rest).map fun later => (later.1, token ++ later.2)

def complete (mode : Mode) : Bool :=
  mode = .between ∨ mode = .zero ∨ mode = .digits ∨ mode = .fraction ∨ mode = .exponentDigits

end Scanner

section Grammar

inductive Symbol where
  | value
  | members
  | elements
deriving DecidableEq, Repr

inductive Derives : Symbol → List Token → Prop
  | string : Derives .value [.string]
  | number : Derives .value [.number]
  | word : Derives .value [.word]
  | emptyObject : Derives .value [.openBrace, .closeBrace]
  | object {members : List Token} (inside : Derives .members members) :
      Derives .value (.openBrace :: (members ++ [.closeBrace]))
  | emptyArray : Derives .value [.openBracket, .closeBracket]
  | array {elements : List Token} (inside : Derives .elements elements) :
      Derives .value (.openBracket :: (elements ++ [.closeBracket]))
  | lastMember {value : List Token} (last : Derives .value value) :
      Derives .members (.string :: .colon :: value)
  | member {value rest : List Token} (first : Derives .value value)
      (others : Derives .members rest) :
      Derives .members (.string :: .colon :: (value ++ .comma :: rest))
  | lastElement {value : List Token} (last : Derives .value value) : Derives .elements value
  | element {value rest : List Token} (first : Derives .value value)
      (others : Derives .elements rest) : Derives .elements (value ++ .comma :: rest)

def Valid (text : List Char) : Prop :=
  ∃ mode tokens, scan .between text = some (mode, tokens) ∧ complete mode = true ∧
    Derives .value tokens

end Grammar

section Pieces

variable {mode next last : Mode} {first second : List Char} {tokens others : List Token}

theorem scan_then (begins : scan mode first = some (next, tokens))
    (goesOn : scan next second = some (last, others)) :
    scan mode (first ++ second) = some (last, tokens ++ others) := by
  induction first generalizing mode tokens with
  | nil =>
      obtain ⟨rfl, rfl⟩ := Prod.mk.inj (Option.some.inj begins)
      exact goesOn
  | cons char rest ih =>
      rw [scan] at begins
      rw [List.cons_append, scan]
      cases stepped : step mode char with
      | none => simp [stepped] at begins
      | some read =>
          rw [stepped] at begins
          obtain ⟨later, scanned, same⟩ := Option.map_eq_some_iff.mp begins
          obtain ⟨rfl, rfl⟩ := Prod.mk.inj same
          simp [ih scanned]

theorem scan_plain {text : List Char} (plain : ∀ char ∈ text, Plain char) :
    scan .string text = some (.string, []) := by
  induction text with
  | nil => rfl
  | cons char rest ih =>
      obtain ⟨noQuote, noEscape, visible⟩ := plain char List.mem_cons_self
      have later := ih fun other member => plain other (List.mem_cons_of_mem _ member)
      simp [scan, step, noQuote, noEscape, visible, later]

theorem plain_of_all {text : List Char} (all : (text.all fun char => Plain char) = true) :
    ∀ char ∈ text, Plain char :=
  fun char member => of_decide_eq_true (List.all_eq_true.mp all char member)

/-- A character that no number goes on with. -/
def Delimits (char : Char) : Prop :=
  char.isDigit = false ∧ char ≠ '.' ∧ char ≠ 'e' ∧ char ≠ 'E'

instance (char : Char) : Decidable (Delimits char) := inferInstanceAs (Decidable (_ ∧ _))

def Ends (mode : Mode) (text : List Char) (tokens : List Token) : Prop :=
  ∃ last, complete last = true ∧ scan mode text = some (last, tokens)

def Delimited (text : List Char) : Prop := ∃ char rest, text = char :: rest ∧ Delimits char

instance (text : List Char) : Decidable (Delimited text) :=
  match text with
  | [] => isFalse fun ⟨_, _, same, _⟩ => absurd same (List.cons_ne_nil _ _).symm
  | char :: rest => decidable_of_iff (Delimits char)
      ⟨fun delimits => ⟨char, rest, rfl, delimits⟩, fun ⟨_, _, same, delimits⟩ =>
        (List.cons.inj same).1 ▸ delimits⟩

theorem delimited_append (delimited : Delimited first) : Delimited (first ++ second) := by
  obtain ⟨char, rest, rfl, delimits⟩ := delimited
  exact ⟨char, rest ++ second, rfl, delimits⟩

theorem scan_complete {char : Char} {rest : List Char} (ended : complete mode = true)
    (delimits : Delimits char) : scan mode (char :: rest) = scan .between (char :: rest) := by
  obtain ⟨noDigit, noPoint, noLower, noUpper⟩ := delimits
  simp only [complete, decide_eq_true_eq] at ended
  rcases ended with rfl | rfl | rfl | rfl | rfl <;>
    simp [scan, step, noDigit, noPoint, noLower, noUpper]

theorem ends_of_scan (scanned : scan mode first = some (.between, tokens)) :
    Ends mode first tokens := ⟨.between, by decide, scanned⟩

theorem ends_then_scan (begins : Ends mode first tokens) (delimited : Delimited second)
    (goesOn : scan .between second = some (last, others)) :
    scan mode (first ++ second) = some (last, tokens ++ others) := by
  obtain ⟨next, ended, scanned⟩ := begins
  obtain ⟨char, rest, rfl, delimits⟩ := delimited
  exact scan_then scanned ((scan_complete ended delimits).trans goesOn)

theorem ends_append (begins : Ends mode first tokens) (delimited : Delimited second)
    (goesOn : Ends .between second others) : Ends mode (first ++ second) (tokens ++ others) := by
  obtain ⟨last, ended, scanned⟩ := goesOn
  exact ⟨last, ended, ends_then_scan begins delimited scanned⟩

end Pieces

section Numbers

theorem plain_digit {char : Char} (digit : char.isDigit = true) : Plain char := by
  have lower : 48 ≤ char.toNat := by
    simp only [Char.isDigit, Bool.and_eq_true, decide_eq_true_eq] at digit
    exact digit.1
  refine ⟨?_, ?_, by omega⟩
  · rintro rfl
    exact absurd lower (by decide)
  · rintro rfl
    exact absurd digit (by decide)

theorem plain_print_int (value : Int) : ∀ char ∈ printInt value, Plain char := by
  intro char member
  rcases of_mem_print_int member with rfl | digit
  · decide
  · exact plain_digit digit

theorem scan_small : ∀ value < 10, 0 < value →
    scan .between (printNat value) = some (.digits, [.number]) ∧
      scan .minus (printNat value) = some (.digits, []) := by
  decide +kernel

theorem scan_next_digit : ∀ value < 10, scan .digits [Nat.digitChar value] = some (.digits, []) := by
  decide +kernel

/-- A number other than 0 is printed without a leading 0. -/
theorem scan_print_nat {value : Nat} (positive : 0 < value) :
    scan .between (printNat value) = some (.digits, [.number]) ∧
      scan .minus (printNat value) = some (.digits, []) := by
  induction value using Nat.strong_induction_on with
  | _ value ih =>
      by_cases small : value < 10
      · exact scan_small value small positive
      · have ten : 10 ≤ value := by omega
        have begins := ih (value / 10) (by omega) (by omega)
        have last := scan_next_digit (value % 10) (by omega)
        rw [printNat, Nat.toDigits_of_base_le (by decide) ten]
        exact ⟨scan_then begins.1 last, scan_then begins.2 last⟩

theorem ends_print_int (value : Int) : Ends .between (printInt value) [.number] := by
  rw [printInt]
  split_ifs with negative
  · exact ⟨.digits, by decide, scan_then (show scan .between ['-'] = some (.minus, [.number]) by decide)
      (scan_print_nat (by omega)).2⟩
  · rcases Nat.eq_zero_or_pos value.toNat with zero | positive
    · rw [zero]
      exact ⟨.zero, by decide, by decide +kernel⟩
    · exact ⟨.digits, by decide, (scan_print_nat positive).1⟩

theorem ends_then_number {mode : Mode} {first : List Char} {tokens : List Token}
    (begins : scan mode first = some (.between, tokens)) (value : Int) :
    Ends mode (first ++ printInt value) (tokens ++ [.number]) := by
  obtain ⟨last, ended, number⟩ := ends_print_int value
  exact ⟨last, ended, scan_then begins number⟩

end Numbers

section Lists

variable {tokens others : List Token}

theorem members_append (first : Derives .members tokens) (second : Derives .members others) :
    Derives .members (tokens ++ .comma :: others) := by
  generalize kind : Symbol.members = symbol at first
  induction first with
  | lastMember last => exact .member last second
  | member value rest ih ihRest =>
      have further := Derives.member value (ihRest kind)
      simpa using further
  | _ => cases kind

theorem elements_flat_map {α : Type*} {read : α → List Token} {list : List α}
    (each : ∀ item ∈ list, Derives .value (read item)) (last : Derives .elements tokens) :
    Derives .elements ((list.flatMap fun item => read item ++ [.comma]) ++ tokens) := by
  induction list with
  | nil => exact last
  | cons item rest ih =>
      have further := Derives.element (each item List.mem_cons_self)
        (ih fun other member => each other (List.mem_cons_of_mem _ member))
      simpa using further

def NoTrailingComma (tokens : List Token) : Prop :=
  tokens.IsChain fun first second => ¬ (first = .comma ∧ second = .closeBrace)

instance (tokens : List Token) : Decidable (NoTrailingComma tokens) :=
  inferInstanceAs (Decidable (List.IsChain _ _))

theorem no_trailing_comma_append :
    NoTrailingComma (tokens ++ others) ↔ NoTrailingComma tokens ∧ NoTrailingComma others ∧
      ¬ (tokens.getLast? = some .comma ∧ others.head? = some .closeBrace) := by
  unfold NoTrailingComma
  rw [List.isChain_append]
  simp only [Option.mem_def]
  refine and_congr_right fun _ => and_congr_right fun _ => ?_
  constructor
  · rintro apart ⟨last, first⟩
    exact apart _ last _ first ⟨rfl, rfl⟩
  · rintro apart last isLast first isFirst ⟨rfl, rfl⟩
    exact apart ⟨isLast, isFirst⟩

/-- Tokens that may stand between commas and braces. -/
structure WellSeparated (tokens : List Token) : Prop where
  inside : NoTrailingComma tokens
  first : tokens.head? ≠ some .closeBrace
  last : tokens.getLast? ≠ some .comma
  some : tokens ≠ []

instance (tokens : List Token) : Decidable (WellSeparated tokens) :=
  decidable_of_iff (NoTrailingComma tokens ∧ tokens.head? ≠ some .closeBrace ∧
      tokens.getLast? ≠ some .comma ∧ tokens ≠ [])
    ⟨fun all => ⟨all.1, all.2.1, all.2.2.1, all.2.2.2⟩,
      fun all => ⟨all.inside, all.first, all.last, all.some⟩⟩

theorem well_separated_append (first : WellSeparated tokens) (second : WellSeparated others) :
    WellSeparated (tokens ++ others) where
  inside := no_trailing_comma_append.mpr
    ⟨first.inside, second.inside, fun both => first.last both.1⟩
  first := by
    rw [List.head?_append_of_ne_nil _ first.some]
    exact first.first
  last := by
    rw [List.getLast?_append_of_ne_nil _ second.some]
    exact second.last
  some := List.append_ne_nil_of_left_ne_nil first.some _

theorem well_separated_comma (first : WellSeparated tokens) (second : WellSeparated others) :
    WellSeparated (tokens ++ .comma :: others) where
  inside := by
    have comma : NoTrailingComma ([.comma] ++ others) :=
      no_trailing_comma_append.mpr ⟨by decide, second.inside, fun both => second.first both.2⟩
    exact no_trailing_comma_append.mpr ⟨first.inside, comma, fun both => first.last both.1⟩
  first := by
    rw [List.head?_append_of_ne_nil _ first.some]
    exact first.first
  last := by
    rw [List.getLast?_append_of_ne_nil _ (List.cons_ne_nil _ _),
      List.getLast?_cons_of_ne_nil second.some]
    exact second.last
  some := List.append_ne_nil_of_left_ne_nil first.some _

theorem well_separated_closed {close : Token} (inside : WellSeparated tokens)
    (noComma : close ≠ .comma) : WellSeparated (tokens ++ [close]) where
  inside := no_trailing_comma_append.mpr
    ⟨inside.inside, List.isChain_singleton _, fun both => inside.last both.1⟩
  first := by
    rw [List.head?_append_of_ne_nil _ inside.some]
    exact inside.first
  last := by simpa using noComma
  some := List.append_ne_nil_of_left_ne_nil inside.some _

theorem well_separated_of_derives {symbol : Symbol} (derived : Derives symbol tokens) :
    WellSeparated tokens := by
  have opens : ∀ front ∈ [[Token.openBrace], [.openBracket], [.string, .colon]],
      WellSeparated front := by decide
  induction derived with
  | string => decide
  | number => decide
  | word => decide
  | emptyObject => decide
  | emptyArray => decide
  | object inside ih =>
      exact well_separated_append (opens [.openBrace] (by simp))
        (well_separated_closed ih (by decide))
  | array inside ih =>
      exact well_separated_append (opens [.openBracket] (by simp))
        (well_separated_closed ih (by decide))
  | lastMember last ih => exact well_separated_append (opens [.string, .colon] (by simp)) ih
  | member first others ih ihOthers =>
      exact well_separated_append (opens [.string, .colon] (by simp))
        (well_separated_comma ih ihOthers)
  | lastElement last ih => exact ih
  | element first others ih ihOthers => exact well_separated_comma ih ihOthers

theorem not_valid_of_trailing_comma {text : List Char} {mode : Mode}
    (scanned : scan .between text = some (mode, tokens))
    (trailing : [Token.comma, .closeBrace] <:+: tokens) : ¬ Valid text := by
  rintro ⟨last, same, rescanned, ended, derived⟩
  rw [scanned] at rescanned
  obtain ⟨-, rfl⟩ := Prod.mk.inj (Option.some.inj rescanned)
  obtain ⟨front, back, rfl⟩ := trailing
  have apart := (well_separated_of_derives derived).inside
  rw [List.append_assoc] at apart
  have here := (no_trailing_comma_append.mp apart).2.1
  exact absurd ((no_trailing_comma_append.mp here).1) (by decide)

end Lists

section Separated

def separated : List (List Token) → List Token
  | [] => []
  | [last] => last
  | first :: second :: rest => first ++ .comma :: separated (second :: rest)

variable {pieces : List (List Token)}

theorem members_separated (listed : pieces ≠ [])
    (each : ∀ piece ∈ pieces, Derives .members piece) : Derives .members (separated pieces) := by
  induction pieces with
  | nil => exact absurd rfl listed
  | cons first rest ih =>
      cases rest with
      | nil => exact each first List.mem_cons_self
      | cons second rest =>
          exact members_append (each first List.mem_cons_self)
            (ih (List.cons_ne_nil _ _) fun piece member => each piece (List.mem_cons_of_mem _ member))

def scalars (kinds : List Token) : List Token :=
  separated (kinds.map fun kind => [.string, .colon, kind])

theorem members_scalars {kinds : List Token} (listed : kinds ≠ [])
    (simple : ∀ kind ∈ kinds, kind = .string ∨ kind = .number) :
    Derives .members (scalars kinds) := by
  apply members_separated (by simpa using listed)
  rintro piece member
  obtain ⟨kind, inside, rfl⟩ := List.mem_map.mp member
  rcases simple kind inside with rfl | rfl
  · exact .lastMember .string
  · exact .lastMember .number

theorem infix_separated {piece : List Token} (member : piece ∈ pieces) :
    piece <:+: separated pieces := by
  induction pieces with
  | nil => exact absurd member List.not_mem_nil
  | cons first rest ih =>
      cases rest with
      | nil =>
          obtain rfl := List.mem_singleton.mp member
          exact List.infix_rfl
      | cons second rest =>
          rcases List.mem_cons.mp member with rfl | later
          · exact (List.prefix_append _ _).isInfix
          · exact (ih later).trans
              ((List.suffix_cons _ _).trans (List.suffix_append _ _)).isInfix

theorem ends_comma {text : List Char} {tokens : List Token} (later : Ends .between text tokens) :
    Ends .between (',' :: text) (.comma :: tokens) := by
  obtain ⟨last, ended, scanned⟩ := later
  exact ⟨last, ended, scan_then (show scan .between [','] = some (.between, [.comma]) by decide)
    scanned⟩

/-- Where every piece is printed with a comma, taking one character back leaves commas between
them. -/
theorem ends_separated {α : Type*} {text : α → List Char} {read : α → List Token} {list : List α}
    (listed : list ≠ []) (each : ∀ item ∈ list, Ends .between (text item) (read item)) :
    Ends .between (list.flatMap fun item => text item ++ [',']).dropLast
      (separated (list.map read)) := by
  induction list with
  | nil => exact absurd rfl listed
  | cons first rest ih =>
      have begins := each first List.mem_cons_self
      cases rest with
      | nil => simpa [separated] using begins
      | cons second rest =>
          have later := ih (List.cons_ne_nil _ _)
            fun item member => each item (List.mem_cons_of_mem _ member)
          have printed : ((second :: rest).flatMap fun item => text item ++ [',']) ≠ [] := by simp
          have delimited : Delimited
              (',' :: ((second :: rest).flatMap fun item => text item ++ [',']).dropLast) :=
            ⟨',', _, rfl, by decide⟩
          have further := ends_append begins delimited (ends_comma later)
          rw [List.flatMap_cons, List.append_assoc, List.dropLast_append_of_ne_nil (by simp),
            List.dropLast_append_of_ne_nil printed]
          exact further

end Separated

section Objects

variable {text piece : List Char}

def OpenObject (text : List Char) : Prop :=
  ∃ members, Ends .between text (.openBrace :: members) ∧ Derives .members members

def MoreMembers (piece : List Char) : Prop :=
  Delimited piece ∧ ∃ members, Ends .between piece (.comma :: members) ∧ Derives .members members

theorem open_object_more (before : OpenObject text) (more : MoreMembers piece) :
    OpenObject (text ++ piece) := by
  obtain ⟨members, ends, derived⟩ := before
  obtain ⟨delimited, others, further, derivedOthers⟩ := more
  exact ⟨members ++ .comma :: others, ends_append ends delimited further,
    members_append derived derivedOthers⟩

theorem open_object_each {α : Type*} {pieces : α → List Char} {list : List α}
    (before : OpenObject text) (each : ∀ item ∈ list, MoreMembers (pieces item)) :
    OpenObject (text ++ list.flatMap pieces) := by
  induction list generalizing text with
  | nil => simpa using before
  | cons item rest ih =>
      have further := ih (open_object_more before (each item List.mem_cons_self))
        fun other member => each other (List.mem_cons_of_mem _ member)
      simpa using further

theorem valid_of_open_object (before : OpenObject text) : Valid (text ++ ['\x7d']) := by
  obtain ⟨members, ends, derived⟩ := before
  have close : scan .between ['\x7d'] = some (.between, [.closeBrace]) := by decide
  exact ⟨.between, _, ends_then_scan ends (by decide) close, by decide, .object derived⟩

end Objects

end Foundation.Json
