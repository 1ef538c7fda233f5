import SprinklerD.Foundation.Decimal
import Mathlib.Data.List.Basic

/-!
# Flat JSON objects as text

Objects whose values are strings and integers, with all that the format leaves open: blanks,
the order of the fields, and how a string is spelled. A text is the list of its bytes.
-/

namespace Foundation.FlatJson

open Foundation.Decimal

set_option autoImplicit false

def isBlank (char : Char) : Bool := char = ' ' ∨ char = '\t' ∨ char = '\n' ∨ char = '\r'

section Strings

def hexDigit (char : Char) : Option Nat :=
  if char.isDigit then some (char.toNat - '0'.toNat)
  else if 'a' ≤ char ∧ char ≤ 'f' then some (char.toNat - 'a'.toNat + 10)
  else if 'A' ≤ char ∧ char ≤ 'F' then some (char.toNat - 'A'.toNat + 10)
  else none

def codeUnit : List Char → Option Nat
  | [first, second, third, fourth] => do
      let first ← hexDigit first
      let second ← hexDigit second
      let third ← hexDigit third
      let fourth ← hexDigit fourth
      return ((first * 16 + second) * 16 + third) * 16 + fourth
  | _ => none

def utf8 (code : Nat) : List Char :=
  if code < 0x80 then [Char.ofNat code]
  else if code < 0x800 then [Char.ofNat (0xC0 + code / 64), Char.ofNat (0x80 + code % 64)]
  else if code < 0x10000 then
    [Char.ofNat (0xE0 + code / 4096), Char.ofNat (0x80 + code / 64 % 64),
      Char.ofNat (0x80 + code % 64)]
  else
    [Char.ofNat (0xF0 + code / 262144), Char.ofNat (0x80 + code / 4096 % 64),
      Char.ofNat (0x80 + code / 64 % 64), Char.ofNat (0x80 + code % 64)]

def escapes : List (Char × Char) :=
  [('"', '"'), ('\\', '\\'), ('/', '/'), ('b', Char.ofNat 8), ('f', Char.ofNat 12),
    ('n', '\n'), ('r', '\r'), ('t', '\t')]

/-- Between quotes, the first text spells the second. -/
inductive Spells : List Char → List Char → Prop
  | empty : Spells [] []
  | plain {char : Char} {raw value : List Char} (visible : ' ' ≤ char) (noQuote : char ≠ '"')
      (noEscape : char ≠ '\\') (later : Spells raw value) : Spells (char :: raw) (char :: value)
  | escape {letter char : Char} {raw value : List Char} (known : (letter, char) ∈ escapes)
      (later : Spells raw value) : Spells ('\\' :: letter :: raw) (char :: value)
  | unicode {digits raw value : List Char} {code : Nat} (unit : codeUnit digits = some code)
      (single : ¬ (0xD800 ≤ code ∧ code < 0xE000)) (later : Spells raw value) :
      Spells ('\\' :: 'u' :: (digits ++ raw)) (utf8 code ++ value)
  | pair {digits digits' raw value : List Char} {high low : Nat}
      (unit : codeUnit digits = some high) (unit' : codeUnit digits' = some low)
      (first : 0xD800 ≤ high ∧ high < 0xDC00) (second : 0xDC00 ≤ low ∧ low < 0xE000)
      (later : Spells raw value) :
      Spells ('\\' :: 'u' :: (digits ++ '\\' :: 'u' :: (digits' ++ raw)))
        (utf8 (0x10000 + (high - 0xD800) * 0x400 + (low - 0xDC00)) ++ value)

def marks : List Char := [':', ',', '}', '\'', '"']

theorem hex_digit_visible {char : Char} {number : Nat} (digit : hexDigit char = some number) :
    char ∉ marks ∧ ' ' ≤ char := by
  have noDigit : ∀ mark ∈ marks, hexDigit mark = none := by
    simp only [marks, List.forall_mem_cons, List.not_mem_nil, false_implies, implies_true]
    decide
  constructor
  · intro member
    rw [noDigit char member] at digit
    cases digit
  · unfold hexDigit at digit
    split_ifs at digit with decimal small large
    · simp only [Char.isDigit, Bool.and_eq_true, decide_eq_true_eq] at decimal
      exact Char.le_trans (by decide : ' ' ≤ '0') decimal.1
    · exact Char.le_trans (by decide : ' ' ≤ 'a') small.1
    · exact Char.le_trans (by decide : ' ' ≤ 'A') large.1

theorem code_unit_visible {digits : List Char} {code : Nat} (unit : codeUnit digits = some code) :
    ∀ char ∈ digits, char ∉ marks ∧ ' ' ≤ char := by
  unfold codeUnit at unit
  split at unit
  · simp only [Option.bind_eq_bind, Option.bind_eq_some_iff] at unit
    obtain ⟨_, first, _, second, _, third, _, fourth, -⟩ := unit
    intro char member
    simp only [List.mem_cons, List.not_mem_nil, or_false] at member
    rcases member with rfl | rfl | rfl | rfl
    · exact hex_digit_visible first
    · exact hex_digit_visible second
    · exact hex_digit_visible third
    · exact hex_digit_visible fourth
  · cases unit

/-- No mark is a hexadecimal digit, nor one of the letters before them. -/
theorem mark_escapes {mark : Char} (special : mark ∈ marks) :
    mark ≠ '\\' ∧ mark ≠ 'u' ∧
      ∀ digits code, codeUnit digits = some code → mark ∉ digits := by
  refine ⟨?_, ?_, fun digits code unit inside => (code_unit_visible unit mark inside).1 special⟩
  · rintro rfl
    exact absurd special (by decide)
  · rintro rfl
    exact absurd special (by decide)

theorem escape_letter {letter char : Char} (known : (letter, char) ∈ escapes) :
    ' ' ≤ letter ∧ (letter ∈ marks → letter = '"' ∧ char = '"') := by
  simp only [escapes, List.mem_cons, List.not_mem_nil, or_false, Prod.mk.injEq] at known
  rcases known with ⟨rfl, rfl⟩ | ⟨rfl, rfl⟩ | ⟨rfl, rfl⟩ | ⟨rfl, rfl⟩ | ⟨rfl, rfl⟩ | ⟨rfl, rfl⟩ |
    ⟨rfl, rfl⟩ | ⟨rfl, rfl⟩ <;> decide

theorem utf8_length_pos (code : Nat) : 0 < (utf8 code).length := by
  unfold utf8
  split_ifs <;> exact Nat.succ_pos _

variable {raw value : List Char}

/-- A text between quotes has no control character. -/
theorem spells_visible (spells : Spells raw value) : ∀ char ∈ raw, ' ' ≤ char := by
  have backslash : ' ' ≤ '\\' := by decide
  have unicode : ' ' ≤ 'u' := by decide
  induction spells with
  | empty => simp
  | plain visible _ _ _ ih => exact List.forall_mem_cons.mpr ⟨visible, ih⟩
  | escape known _ ih =>
      exact List.forall_mem_cons.mpr ⟨backslash,
        List.forall_mem_cons.mpr ⟨(escape_letter known).1, ih⟩⟩
  | unicode unit _ _ ih =>
      have digits := fun char member => (code_unit_visible unit char member).2
      exact List.forall_mem_cons.mpr ⟨backslash, List.forall_mem_cons.mpr ⟨unicode,
        List.forall_mem_append.mpr ⟨digits, ih⟩⟩⟩
  | pair unit unit' _ _ _ ih =>
      have digits := fun char member => (code_unit_visible unit char member).2
      have digits' := fun char member => (code_unit_visible unit' char member).2
      exact List.forall_mem_cons.mpr ⟨backslash, List.forall_mem_cons.mpr ⟨unicode,
        List.forall_mem_append.mpr ⟨digits, List.forall_mem_cons.mpr ⟨backslash,
          List.forall_mem_cons.mpr ⟨unicode, List.forall_mem_append.mpr ⟨digits', ih⟩⟩⟩⟩⟩⟩

theorem mark_spelled {mark : Char} (special : mark ∈ marks) (spells : Spells raw value)
    (member : mark ∈ raw) : mark ∈ value := by
  obtain ⟨noBackslash, noUnicode, noDigit⟩ := mark_escapes special
  induction spells with
  | empty => exact member
  | plain _ _ _ _ ih =>
      rcases List.mem_cons.mp member with rfl | later
      · exact List.mem_cons_self
      · exact List.mem_cons_of_mem _ (ih later)
  | escape known _ ih =>
      rcases List.mem_cons.mp member with same | letters
      · exact absurd same noBackslash
      · rcases List.mem_cons.mp letters with rfl | later
        · obtain ⟨rfl, rfl⟩ := (escape_letter known).2 special
          exact List.mem_cons_self
        · exact List.mem_cons_of_mem _ (ih later)
  | unicode unit _ _ ih =>
      simp only [List.mem_cons, List.mem_append, noBackslash, noUnicode, false_or] at member
      exact List.mem_append_right _ (ih (member.resolve_left (noDigit _ _ unit)))
  | pair unit unit' _ _ _ ih =>
      simp only [List.mem_cons, List.mem_append, noBackslash, noUnicode, false_or] at member
      have later := (member.resolve_left (noDigit _ _ unit)).resolve_left (noDigit _ _ unit')
      exact List.mem_append_right _ (ih later)

/-- The same behind the first character, for a mark that no escape ends with. -/
theorem mark_spelled_behind {mark first : Char} {others : List Char} (special : mark ∈ marks)
    (noQuote : mark ≠ '"') (spells : Spells (first :: others) value) (member : mark ∈ others) :
    ∃ head tail, value = head :: tail ∧ mark ∈ tail := by
  obtain ⟨noBackslash, noUnicode, noDigit⟩ := mark_escapes special
  have behind (code : Nat) {rest : List Char} (inside : mark ∈ rest) :
      ∃ head tail, utf8 code ++ rest = head :: tail ∧ mark ∈ tail := by
    obtain ⟨head, tail, bytes⟩ := List.exists_cons_of_length_pos (utf8_length_pos code)
    rw [bytes]
    exact ⟨head, tail ++ rest, rfl, List.mem_append_right _ inside⟩
  cases spells with
  | plain _ _ _ later => exact ⟨_, _, rfl, mark_spelled special later member⟩
  | escape known later =>
      rcases List.mem_cons.mp member with rfl | inside
      · exact absurd ((escape_letter known).2 special).1 noQuote
      · exact ⟨_, _, rfl, mark_spelled special later inside⟩
  | unicode unit _ later =>
      simp only [List.mem_cons, List.mem_append, noUnicode, false_or] at member
      exact behind _ (mark_spelled special later (member.resolve_left (noDigit _ _ unit)))
  | pair unit unit' _ _ later =>
      simp only [List.mem_cons, List.mem_append, noUnicode, noBackslash, false_or] at member
      have inside := (member.resolve_left (noDigit _ _ unit)).resolve_left (noDigit _ _ unit')
      exact behind _ (mark_spelled special later inside)

theorem spelled_head {first : Char} {others : List Char} (noEscape : first ≠ '\\')
    (spells : Spells (first :: others) value) :
    first ≠ '"' ∧ ∃ tail, value = first :: tail := by
  cases spells with
  | plain _ noQuote _ _ => exact ⟨noQuote, _, rfl⟩
  | escape => exact absurd rfl noEscape
  | unicode => exact absurd rfl noEscape
  | pair => exact absurd rfl noEscape

def isPlain (char : Char) : Bool := ' ' ≤ char ∧ char ≠ '"' ∧ char ≠ '\\'

/-- A text without escapes spells itself. -/
theorem spells_plain {text : List Char} (plain : text.all isPlain = true) : Spells text text := by
  induction text with
  | nil => exact .empty
  | cons char text ih =>
      rw [List.all_cons, Bool.and_eq_true] at plain
      obtain ⟨visible, noQuote, noEscape⟩ := of_decide_eq_true plain.1
      exact .plain visible noQuote noEscape (ih plain.2)

end Strings

section Objects

inductive Value where
  | string (raw value : List Char) (spells : Spells raw value)
  | integer (negative : Bool) (magnitude : Nat)

def quoted (raw : List Char) : List Char := '"' :: raw ++ ['"']

def signed (negative : Bool) (magnitude : Nat) : Int :=
  if negative then -(magnitude : Int) else magnitude

def Value.text : Value → List Char
  | .string raw _ _ => quoted raw
  | .integer negative magnitude => (if negative then ['-'] else []) ++ printNat magnitude

/-- A field with the blanks around its parts. The key is taken as it is written. -/
structure Field where
  before : List Char
  key : List Char
  beforeColon : List Char
  afterColon : List Char
  value : Value
  after : List Char
  keySpelled : ∃ name, Spells key name
  blank : ∀ char ∈ before ++ beforeColon ++ afterColon ++ after, isBlank char = true

def Field.tight (key : List Char) (value : Value) (plain : key.all isPlain = true) : Field where
  before := []
  key := key
  beforeColon := []
  afterColon := []
  value := value
  after := []
  keySpelled := ⟨key, spells_plain plain⟩
  blank _ member := absurd member List.not_mem_nil

def Field.tail (field : Field) : List Char :=
  field.beforeColon ++ ':' :: (field.afterColon ++ (field.value.text ++ field.after))

def Field.text (field : Field) : List Char := field.before ++ (quoted field.key ++ field.tail)

def fieldsText (closing : List Char) : List Field → List Char
  | [] => closing
  | [field] => field.text ++ closing
  | field :: next :: rest => field.text ++ ',' :: fieldsText closing (next :: rest)

structure FlatObject where
  lead : List Char
  inner : List Char
  fields : List Field
  trail : List Char
  blank : ∀ char ∈ lead ++ inner ++ trail, isBlank char = true
  keysApart : (fields.map Field.key).Nodup

def FlatObject.closing (object : FlatObject) : List Char := '}' :: object.trail

def FlatObject.text (object : FlatObject) : List Char :=
  object.lead ++ '{' :: (object.inner ++ fieldsText object.closing object.fields)

/-- What follows a field: the comma and the next fields, or the end of the object. -/
def behind (closing : List Char) : List Field → List Char
  | [] => closing
  | field :: rest => ',' :: fieldsText closing (field :: rest)

theorem fields_text_cons (closing : List Char) (field : Field) (rest : List Field) :
    fieldsText closing (field :: rest) = field.text ++ behind closing rest := by
  cases rest <;> rfl

end Objects

end Foundation.FlatJson
