import SprinklerD.DomoticzParser
import SprinklerD.Foundation.FlatJson

/-!
# The scan of a Domoticz message

What the scan does with the parts of an object. Between the key names it passes over
everything, strings included; behind a key of a number it passes one field; behind the key of
the string it may pass commas, and then fields are never seen.
-/

namespace SprinklerD.DomoticzScan

open Foundation.MachineInt Foundation.Decimal Foundation.CString Foundation.FlatJson
open SprinklerD.Config SprinklerD.DomoticzParser

set_option autoImplicit false

def quotedNames : List Text := [idxName, nvalueName, svalue2Name]

def Apart (text : Text) : Prop := ∀ name ∈ quotedNames, ¬ name <:+: text

/-- A flat object whose numbers are numbers, and in which no string, key or value, has one
of the quoted key names in it, those keys apart. -/
structure DomoticzObject extends FlatObject where
  numbers : ∀ field ∈ fields, quoted field.key = idxName ∨ quoted field.key = nvalueName →
    ∃ negative magnitude, field.value = .integer negative magnitude
  keysNamed : ∀ field ∈ fields, quoted field.key ∈ quotedNames ∨ Apart (quoted field.key)
  stringsApart : ∀ field ∈ fields, ∀ raw value spells,
    field.value = .string raw value spells → Apart (quoted raw)

def scanText (junk text : Text) (found : Nat) (request : DomoticzRequest) :
    Bool × DomoticzRequest :=
  scanFrom svalue2Name (text ++ nul :: junk) text.length 0 found request

def scanPayload (junk payload : Text) (found : Nat) (request : DomoticzRequest) :
    Bool × DomoticzRequest :=
  scanFrom svalue2Name (payload ++ junk) payload.length 0 found request

variable {junk : Text}

section Steps

theorem scan_without_left (memory : Text) (found : Nat) (request : DomoticzRequest) :
    scanFrom svalue2Name memory 0 0 found request = (decide (2 ≤ found), request) := by
  cases memory <;> simp [scanFrom]

theorem payload_end (found : Nat) (request : DomoticzRequest) :
    scanPayload junk [] found request = (decide (2 ≤ found), request) :=
  scan_without_left junk found request

theorem scan_end (found : Nat) (request : DomoticzRequest) :
    scanText junk [] found request = (decide (2 ≤ found), request) :=
  payload_end found request

theorem scan_passed (memory : Text) (left passed found : Nat) (request : DomoticzRequest) :
    scanFrom svalue2Name memory left passed found request =
      scanFrom svalue2Name (memory.drop passed) (left - passed) 0 found request := by
  induction memory generalizing left passed with
  | nil => simp [scanFrom]
  | cons char rest ih =>
      cases passed with
      | zero => rfl
      | succ passed =>
          rw [scanFrom, ih, List.drop_succ_cons, Nat.sub_sub, Nat.add_comm 1]

theorem payload_other {char : Char} (payload : Text) (found : Nat) (request : DomoticzRequest)
    (noQuote : char ≠ '"') (visible : char ≠ nul) :
    scanPayload junk (char :: payload) found request = scanPayload junk payload found request := by
  unfold scanPayload
  rw [List.cons_append, scanFrom, if_neg (by simp [visible]), if_neg noQuote]
  rfl

theorem scan_other {char : Char} (text : Text) (found : Nat) (request : DomoticzRequest)
    (noQuote : char ≠ '"') (visible : char ≠ nul) :
    scanText junk (char :: text) found request = scanText junk text found request :=
  payload_other text found request noQuote visible

theorem strncmp_name_iff {name memory : Text} {count : Nat} (visible : nul ∉ name)
    (length : name.length = count) : strncmpEqual name memory count = true ↔ name <+: memory := by
  have compares := @strncmp_equal_iff memory name count visible (le_of_eq length.symm)
  rw [← length, List.take_length] at compares
  rw [← compares, strncmpEqual, strncmpEqual, length, decide_eq_true_eq, decide_eq_true_eq]
  exact eq_comm

theorem name_before_end {name text : Text} (named : name ∈ quotedNames)
    (begins : name <+: text ++ nul :: junk) : name <+: text := by
  have visible : ∀ name ∈ quotedNames, nul ∉ name := by decide
  exact prefix_before (visible name named) begins

theorem no_name_compared {name memory : Text} {count : Nat} (named : name ∈ quotedNames)
    (length : name.length = count) (unnamed : ∀ name ∈ quotedNames, ¬ name <+: memory) :
    ¬ strncmpEqual name memory count = true := by
  have visible : ∀ name ∈ quotedNames, nul ∉ name := by decide
  exact fun same => unnamed name named ((strncmp_name_iff (visible name named) length).mp same)

/-- A quote that begins no key name leads to nothing. -/
theorem read_quoted_unnamed {memory : Text} (found : Nat) (request : DomoticzRequest)
    (unnamed : ∀ name ∈ quotedNames, ¬ name <+: memory) :
    readQuoted svalue2Name memory found request = (found, request, 0) := by
  have noIdx := @no_name_compared idxName memory 5 (by decide) rfl unnamed
  have noNvalue := @no_name_compared nvalueName memory 8 (by decide) rfl unnamed
  have noSvalue := @no_name_compared svalue2Name memory 9 (by decide) rfl unnamed
  unfold readQuoted
  rw [if_neg noIdx, if_neg noNvalue, if_neg noSvalue]

theorem payload_quote {payload : Text} {found : Nat} (request : DomoticzRequest) (few : found < 4)
    (unnamed : ∀ name ∈ quotedNames, ¬ name <+: '"' :: (payload ++ junk)) :
    scanPayload junk ('"' :: payload) found request = scanPayload junk payload found request := by
  have read := read_quoted_unnamed found request unnamed
  unfold scanPayload
  rw [List.cons_append, scanFrom, if_neg (by simp [nul]), if_pos rfl, read]
  simp only
  rw [if_neg (by omega)]
  rfl

theorem scan_quote {text : Text} {found : Nat} (request : DomoticzRequest) (few : found < 4)
    (unnamed : ∀ name ∈ quotedNames, ¬ name <+: '"' :: text) :
    scanText junk ('"' :: text) found request = scanText junk text found request := by
  apply payload_quote request few
  intro name named begins
  rw [← List.cons_append] at begins
  exact unnamed name named (name_before_end named begins)

/-- After a key name the scan goes on behind the character that ended the loop. -/
theorem payload_jump {name inner rest : Text} {found later length : Nat}
    {request read : DomoticzRequest} (quote : name = '"' :: inner)
    (leads : readQuoted svalue2Name (name ++ (rest ++ junk)) found request =
      (later, read, name.length + length)) :
    scanPayload junk (name ++ rest) found request =
      if 4 ≤ later then (true, read) else scanPayload junk (rest.drop (length + 1)) later read := by
  subst quote
  unfold scanPayload
  rw [List.append_assoc, List.cons_append, List.cons_append] at *
  rw [scanFrom, if_neg (by simp [nul]), if_pos rfl, leads]
  simp only
  split_ifs with enough
  · rfl
  · have passed : (inner ++ (rest ++ junk)).drop (('"' :: inner).length + length) =
        (rest ++ junk).drop (length + 1) := by
      rw [List.length_cons, show inner.length + 1 + length = inner.length + (length + 1) by omega,
        List.drop_length_add_append]
    have left : ('"' :: (inner ++ rest)).length - 1 - (('"' :: inner).length + length) =
        rest.length - (length + 1) := by
      simp only [List.length_cons, List.length_append]
      omega
    rw [scan_passed, passed, left, List.length_drop]
    rcases Nat.lt_or_ge length rest.length with before | last
    · rw [List.drop_append_of_le_length before]
    · have none : rest.length - (length + 1) = 0 := by omega
      rw [none, scan_without_left, scan_without_left]

theorem scan_jump {name inner rest : Text} {found later length : Nat}
    {request read : DomoticzRequest} (quote : name = '"' :: inner)
    (leads : readQuoted svalue2Name (name ++ (rest ++ nul :: junk)) found request =
      (later, read, name.length + length)) :
    scanText junk (name ++ rest) found request =
      if 4 ≤ later then (true, read) else scanText junk (rest.drop (length + 1)) later read :=
  payload_jump quote leads

end Steps

section Unnamed

/-- No quote in the text begins a key name, with what follows the text taken in. -/
def Unnamed (text more : Text) : Prop :=
  ∀ front back, text = front ++ '"' :: back → ∀ name ∈ quotedNames, ¬ name <+: '"' :: (back ++ more)

variable {text more : Text} {found : Nat}

theorem scan_unnamed (request : DomoticzRequest) (few : found < 4) (visible : nul ∉ text)
    (unnamed : Unnamed text more) :
    scanText junk (text ++ more) found request = scanText junk more found request := by
  induction text with
  | nil => rfl
  | cons char rest ih =>
      have later := ih (fun member => visible (List.mem_cons_of_mem _ member))
        fun front back split => unnamed (char :: front) back (by rw [split, List.cons_append])
      rw [List.cons_append]
      by_cases quote : char = '"'
      · subst quote
        rw [scan_quote request few fun name named => unnamed [] rest rfl name named, later]
      · rw [scan_other _ _ _ quote fun same => visible (same ▸ List.mem_cons_self), later]

theorem unnamed_append {first second : Text} (front : Unnamed first (second ++ more))
    (back : Unnamed second more) : Unnamed (first ++ second) more := by
  intro before after split name named
  rcases List.append_eq_append_iff.mp split with ⟨inside, rfl, rest⟩ | ⟨inside, rfl, rest⟩
  · exact back inside after rest name named
  · cases inside with
    | nil => exact back [] after rest.symm name named
    | cons char inside =>
        obtain ⟨rfl, same⟩ := List.cons.inj rest
        have apart := front before inside rfl name named
        rw [same]
        simpa using apart

theorem unnamed_suffix {first second : Text} (unnamed : Unnamed (first ++ second) more) :
    Unnamed second more := by
  intro before after split
  exact unnamed (first ++ before) after (by rw [split, List.append_assoc])

theorem unnamed_of_no_quote (noQuote : '"' ∉ text) : Unnamed text more := by
  intro before after split
  exact absurd (split ▸ List.mem_append_right _ List.mem_cons_self) noQuote

theorem quoted_name_shape {name : Text} (named : name ∈ quotedNames) :
    ∃ inner, name = '"' :: (inner ++ ['"']) ∧ '"' ∉ inner := by
  simp only [quotedNames, List.mem_cons, List.not_mem_nil, or_false] at named
  rcases named with rfl | rfl | rfl
  · exact ⟨"idx".toList, by decide, by decide⟩
  · exact ⟨"nvalue".toList, by decide, by decide⟩
  · exact ⟨"svalue2".toList, by decide, by decide⟩

theorem number_name {name : Text} (named : name ∈ quotedNames) (other : name ≠ svalue2Name) :
    name = idxName ∨ name = nvalueName := by
  simp only [quotedNames, List.mem_cons, List.not_mem_nil, or_false] at named
  tauto

theorem name_ends_in_string {name mid rest : Text} (named : name ∈ quotedNames)
    (begins : name <+: '"' :: (mid ++ '"' :: rest)) : name <+: '"' :: (mid ++ ['"']) := by
  obtain ⟨inner, rfl, plain⟩ := quoted_name_shape named
  have letters := (List.cons_prefix_cons.mp begins).2
  obtain ⟨others, rfl⟩ := prefix_before plain ((List.prefix_append inner ['"']).trans letters)
  rw [List.append_assoc, List.prefix_append_right_inj] at letters
  apply List.cons_prefix_cons.mpr
  rw [List.append_assoc, List.prefix_append_right_inj]
  refine ⟨rfl, ?_⟩
  cases others with
  | nil => exact List.prefix_refl _
  | cons char others =>
      have closes := (List.cons_prefix_cons.mp letters).1
      exact List.cons_prefix_cons.mpr ⟨closes, List.nil_prefix⟩

/-- A string without key names is passed if no letter follows it. -/
theorem unnamed_quoted {raw : Text} {next : Char} (apart : Apart (quoted raw))
    (noLetter : next.isAlpha = false) : Unnamed (quoted raw) (next :: more) := by
  intro front back split name named begins
  rcases List.eq_nil_or_concat' back with rfl | ⟨mid, last, rfl⟩
  · have letter : ∃ letter others, name = '"' :: letter :: others ∧ letter.isAlpha = true := by
      simp only [quotedNames, List.mem_cons, List.not_mem_nil, or_false] at named
      rcases named with rfl | rfl | rfl
      · exact ⟨_, _, rfl, rfl⟩
      · exact ⟨_, _, rfl, rfl⟩
      · exact ⟨_, _, rfl, rfl⟩
    obtain ⟨letter, others, rfl, alpha⟩ := letter
    have same := (List.cons_prefix_cons.mp (List.cons_prefix_cons.mp begins).2).1
    rw [same, noLetter] at alpha
    cases alpha
  · have whole : ('"' :: raw) ++ ['"'] = (front ++ '"' :: mid) ++ [last] := by
      simpa [quoted] using split
    have closes := (List.cons.inj (List.append_inj_right' whole rfl)).1
    subst closes
    rw [List.append_assoc] at begins
    have inside := name_ends_in_string named begins
    apply apart name named
    rw [split]
    exact inside.isInfix.trans (List.suffix_append _ _).isInfix

end Unnamed

section Characters

def Bare (text : Text) : Prop := ∀ char ∈ text, char ∉ [',', ':', '"', nul]

theorem blank_char {char : Char} (blank : isBlank char = true) :
    char ∉ [',', ':', '"', nul] ∧ isSpace char = true ∧ char.isAlpha = false := by
  simp only [isBlank, decide_eq_true_eq] at blank
  rcases blank with rfl | rfl | rfl | rfl <;> decide

theorem bare_of_blank {text : Text} (blank : ∀ char ∈ text, isBlank char = true) : Bare text :=
  fun char member => (blank_char (blank char member)).1

theorem bare_append {first second : Text} (front : Bare first) (back : Bare second) :
    Bare (first ++ second) :=
  List.forall_mem_append.mpr ⟨front, back⟩

theorem bare_integer (negative : Bool) (magnitude : Nat) :
    Bare (Value.integer negative magnitude).text := by
  have digits : Bare (printNat magnitude) := by
    intro char member mark
    have digit := is_digit_of_mem_print_nat member
    simp only [List.mem_cons, List.not_mem_nil, or_false] at mark
    rcases mark with rfl | rfl | rfl | rfl <;> exact absurd digit (by decide)
  cases negative with
  | false => exact bare_append (fun char member => absurd member List.not_mem_nil) digits
  | true => exact bare_append (List.forall_mem_singleton.mpr (by decide)) digits

theorem bare_no_quote {text : Text} (bare : Bare text) : '"' ∉ text :=
  fun member => bare _ member (by decide)

theorem nul_not_spelled {raw value : Text} (spells : Spells raw value) : nul ∉ raw :=
  fun member => absurd (spells_visible spells nul member) (by decide)

theorem nul_not_in_quoted {raw value : Text} (spells : Spells raw value) : nul ∉ quoted raw := by
  have inside := nul_not_spelled spells
  simp [quoted, nul] at inside ⊢
  exact inside

end Characters

section Fields

variable {trail : Text} {found : Nat}

theorem field_blank (field : Field) :
    (∀ char ∈ field.before, isBlank char = true) ∧
      (∀ char ∈ field.beforeColon, isBlank char = true) ∧
        (∀ char ∈ field.afterColon, isBlank char = true) ∧
          ∀ char ∈ field.after, isBlank char = true := by
  have blank := field.blank
  simp only [List.forall_mem_append] at blank
  exact ⟨blank.1.1.1, blank.1.1.2, blank.1.2, blank.2⟩

theorem follows_no_letter {blanks text : Text} {next : Char} (more : Text)
    (blank : ∀ char ∈ blanks, isBlank char = true) (starts : text = next :: more)
    (noLetter : next.isAlpha = false) :
    ∃ first others, blanks ++ text = first :: others ∧ first.isAlpha = false := by
  cases blanks with
  | nil => exact ⟨next, more, starts, noLetter⟩
  | cons first others =>
      exact ⟨first, others ++ text, rfl, (blank_char (blank first List.mem_cons_self)).2.2⟩

theorem behind_starts (rest : List Field) :
    ∃ next more, behind ('}' :: trail) rest = next :: more ∧ next.isAlpha = false := by
  cases rest with
  | nil => exact ⟨_, _, rfl, by decide⟩
  | cons field rest => exact ⟨_, _, rfl, by decide⟩

theorem value_unnamed {value : Value} {next : Char} (more : Text)
    (apart : ∀ raw string spells, value = .string raw string spells → Apart (quoted raw))
    (noLetter : next.isAlpha = false) : Unnamed value.text (next :: more) := by
  cases value with
  | string raw string spells => exact unnamed_quoted (apart raw string spells rfl) noLetter
  | integer negative magnitude =>
      exact unnamed_of_no_quote (bare_no_quote (bare_integer negative magnitude))

theorem tail_unnamed {field : Field} (rest : List Field)
    (apart : ∀ raw string spells, field.value = .string raw string spells → Apart (quoted raw)) :
    Unnamed field.tail (behind ('}' :: trail) rest) := by
  obtain ⟨-, beforeColon, afterColon, after⟩ := field_blank field
  obtain ⟨next, more, starts, noLetter⟩ := @behind_starts trail rest
  obtain ⟨first, others, follows, noFirst⟩ := follows_no_letter more after starts noLetter
  apply unnamed_append (unnamed_of_no_quote (bare_no_quote (bare_of_blank beforeColon)))
  rw [← List.singleton_append]
  apply unnamed_append (unnamed_of_no_quote (by decide))
  apply unnamed_append (unnamed_of_no_quote (bare_no_quote (bare_of_blank afterColon)))
  apply unnamed_append _ (unnamed_of_no_quote (bare_no_quote (bare_of_blank after)))
  rw [follows]
  exact value_unnamed others apart noFirst

theorem text_unnamed {field : Field} (rest : List Field) (keyApart : Apart (quoted field.key))
    (apart : ∀ raw string spells, field.value = .string raw string spells → Apart (quoted raw)) :
    Unnamed field.text (behind ('}' :: trail) rest) := by
  obtain ⟨before, beforeColon, -, -⟩ := field_blank field
  obtain ⟨first, others, follows, noFirst⟩ := follows_no_letter
    (field.afterColon ++ (field.value.text ++ field.after) ++ behind ('}' :: trail) rest)
    beforeColon rfl (show ':'.isAlpha = false by decide)
  have starts : field.tail ++ behind ('}' :: trail) rest = first :: others := by
    rw [← follows, Field.tail, List.append_assoc, List.cons_append]
  apply unnamed_append (unnamed_of_no_quote (bare_no_quote (bare_of_blank before)))
  apply unnamed_append _ (tail_unnamed rest apart)
  rw [starts]
  exact unnamed_quoted keyApart noFirst

/-- A field whose strings have no key name in them, those keys apart. -/
structure PlainField (field : Field) : Prop where
  key : quoted field.key ∈ quotedNames ∨ Apart (quoted field.key)
  string : ∀ raw value spells, field.value = .string raw value spells → Apart (quoted raw)

theorem plain_fields (object : DomoticzObject) : ∀ field ∈ object.fields, PlainField field :=
  fun field member => ⟨object.keysNamed field member, object.stringsApart field member⟩

theorem behind_comma_unnamed {field : Field} (plain : PlainField field) (rest : List Field)
    {first second : Text} (split : field.text = first ++ ',' :: second) :
    Unnamed second (behind ('}' :: trail) rest) := by
  have suffix {text : Text} (unnamed : Unnamed text (behind ('}' :: trail) rest)) {front : Text}
      (whole : text = front ++ ',' :: second) : Unnamed second (behind ('}' :: trail) rest) := by
    rw [whole, ← List.singleton_append, ← List.append_assoc] at unnamed
    exact unnamed_suffix unnamed
  rcases plain.key with named | apart
  · have noComma : ',' ∉ field.before ++ quoted field.key := by
      have names : ∀ name ∈ quotedNames, ',' ∉ name := by decide
      intro member
      rcases List.mem_append.mp member with blank | key
      · exact bare_of_blank (field_blank field).1 ',' blank (by decide)
      · exact names _ named key
    rw [Field.text, ← List.append_assoc] at split
    rcases List.append_eq_append_iff.mp split with ⟨inside, rfl, whole⟩ | ⟨inside, front, whole⟩
    · exact suffix (tail_unnamed rest plain.string) whole
    · cases inside with
      | nil =>
          rw [List.nil_append] at whole
          rw [← List.nil_append (',' :: second)] at whole
          exact suffix (tail_unnamed rest plain.string) whole.symm
      | cons char inside =>
          have comma := (List.cons.inj whole).1
          rw [front, ← comma] at noComma
          exact absurd (List.mem_append_right _ List.mem_cons_self) noComma
  · exact suffix (text_unnamed rest apart plain.string) split

theorem nul_not_in_value (value : Value) : nul ∉ value.text := by
  cases value with
  | string raw string spells => exact nul_not_in_quoted spells
  | integer negative magnitude =>
      exact fun member => bare_integer negative magnitude nul member (by decide)

theorem nul_not_in_tail (field : Field) : nul ∉ field.tail := by
  obtain ⟨-, beforeColon, afterColon, after⟩ := field_blank field
  have blank {text : Text} (all : ∀ char ∈ text, isBlank char = true) : nul ∉ text :=
    fun member => bare_of_blank all nul member (by decide)
  have colon : nul ≠ ':' := by decide
  simp only [Field.tail, List.mem_append, List.mem_cons, not_or]
  exact ⟨blank beforeColon, colon, blank afterColon, nul_not_in_value field.value, blank after⟩

theorem nul_not_in_text (field : Field) : nul ∉ field.text := by
  obtain ⟨name, spells⟩ := field.keySpelled
  rw [Field.text, List.mem_append, List.mem_append, not_or, not_or]
  exact ⟨fun member => bare_of_blank (field_blank field).1 nul member (by decide),
    nul_not_in_quoted spells, nul_not_in_tail field⟩

theorem bare_trail (blank : ∀ char ∈ trail, isBlank char = true) : Bare ('}' :: trail) :=
  List.forall_mem_cons.mpr ⟨by decide, bare_of_blank blank⟩

theorem scan_bare_before {text : Text} (more : Text) (bare : Bare text) (few : found < 4)
    (request : DomoticzRequest) :
    scanText junk (text ++ more) found request = scanText junk more found request :=
  scan_unnamed request few (fun member => bare nul member (by decide))
    (unnamed_of_no_quote (bare_no_quote bare))

theorem scan_bare {text : Text} (bare : Bare text) (few : found < 4) (request : DomoticzRequest) :
    scanText junk text found request = (decide (2 ≤ found), request) := by
  have passed := @scan_bare_before junk found text [] bare few request
  rw [List.append_nil] at passed
  rw [passed, scan_end]

theorem scan_named_field {field : Field} {more : Text} {later length : Nat}
    {request read : DomoticzRequest} (few : found < 4)
    (leads : readQuoted svalue2Name (quoted field.key ++ (field.tail ++ more ++ nul :: junk)) found
      request = (later, read, (quoted field.key).length + length)) :
    scanText junk (field.text ++ more) found request =
      if 4 ≤ later then (true, read)
      else scanText junk ((field.tail ++ more).drop (length + 1)) later read := by
  have before := bare_of_blank (field_blank field).1
  have quote : quoted field.key = '"' :: (field.key ++ ['"']) := rfl
  rw [Field.text, List.append_assoc, scan_bare_before _ before few, List.append_assoc]
  exact scan_jump quote leads

/-- A field, or what is left of one, is passed if no key name begins in it. -/
theorem scan_rest_of_field {left : Text} (rest : List Field) (request : DomoticzRequest)
    (few : found < 4) (visible : nul ∉ left)
    (unnamed : Unnamed left (behind ('}' :: trail) rest)) :
    scanText junk (left ++ behind ('}' :: trail) rest) found request =
      scanText junk (fieldsText ('}' :: trail) rest) found request := by
  rw [scan_unnamed request few visible unnamed]
  cases rest with
  | nil => rfl
  | cons field rest => exact scan_other _ _ _ (by decide) (by decide)

end Fields

section Numbers

variable {trail : Text} {found : Nat}

/-- The loop for a number passes over a text without a mark. -/
theorem read_number_behind {front : Text} (rest : Text) (value : Int) (bare : Bare front) :
    readNumber (front ++ rest) value = { readNumber rest value with
      length := front.length + (readNumber rest value).length } := by
  induction front with
  | nil => rw [List.nil_append, List.length_nil, Nat.zero_add]
  | cons char front ih =>
      have mark := bare char List.mem_cons_self
      simp only [List.mem_cons, List.not_mem_nil, or_false, not_or] at mark
      rw [List.cons_append, readNumber, if_neg (by simp [mark.1, mark.2.2.2]), if_neg mark.2.1,
        ih fun other member => bare other (List.mem_cons_of_mem _ member), List.length_cons]
      simp only [Reading.mk.injEq, true_and]
      omega

theorem read_number_bare {front : Text} {stop : Char} (rest : Text) (value : Int)
    (bare : Bare front) (stops : stop = ',' ∨ stop = nul) :
    readNumber (front ++ stop :: rest) value = ⟨value, 0, front.length⟩ := by
  rw [read_number_behind _ value bare, readNumber, if_pos stops]
  rfl

theorem read_number_colon {front mid : Text} {stop : Char} (rest : Text) (value : Int)
    (bare : Bare front) (bareMid : Bare mid) (stops : stop = ',' ∨ stop = nul) :
    readNumber (front ++ ':' :: (mid ++ stop :: rest)) value =
      ⟨atoi (mid ++ stop :: rest), 1, front.length + (mid.length + 1)⟩ := by
  have inside := @read_number_bare mid stop rest (atoi (mid ++ stop :: rest)) bareMid stops
  rw [read_number_behind _ value bare, readNumber, if_neg (by decide), if_pos rfl, inside]

theorem integer_read {blanks after : Text} {next : Char} (negative : Bool) (magnitude : Nat)
    (more : Text) (blank : ∀ char ∈ blanks, isBlank char = true)
    (blankAfter : ∀ char ∈ after, isBlank char = true) (noDigit : next.isDigit = false) :
    atoi (blanks ++ ((Value.integer negative magnitude).text ++ after) ++ next :: more) =
      atoiValue (signed negative magnitude) := by
  have space : ∀ char ∈ blanks, isSpace char = true :=
    fun char member => (blank_char (blank char member)).2.1
  cases after with
  | nil =>
      rw [List.append_nil, List.append_assoc]
      exact atoi_number negative magnitude more space noDigit
  | cons char after =>
      have noDigitThere : char.isDigit = false := by
        have blankThere := blankAfter char List.mem_cons_self
        simp only [isBlank, decide_eq_true_eq] at blankThere
        rcases blankThere with rfl | rfl | rfl | rfl <;> decide
      have read := atoi_number negative magnitude (after ++ next :: more) space noDigitThere
      simpa [Value.text, signed] using read

theorem read_number_field {field : Field} {negative : Bool} {magnitude : Nat}
    (integer : field.value = .integer negative magnitude)
    (blank : ∀ char ∈ trail, isBlank char = true) (rest : List Field) (value : Int) :
    ∃ length, readNumber (field.tail ++ (behind ('}' :: trail) rest ++ nul :: junk)) value =
        ⟨atoiValue (signed negative magnitude), 1, length⟩ ∧
      ∀ found request, found < 4 →
        scanText junk ((field.tail ++ behind ('}' :: trail) rest).drop (length + 1)) found request =
          scanText junk (fieldsText ('}' :: trail) rest) found request := by
  obtain ⟨-, beforeColon, afterColon, after⟩ := field_blank field
  have inside : Bare (field.afterColon ++ (field.value.text ++ field.after)) :=
    bare_append (bare_of_blank afterColon)
      (bare_append (integer ▸ bare_integer negative magnitude) (bare_of_blank after))
  cases rest with
  | nil =>
      have read := @read_number_colon field.beforeColon
        (field.afterColon ++ (field.value.text ++ field.after) ++ '}' :: trail) nul junk value
        (bare_of_blank beforeColon) (bare_append inside (bare_trail blank)) (Or.inr rfl)
      have number := @integer_read field.afterColon field.after '}' negative magnitude
        (trail ++ nul :: junk) afterColon after (by decide)
      have whole : field.tail ++ (behind ('}' :: trail) [] ++ nul :: junk) =
          field.beforeColon ++ ':' :: (field.afterColon ++ (field.value.text ++ field.after) ++
            '}' :: trail ++ nul :: junk) := by
        simp [Field.tail, behind]
      refine ⟨(field.tail ++ behind ('}' :: trail) []).length, ?_, ?_⟩
      · rw [whole, read, List.append_assoc (field.afterColon ++ _), List.cons_append, integer,
          number]
        simp [Field.tail, behind, integer]
      · intro found request few
        rw [List.drop_of_length_le (Nat.le_succ _), scan_end, fieldsText,
          scan_bare (bare_trail blank) few]
  | cons next rest =>
      have read := @read_number_colon field.beforeColon
        (field.afterColon ++ (field.value.text ++ field.after)) ','
        (fieldsText ('}' :: trail) (next :: rest) ++ nul :: junk) value
        (bare_of_blank beforeColon) inside (Or.inl rfl)
      have number := @integer_read field.afterColon field.after ',' negative magnitude
        (fieldsText ('}' :: trail) (next :: rest) ++ nul :: junk) afterColon after (by decide)
      have whole : field.tail ++ (behind ('}' :: trail) (next :: rest) ++ nul :: junk) =
          field.beforeColon ++ ':' :: (field.afterColon ++ (field.value.text ++ field.after) ++
            ',' :: (fieldsText ('}' :: trail) (next :: rest) ++ nul :: junk)) := by
        simp [Field.tail, behind]
      refine ⟨field.tail.length, ?_, ?_⟩
      · rw [whole, read, integer, number]
        simp [Field.tail, integer]
      · intro found request few
        rw [behind, List.drop_length_add_append, List.drop_one, List.tail_cons]

def withNumber (name : Text) (value : Int) (request : DomoticzRequest) : DomoticzRequest :=
  if name = idxName then { request with idx := value } else { request with nvalue := value }

theorem name_found_iff {name other : Text} {count : Nat} (rest : Text) (named : name ∈ quotedNames)
    (otherNamed : other ∈ quotedNames) (length : name.length = count) :
    strncmpEqual name (other ++ rest) count = true ↔ name = other := by
  have visible : ∀ name ∈ quotedNames, nul ∉ name := by decide
  have apart : ∀ name ∈ quotedNames, ∀ other ∈ quotedNames, name <+: other → name = other := by
    decide
  rw [strncmp_name_iff (visible name named) length]
  constructor
  · intro begins
    rcases List.prefix_or_prefix_of_prefix begins (List.prefix_append other rest) with
      inside | longer
    · exact apart name named other otherNamed inside
    · exact (apart other otherNamed name named longer).symm
  · rintro rfl
    exact List.prefix_append name rest

theorem read_quoted_number {name : Text} {before : Int} (rest : Text) (request : DomoticzRequest)
    (number : name = idxName ∨ name = nvalueName)
    (known : before = if name = idxName then request.idx else request.nvalue) :
    readQuoted svalue2Name (name ++ rest) found request =
      (found + (readNumber rest before).found, withNumber name (readNumber rest before).value request,
        name.length + (readNumber rest before).length) := by
  subst known
  rcases number with rfl | rfl
  · have found := (@name_found_iff idxName idxName 5 rest (by decide) (by decide) rfl).mpr rfl
    rw [readQuoted, if_pos found]
    rfl
  · have other := mt (@name_found_iff idxName nvalueName 5 rest (by decide) (by decide) rfl).mp
      (by decide)
    have found := (@name_found_iff nvalueName nvalueName 8 rest (by decide) (by decide) rfl).mpr rfl
    rw [readQuoted, if_neg other, if_pos found]
    rfl

theorem read_quoted_svalue {name : Text} (rest : Text) (request : DomoticzRequest)
    (named : name = svalue2Name) :
    readQuoted svalue2Name (name ++ rest) found request =
      (found + (readSvalue false rest request.svalue).found,
        { request with svalue := (readSvalue false rest request.svalue).value },
        name.length + (readSvalue false rest request.svalue).length) := by
  subst named
  have noIdx := mt (@name_found_iff idxName svalue2Name 5 rest (by decide) (by decide) rfl).mp
    (by decide)
  have noNvalue := mt (@name_found_iff nvalueName svalue2Name 8 rest (by decide) (by decide) rfl).mp
    (by decide)
  have found := (@name_found_iff svalue2Name svalue2Name 9 rest (by decide) (by decide) rfl).mpr rfl
  rw [readQuoted, if_neg noIdx, if_neg noNvalue, if_pos found]
  rfl

theorem scan_number_field {field : Field} {negative : Bool} {magnitude : Nat}
    (number : quoted field.key = idxName ∨ quoted field.key = nvalueName)
    (integer : field.value = .integer negative magnitude)
    (blank : ∀ char ∈ trail, isBlank char = true) (rest : List Field) (request : DomoticzRequest)
    (few : found < 4) :
    scanText junk (field.text ++ behind ('}' :: trail) rest) found request =
      if 4 ≤ found + 1 then
        (true, withNumber (quoted field.key) (atoiValue (signed negative magnitude)) request)
      else scanText junk (fieldsText ('}' :: trail) rest) (found + 1)
        (withNumber (quoted field.key) (atoiValue (signed negative magnitude)) request) := by
  have leads := @read_quoted_number found (quoted field.key) _
    (field.tail ++ (behind ('}' :: trail) rest ++ nul :: junk)) request number rfl
  obtain ⟨length, read, later⟩ := @read_number_field junk trail field negative magnitude
    integer blank rest _
  rw [read, ← List.append_assoc field.tail] at leads
  rw [scan_named_field few leads]
  split_ifs with enough
  · rfl
  · exact later _ _ (by omega)

end Numbers

end SprinklerD.DomoticzScan
