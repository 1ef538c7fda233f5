import SprinklerD.NetServices
import Mathlib.Data.Bool.AllAny

/-!
# Query variables

How a client writes variables into a query, and that `mg_get_http_var` reads them
back. Values are escaped as web forms do it. The handlers hand over a buffer that
still holds what was read before, so a variable is read back from any memory.
-/

namespace SprinklerD.QueryFields

open Foundation.CString
open SprinklerD.Config SprinklerD.NetServices

set_option autoImplicit false

section Escapes

def hexDigit (value : Nat) : Char := Char.ofNat (if value < 10 then 48 + value else 87 + value)

def unreserved (char : Char) : Bool := char.isAlphanum ∨ char ∈ ['-', '.', '_']

def encodeChar (char : Char) : Text :=
  if char = ' ' then ['+']
  else if unreserved char then [char]
  else ['%', hexDigit (char.toNat / 16), hexDigit (char.toNat % 16)]

def encodeValue (value : Text) : Text := value.flatMap encodeChar

theorem hex_digit_read {value : Nat} (digit : value < 16) :
    isHexDigit (hexDigit value) = true ∧ hexToInt (hexDigit value) = value := by
  have every : ∀ value : Fin 16, isHexDigit (hexDigit value) = true ∧
      hexToInt (hexDigit value) = value := by decide +kernel
  exact every ⟨value, digit⟩

theorem hex_digit_closed {value : Nat} (digit : value < 16) : hexDigit value ≠ '&' := by
  have every : ∀ value : Fin 16, hexDigit value ≠ '&' := by decide +kernel
  exact every ⟨value, digit⟩

theorem unreserved_plain {char : Char} (plain : unreserved char = true) :
    char ≠ '&' ∧ char ≠ '%' ∧ char ≠ '+' := by
  refine ⟨?_, ?_, ?_⟩ <;>
  · rintro rfl
    exact absurd plain (by decide)

/-- No escape holds the character that ends a variable. -/
theorem encode_char_closed {char : Char} (byte : char.toNat < 256) : '&' ∉ encodeChar char := by
  unfold encodeChar
  split_ifs with blank plain
  · decide
  · simpa using (unreserved_plain plain).1.symm
  · have high := @hex_digit_closed (char.toNat / 16) (by omega)
    have low := @hex_digit_closed (char.toNat % 16) (by omega)
    simp [high.symm, low.symm]

theorem encode_value_closed {value : Text} (bytes : ∀ char ∈ value, char.toNat < 256) :
    '&' ∉ encodeValue value := by
  intro member
  obtain ⟨char, inside, escaped⟩ := List.mem_flatMap.mp member
  exact encode_char_closed (bytes char inside) escaped

theorem decode_plain {char : Char} (noEscape : char ≠ '%') (room : Nat) (rest : Text) :
    mgUrlDecode (room + 1) (char :: rest) =
      ((if char = '+' then ' ' else char) :: (mgUrlDecode room rest).1,
        (mgUrlDecode room rest).2) := by
  rw [mgUrlDecode.eq_def]
  simp only [noEscape, if_false]

theorem decode_escape {value : Nat} (byte : value < 256) (room : Nat) (rest : Text) :
    mgUrlDecode (room + 1) ('%' :: hexDigit (value / 16) :: hexDigit (value % 16) :: rest) =
      (Char.ofNat value :: (mgUrlDecode room rest).1, (mgUrlDecode room rest).2) := by
  obtain ⟨highDigit, high⟩ := @hex_digit_read (value / 16) (by omega)
  obtain ⟨lowDigit, low⟩ := @hex_digit_read (value % 16) (by omega)
  simp only [mgUrlDecode, highDigit, lowDigit, and_self, if_true, high, low]
  rw [show value / 16 * 16 + value % 16 = value by omega]

theorem decode_encode_char {char : Char} (byte : char.toNat < 256) (room : Nat) (rest : Text) :
    mgUrlDecode (room + 1) (encodeChar char ++ rest) =
      (char :: (mgUrlDecode room rest).1, (mgUrlDecode room rest).2) := by
  unfold encodeChar
  split_ifs with blank plain
  · rw [List.singleton_append, decode_plain (by decide), if_pos rfl, blank]
  · obtain ⟨-, noEscape, noPlus⟩ := unreserved_plain plain
    rw [List.singleton_append, decode_plain noEscape, if_neg noPlus]
  · rw [List.cons_append, List.cons_append, List.singleton_append, decode_escape byte,
      Char.ofNat_toNat]

theorem decode_encode_value {value : Text} (bytes : ∀ char ∈ value, char.toNat < 256)
    (room : Nat) : mgUrlDecode room (encodeValue value) = (value.take room, true) := by
  induction value generalizing room with
  | nil => cases room <;> rfl
  | cons char value ih =>
      cases room with
      | zero => rfl
      | succ room =>
          have tail := ih (fun other member => bytes other (List.mem_cons_of_mem _ member)) room
          rw [encodeValue, List.flatMap_cons, decode_encode_char (bytes char List.mem_cons_self)]
          rw [encodeValue] at tail
          rw [tail, List.take_succ_cons]

end Escapes

section Fields

theorem to_lower_ends {char : Char} (lowered : char.toLower = '=') : char = '=' := by
  unfold Char.toLower at lowered
  split_ifs at lowered with upper
  · have low : 65 ≤ char.val.toNat := upper.1
    have high : char.val.toNat ≤ 90 := upper.2
    have value : (char.val + ('a'.val - 'A'.val)).toNat = 61 :=
      congrArg (fun c : Char => c.val.toNat) lowered
    rw [UInt32.toNat_add, show ('a'.val - 'A'.val).toNat = 32 by decide] at value
    omega
  · exact lowered

/-- A variable of a query. Its name holds neither of the characters that end a name,
and its value is a string. -/
structure Field where
  name : Text
  value : Text
  closed : ∀ char ∈ name, char ≠ '&' ∧ char ≠ '='
  bytes : ∀ char ∈ value, char.toNat < 256 ∧ char ≠ nul

def fieldText (field : Field) : Text := field.name ++ '=' :: encodeValue field.value

def queryText : List Field → Text
  | [] => []
  | [field] => fieldText field
  | field :: next :: rest => fieldText field ++ '&' :: queryText (next :: rest)

/-- Names are compared without their case. -/
def hasName (name : Text) (field : Field) : Bool :=
  field.name.map Char.toLower = name.map Char.toLower

/-- What `mg_get_http_var` looks for at the beginning of a variable. -/
theorem field_begins {name : Text} (closed : '=' ∉ name) (field : Field) (rest : Text) :
    (((fieldText field ++ rest).take name.length).map Char.toLower = name.map Char.toLower ∧
      ((fieldText field ++ rest).drop name.length).head? = some '=') ↔
        hasName name field = true := by
  have shape : fieldText field ++ rest =
      field.name ++ '=' :: (encodeValue field.value ++ rest) := by
    rw [fieldText, List.append_assoc, List.cons_append]
  rw [shape, hasName, decide_eq_true_eq]
  constructor
  · rintro ⟨same, ended⟩
    rcases lt_trichotomy name.length field.name.length with shorter | long | longer
    · -- the name of the variable goes on where an end is looked for
      rw [List.drop_append_of_le_length shorter.le, List.head?_append_of_ne_nil _
        (List.ne_nil_of_length_pos (by rw [List.length_drop]; omega))] at ended
      have member := List.mem_of_mem_drop (List.mem_of_mem_head? ended)
      exact absurd rfl (field.closed '=' member).2
    · rw [List.take_append_of_le_length long.le, List.take_of_length_le long.ge] at same
      exact same
    · -- the name looked for would hold an end
      rw [List.take_append, show name.length - field.name.length =
        name.length - field.name.length - 1 + 1 by omega, List.take_succ_cons] at same
      have member : '=' ∈ name.map Char.toLower := by
        rw [← same, List.map_append, List.map_cons]
        exact List.mem_append_right _ List.mem_cons_self
      obtain ⟨char, inside, lowered⟩ := List.mem_map.mp member
      exact absurd (to_lower_ends lowered ▸ inside) closed
  · intro same
    have long : name.length = field.name.length := by
      have lengths := congrArg List.length same
      simpa using lengths.symm
    rw [long, List.take_left, List.drop_left]
    exact ⟨same, rfl⟩

/-- No variable begins before the next separator. -/
theorem find_passes {name word : Text} (plain : '&' ∉ word) (rest : Text) :
    findHttpVar name false (word ++ rest) = findHttpVar name false rest := by
  induction word with
  | nil => rfl
  | cons char word ih =>
      have other : char ≠ '&' := fun same => plain (same ▸ List.mem_cons_self)
      have tail := ih fun member => plain (List.mem_cons_of_mem _ member)
      rw [List.cons_append, findHttpVar, if_neg (by simp), decide_eq_false other, tail]

theorem field_text_closed (field : Field) : '&' ∉ fieldText field := by
  intro member
  rcases List.mem_append.mp member with name | value
  · exact (field.closed '&' name).1 rfl
  · rcases List.mem_cons.mp value with same | inside
    · exact absurd same (by decide)
    · exact encode_value_closed (fun char member => (field.bytes char member).1) inside

/-- A search that stands at the beginning of a variable takes its value or passes it. -/
theorem find_at_field {name : Text} (closed : '=' ∉ name) (field : Field) (rest : Text) :
    findHttpVar name true (fieldText field ++ rest) =
      if hasName name field then some ((encodeValue field.value ++ rest).takeWhile (· ≠ '&'))
      else findHttpVar name false rest := by
  have begins := field_begins closed field rest
  obtain ⟨char, tail, shape⟩ : ∃ char tail, fieldText field ++ rest = char :: tail :=
    List.exists_cons_of_ne_nil (by simp [fieldText])
  by_cases named : hasName name field = true
  · have long : name.length = field.name.length := by
      have lengths := congrArg List.length (of_decide_eq_true named)
      simpa using lengths.symm
    have value : (fieldText field ++ rest).drop (name.length + 1) =
        encodeValue field.value ++ rest := by
      rw [fieldText, List.append_assoc, long, List.drop_append, List.drop_of_length_le
        (Nat.le_succ _), Nat.add_sub_cancel_left]
      rfl
    rw [if_pos named, ← value, shape, findHttpVar, if_pos ⟨rfl, shape ▸ begins.mpr named⟩]
  · rw [if_neg named, ← find_passes (field_text_closed field) rest, shape, findHttpVar,
      findHttpVar, if_neg fun found => named (begins.mp (shape ▸ found.2)), if_neg (by simp)]

def valueOf (name : Text) (fields : List Field) : Text :=
  ((fields.find? (hasName name)).map Field.value).getD []

theorem find_query {name : Text} (closed : '=' ∉ name) (fields : List Field) :
    findHttpVar name true (queryText fields) =
      (fields.find? (hasName name)).map fun field => encodeValue field.value := by
  have whole (field : Field) {rest : Text} (ended : rest = [] ∨ ∃ later, rest = '&' :: later) :
      (encodeValue field.value ++ rest).takeWhile (· ≠ '&') = encodeValue field.value := by
    have shown : ∀ char ∈ encodeValue field.value, decide (char ≠ '&') = true := by
      intro char member
      apply decide_eq_true
      rintro rfl
      exact encode_value_closed (fun char inside => (field.bytes char inside).1) member
    rw [List.takeWhile_append_of_pos shown]
    rcases ended with rfl | ⟨later, rfl⟩
    · exact List.append_nil _
    · rw [List.takeWhile_cons_of_neg (by simp), List.append_nil]
  induction fields with
  | nil => rfl
  | cons field rest ih =>
      cases rest with
      | nil =>
          have found := find_at_field closed field []
          rw [List.append_nil] at found
          rw [queryText, found, whole field (Or.inl rfl), List.find?_cons]
          cases hasName name field <;> rfl
      | cons next rest =>
          rw [queryText, find_at_field closed, whole field (Or.inr ⟨_, rfl⟩), List.find?_cons]
          cases named : hasName name field with
          | true => rfl
          | false =>
              rw [if_neg Bool.false_ne_true, findHttpVar, if_neg (by simp),
                decide_eq_true rfl, ih]

/-- Whatever the buffer held before, it begins with the value and a terminator. -/
theorem read_field {name : Text} (closed : '=' ∉ name) (fields : List Field) (buf : Text) :
    ∃ rest, mgGetHttpVar (queryText fields) name buf =
      (valueOf name fields).take (buflen - 1) ++ nul :: rest := by
  unfold mgGetHttpVar valueOf
  rw [find_query closed]
  cases fields.find? (hasName name) with
  | none => exact ⟨buf.drop 1, rfl⟩
  | some field =>
      simp only [Option.map_some, Option.getD_some,
        decode_encode_value fun char member => (field.bytes char member).1, if_true, overwrite]
      exact ⟨_, by rw [List.append_assoc, List.singleton_append]⟩

theorem value_visible (name : Text) (fields : List Field) :
    nul ∉ (valueOf name fields).take (buflen - 1) := by
  intro member
  unfold valueOf at member
  cases found : fields.find? (hasName name) with
  | none => simp [found] at member
  | some field =>
      rw [found] at member
      exact (field.bytes nul (List.mem_of_mem_take member)).2 rfl

/-- Reading a variable gives the value of the first field of that name, cut where the
buffer ends, and no text when there is none. -/
theorem query_variable_reads_back {name : Text} (closed : '=' ∉ name) (fields : List Field)
    (buf : Text) :
    cString (mgGetHttpVar (queryText fields) name buf) =
      (valueOf name fields).take (buflen - 1) := by
  obtain ⟨rest, read⟩ := read_field closed fields buf
  rw [read]
  exact c_string_terminated (value_visible name fields) rest

def benchFields : List Field :=
  [{ name := "time".toList, value := "6:30".toList,
      closed := List.all_iff_forall_prop.mp (by decide),
      bytes := List.all_iff_forall_prop.mp (by decide) },
    { name := "Day".toList, value := "a b&c=".toList,
      closed := List.all_iff_forall_prop.mp (by decide),
      bytes := List.all_iff_forall_prop.mp (by decide) }]

theorem query_variable_reads_back_escaped :
    cString (mgGetHttpVar (queryText benchFields) "day".toList "calcfg".toList) =
      "a b&c=".toList :=
  query_variable_reads_back (by decide) benchFields "calcfg".toList

end Fields

end SprinklerD.QueryFields
