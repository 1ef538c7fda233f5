import SprinklerD.Broadcast
import SprinklerD.DomoticzScan
import Mathlib.Data.List.TakeWhile

/-!
# Messages for Domoticz

`build_dz_mqtt_status_JSON` and `build_dz_status_message_JSON` of `json_messages.c`, and what
the parser of the daemon makes of them. The buffers are taken to be large enough.
-/

namespace SprinklerD.DomoticzMessages

open Foundation.MachineInt Foundation.Decimal Foundation.CString Foundation.FlatJson
open SprinklerD.Config SprinklerD.Broadcast SprinklerD.DomoticzParser SprinklerD.DomoticzScan

set_option autoImplicit false

def tempUnknown : CFloat := .finite (-1)

/-- The format of both builders, with what stands between the last quotes. -/
def dzText (idx nvalue : Int) (svalue : Text) : Text :=
  "\x7b\"idx\":".toList ++ printInt idx ++ ",\"nvalue\":".toList ++ printInt nvalue ++
    ",\"svalue\":\"".toList ++ svalue ++ "\"\x7d".toList

def buildDzMqttStatusJSON (lib : CLibrary) (idx nvalue : Int) (tvalue : CFloat) : Text :=
  if tvalue.same tempUnknown then dzText idx nvalue []
  else dzText idx nvalue (lib.twoDecimals tvalue)

def buildDzStatusMessageJSON (idx nvalue : Int) (svalue : Text) : Text :=
  dzText idx nvalue (cString svalue)

/-- The parser answers with these numbers, whatever it was called with and whatever follows
the message in memory. -/
def ReadsBack (text : Text) (idx nvalue : Int) : Prop :=
  ∀ junk idxBefore nvalueBefore,
    let parsed := parseJSONmqttrequest (text ++ nul :: junk) text.length idxBefore nvalueBefore
      svalue2Name
    parsed.1 = true ∧ parsed.2.idx = idx ∧ parsed.2.nvalue = nvalue

variable {junk : Text}

section Numbers

theorem bare_print_int (value : Int) : Bare (printInt value) := by
  intro char member mark
  simp only [List.mem_cons, List.not_mem_nil, or_false] at mark
  rcases of_mem_print_int member with rfl | digit
  · exact absurd mark (by decide)
  · rcases mark with rfl | rfl | rfl | rfl <;> exact absurd digit (by decide)

/-- The scan reads a number and goes on behind the comma. -/
theorem scan_printed {name : Text} {found : Nat} (number : name = idxName ∨ name = nvalueName)
    {value : Int} (fits : -2 ^ 31 ≤ value ∧ value < 2 ^ 31) (more : Text)
    (request : DomoticzRequest) (few : found < 3) :
    scanText junk (name ++ ':' :: (printInt value ++ ',' :: more)) found request =
      scanText junk more (found + 1) (withNumber name value request) := by
  have named : name ∈ quotedNames := by rcases number with rfl | rfl <;> decide
  obtain ⟨inner, quote, -⟩ := quoted_name_shape named
  have plain : Bare ([] : Text) := fun char member => absurd member List.not_mem_nil
  have leads := @read_quoted_number found name _
    (':' :: (printInt value ++ ',' :: more) ++ nul :: junk) request number rfl
  have read := fun before => @read_number_colon [] (printInt value) ',' (more ++ nul :: junk) before
    plain (bare_print_int value) (Or.inl rfl)
  have same := atoi_print_int value (more ++ nul :: junk) (show ','.isDigit = false by decide)
  rw [(atoi_value_iff value).mpr fits] at same
  have text : ':' :: (printInt value ++ ',' :: more) ++ nul :: junk =
      [] ++ ':' :: (printInt value ++ ',' :: (more ++ nul :: junk)) := by
    simp
  rw [text, read, same, ← text] at leads
  simp only [List.length_nil, Nat.zero_add] at leads
  rw [scan_jump quote leads, if_neg (by omega)]
  congr 1
  simp

theorem scan_both_numbers {idx nvalue : Int} (idxFits : -2 ^ 31 ≤ idx ∧ idx < 2 ^ 31)
    (nvalueFits : -2 ^ 31 ≤ nvalue ∧ nvalue < 2 ^ 31) (more : Text) (request : DomoticzRequest) :
    scanText junk ('{' :: (idxName ++ ':' :: (printInt idx ++ ',' :: (nvalueName ++ ':' ::
        (printInt nvalue ++ ',' :: more))))) 0 request =
      scanText junk more 2 { request with idx := idx, nvalue := nvalue } := by
  have first := @scan_printed junk idxName 0 (Or.inl rfl) idx idxFits
    (nvalueName ++ ':' :: (printInt nvalue ++ ',' :: more)) request (by decide)
  have second := @scan_printed junk nvalueName 1 (Or.inr rfl) nvalue nvalueFits more
    (withNumber idxName idx request) (by decide)
  have names : nvalueName ≠ idxName := by decide
  have opened := @scan_other junk '{' (idxName ++ ':' :: (printInt idx ++ ',' :: (nvalueName ++
    ':' :: (printInt nvalue ++ ',' :: more)))) 0 request (by decide) (by decide)
  rw [opened, first, second, withNumber, if_neg names, withNumber, if_pos rfl]

end Numbers

section Texts

/-- Between quotes a text without quotes has a key name in it only if it is one. -/
theorem apart_of_no_quote {text : Text} (noQuote : '"' ∉ text)
    (unnamed : quoted text ∉ quotedNames) : Apart (quoted text) := by
  rintro name named ⟨front, back, whole⟩
  obtain ⟨inner, shape, -⟩ := quoted_name_shape named
  have counted := congrArg (List.count '"') whole
  have none : text.count '"' = 0 := List.count_eq_zero.mpr noQuote
  simp only [shape, quoted, List.count_append, List.count_cons_self, List.cons_append,
    List.count_nil, none] at counted
  have noFront : '"' ∉ front := List.count_eq_zero.mp (by omega)
  have noBack : '"' ∉ back := List.count_eq_zero.mp (by omega)
  have first : front = [] := by
    cases front with
    | nil => rfl
    | cons char front =>
        rw [(List.cons.inj whole).1] at noFront
        exact absurd List.mem_cons_self noFront
  have last : back = [] := by
    rcases List.eq_nil_or_concat' back with empty | ⟨before, char, rfl⟩
    · exact empty
    · rw [← List.append_assoc] at whole
      have closes := List.append_inj_right' (whole : _ = ('"' :: text) ++ ['"']) rfl
      rw [(List.cons.inj closes).1] at noBack
      exact absurd (List.mem_append_right _ List.mem_cons_self) noBack
  rw [first, last, List.nil_append, List.append_nil] at whole
  exact unnamed (whole ▸ named)

/-- The last character of a message leads to nothing. -/
theorem scan_closing (found : Nat) (request : DomoticzRequest) (few : found < 4) :
    scanText junk ['}'] found request = (decide (2 ≤ found), request) :=
  scan_bare (List.forall_mem_singleton.mpr (by decide)) few request

/-- A key name at the end of a message has nothing behind it to read. -/
theorem scan_name_last {name : Text} (named : name ∈ quotedNames) (found : Nat)
    (request : DomoticzRequest) (few : found < 4) :
    scanText junk (name ++ ['}']) found request = (decide (2 ≤ found), request) := by
  have bare : Bare ['}'] := List.forall_mem_singleton.mpr (by decide)
  have finish (leads : readQuoted svalue2Name (name ++ (['}'] ++ nul :: junk)) found request =
      (found, request, name.length + 1)) : scanText junk (name ++ ['}']) found request =
        (decide (2 ≤ found), request) := by
    obtain ⟨inner, quote, -⟩ := quoted_name_shape named
    rw [scan_jump quote leads, if_neg (by omega)]
    exact scan_end found request
  simp only [quotedNames, List.mem_cons, List.not_mem_nil, or_false] at named
  rcases named with rfl | rfl | rfl
  · have leads := @read_quoted_number found idxName _ (['}'] ++ nul :: junk) request (Or.inl rfl) rfl
    rw [read_number_bare junk _ bare (Or.inr rfl)] at leads
    exact finish leads
  · have leads := @read_quoted_number found nvalueName _ (['}'] ++ nul :: junk) request
      (Or.inr rfl) rfl
    rw [read_number_bare junk _ bare (Or.inr rfl)] at leads
    exact finish leads
  · have leads := @read_quoted_svalue found svalue2Name (['}'] ++ nul :: junk) request rfl
    exact finish leads

/-- Behind the two numbers nothing changes them. -/
theorem scan_svalue {svalue : Text} (noQuote : '"' ∉ svalue) (visible : nul ∉ svalue)
    (request : DomoticzRequest) :
    scanText junk (quoted "svalue".toList ++ ':' :: (quoted svalue ++ ['}'])) 2 request =
      (true, request) := by
  have key : Unnamed (quoted "svalue".toList) (':' :: (quoted svalue ++ ['}'])) :=
    unnamed_quoted (by unfold Apart; decide) (by decide)
  rw [scan_unnamed request (by decide) (by decide) key, scan_other _ _ _ (by decide) (by decide)]
  by_cases named : quoted svalue ∈ quotedNames
  · exact scan_name_last named 2 request (by decide)
  · have value : Unnamed (quoted svalue) ['}'] :=
      unnamed_quoted (apart_of_no_quote noQuote named) (by decide)
    have shown : nul ∉ quoted svalue := by
      simpa [quoted, nul] using visible
    rw [scan_unnamed request (by decide) shown value, scan_closing 2 request (by decide)]
    rfl

theorem dz_text_fields (idx nvalue : Int) (svalue : Text) :
    dzText idx nvalue svalue = '{' :: (idxName ++ ':' :: (printInt idx ++ ',' :: (nvalueName ++
      ':' :: (printInt nvalue ++ ',' ::
        (quoted "svalue".toList ++ ':' :: (quoted svalue ++ ['}'])))))) := by
  have front : "\x7b\"idx\":".toList = '{' :: (idxName ++ [':']) := by decide
  have middle : ",\"nvalue\":".toList = ',' :: (nvalueName ++ [':']) := by decide
  have back : ",\"svalue\":\"".toList = ',' :: (quoted "svalue".toList ++ [':', '"']) := by decide
  have closing : "\"\x7d".toList = ['"', '}'] := by decide
  have shape (first second third : Text) : '{' :: (first ++ [':']) ++ printInt idx ++
      ',' :: (second ++ [':']) ++ printInt nvalue ++ ',' :: (third ++ [':', '"']) ++ svalue ++
        ['"', '}'] = '{' :: (first ++ ':' :: (printInt idx ++ ',' :: (second ++ ':' ::
          (printInt nvalue ++ ',' :: (third ++ ':' :: (quoted svalue ++ ['}'])))))) := by
    simp [quoted]
  unfold dzText
  simp only [front, middle, back, closing]
  exact shape idxName nvalueName (quoted "svalue".toList)

theorem dz_text_reads_back {idx nvalue : Int} {svalue : Text}
    (idxFits : -2 ^ 31 ≤ idx ∧ idx < 2 ^ 31) (nvalueFits : -2 ^ 31 ≤ nvalue ∧ nvalue < 2 ^ 31)
    (noQuote : '"' ∉ svalue) (visible : nul ∉ svalue) :
    ReadsBack (dzText idx nvalue svalue) idx nvalue := by
  intro junk idxBefore nvalueBefore
  have both := @scan_both_numbers junk idx nvalue idxFits nvalueFits
    (quoted "svalue".toList ++ ':' :: (quoted svalue ++ ['}'])) ⟨idxBefore, nvalueBefore, []⟩
  rw [← dz_text_fields, scan_svalue noQuote visible] at both
  unfold scanText at both
  simp only [parseJSONmqttrequest, both, and_self]

/-- What is sent to Domoticz is read back with the numbers that were sent, for every status
text without quotes. -/
theorem messages_read_back {idx nvalue : Int} (idxFits : -2 ^ 31 ≤ idx ∧ idx < 2 ^ 31)
    (nvalueFits : -2 ^ 31 ≤ nvalue ∧ nvalue < 2 ^ 31) (lib : CLibrary) {svalue : Text}
    (noQuote : '"' ∉ cString svalue) :
    ReadsBack (buildDzMqttStatusJSON lib idx nvalue tempUnknown) idx nvalue ∧
      ReadsBack (buildDzStatusMessageJSON idx nvalue svalue) idx nvalue := by
  constructor
  · rw [buildDzMqttStatusJSON, if_pos (by decide)]
    exact dz_text_reads_back idxFits nvalueFits List.not_mem_nil List.not_mem_nil
  · exact dz_text_reads_back idxFits nvalueFits noQuote (nul_not_in_c_string svalue)

theorem messages_read_back_bounds :
    ReadsBack (buildDzMqttStatusJSON benchLibrary (-2 ^ 31) (2 ^ 31 - 1)
        tempUnknown) (-2 ^ 31) (2 ^ 31 - 1) ∧
      ReadsBack (buildDzStatusMessageJSON (-2 ^ 31) (2 ^ 31 - 1) "a: 1, b:-2".toList)
        (-2 ^ 31) (2 ^ 31 - 1) :=
  messages_read_back (by decide) (by decide) benchLibrary (by decide)

end Texts

end SprinklerD.DomoticzMessages
