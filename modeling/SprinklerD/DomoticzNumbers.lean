import SprinklerD.DomoticzScan
import Mathlib.Data.List.Nodup

/-!
# The numbers of a Domoticz message

What the scan reads of fields that are not the string: their numbers, in order. It stops at
the fourth field found.
-/

namespace SprinklerD.DomoticzNumbers

open Foundation.CString Foundation.FlatJson
open SprinklerD.Config SprinklerD.DomoticzParser SprinklerD.DomoticzScan

set_option autoImplicit false

/-- The key of the field, as the parser looks for it. -/
def nameOf (field : Field) : Text := quoted field.key

def IsNumber (field : Field) : Prop := nameOf field = idxName ∨ nameOf field = nvalueName

instance (field : Field) : Decidable (IsNumber field) := inferInstanceAs (Decidable (_ ∨ _))

def numberOf (name : Text) (request : DomoticzRequest) : Int :=
  if name = idxName then request.idx else request.nvalue

def HasField (fields : List Field) (name : Text) : Prop := ∃ field ∈ fields, nameOf field = name

instance (fields : List Field) (name : Text) : Decidable (HasField fields name) :=
  inferInstanceAs (Decidable (∃ field ∈ fields, _))

def BothNumbers (fields : List Field) : Prop :=
  HasField fields idxName ∧ HasField fields nvalueName

instance (fields : List Field) : Decidable (BothNumbers fields) :=
  inferInstanceAs (Decidable (_ ∧ _))

section Reading

def readValue (field : Field) : Int :=
  match field.value with
  | .integer negative magnitude => atoiValue (signed negative magnitude)
  | .string .. => 0

def readNumbers : List Field → DomoticzRequest → DomoticzRequest
  | [], request => request
  | field :: rest, request =>
      readNumbers rest
        (if IsNumber field then withNumber (nameOf field) (readValue field) request else request)

def numberCount (fields : List Field) : Nat := fields.countP fun field => IsNumber field

structure NumberField (field : Field) : Prop where
  plain : PlainField field
  integer : IsNumber field → ∃ negative magnitude, field.value = .integer negative magnitude
  noString : nameOf field ≠ svalue2Name

variable {junk trail : Text} {found : Nat}

theorem number_no_comma {field : Field} (number : IsNumber field) {negative : Bool}
    {magnitude : Nat} (integer : field.value = .integer negative magnitude) :
    ',' ∉ field.text := by
  obtain ⟨before, beforeColon, afterColon, after⟩ := field_blank field
  have plain {text : Text} (bare : Bare text) : ',' ∉ text := fun member =>
    bare ',' member (by decide)
  have name : ',' ∉ quoted field.key := by
    rcases number with idx | nvalue
    · rw [show quoted field.key = idxName from idx]
      decide
    · rw [show quoted field.key = nvalueName from nvalue]
      decide
  have colon : ',' ≠ ':' := by decide
  simp only [Field.text, Field.tail, List.mem_append, List.mem_cons, not_or]
  exact ⟨plain (bare_of_blank before), name, plain (bare_of_blank beforeColon), colon,
    plain (bare_of_blank afterColon), plain (integer ▸ bare_integer negative magnitude),
    plain (bare_of_blank after)⟩

theorem number_count_cons (field : Field) (rest : List Field) :
    numberCount (field :: rest) = numberCount rest + if IsNumber field then 1 else 0 := by
  simp [numberCount, List.countP_cons]

theorem scan_field {field : Field} (fits : NumberField field)
    (blank : ∀ char ∈ trail, isBlank char = true) (rest : List Field) (request : DomoticzRequest)
    (few : found < 4) :
    scanText junk (fieldsText ('}' :: trail) (field :: rest)) found request =
      if IsNumber field then
        if 4 ≤ found + 1 then (true, withNumber (nameOf field) (readValue field) request)
        else scanText junk (fieldsText ('}' :: trail) rest) (found + 1)
          (withNumber (nameOf field) (readValue field) request)
      else scanText junk (fieldsText ('}' :: trail) rest) found request := by
  rw [fields_text_cons]
  by_cases number : IsNumber field
  · obtain ⟨negative, magnitude, integer⟩ := fits.integer number
    have value : readValue field = atoiValue (signed negative magnitude) := by
      rw [readValue, integer]
    rw [if_pos number, value]
    exact scan_number_field number integer blank rest request few
  · have apart : Apart (quoted field.key) := by
      rcases fits.plain.key with named | apart
      · simp only [quotedNames, List.mem_cons, List.not_mem_nil, or_false] at named
        exact absurd (named.elim Or.inl fun others =>
          others.elim Or.inr fun string => absurd string fits.noString) number
      · exact apart
    rw [if_neg number]
    exact scan_rest_of_field rest request few (nul_not_in_text field)
      (text_unnamed rest apart fits.plain.string)

/-- The scan of fields with too few numbers to end it. -/
theorem scan_front {front : List Field} (fit : ∀ field ∈ front, NumberField field)
    (blank : ∀ char ∈ trail, isBlank char = true) (rest : List Field) (request : DomoticzRequest)
    (few : found + numberCount front < 4) :
    scanText junk (fieldsText ('}' :: trail) (front ++ rest)) found request =
      scanText junk (fieldsText ('}' :: trail) rest) (found + numberCount front)
        (readNumbers front request) := by
  induction front generalizing found request with
  | nil => rfl
  | cons field front ih =>
      have later := fun found request few =>
        @ih found (fun other member => fit other (List.mem_cons_of_mem _ member)) request few
      rw [numberCount, List.countP_cons] at few ⊢
      rw [List.cons_append, scan_field (fit field List.mem_cons_self) blank _ _ (by omega),
        readNumbers]
      by_cases number : IsNumber field
      · simp only [number, decide_true, if_true] at few ⊢
        rw [if_neg (by omega), later _ _ (by rw [numberCount]; omega), numberCount]
        congr 1
        omega
      · simp only [number, decide_false, Bool.false_eq_true, if_false] at few ⊢
        rw [later _ _ (by rw [numberCount]; omega)]
        rfl

/-- The scan of fields without the string reads all of them, or ends with the fourth. -/
theorem scan_numbers {fields : List Field} (fit : ∀ field ∈ fields, NumberField field)
    (blank : ∀ char ∈ trail, isBlank char = true) (request : DomoticzRequest) (few : found < 4) :
    ∃ done, done <+: fields ∧
      scanText junk (fieldsText ('}' :: trail) fields) found request =
        (decide (2 ≤ found + numberCount done), readNumbers done request) ∧
      (done = fields ∨ found + numberCount done = 4) ∧ found + numberCount done ≤ 4 := by
  induction fields generalizing found request with
  | nil =>
      refine ⟨[], List.prefix_refl _, ?_, Or.inl rfl, few.le⟩
      exact scan_bare (bare_trail blank) few request
  | cons field rest ih =>
      have later := fun found request few =>
        @ih found (fun other member => fit other (List.mem_cons_of_mem _ member)) request few
      rw [scan_field (fit field List.mem_cons_self) blank rest request few]
      by_cases number : IsNumber field
      · rw [if_pos number]
        by_cases last : 4 ≤ found + 1
        · have fourth : found + numberCount [field] = 4 := by
            rw [number_count_cons, if_pos number, numberCount, List.countP_nil]
            omega
          refine ⟨[field], ⟨rest, rfl⟩, ?_, Or.inr fourth, fourth.le⟩
          · rw [if_pos last, number_count_cons, if_pos number]
            simp only [readNumbers, if_pos number, Prod.mk.injEq, and_true]
            exact (decide_eq_true (by omega)).symm
        · obtain ⟨done, front, result, ended, short⟩ := later (found + 1)
            (withNumber (nameOf field) (readValue field) request) (by omega)
          refine ⟨field :: done, List.cons_prefix_cons.mpr ⟨rfl, front⟩, ?_, ?_, ?_⟩
          · rw [if_neg last, result, number_count_cons, if_pos number, readNumbers, if_pos number,
              Nat.add_assoc, Nat.add_comm 1]
          · rw [number_count_cons, if_pos number]
            exact ended.imp (congrArg _) (by omega)
          · rw [number_count_cons, if_pos number]
            omega
      · obtain ⟨done, front, result, ended, short⟩ := later found request few
        refine ⟨field :: done, List.cons_prefix_cons.mpr ⟨rfl, front⟩, ?_, ?_, ?_⟩
        · rw [if_neg number, result, number_count_cons, if_neg number, readNumbers, if_neg number,
            Nat.add_zero]
        · rw [number_count_cons, if_neg number]
          exact ended.imp (congrArg _) (by omega)
        · rw [number_count_cons, if_neg number]
          omega

end Reading

section Counting

variable {fields : List Field}

theorem name_apart (apart : (fields.map Field.key).Nodup) {first second : Field}
    (inside : first ∈ fields) (otherInside : second ∈ fields)
    (same : nameOf first = nameOf second) : first = second := by
  apply List.inj_on_of_nodup_map apart inside otherInside
  exact List.append_cancel_right (List.cons.inj same).2

theorem has_field_cons (field : Field) (name : Text) :
    HasField (field :: fields) name ↔ nameOf field = name ∨ HasField fields name := by
  simp [HasField]

theorem not_has_field_again {field : Field} (apart : ((field :: fields).map Field.key).Nodup) :
    ¬ HasField fields (nameOf field) := by
  rintro ⟨other, inside, same⟩
  have equal := name_apart apart List.mem_cons_self (List.mem_cons_of_mem _ inside) same.symm
  exact (List.nodup_cons.mp apart).1 (List.mem_map.mpr ⟨other, inside, by rw [equal]⟩)

/-- With distinct keys the numbers are those of the two keys. -/
theorem number_count_eq (apart : (fields.map Field.key).Nodup) :
    numberCount fields = (if HasField fields idxName then 1 else 0) +
      (if HasField fields nvalueName then 1 else 0) := by
  induction fields with
  | nil => simp [numberCount, HasField]
  | cons field rest ih =>
      have again := not_has_field_again apart
      have names : nvalueName ≠ idxName := by decide
      simp only [number_count_cons, ih (List.nodup_cons.mp apart).2, has_field_cons, IsNumber]
      by_cases idx : nameOf field = idxName
      · rw [idx] at again
        simp only [idx, again, names.symm, true_or, false_or, if_true, if_false]
        omega
      · by_cases nvalue : nameOf field = nvalueName
        · rw [nvalue] at again
          simp only [nvalue, again, names, or_true, true_or, false_or, if_true, if_false]
        · simp only [idx, nvalue, false_or, or_self, if_false, Nat.add_zero]

theorem number_count_pos {field : Field} (inside : field ∈ fields) (number : IsNumber field) :
    1 ≤ numberCount fields :=
  List.countP_pos_iff.mpr ⟨field, inside, decide_eq_true number⟩

theorem number_count_zero (none : ∀ field ∈ fields, ¬ IsNumber field) : numberCount fields = 0 :=
  List.countP_eq_zero.mpr fun field inside => by simpa using none field inside

end Counting

section Numbers

variable {fields : List Field} {name : Text}

theorem number_of_with {field : Field} (number : IsNumber field) (value : Int)
    (request : DomoticzRequest) (named : name = idxName ∨ name = nvalueName) :
    numberOf name (withNumber (nameOf field) value request) =
      if nameOf field = name then value else numberOf name request := by
  have apart : nvalueName ≠ idxName := by decide
  unfold numberOf withNumber
  rcases number with idx | nvalue <;> rcases named with rfl | rfl
  · simp [idx]
  · simp [idx, apart, apart.symm]
  · simp [nvalue, apart]
  · simp [nvalue, apart]

theorem read_numbers_absent (named : name = idxName ∨ name = nvalueName)
    (absent : ¬ HasField fields name) (request : DomoticzRequest) :
    numberOf name (readNumbers fields request) = numberOf name request := by
  induction fields generalizing request with
  | nil => rfl
  | cons field rest ih =>
      have other : nameOf field ≠ name := fun same => absent ⟨field, List.mem_cons_self, same⟩
      have later := ih fun ⟨found, inside, same⟩ =>
        absent ⟨found, List.mem_cons_of_mem _ inside, same⟩
      rw [readNumbers, later]
      split_ifs with number
      · rw [number_of_with number _ _ named, if_neg other]
      · rfl

theorem read_numbers_present (apart : (fields.map Field.key).Nodup) {field : Field}
    (inside : field ∈ fields) (number : IsNumber field) (request : DomoticzRequest) :
    numberOf (nameOf field) (readNumbers fields request) = readValue field := by
  induction fields generalizing request with
  | nil => exact absurd inside List.not_mem_nil
  | cons first rest ih =>
      have apartRest := (List.nodup_cons.mp apart).2
      rw [readNumbers]
      rcases List.mem_cons.mp inside with rfl | later
      · rw [read_numbers_absent number (not_has_field_again apart), if_pos number,
          number_of_with number _ _ number, if_pos rfl]
      · exact ih apartRest later _

theorem read_numbers_svalue (request : DomoticzRequest) :
    (readNumbers fields request).svalue = request.svalue := by
  induction fields generalizing request with
  | nil => rfl
  | cons field rest ih =>
      rw [readNumbers, ih]
      unfold withNumber
      split_ifs <;> rfl

theorem read_numbers_string (svalue : Text) (request : DomoticzRequest) :
    readNumbers fields { request with svalue := svalue } =
      { readNumbers fields request with svalue := svalue } := by
  induction fields generalizing request with
  | nil => rfl
  | cons field rest ih =>
      rw [readNumbers, readNumbers, ← ih]
      congr 1
      unfold withNumber
      split_ifs <;> rfl

theorem read_numbers_append (front done : List Field) (request : DomoticzRequest) :
    readNumbers (front ++ done) request = readNumbers done (readNumbers front request) := by
  induction front generalizing request with
  | nil => rfl
  | cons field front ih => exact ih _

end Numbers

end SprinklerD.DomoticzNumbers
