import SprinklerD.DomoticzNumbers
import SprinklerD.DomoticzStrings

/-!
# Which Domoticz messages are read right

The parser counts what it has found, in whatever field. The result says for which objects its
answer, the two numbers and the string are those of the object.
-/

namespace SprinklerD.DomoticzRequests

open Foundation.CString Foundation.FlatJson
open SprinklerD.Config SprinklerD.NetServices
open SprinklerD.DomoticzParser SprinklerD.DomoticzScan SprinklerD.DomoticzReach
open SprinklerD.DomoticzNumbers SprinklerD.DomoticzStrings

set_option autoImplicit false

/-- The call on the text of an object, with any memory behind its terminator. -/
def parsed (object : DomoticzObject) (junk : Text) (idx nvalue : Int) : Bool × DomoticzRequest :=
  parseJSONmqttrequest (object.text ++ nul :: junk) object.text.length idx nvalue svalue2Name

def ReadRight (object : DomoticzObject) (field : Field) : Prop :=
  ∀ negative magnitude, field.value = .integer negative magnitude → ∀ junk idx nvalue,
    numberOf (nameOf field) (parsed object junk idx nvalue).2 = signed negative magnitude

/-- The number is one an `int` can hold. -/
def Fits (field : Field) : Prop :=
  ∀ negative magnitude, field.value = .integer negative magnitude →
    -2 ^ 31 ≤ signed negative magnitude ∧ signed negative magnitude < 2 ^ 31

structure ParsedRight (object : DomoticzObject) : Prop where
  answer : ∀ junk idx nvalue,
    (parsed object junk idx nvalue).1 = true ↔ BothNumbers object.fields
  numbers : BothNumbers object.fields → ∀ field ∈ object.fields, IsNumber field →
    ReadRight object field
  string : ∀ field ∈ object.fields, nameOf field = svalue2Name → ∀ raw value spells,
    field.value = .string raw value spells → value.length < dzSvalueLen →
      ∀ junk idx nvalue, (parsed object junk idx nvalue).2.svalue = value

/-- The colons from the key of the string up to the comma that ends its loop, where those with
only quotes and spaces between them count once. -/
def stringGroups (object : DomoticzObject) (field : Field) (rest : List Field) : Nat :=
  groups false (reach false (stringText object.trail field rest))

/-- The condition on an object. With the string, it has both numbers or neither, since what the
string loop counts stands for a number otherwise; and no number behind the string is run over,
or left out because the fourth field found ends the scan. -/
structure ObjectClear (object : DomoticzObject) : Prop where
  answer : ∀ front field rest, object.fields = front ++ field :: rest → nameOf field = svalue2Name →
    BothNumbers object.fields ∨
      ((∀ number ∈ object.fields, ¬ IsNumber number) ∧ stringGroups object field rest = 1)
  fits : BothNumbers object.fields → ∀ field ∈ object.fields, IsNumber field → Fits field
  unhidden : BothNumbers object.fields → ∀ front field rest,
    object.fields = front ++ field :: rest → nameOf field = svalue2Name →
      ∀ number ∈ rest, IsNumber number →
        number ∈ unreached field.tail rest ∧ stringGroups object field rest ≤ 2
  string : ∀ field ∈ object.fields, nameOf field = svalue2Name → ∀ raw value spells,
    field.value = .string raw value spells → value.length < dzSvalueLen →
      Copied field.afterColon raw value

section Runs

variable {object : DomoticzObject} {junk : Text} {idx nvalue : Int}

theorem object_blank (object : DomoticzObject) :
    (∀ char ∈ object.lead, isBlank char = true) ∧ (∀ char ∈ object.inner, isBlank char = true) ∧
      ∀ char ∈ object.trail, isBlank char = true := by
  have blank := object.blank
  simp only [List.forall_mem_append] at blank
  exact ⟨blank.1.1, blank.1.2, blank.2⟩

theorem number_field {field : Field} (inside : field ∈ object.fields)
    (noString : nameOf field ≠ svalue2Name) : NumberField field where
  plain := plain_fields object field inside
  integer := object.numbers field inside
  noString := noString

/-- Nothing before the first field means anything to the scan. -/
theorem parsed_fields (object : DomoticzObject) (junk : Text) (idx nvalue : Int) :
    parsed object junk idx nvalue =
      scanText junk (fieldsText ('}' :: object.trail) object.fields) 0 ⟨idx, nvalue, []⟩ := by
  obtain ⟨lead, inner, -⟩ := object_blank object
  change scanText junk object.text 0 ⟨idx, nvalue, []⟩ = _
  rw [FlatObject.text, scan_bare_before _ (bare_of_blank lead) (by decide),
    scan_other _ _ _ (by decide) (by decide), scan_bare_before _ (bare_of_blank inner) (by decide)]
  rfl

theorem parsed_without_string (none : ¬ HasField object.fields svalue2Name) :
    parsed object junk idx nvalue =
      (decide (2 ≤ numberCount object.fields), readNumbers object.fields ⟨idx, nvalue, []⟩) := by
  have fit : ∀ field ∈ object.fields, NumberField field := fun field inside =>
    number_field inside fun named => none ⟨field, inside, named⟩
  obtain ⟨done, front, result, ended, -⟩ := @scan_numbers junk object.trail 0 object.fields fit
    (object_blank object).2.2 ⟨idx, nvalue, []⟩ (by decide)
  have few := number_count_eq object.keysApart
  have part : numberCount done ≤ numberCount object.fields := front.sublist.countP_le
  have whole : done = object.fields := by
    refine ended.resolve_right fun many => ?_
    split_ifs at few <;> omega
  rw [parsed_fields, result, whole, Nat.zero_add]

/-- How the scan of an object with the string ends: the fields before it, its groups, and
what has been read behind it. -/
structure StringRun (object : DomoticzObject) (front : List Field) (field : Field)
    (rest : List Field) (junk : Text) (idx nvalue : Int) (done : List Field) (svalue : Text) :
    Prop where
  copied : svalue =
    (readSvalue false (stringText object.trail field rest ++ nul :: junk) []).value
  result : parsed object junk idx nvalue =
    (decide (2 ≤ numberCount front + stringGroups object field rest + numberCount done),
      readNumbers done { readNumbers front ⟨idx, nvalue, []⟩ with svalue := svalue })
  onward : done <+: unreached field.tail rest
  ended : done = unreached field.tail rest ∨
    4 ≤ numberCount front + stringGroups object field rest + numberCount done
  few : done = [] ∨ numberCount front + stringGroups object field rest + numberCount done ≤ 4

theorem unreached_suffix (text : Text) (rest : List Field) : unreached text rest <:+ rest := by
  induction rest generalizing text with
  | nil => exact unreached_nil text ▸ List.suffix_refl _
  | cons field rest ih =>
      rw [unreached]
      split_ifs
      · exact (ih field.text).trans (List.suffix_cons field rest)
      · exact List.suffix_refl _

theorem split_apart {front rest : List Field} {field : Field}
    (split : object.fields = front ++ field :: rest) :
    (∀ other ∈ front, nameOf other ≠ nameOf field) ∧ (∀ other ∈ rest, nameOf other ≠ nameOf field) ∧
      ((front ++ rest).map Field.key).Nodup := by
  have apart := object.keysApart
  rw [split, List.map_append, List.map_cons, List.nodup_middle] at apart
  obtain ⟨alone, others⟩ := List.nodup_cons.mp apart
  rw [← List.map_append] at alone others
  have differs : ∀ other ∈ front ++ rest, nameOf other ≠ nameOf field := by
    intro other inside same
    have key := List.append_cancel_right (List.cons.inj same).2
    exact alone (List.mem_map.mpr ⟨other, inside, key⟩)
  exact ⟨fun other inside => differs other (List.mem_append_left _ inside),
    fun other inside => differs other (List.mem_append_right _ inside), others⟩

theorem number_count_le {fields : List Field} (apart : (fields.map Field.key).Nodup) :
    numberCount fields ≤ 2 := by
  have count := number_count_eq apart
  split_ifs at count <;> omega

theorem string_groups_pos (object : DomoticzObject) (field : Field) (rest : List Field) :
    1 ≤ stringGroups object field rest := by
  have bare := bare_of_blank (field_blank field).2.1
  have noComma : ',' ∉ field.beforeColon ++ [':'] := by
    have front := fun member => bare ',' member (by decide)
    simpa using front
  have colon : 1 ≤ groups false (field.beforeColon ++ [':']) := groups_pos (by simp)
  have text : stringText object.trail field rest = field.beforeColon ++ [':'] ++
      (field.afterColon ++ (field.value.text ++ field.after) ++
        behind ('}' :: object.trail) rest) := by
    simp [stringText, Field.tail]
  rw [stringGroups, text, reach_append, if_pos (reach_of_no_comma false noComma), groups_append]
  omega

/-- A number the string loop has run over is counted too. -/
theorem string_groups_hidden {field number : Field} {rest : List Field}
    (inside : number ∈ rest) (isNumber : IsNumber number)
    (integer : ∃ negative magnitude, number.value = .integer negative magnitude)
    (hidden : number ∉ unreached field.tail rest) : 2 ≤ stringGroups object field rest := by
  obtain ⟨negative, magnitude, integer⟩ := integer
  obtain ⟨passes, counted⟩ := @hidden_number object.trail field.tail rest number inside hidden
    (number_no_comma isNumber integer)
  cases rest with
  | nil => exact absurd inside List.not_mem_nil
  | cons next rest =>
      have own : 1 ≤ groups false (field.tail ++ [',']) := groups_pos (by simp [Field.tail])
      rw [stringGroups, stringText, behind, reach_passes _ passes, groups_passes]
      omega

theorem string_run {front rest : List Field} {field : Field}
    (split : object.fields = front ++ field :: rest) (named : nameOf field = svalue2Name)
    (junk : Text) (idx nvalue : Int) :
    ∃ done svalue, StringRun object front field rest junk idx nvalue done svalue := by
  have blank := (object_blank object).2.2
  have inside {other : Field} (member : other ∈ front ++ field :: rest) : other ∈ object.fields :=
    split ▸ member
  obtain ⟨frontApart, restApart, apart⟩ := split_apart split
  rw [named] at frontApart restApart
  have frontFits : ∀ other ∈ front, NumberField other := fun other member =>
    number_field (inside (List.mem_append_left _ member)) (frontApart other member)
  have restFits : ∀ other ∈ rest, NumberField other := fun other member =>
    number_field (inside (List.mem_append_right _ (List.mem_cons_of_mem _ member)))
      (restApart other member)
  have plain : ∀ other ∈ field :: rest, PlainField other := fun other member =>
    plain_fields object other (inside (List.mem_append_right _ member))
  have count := number_count_le apart
  rw [numberCount, List.countP_append, ← numberCount, ← numberCount] at count
  have begun : parsed object junk idx nvalue =
      scanText junk (field.text ++ behind ('}' :: object.trail) rest) (numberCount front)
        (readNumbers front ⟨idx, nvalue, []⟩) := by
    rw [parsed_fields, split, scan_front frontFits blank _ _ (by omega), Nat.zero_add,
      fields_text_cons]
  obtain ⟨svalue, copied, looped⟩ := @scan_svalue_field junk object.trail field
    (numberCount front) rest named plain blank (readNumbers front ⟨idx, nvalue, []⟩) (by omega)
  rw [read_numbers_svalue] at copied
  rw [looped, ← stringGroups] at begun
  by_cases enough : 4 ≤ numberCount front + stringGroups object field rest
  · refine ⟨[], svalue, copied, ?_, List.nil_prefix, Or.inr ?_, Or.inl rfl⟩
    · rw [begun, if_pos enough, readNumbers, Prod.mk.injEq]
      exact ⟨(decide_eq_true (by omega)).symm, rfl⟩
    · omega
  · have fit : ∀ other ∈ unreached field.tail rest, NumberField other := fun other member =>
      restFits other ((unreached_suffix _ _).subset member)
    obtain ⟨done, onward, result, ended, short⟩ := @scan_numbers junk object.trail
      (numberCount front + stringGroups object field rest) _ fit blank
      { readNumbers front ⟨idx, nvalue, []⟩ with svalue := svalue } (by omega)
    rw [if_neg enough, result] at begun
    exact ⟨done, svalue, copied, begun, onward, ended.imp_right (by omega), Or.inr short⟩

variable {front rest done : List Field} {field : Field} {svalue : Text}

theorem number_answers (split : object.fields = front ++ field :: rest)
    (named : nameOf field = svalue2Name)
    (run : StringRun object front field rest junk idx nvalue done svalue) {number : Field}
    (inside : number ∈ object.fields) (isNumber : IsNumber number) :
    (parsed object junk idx nvalue).1 = true := by
  have own := string_groups_pos object field rest
  rw [run.result, decide_eq_true_eq]
  rw [split, List.mem_append, List.mem_cons] at inside
  rcases inside with before | rfl | later
  · have counted := number_count_pos before isNumber
    omega
  · rw [IsNumber, named] at isNumber
    exact absurd isNumber (by decide)
  · by_cases seen : number ∈ unreached field.tail rest
    · rcases run.ended with whole | many
      · have counted := number_count_pos (whole ▸ seen) isNumber
        omega
      · omega
    · have integer := object.numbers number (split ▸ List.mem_append_right _
        (List.mem_cons_of_mem _ later)) isNumber
      have counted := @string_groups_hidden object field number rest later isNumber integer seen
      omega

theorem answer_without_numbers (split : object.fields = front ++ field :: rest)
    (run : StringRun object front field rest junk idx nvalue done svalue)
    (none : ∀ number ∈ object.fields, ¬ IsNumber number) :
    (parsed object junk idx nvalue).1 = true ↔ stringGroups object field rest ≠ 1 := by
  have own := string_groups_pos object field rest
  have inFront := number_count_zero fun number inside =>
    none number (split ▸ List.mem_append_left _ inside)
  have inDone := number_count_zero fun number inside =>
    none number (split ▸ List.mem_append_right _ (List.mem_cons_of_mem _
      ((unreached_suffix field.tail rest).subset (run.onward.subset inside))))
  rw [run.result, decide_eq_true_eq, inFront, inDone]
  omega

end Runs

section Answer

variable {object : DomoticzObject}

theorem number_of_both (both : BothNumbers object.fields) :
    ∃ number ∈ object.fields, IsNumber number := by
  obtain ⟨⟨number, inside, named⟩, -⟩ := both
  exact ⟨number, inside, Or.inl named⟩

theorem string_answer_iff {front rest : List Field} {field : Field}
    (split : object.fields = front ++ field :: rest) (named : nameOf field = svalue2Name)
    (junk : Text) (idx nvalue : Int) :
    ((parsed object junk idx nvalue).1 = true ↔ BothNumbers object.fields) ↔
      (BothNumbers object.fields ∨ ((∀ number ∈ object.fields, ¬ IsNumber number) ∧
        stringGroups object field rest = 1)) := by
  obtain ⟨done, svalue, run⟩ := string_run split named junk idx nvalue
  by_cases some : ∃ number ∈ object.fields, IsNumber number
  · obtain ⟨number, inside, isNumber⟩ := some
    have answered := number_answers split named run inside isNumber
    constructor
    · exact fun right => Or.inl (right.mp answered)
    · rintro (both | ⟨none, -⟩)
      · exact ⟨fun _ => both, fun _ => answered⟩
      · exact absurd isNumber (none number inside)
  · have none : ∀ number ∈ object.fields, ¬ IsNumber number := fun number inside isNumber =>
      some ⟨number, inside, isNumber⟩
    have notBoth : ¬ BothNumbers object.fields := fun both => some (number_of_both both)
    have answered := answer_without_numbers split run none
    constructor
    · intro right
      refine Or.inr ⟨none, ?_⟩
      by_contra more
      exact notBoth (right.mp (answered.mpr more))
    · rintro (both | ⟨-, alone⟩)
      · exact absurd both notBoth
      · exact ⟨fun yes => absurd alone (answered.mp yes), fun both => absurd both notBoth⟩

theorem answer_without_string (none : ¬ HasField object.fields svalue2Name) (junk : Text)
    (idx nvalue : Int) :
    (parsed object junk idx nvalue).1 = true ↔ BothNumbers object.fields := by
  rw [parsed_without_string none, decide_eq_true_eq, number_count_eq object.keysApart, BothNumbers]
  by_cases hasIdx : HasField object.fields idxName <;>
    by_cases hasNvalue : HasField object.fields nvalueName <;> simp [hasIdx, hasNvalue]

end Answer

section NumbersRead

variable {object : DomoticzObject} {junk svalue : Text} {idx nvalue : Int}
  {front rest done : List Field} {field number : Field}

theorem run_numbers (run : StringRun object front field rest junk idx nvalue done svalue)
    (name : Text) : numberOf name (parsed object junk idx nvalue).2 =
      numberOf name (readNumbers (front ++ done) ⟨idx, nvalue, []⟩) := by
  rw [run.result, read_numbers_string, read_numbers_append]
  rfl

/-- The fields whose numbers are read are fields of the object. -/
theorem run_inside (split : object.fields = front ++ field :: rest)
    (run : StringRun object front field rest junk idx nvalue done svalue) :
    (∀ number ∈ front ++ done, number ∈ object.fields) ∧
      ((front ++ done).map Field.key).Nodup := by
  have later : done.Sublist rest :=
    run.onward.sublist.trans (unreached_suffix field.tail rest).sublist
  have apart := (split_apart split).2.2
  constructor
  · intro number inside
    have whole := later.trans (List.sublist_cons_self field rest)
    rw [split]
    exact ((List.Sublist.refl front).append whole).subset inside
  · exact apart.sublist (((List.Sublist.refl front).append later).map Field.key)

theorem run_reads (split : object.fields = front ++ field :: rest)
    (run : StringRun object front field rest junk idx nvalue done svalue)
    (isNumber : IsNumber number) (read : number ∈ front ++ done) :
    numberOf (nameOf number) (parsed object junk idx nvalue).2 = readValue number := by
  rw [run_numbers run]
  exact read_numbers_present (run_inside split run).2 read isNumber _

theorem run_misses (split : object.fields = front ++ field :: rest)
    (run : StringRun object front field rest junk idx nvalue done svalue)
    (inside : number ∈ object.fields) (missed : number ∉ front ++ done) :
    ¬ HasField (front ++ done) (nameOf number) := by
  rintro ⟨other, read, same⟩
  have equal := name_apart object.keysApart ((run_inside split run).1 other read) inside same
  exact missed (equal ▸ read)

theorem run_reads_both (split : object.fields = front ++ field :: rest)
    (run : StringRun object front field rest junk idx nvalue done svalue)
    (both : BothNumbers object.fields) :
    (∀ number ∈ object.fields, IsNumber number → number ∈ front ++ done) ↔
      numberCount front + numberCount done = 2 := by
  have counted := number_count_eq (run_inside split run).2
  rw [numberCount, List.countP_append, ← numberCount, ← numberCount] at counted
  constructor
  · intro read
    obtain ⟨⟨first, inside, named⟩, second, inside', named'⟩ := both
    have hasIdx : HasField (front ++ done) idxName :=
      ⟨first, read first inside (Or.inl named), named⟩
    have hasNvalue : HasField (front ++ done) nvalueName :=
      ⟨second, read second inside' (Or.inr named'), named'⟩
    rw [counted, if_pos hasIdx, if_pos hasNvalue]
  · intro two number inside isNumber
    by_contra missed
    have absent := run_misses split run inside missed
    rcases isNumber with named | named
    · rw [named] at absent
      rw [if_neg absent] at counted
      split_ifs at counted <;> omega
    · rw [named] at absent
      rw [if_neg absent] at counted
      split_ifs at counted <;> omega

/-- The part of the condition about the fields behind the string. -/
theorem run_unhidden_iff (split : object.fields = front ++ field :: rest)
    (named : nameOf field = svalue2Name)
    (run : StringRun object front field rest junk idx nvalue done svalue)
    (both : BothNumbers object.fields) :
    (∀ number ∈ object.fields, IsNumber number → number ∈ front ++ done) ↔
      ∀ number ∈ rest, IsNumber number →
        number ∈ unreached field.tail rest ∧ stringGroups object field rest ≤ 2 := by
  constructor
  · intro read number later isNumber
    have inside : number ∈ object.fields :=
      split ▸ List.mem_append_right _ (List.mem_cons_of_mem _ later)
    have two := (run_reads_both split run both).mp read
    have inDone : number ∈ done := by
      refine (List.mem_append.mp (read number inside isNumber)).resolve_left fun before => ?_
      have apart := (split_apart split).2.2
      rw [List.map_append] at apart
      exact (List.nodup_append.mp apart).2.2 _ (List.mem_map_of_mem before) _
        (List.mem_map_of_mem later) rfl
    refine ⟨run.onward.subset inDone, ?_⟩
    rcases run.few with none | few
    · rw [none] at inDone
      exact absurd inDone List.not_mem_nil
    · omega
  · intro unhidden number inside isNumber
    by_contra missed
    have inRest : number ∈ rest := by
      rw [split, List.mem_append, List.mem_cons] at inside
      rcases inside with before | rfl | later
      · exact absurd (List.mem_append_left _ before) missed
      · rw [IsNumber, named] at isNumber
        exact absurd isNumber (by decide)
      · exact later
    obtain ⟨seen, few⟩ := unhidden number inRest isNumber
    rcases run.ended with whole | many
    · exact missed (List.mem_append_right _ (whole ▸ seen))
    · have atMost := number_count_le (run_inside split run).2
      rw [numberCount, List.countP_append, ← numberCount, ← numberCount] at atMost
      exact missed ((run_reads_both split run both).mpr (by omega) number inside isNumber)

theorem read_value_iff {negative : Bool} {magnitude : Nat}
    (integer : number.value = .integer negative magnitude) :
    readValue number = signed negative magnitude ↔ Fits number := by
  rw [readValue, integer]
  refine (atoi_value_iff _).trans ⟨fun fits negative' magnitude' same => ?_, fun fits => ?_⟩
  · rw [integer, Value.integer.injEq] at same
    obtain ⟨rfl, rfl⟩ := same
    exact fits
  · exact fits negative magnitude integer

/-- There are variables that hold neither of the numbers. -/
theorem other_start (both : BothNumbers object.fields) :
    ∃ idx nvalue, ∀ number ∈ object.fields, IsNumber number →
      ∀ negative magnitude, number.value = .integer negative magnitude →
        numberOf (nameOf number) ⟨idx, nvalue, []⟩ ≠ signed negative magnitude := by
  obtain ⟨⟨first, inside, named⟩, second, inside', named'⟩ := both
  obtain ⟨negative, magnitude, integer⟩ := object.numbers first inside (Or.inl named)
  obtain ⟨negative', magnitude', integer'⟩ := object.numbers second inside' (Or.inr named')
  have names : nvalueName ≠ idxName := by decide
  refine ⟨signed negative magnitude + 1, signed negative' magnitude' + 1, ?_⟩
  intro number member isNumber _ _ value
  rcases isNumber with same | same
  · have equal := name_apart object.keysApart member inside (same.trans named.symm)
    rw [equal, integer, Value.integer.injEq] at value
    rw [same, numberOf, if_pos rfl, ← value.1, ← value.2]
    simp
  · have equal := name_apart object.keysApart member inside' (same.trans named'.symm)
    rw [equal, integer', Value.integer.injEq] at value
    rw [same, numberOf, if_neg names, ← value.1, ← value.2]
    simp

theorem numbers_right_iff (split : object.fields = front ++ field :: rest)
    (named : nameOf field = svalue2Name) (both : BothNumbers object.fields) :
    (∀ number ∈ object.fields, IsNumber number → ReadRight object number) ↔
      (∀ number ∈ object.fields, IsNumber number → Fits number) ∧
        ∀ number ∈ rest, IsNumber number →
          number ∈ unreached field.tail rest ∧ stringGroups object field rest ≤ 2 := by
  constructor
  · intro right
    obtain ⟨idx, nvalue, other⟩ := other_start both
    obtain ⟨done, svalue, run⟩ := string_run split named [] idx nvalue
    have read : ∀ number ∈ object.fields, IsNumber number → number ∈ front ++ done := by
      intro number inside isNumber
      by_contra missed
      obtain ⟨negative, magnitude, integer⟩ := object.numbers number inside isNumber
      have same := right number inside isNumber negative magnitude integer [] idx nvalue
      have absent := run_misses split run inside missed
      rw [run_numbers run, read_numbers_absent isNumber absent] at same
      exact other number inside isNumber negative magnitude integer same
    refine ⟨fun number inside isNumber => ?_, (run_unhidden_iff split named run both).mp read⟩
    obtain ⟨negative, magnitude, integer⟩ := object.numbers number inside isNumber
    have same := right number inside isNumber negative magnitude integer [] idx nvalue
    rw [run_reads split run isNumber (read number inside isNumber)] at same
    exact (read_value_iff integer).mp same
  · rintro ⟨fits, unhidden⟩ number inside isNumber negative magnitude integer junk idx nvalue
    obtain ⟨done, svalue, run⟩ := string_run split named junk idx nvalue
    have read := (run_unhidden_iff split named run both).mpr unhidden number inside isNumber
    rw [run_reads split run isNumber read]
    exact (read_value_iff integer).mpr (fits number inside isNumber)

theorem numbers_right_without_string (none : ¬ HasField object.fields svalue2Name) :
    (∀ number ∈ object.fields, IsNumber number → ReadRight object number) ↔
      ∀ number ∈ object.fields, IsNumber number → Fits number := by
  refine forall_congr' fun number => forall_congr' fun inside => forall_congr' fun isNumber => ?_
  obtain ⟨negative, magnitude, integer⟩ := object.numbers number inside isNumber
  have read (junk : Text) (idx nvalue : Int) :
      numberOf (nameOf number) (parsed object junk idx nvalue).2 = readValue number := by
    rw [parsed_without_string none]
    exact read_numbers_present object.keysApart inside isNumber _
  rw [← read_value_iff integer]
  constructor
  · intro right
    rw [← right negative magnitude integer [] 0 0, read]
  · intro same negative' magnitude' integer' junk idx nvalue
    rw [integer, Value.integer.injEq] at integer'
    rw [read, same, integer'.1, integer'.2]

end NumbersRead

section Objects

variable {object : DomoticzObject} {junk : Text} {idx nvalue : Int}

theorem string_field_iff {field : Field} (inside : field ∈ object.fields)
    (named : nameOf field = svalue2Name) {raw value : Text} {spells : Spells raw value}
    (string : field.value = .string raw value spells) (short : value.length < dzSvalueLen) :
    (parsed object junk idx nvalue).2.svalue = value ↔ Copied field.afterColon raw value := by
  obtain ⟨front, rest, split⟩ := List.append_of_mem inside
  obtain ⟨done, svalue, run⟩ := string_run split named junk idx nvalue
  rw [run.result, read_numbers_svalue, run.copied]
  exact string_copied_iff (object_blank object).2.2 rest [] string short

/-- The parser is right about an object exactly if its string, if it has one, is one that is
copied as it is and takes nothing from the fields around it. -/
theorem parsed_right_iff (object : DomoticzObject) : ParsedRight object ↔ ObjectClear object := by
  constructor
  · intro right
    refine ⟨?_, ?_, ?_, ?_⟩
    · intro front field rest split named
      exact (string_answer_iff split named [] 0 0).mp (right.answer [] 0 0)
    · intro both
      by_cases has : HasField object.fields svalue2Name
      · obtain ⟨field, inside, named⟩ := has
        obtain ⟨front, rest, split⟩ := List.append_of_mem inside
        exact ((numbers_right_iff split named both).mp (right.numbers both)).1
      · exact (numbers_right_without_string has).mp (right.numbers both)
    · intro both front field rest split named
      exact ((numbers_right_iff split named both).mp (right.numbers both)).2
    · intro field inside named raw value spells string short
      exact (string_field_iff inside named string short).mp
        (right.string field inside named raw value spells string short [] 0 0)
  · intro clear
    refine ⟨?_, ?_, ?_⟩
    · intro junk idx nvalue
      by_cases has : HasField object.fields svalue2Name
      · obtain ⟨field, inside, named⟩ := has
        obtain ⟨front, rest, split⟩ := List.append_of_mem inside
        exact (string_answer_iff split named junk idx nvalue).mpr
          (clear.answer front field rest split named)
      · exact answer_without_string has junk idx nvalue
    · intro both
      by_cases has : HasField object.fields svalue2Name
      · obtain ⟨field, inside, named⟩ := has
        obtain ⟨front, rest, split⟩ := List.append_of_mem inside
        exact (numbers_right_iff split named both).mpr
          ⟨clear.fits both, clear.unhidden both front field rest split named⟩
      · exact (numbers_right_without_string has).mpr (clear.fits both)
    · intro field inside named raw value spells string short junk idx nvalue
      exact (string_field_iff inside named string short).mpr
        (clear.string field inside named raw value spells string short)

def withoutNvalue : DomoticzObject where
  lead := []
  inner := []
  fields := [.tight "idx".toList (.integer false 5) (by decide),
    .tight "svalue2".toList (.string "0".toList "0".toList (spells_plain (by decide))) (by decide)]
  trail := []
  blank _ member := absurd member List.not_mem_nil
  keysApart := by decide
  numbers := by
    simp only [List.forall_mem_cons]
    refine ⟨fun _ => ⟨false, 5, rfl⟩, ?_, by simp⟩
    intro named
    exact absurd named (by decide)
  keysNamed := by
    simp only [List.forall_mem_cons]
    exact ⟨Or.inl (by decide), Or.inl (by decide), by simp⟩
  stringsApart := by
    simp only [List.forall_mem_cons]
    refine ⟨?_, ?_, by simp⟩
    · intro raw value spells same
      cases same
    · intro raw value spells same
      cases same
      unfold Apart
      decide

theorem string_counts_for_nvalue : ¬ ∀ object : DomoticzObject, ParsedRight object := by
  intro right
  exact absurd ((right withoutNvalue).answer [] 0 0) (by decide +kernel)

theorem payload_without_numbers (right : ParsedRight object)
    (missing : ¬ BothNumbers object.fields) (cfg : SprinklerdCfg) (now : Int)
    (st : SprinklerdState) : domoticzPayload cfg now object.text (nul :: junk) st = st := by
  have refused := mt (right.answer junk (-1) (-1)).mp missing
  unfold domoticzPayload
  exact if_neg refused

theorem payload_with_numbers (right : ParsedRight object) {first second : Field}
    (inside : first ∈ object.fields) (named : nameOf first = idxName)
    (inside' : second ∈ object.fields) (named' : nameOf second = nvalueName)
    {negative negative' : Bool} {magnitude magnitude' : Nat}
    (integer : first.value = .integer negative magnitude)
    (integer' : second.value = .integer negative' magnitude') (cfg : SprinklerdCfg) (now : Int)
    (st : SprinklerdState) :
    domoticzPayload cfg now object.text (nul :: junk) st =
      actionDomoticzMqttMessage cfg now (signed negative magnitude) (signed negative' magnitude')
        (parsed object junk (-1) (-1)).2.svalue st := by
  have both : BothNumbers object.fields := ⟨⟨first, inside, named⟩, second, inside', named'⟩
  have answered := (right.answer junk (-1) (-1)).mpr both
  have idx := right.numbers both first inside (Or.inl named) _ _ integer junk (-1) (-1)
  have nvalue := right.numbers both second inside' (Or.inr named') _ _ integer' junk (-1) (-1)
  rw [named, numberOf, if_pos rfl] at idx
  rw [named', numberOf, if_neg (by decide)] at nvalue
  rw [← idx, ← nvalue]
  unfold domoticzPayload
  exact if_pos answered

end Objects

end SprinklerD.DomoticzRequests
