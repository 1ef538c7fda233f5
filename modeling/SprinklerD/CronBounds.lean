import SprinklerD.CronReader
import SprinklerD.Operations

/-!
# Which entries the crontab reaches

`read_cron` compares the day and the zone of a line with their upper ends only. Digits have no
sign, so nothing is below 0; but the zones of a line count from 1 and `zruntimes` from 0.
-/

namespace SprinklerD.CronBounds

open Foundation.MachineInt Foundation.Decimal Foundation.CString Foundation.GreedyPattern
open SprinklerD.Config SprinklerD.CronTable SprinklerD.CronReader SprinklerD.Operations

set_option autoImplicit false

/-- An access to `cron[day]`, a write to `zruntimes[index]` of that day, or an hour, a minute or
a runtime that is stored, with the digits of the line it comes from. -/
inductive CronAccess where
  | day (day : Int)
  | runtime (day index : Int)
  | stored (value : Int) (digits : Text)
deriving DecidableEq, Repr

variable (cfg : SprinklerdCfg)

section Source

def resetAccesses : List CronAccess :=
  weekDays.flatMap fun day => .day day :: (zoneIndexes cfg).map (.runtime day)

/-- The accesses of `readCronLine`, which only looks at the line up to a NUL. -/
def lineAccesses (table : Int → CalendarDay) (line : Text) : List CronAccess :=
  match search cronPattern (cString line) with
  | some [minuteText, hourText, dayText, zoneText, runtimeText] =>
      let day := str2int dayText dayText.length
      let zone := str2int zoneText zoneText.length
      if day < 7 ∧ zone ≤ cfg.zones then
        .day day ::
          (if (table day).hour = -1 then
            [.stored (str2int hourText hourText.length) hourText,
              .stored (str2int minuteText minuteText.length) minuteText]
          else []) ++
          [.runtime day (zone - 1), .stored (str2int runtimeText runtimeText.length) runtimeText]
      else []
  | _ => []

def fileAccesses : (Int → CalendarDay) → List Text → List CronAccess
  | _, [] => []
  | table, line :: rest =>
      lineAccesses cfg table line ++ fileAccesses (readCronLine cfg table (cString line)) rest

def cronAccesses (st : SprinklerdState) : List CronAccess :=
  resetAccesses cfg ++
    match st.disk.cronFile with
    | none => []
    | some file => fileAccesses cfg (clearedTable cfg st.cron) (getLines file)

end Source

section Bounds

def OneOrTwoDigits (digits : Text) : Prop :=
  (∀ char ∈ digits, char.isDigit = true) ∧ 1 ≤ digits.length ∧ digits.length ≤ 2

def decimal : Text → Int
  | [one] => digitValue one
  | [ten, one] => 10 * digitValue ten + digitValue one
  | _ => 0

def Allowed : CronAccess → Prop
  | .day day => 0 ≤ day ∧ day ≤ 6
  | .runtime _ index => 0 ≤ index ∧ index < cfg.zones
  | .stored value digits => OneOrTwoDigits digits ∧ value = decimal digits

/-- The line matches, for a day of the week and for zone 0. -/
def zoneZero (line : Text) : Bool :=
  match search cronPattern (cString line) with
  | some [_, _, dayText, zoneText, _] => decimal dayText < 7 ∧ decimal zoneText = 0
  | _ => false

end Bounds

section Numbers

theorem groups_of_line {line : Text} {groups : List Text}
    (found : search cronPattern line = some groups) :
    ∃ minute hour day zone runtime, groups = [minute, hour, day, zone, runtime] ∧
      ∀ digits ∈ groups, OneOrTwoDigits digits := by
  obtain ⟨tail, -, here⟩ := suffix_of_search found
  have pieces : cronPattern.filter (·.captured) = [number, number, number, number, number] := by
    have zone := captured_literal "zone=".toList
    have runtime := captured_literal "runtime=".toList
    unfold cronPattern dayPattern zonePattern
    simp only [List.filter_cons, List.filter_append, zone, runtime]
    rfl
  have shapes := groups_of_match here
  rw [pieces] at shapes
  have allowed {digits : Text} (shape : (∀ char ∈ digits, number.test char = true) ∧
      number.allows digits.length = true) : OneOrTwoDigits digits :=
    ⟨shape.1, by simpa [number, Piece.allows, Piece.group] using shape.2⟩
  cases shapes with
  | cons minute shapes =>
    cases shapes with
    | cons hour shapes =>
      cases shapes with
      | cons day shapes =>
        cases shapes with
        | cons zone shapes =>
          cases shapes with
          | cons runtime shapes =>
            cases shapes
            refine ⟨_, _, _, _, _, rfl, ?_⟩
            simp only [List.forall_mem_cons]
            exact ⟨allowed minute, allowed hour, allowed day, allowed zone, allowed runtime,
              fun _ member => absurd member List.not_mem_nil⟩

theorem str2int_digits {digits : Text} (short : OneOrTwoDigits digits) :
    str2int digits digits.length = decimal digits ∧ 0 ≤ decimal digits := by
  obtain ⟨all, low, high⟩ := short
  match digits, all, low, high with
  | [one], all, _, _ =>
      have first := all one (by simp)
      have value := digit_value_lt first
      rw [str2int, List.take_length, readDigits, if_pos first, readDigits, decimal,
        wrap32_of_fits (by omega) (by omega)]
      omega
  | [ten, one], all, _, _ =>
      have first := all ten (by simp)
      have second := all one (by simp)
      have value := digit_value_lt first
      have value' := digit_value_lt second
      rw [str2int, List.take_length, readDigits, if_pos first, readDigits, if_pos second,
        readDigits, decimal, wrap32_of_fits (by omega) (by omega)]
      omega

end Numbers

variable {cfg}

section Lines

theorem reset_allowed : ∀ access ∈ resetAccesses cfg, Allowed cfg access := by
  intro access member
  obtain ⟨day, listed, member⟩ := List.mem_flatMap.mp member
  rcases List.mem_cons.mp member with rfl | member
  · have week : ∀ day ∈ weekDays, 0 ≤ day ∧ day ≤ 6 := by decide
    exact week day listed
  · obtain ⟨index, inside, rfl⟩ := List.mem_map.mp member
    have bounds := mem_zones_from.mp inside
    exact ⟨bounds.1, by omega⟩

theorem start_allowed {minute hour : Text} (minuteDigits : OneOrTwoDigits minute)
    (hourDigits : OneOrTwoDigits hour) (first : Prop) [Decidable first] :
    ∀ access ∈ (if first then [CronAccess.stored (str2int hour hour.length) hour,
      .stored (str2int minute minute.length) minute] else []), Allowed cfg access := by
  split_ifs
  · rw [List.forall_mem_cons, List.forall_mem_singleton]
    exact ⟨⟨hourDigits, (str2int_digits hourDigits).1⟩,
      ⟨minuteDigits, (str2int_digits minuteDigits).1⟩⟩
  · exact fun _ member => absurd member List.not_mem_nil

theorem line_allowed_iff (table : Int → CalendarDay) (line : Text) :
    (∀ access ∈ lineAccesses cfg table line, Allowed cfg access) ↔ zoneZero line = false := by
  unfold lineAccesses zoneZero
  cases found : search cronPattern (cString line) with
  | none => simp
  | some groups =>
      obtain ⟨minute, hour, day, zone, runtime, rfl, digits⟩ := groups_of_line found
      simp only [List.forall_mem_cons] at digits
      obtain ⟨minuteDigits, hourDigits, dayDigits, zoneDigits, runtimeDigits, -⟩ := digits
      obtain ⟨dayValue, dayUnsigned⟩ := str2int_digits dayDigits
      obtain ⟨zoneValue, zoneUnsigned⟩ := str2int_digits zoneDigits
      dsimp only
      rw [dayValue, zoneValue, decide_eq_false_iff_not]
      by_cases bounds : decimal day < 7 ∧ decimal zone ≤ cfg.zones
      · have start := @start_allowed cfg minute hour minuteDigits hourDigits
          ((table (decimal day)).hour = -1) _
        have week : Allowed cfg (.day (decimal day)) := ⟨dayUnsigned, by omega⟩
        have stored : Allowed cfg (.stored (str2int runtime runtime.length) runtime) :=
          ⟨runtimeDigits, (str2int_digits runtimeDigits).1⟩
        have index : Allowed cfg (.runtime (decimal day) (decimal zone - 1)) ↔
            ¬ (decimal day < 7 ∧ decimal zone = 0) := by
          rw [Allowed]
          omega
        rw [if_pos bounds, List.forall_mem_append, List.forall_mem_cons, List.forall_mem_cons,
          List.forall_mem_singleton, index]
        exact ⟨fun allowed => allowed.2.1, fun positive => ⟨⟨week, start⟩, positive, stored⟩⟩
      · rw [if_neg bounds]
        constructor
        · rintro - ⟨inWeek, nought⟩
          exact bounds ⟨inWeek, by omega⟩
        · exact fun _ access member => absurd member List.not_mem_nil

theorem file_allowed_iff (table : Int → CalendarDay) (lines : List Text) :
    (∀ access ∈ fileAccesses cfg table lines, Allowed cfg access) ↔
      ∀ line ∈ lines, zoneZero line = false := by
  induction lines generalizing table with
  | nil => exact ⟨fun _ _ member => absurd member List.not_mem_nil,
      fun _ _ member => absurd member List.not_mem_nil⟩
  | cons line rest ih =>
      rw [fileAccesses, List.forall_mem_append, line_allowed_iff, ih, List.forall_mem_cons]

/-- The log is complete: what it does not name stays as it was. -/
theorem line_accesses_complete (table : Int → CalendarDay) (line : Text) (day : Int) :
    (.day day ∉ lineAccesses cfg table line →
      readCronLine cfg table (cString line) day = table day) ∧
    ∀ index, .runtime day index ∉ lineAccesses cfg table line →
      (readCronLine cfg table (cString line) day).zruntimes index =
        (table day).zruntimes index := by
  unfold lineAccesses readCronLine
  cases found : search cronPattern (cString line) with
  | none => exact ⟨fun _ => rfl, fun _ _ => rfl⟩
  | some groups =>
      obtain ⟨minute, hour, dayText, zone, runtime, rfl, -⟩ := groups_of_line found
      dsimp only
      generalize str2int dayText dayText.length = lineDay
      generalize str2int zone zone.length = lineZone
      by_cases bounds : lineDay < 7 ∧ lineZone ≤ cfg.zones
      · rw [if_pos bounds, if_pos bounds]
        constructor
        · intro untouched
          refine Function.update_of_ne ?_ _ _
          rintro rfl
          exact untouched (by simp)
        · intro index untouched
          by_cases same : day = lineDay
          · subst same
            have other : index ≠ lineZone - 1 := by
              rintro rfl
              exact untouched (by simp)
            rw [Function.update_self]
            dsimp only
            rw [Function.update_of_ne other]
            split_ifs <;> rfl
          · rw [Function.update_of_ne same]
      · rw [if_neg bounds, if_neg bounds]
        exact ⟨fun _ => rfl, fun _ _ => rfl⟩

end Lines

/-- Every access of `read_cron` lies in the tables and every value stored is that of its digits,
if and only if no line is one for zone 0. -/
theorem cron_in_table_iff (cfg : SprinklerdCfg) (st : SprinklerdState) :
    (∀ access ∈ cronAccesses cfg st, Allowed cfg access) ↔
      ∀ file, st.disk.cronFile = some file → ∀ line ∈ getLines file, zoneZero line = false := by
  rw [cronAccesses, List.forall_mem_append]
  cases content : st.disk.cronFile with
  | none =>
      constructor
      · rintro - file ⟨⟩
      · exact fun _ => ⟨reset_allowed, fun _ member => absurd member List.not_mem_nil⟩
  | some file =>
      dsimp only
      rw [file_allowed_iff]
      constructor
      · rintro ⟨-, allowed⟩ _ ⟨⟩
        exact allowed
      · exact fun allowed => ⟨reset_allowed, allowed file rfl⟩

theorem c_string_line {line : Text} (visible : nul ∉ line) : cString line = line :=
  List.takeWhile_eq_self_iff.mpr fun _ member =>
    decide_eq_true fun same => visible (same ▸ member)

/-- Without a NUL in the file the table is the one of `readCron`. -/
theorem read_cron_lines {cfg : SprinklerdCfg} {st : SprinklerdState} {file : Text}
    (content : st.disk.cronFile = some file) (visible : nul ∉ file) :
    (readCron cfg st).cron = (getLines file).foldl
      (fun table line => readCronLine cfg table (cString line)) (clearedTable cfg st.cron) := by
  have lines : ∀ line ∈ getLines file, cString line = line := fun line member =>
    c_string_line fun inside => visible ((infix_of_mem_get_lines member).subset inside)
  rw [readCron, content]
  exact List.foldl_ext _ _ _ fun table line member => by rw [lines line member]

section Bench

def zoneZeroLine : Text := "30 6 * * 1 curl 'zone=0&runtime=10'\n".toList

theorem cron_leaves_table : ¬ ∀ cfg st, ∀ access ∈ cronAccesses cfg st, Allowed cfg access := by
  intro allowed
  have bench := (cron_in_table_iff _ _).mp (allowed (benchCfg benchWiring)
    { benchState with disk := { benchState.disk with cronFile := some zoneZeroLine } })
    zoneZeroLine rfl
  revert bench
  decide +kernel

end Bench

end SprinklerD.CronBounds
