import SprinklerD.CronCalendar

/-!
# The lines of the commands run before a start

For each day of the week the writer puts out one line for each command, its lead time
subtracted by hand: one hour is borrowed, and the day never changes. The line is right
exactly when the minutes suffice or one hour can be borrowed; on a day that is not
scheduled it should not be there at all.
-/

namespace SprinklerD.RunBefore

open Foundation.MachineInt Foundation.Decimal
open SprinklerD.Config SprinklerD.CronTable SprinklerD.CronCalendar SprinklerD.Operations

set_option autoImplicit false

structure CommandLine where
  minute : Int
  hour : Int
  day : Int
  command : Text
deriving DecidableEq

def commandLineText (line : CommandLine) : Text :=
  printInt line.minute ++ " ".toList ++ printInt line.hour ++ " * * ".toList ++
    printInt line.day ++ " root ".toList ++ line.command ++ "\n".toList

def writtenLine (entry : CalendarDay) (day : Int) (before : RunB4CalStart) : CommandLine where
  minute :=
    if entry.minute < before.mins then wrap32 (60 - (before.mins - entry.minute))
    else wrap32 (entry.minute - before.mins)
  hour := if entry.minute < before.mins then entry.hour - 1 else entry.hour
  day := day
  command := before.command

def minutesPerWeek : Int := 7 * minutesPerDay

def weekInstant (weekDay hour minute : Int) : Int :=
  minutesPerDay * weekDay + 60 * hour + minute

/-- A line that cron accepts and that comes due the lead time before the start. -/
structure RightLine (entry : CalendarDay) (day : Int) (before : RunB4CalStart)
    (line : CommandLine) : Prop where
  inHour : 0 ≤ line.minute ∧ line.minute ≤ 59
  inDay : 0 ≤ line.hour ∧ line.hour ≤ 23
  inWeek : 0 ≤ line.day ∧ line.day ≤ 6
  due : weekInstant line.day line.hour line.minute =
    (weekInstant day entry.hour entry.minute - before.mins) % minutesPerWeek
  command : line.command = before.command

/-- After its zone lines an enabled day has one right line for each command, and no other
day has any. -/
def CommandsRight (cfg : SprinklerdCfg) (table : Int → CalendarDay) (day : Int) : Prop :=
  ∃ lines, dayText cfg table day =
      (cronLines cfg table day).flatMap (zoneLineText cfg) ++ lines.flatMap commandLineText ∧
    if scheduled (table day) then List.Forall₂ (RightLine (table day) day) cfg.runBeforeCmd lines
    else lines = []

/-- The lead time is within the minutes of the start, or within one hour more that can be
borrowed on the same day. -/
def OneBorrow (entry : CalendarDay) (before : RunB4CalStart) : Prop :=
  before.mins ≤ entry.minute ∨ (before.mins - entry.minute ≤ 60 ∧ 1 ≤ entry.hour)

/-- An enabled day as the calendar requests set it. -/
structure ClockTime (entry : CalendarDay) : Prop where
  hour : 0 ≤ entry.hour ∧ entry.hour ≤ 23
  minute : 0 ≤ entry.minute ∧ entry.minute ≤ 59

variable {cfg : SprinklerdCfg} {entry : CalendarDay} {day : Int} {before : RunB4CalStart}

section Texts

theorem run_before_line (entry : CalendarDay) (day : Int) (before : RunB4CalStart) :
    runBeforeText entry day before = commandLineText (writtenLine entry day before) := by
  unfold runBeforeText commandLineText writtenLine
  split_ifs
  · rfl
  · rfl

theorem command_line_text_ne_nil (line : CommandLine) : commandLineText line ≠ [] := by
  simp [commandLineText]

/-- Lines with the same command are told apart by what is before it. -/
theorem command_line_text_inj {line line' : CommandLine} {rest rest' : Text}
    (command : line.command = line'.command)
    (same : commandLineText line ++ rest = commandLineText line' ++ rest') :
    line = line' ∧ rest = rest' := by
  simp only [commandLineText, List.append_assoc] at same
  obtain ⟨minute, same⟩ := print_int_delimited (by decide) (by decide) same
  obtain ⟨hour, same⟩ := print_int_delimited (by decide) (by decide) same
  obtain ⟨day, same⟩ := print_int_delimited (by decide) (by decide)
    (@List.append_cancel_left _ "* * ".toList _ _ same)
  cases line
  cases line'
  simp only at minute hour day command
  subst minute hour day command
  exact ⟨rfl, List.append_cancel_left (List.append_cancel_left
    (@List.append_cancel_left _ "root ".toList _ _ same))⟩

/-- The lines written for some commands are the right ones as soon as their text is that
of right ones. The induction is on the commands. -/
theorem written_texts_right_iff (befores : List RunB4CalStart) :
    (∃ lines, befores.flatMap (runBeforeText entry day) = lines.flatMap commandLineText ∧
        List.Forall₂ (RightLine entry day) befores lines) ↔
      ∀ before ∈ befores, RightLine entry day before (writtenLine entry day before) := by
  constructor
  · rintro ⟨lines, texts, right⟩
    induction right with
    | nil => simp
    | cons first rest ih =>
        rw [List.flatMap_cons, List.flatMap_cons, run_before_line] at texts
        obtain ⟨written, later⟩ := command_line_text_inj first.command.symm texts
        rw [List.forall_mem_cons, written]
        exact ⟨first, ih later⟩
  · intro right
    refine ⟨befores.map (writtenLine entry day), ?_, ?_⟩
    · simp only [List.flatMap_map, ← run_before_line]
    · rw [List.forall₂_map_right_iff, List.forall₂_same]
      exact right

end Texts

section Lines

/-- Borrowing one hour is right exactly when there is one to borrow and it is enough. -/
theorem written_line_right_iff (clock : ClockTime entry) (named : 0 ≤ day ∧ day ≤ 6)
    (lead : 0 < before.mins ∧ before.mins < minutesPerDay) :
    RightLine entry day before (writtenLine entry day before) ↔ OneBorrow entry before := by
  obtain ⟨hour, minute⟩ := clock
  unfold minutesPerDay at lead
  unfold OneBorrow
  have fits : wrap32 (60 - (before.mins - entry.minute)) = 60 - (before.mins - entry.minute) :=
    wrap32_of_fits (by omega) (by omega)
  have fits' : wrap32 (entry.minute - before.mins) = entry.minute - before.mins :=
    wrap32_of_fits (by omega) (by omega)
  by_cases borrows : entry.minute < before.mins
  · have line : writtenLine entry day before =
        ⟨60 - (before.mins - entry.minute), entry.hour - 1, day, before.command⟩ := by
      simp only [writtenLine, if_pos borrows, fits]
    rw [line]
    constructor
    · intro right
      have low := right.inHour.1
      have early := right.inDay.1
      simp only at low early
      omega
    · intro once
      constructor
      all_goals simp only [weekInstant, minutesPerWeek, minutesPerDay]
      all_goals omega
  · have line : writtenLine entry day before =
        ⟨entry.minute - before.mins, entry.hour, day, before.command⟩ := by
      simp only [writtenLine, if_neg borrows, fits']
    rw [line]
    apply iff_of_true _ (Or.inl (not_lt.mp borrows))
    constructor
    all_goals simp only [weekInstant, minutesPerWeek, minutesPerDay]
    all_goals omega

theorem commands_right_iff {table : Int → CalendarDay} (named : 0 ≤ day ∧ day ≤ 6)
    (clock : scheduled (table day) = true → ClockTime (table day))
    (leads : ∀ before ∈ cfg.runBeforeCmd, 0 < before.mins ∧ before.mins < minutesPerDay) :
    CommandsRight cfg table day ↔ cfg.runBeforeCmd = [] ∨
      (scheduled (table day) = true ∧ ∀ before ∈ cfg.runBeforeCmd, OneBorrow (table day) before) := by
  unfold CommandsRight dayText
  simp only [List.append_cancel_left_eq]
  by_cases enabled : scheduled (table day) = true
  · simp only [enabled, if_true, true_and]
    rw [written_texts_right_iff]
    have each : (∀ before ∈ cfg.runBeforeCmd,
        RightLine (table day) day before (writtenLine (table day) day before)) ↔
          ∀ before ∈ cfg.runBeforeCmd, OneBorrow (table day) before := by
      apply forall₂_congr
      intro before member
      exact written_line_right_iff (clock enabled) named (leads before member)
    rw [each]
    constructor
    · exact Or.inr
    · rintro (none | borrows)
      · simp [none]
      · exact borrows
  · have silent : ¬ (scheduled (table day) = true ∧
        ∀ before ∈ cfg.runBeforeCmd, OneBorrow (table day) before) := fun both => enabled both.1
    simp only [if_neg enabled, exists_eq_right, List.flatMap_nil]
    rw [or_iff_left silent, List.flatMap_eq_nil_iff]
    constructor
    · intro empty
      apply List.eq_nil_iff_forall_not_mem.mpr
      intro before member
      have text := empty before member
      rw [run_before_line] at text
      exact command_line_text_ne_nil _ text
    · intro none
      simp [none]

/-- The run-before lines of a crontab are right exactly when there are no commands, or every
day of the week is enabled and no lead time needs more than one hour of the same day. -/
theorem run_before_lines_right_iff (table : Int → CalendarDay)
    (clock : ∀ day ∈ weekDays, scheduled (table day) = true → ClockTime (table day))
    (leads : ∀ before ∈ cfg.runBeforeCmd, 0 < before.mins ∧ before.mins < minutesPerDay) :
    (∀ day ∈ weekDays, CommandsRight cfg table day) ↔ cfg.runBeforeCmd = [] ∨
      ∀ day ∈ weekDays, scheduled (table day) = true ∧
        ∀ before ∈ cfg.runBeforeCmd, OneBorrow (table day) before := by
  have each : ∀ day ∈ weekDays, CommandsRight cfg table day ↔ cfg.runBeforeCmd = [] ∨
      (scheduled (table day) = true ∧
        ∀ before ∈ cfg.runBeforeCmd, OneBorrow (table day) before) := by
    intro day member
    have named : 0 ≤ day ∧ day ≤ 6 := by
      simp only [weekDays, List.mem_cons, List.not_mem_nil, or_false] at member
      omega
    exact commands_right_iff named (clock day member) leads
  rw [forall₂_congr each]
  by_cases none : cfg.runBeforeCmd = []
  · simp [none]
  · simp only [none, false_or]

def everyDay (hour minute : Int) (_ : Int) : CalendarDay where
  hour := hour
  minute := minute
  zruntimes _ := 10

def warningCfg (mins : Int) : SprinklerdCfg :=
  { benchCfg benchWiring with runBeforeCmd := [{ mins := mins, command := "/bin/warn".toList }] }

theorem run_before_lines_right_half_hour : CommandsRight (warningCfg 30) (everyDay 6 15) 1 := by
  have clock : ∀ day ∈ weekDays, scheduled (everyDay 6 15 day) = true →
      ClockTime (everyDay 6 15 day) :=
    fun _ _ _ => ⟨by simp [everyDay], by simp [everyDay]⟩
  apply (run_before_lines_right_iff (everyDay 6 15) clock
    (by simp [warningCfg, minutesPerDay])).mpr _ 1 (by decide)
  apply Or.inr
  intro day _
  simp [warningCfg, OneBorrow, everyDay, scheduled]

/-- Two hours before half past six comes the minute -30, half an hour before five past
midnight the hour -1, and days that are not enabled have lines as well. -/
theorem run_before_lines_wrong :
    ¬ CommandsRight (warningCfg 120) (everyDay 6 30) 1 ∧
      ¬ CommandsRight (warningCfg 30) (everyDay 0 5) 1 ∧
      ¬ CommandsRight (warningCfg 30) (mondayTable fun _ => 10) 2 := by
  have valid : ∀ {hour minute : Int}, 0 ≤ hour ∧ hour ≤ 23 → 0 ≤ minute ∧ minute ≤ 59 →
      ClockTime (everyDay hour minute 1) := fun hour minute => ⟨hour, minute⟩
  have leads : ∀ {mins : Int}, 0 < mins ∧ mins < minutesPerDay →
      ∀ before ∈ (warningCfg mins).runBeforeCmd, 0 < before.mins ∧ before.mins < minutesPerDay := by
    intro mins lead
    simpa [warningCfg] using lead
  refine ⟨?_, ?_, ?_⟩
  · rw [commands_right_iff (by decide) (fun _ => valid (by decide) (by decide)) (leads (by decide))]
    simp [warningCfg, OneBorrow, everyDay]
  · rw [commands_right_iff (by decide) (fun _ => valid (by decide) (by decide)) (leads (by decide))]
    simp [warningCfg, OneBorrow, everyDay]
  · rw [commands_right_iff (by decide) (fun enabled => absurd enabled (by decide))
      (leads (by decide))]
    simp [warningCfg, scheduled, mondayTable]

end Lines

end SprinklerD.RunBefore
