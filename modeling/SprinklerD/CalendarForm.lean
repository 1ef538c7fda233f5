import SprinklerD.CalendarEdits

/-!
# The form of the calendar table

A day of the calendar is either disabled, with hour and minute -1, or has a time of
day, and no runtime is negative. Edits keep the table in this form exactly when the
numbers they carry have it; `serve_web_request` does not check them.
-/

namespace SprinklerD.CalendarForm

open Foundation.Transitions Foundation.Decimal Foundation.MachineInt Foundation.CString
open SprinklerD.Config SprinklerD.CronTable SprinklerD.NetServices
open SprinklerD.Operations SprinklerD.Daemon SprinklerD.CalendarEdits

set_option autoImplicit false

structure WellFormedDay (cfg : SprinklerdCfg) (entry : CalendarDay) : Prop where
  time : (entry.hour = -1 ∧ entry.minute = -1) ∨
    ((0 ≤ entry.hour ∧ entry.hour ≤ 23) ∧ (0 ≤ entry.minute ∧ entry.minute ≤ 59))
  runtimes : ∀ index ∈ zoneIndexes cfg, 0 ≤ entry.zruntimes index

def WellFormed (cfg : SprinklerdCfg) (table : Int → CalendarDay) : Prop :=
  ∀ day ∈ weekDays, WellFormedDay cfg (table day)

def AllDisabled (cfg : SprinklerdCfg) (table : Int → CalendarDay) : Prop :=
  ∀ day ∈ weekDays, ((table day).hour = -1 ∧ (table day).minute = -1) ∧
    ∀ index ∈ zoneIndexes cfg, (table day).zruntimes index = 0

/-- A runtime that is not negative, or a time whose two numbers are an hour and a
minute. Other edits carry no number. -/
def SoundEdit (cfg : SprinklerdCfg) (edit : CalendarEdit) : Prop :=
  (editKind cfg edit = .runtime → 0 ≤ atoi edit.time) ∧
    (editKind cfg edit = .schedule →
      str2int edit.time 2 ≤ 23 ∧ str2int (edit.time.drop 3) 2 ≤ 59)

instance (cfg : SprinklerdCfg) (edit : CalendarEdit) : Decidable (SoundEdit cfg edit) :=
  inferInstanceAs (Decidable (_ ∧ _))

def SoundRequest (cfg : SprinklerdCfg) : Event → Prop
  | .webRequest query stack =>
      ∀ edit, calendarEdit query stack = some edit → SoundEdit cfg edit
  | _ => True

variable {cfg : SprinklerdCfg}

theorem mem_week_days {day : Int} : day ∈ weekDays ↔ 0 ≤ day ∧ day ≤ 6 := by
  simp only [weekDays, List.mem_cons, List.not_mem_nil, or_false]
  omega

theorem mem_zone_indexes {index : Int} :
    index ∈ zoneIndexes cfg ↔ 0 ≤ index ∧ index < cfg.zones := by
  rw [zoneIndexes, mem_zones_from]
  omega

/-- Two characters read as a number from 0 to 99. -/
theorem str2int_two_nonneg (text : Text) : 0 ≤ str2int text 2 := by
  have short : (text.take 2).length ≤ 2 := List.length_take_le 2 text
  have bound := read_digits_lt 0 (text.take 2)
  have power : 10 ^ (text.take 2).length ≤ 10 ^ 2 := Nat.pow_le_pow_right (by decide) short
  rw [str2int, wrap32_of_fits] <;> omega

theorem well_formed_of_disabled {table : Int → CalendarDay} (disabled : AllDisabled cfg table) :
    WellFormed cfg table := by
  intro day member
  constructor
  · exact Or.inl (disabled day member).1
  · intro index inside
    exact le_of_eq ((disabled day member).2 index inside).symm

theorem edit_kind_week {edit : CalendarEdit} (acts : editKind cfg edit ≠ .nothing) :
    edit.day ∈ weekDays := by
  rw [mem_week_days]
  by_contra outside
  apply acts
  rw [editKind, if_pos (by omega)]

theorem edit_kind_runtime {edit : CalendarEdit} (runtime : editKind cfg edit = .runtime) :
    edit.zone - 1 ∈ zoneIndexes cfg := by
  rw [mem_zone_indexes]
  unfold editKind at runtime
  split_ifs at runtime with outside positive listed empty
  omega

theorem edit_day_well_formed {edit : CalendarEdit} {entry : CalendarDay}
    (formed : WellFormedDay cfg entry) :
    WellFormedDay cfg (editDay edit entry (editKind cfg edit)) ↔ SoundEdit cfg edit := by
  unfold SoundEdit
  cases kind : editKind cfg edit with
  | runtime =>
      have inside := edit_kind_runtime kind
      constructor
      · intro after
        have runtime := after.runtimes (edit.zone - 1) inside
        simp only [editDay, Function.update_self] at runtime
        exact ⟨fun _ => runtime, by simp⟩
      · rintro ⟨runtime, -⟩
        refine ⟨formed.time, fun index member => ?_⟩
        by_cases same : index = edit.zone - 1
        · simp only [editDay, same, Function.update_self]
          exact runtime rfl
        · simp only [editDay, Function.update_of_ne same]
          exact formed.runtimes index member
  | schedule =>
      have hour := str2int_two_nonneg edit.time
      have minute := str2int_two_nonneg (edit.time.drop 3)
      constructor
      · intro after
        refine ⟨by simp, fun _ => ?_⟩
        rcases after.time with disabled | enabled
        · have none : str2int edit.time 2 = -1 := disabled.1
          omega
        · exact ⟨enabled.1.2, enabled.2.2⟩
      · rintro ⟨-, time⟩
        constructor
        · exact Or.inr ⟨⟨hour, (time rfl).1⟩, ⟨minute, (time rfl).2⟩⟩
        · exact formed.runtimes
  | remove =>
      constructor
      · intro _
        exact ⟨by simp, by simp⟩
      · intro _
        exact ⟨Or.inl ⟨rfl, rfl⟩, formed.runtimes⟩
  | nothing =>
      constructor
      · intro _
        exact ⟨by simp, by simp⟩
      · intro _
        exact formed

theorem edit_table_well_formed {edit : CalendarEdit} {table : Int → CalendarDay}
    (formed : WellFormed cfg table) :
    WellFormed cfg (editTable cfg edit table) ↔ SoundEdit cfg edit := by
  by_cases acts : editKind cfg edit = .nothing
  · have unchanged : editTable cfg edit table = table := by
      rw [editTable, acts, editDay, Function.update_eq_self]
    rw [unchanged, SoundEdit, acts]
    simpa using formed
  have week := edit_kind_week acts
  rw [← edit_day_well_formed (formed edit.day week)]
  constructor
  · intro after
    have day := after edit.day week
    rwa [editTable, Function.update_self] at day
  · intro edited day member
    by_cases same : day = edit.day
    · rw [editTable, same, Function.update_self]
      exact edited
    · rw [editTable, Function.update_of_ne same]
      exact formed day member

/-- One event of the daemon keeps the table in form exactly when it is sound. -/
theorem daemon_step_well_formed {st : SprinklerdState} {event : TimedEvent}
    (formed : WellFormed cfg st.cron) :
    WellFormed cfg (daemonStep cfg st event).cron ↔ SoundRequest cfg event.2 := by
  have after : (daemonStep cfg st event).cron = (calendarAfter cfg st event).cron :=
    congrArg CalendarPart.cron (daemon_step_calendar st event)
  rw [after]
  obtain ⟨now, event⟩ := event
  cases event with
  | webRequest query stack =>
      simp only [calendarAfter, SoundRequest]
      cases calendarEdit query stack with
      | none => exact iff_of_true formed (by simp)
      | some edit =>
          apply (edit_table_well_formed formed).trans
          simp
  | checkCron =>
      have kept : (CronTable.checkCron cfg now st).cron = st.cron := by
        by_cases due : 0 < st.cronUpdate ∧ timediffCronUpdate < now - st.cronUpdate
        · exact congrArg CalendarPart.cron (check_cron_due due)
        · rw [check_cron_idle due]
      simp only [calendarAfter, SoundRequest, calendarPart, kept, formed]
  | mqttMessage message => exact iff_of_true formed trivial
  | domoticzMessage idx nvalue svalue => exact iff_of_true formed trivial
  | call operation => exact iff_of_true formed trivial
  | broadcast dzCache mask => exact iff_of_true formed trivial
  | filesOpen cacheOpens cronOpens => exact iff_of_true formed trivial

/-- From the disabled calendar the table is in form throughout a run exactly when
every edit of the run is sound. -/
theorem calendar_always_well_formed {st : SprinklerdState} (disabled : AllDisabled cfg st.cron)
    (events : List TimedEvent) :
    (∀ done, done <+: events → WellFormed cfg (run (daemonStep cfg) st done).cron) ↔
      ∀ event ∈ events, SoundRequest cfg event.2 := by
  apply (prefixes_iff_condition (fun st : SprinklerdState => WellFormed cfg st.cron) _
    (well_formed_of_disabled disabled) (admitted_of_forall fun _ _ => trivial)).trans
  · exact admitted_iff_forall
  · intro st event formed _
    exact daemon_step_well_formed formed

section Bench

def benchDisabled : SprinklerdState :=
  { benchState with cron := fun _ => { hour := -1, minute := -1, zruntimes := fun _ => 0 } }

def calcfgRequest (text : String) : TimedEvent :=
  (1000, .webRequest ("type=calcfg&".toList ++ text.toList) [])

theorem bench_disabled : AllDisabled (benchCfg benchWiring) benchDisabled.cron :=
  fun _ _ => ⟨⟨rfl, rfl⟩, fun _ _ => rfl⟩

theorem sound_of_check {query stack : Text}
    (checked : (calendarEdit query stack).all (fun edit => SoundEdit cfg edit) = true) :
    SoundRequest cfg (.webRequest query stack) := by
  intro edit read
  rw [read, Option.all_some] at checked
  exact of_decide_eq_true checked

theorem calendar_always_well_formed_scheduled :
    WellFormed (benchCfg benchWiring)
      (run (daemonStep (benchCfg benchWiring)) benchDisabled
        [calcfgRequest "day=1&zone=&time=06:30"]).cron := by
  apply (calendar_always_well_formed bench_disabled _).mpr _ _ (List.prefix_refl _)
  intro event member
  rw [List.mem_singleton.mp member]
  apply sound_of_check
  decide +kernel

/-- A negative runtime and a time that is none are both stored. -/
theorem calcfg_stores_what_it_is_given :
    ¬ WellFormed (benchCfg benchWiring) (daemonStep (benchCfg benchWiring) benchDisabled
        (calcfgRequest "day=1&zone=1&time=-5")).cron ∧
      ¬ WellFormed (benchCfg benchWiring) (daemonStep (benchCfg benchWiring) benchDisabled
        (calcfgRequest "day=1&zone=&time=99:99")).cron := by
  constructor
  · intro formed
    have stored : ((daemonStep (benchCfg benchWiring) benchDisabled
        (calcfgRequest "day=1&zone=1&time=-5")).cron 1).zruntimes 0 = -5 := by decide +kernel
    have runtime := (formed 1 (by decide)).runtimes 0 (by decide)
    rw [stored] at runtime
    exact absurd runtime (by decide)
  · intro formed
    have stored : ((daemonStep (benchCfg benchWiring) benchDisabled
        (calcfgRequest "day=1&zone=&time=99:99")).cron 1).hour = 99 := by decide +kernel
    have time := (formed 1 (by decide)).time
    rw [stored] at time
    omega

end Bench

end SprinklerD.CalendarForm
