import SprinklerD.CacheRoundTrip
import SprinklerD.CronBounds
import SprinklerD.CronPersistence
import SprinklerD.CronRoundTrip
import SprinklerD.MainStart

/-!
# Stopping and starting again

A daemon that is stopped leaves its settings in the cache file and, once no edit is pending,
its schedule in the crontab. One that is started with the same configuration comes back with
both, whatever the memory holds that it is given.
-/

namespace SprinklerD.Restart

open Foundation.CString Foundation.GreedyPattern Foundation.SinglePrecision
open Foundation.Transitions
open SprinklerD.Config SprinklerD.SdCron SprinklerD.CacheFile SprinklerD.CacheRoundTrip
open SprinklerD.CronTable SprinklerD.CronReader SprinklerD.CronCalendar SprinklerD.CronRoundTrip
open SprinklerD.CronBounds SprinklerD.CronPersistence SprinklerD.CalendarEdits SprinklerD.Operations
open SprinklerD.Daemon SprinklerD.Shutdown SprinklerD.ReadCfg SprinklerD.InstallationFile
open SprinklerD.MainStart SprinklerD.NetServices

set_option autoImplicit false

structure Resumes (cfg : SprinklerdCfg) (before after : SprinklerdState) : Prop where
  schedule : ∀ day ∈ weekDays,
    CronRoundTrip.Restored cfg (before.cron day) (after.cron day)
  settings : CacheRoundTrip.Restored cfg before after
  idle : after.currentZone.type = .zcNone

/-- What the crontab can carry: every scheduled day waters, within the day, and no runtime has a
third digit. -/
structure CronCarries (cfg : SprinklerdCfg) (st : SprinklerdState) : Prop where
  port : ∀ char ∈ cfg.socketPort, isSpace char = false
  commands : ∀ before ∈ cfg.runBeforeCmd, ¬ NamesZone before.command
  fits : ∀ day ∈ weekDays, scheduled (st.cron day) = true → FitsDay cfg (st.cron day)
  short : ∀ day ∈ weekDays, scheduled (st.cron day) = true →
    ∀ zone ∈ zoneIndexes cfg, (st.cron day).zruntimes zone ≤ 99

structure CacheCarries (cfg : SprinklerdCfg) (st : SprinklerdState) : Prop where
  range : CacheRange cfg st
  time : Survives st.delay24hTime
  unmarked : st.precipChanceDelay ≠ -1
  chance : Survives st.precipChanceDelay
  runtimes : ∀ zone ∈ zoneList cfg, Survives (st.defaultRuntime zone)

section Memory

variable {cfg : SprinklerdCfg}

def SameSchedule (cfg : SprinklerdCfg) (first second : Int → CalendarDay) : Prop :=
  ∀ day ∈ weekDays, (first day).hour = (second day).hour ∧
    (first day).minute = (second day).minute ∧
    ∀ zone ∈ zoneIndexes cfg, (first day).zruntimes zone = (second day).zruntimes zone

theorem read_line_same {first second : Int → CalendarDay} (same : SameSchedule cfg first second)
    (line : Text) :
    SameSchedule cfg (readCronLine cfg first line) (readCronLine cfg second line) := by
  unfold readCronLine
  cases found : search cronPattern line with
  | none => exact same
  | some groups =>
      obtain ⟨minute, hour, dayText, zoneText, runtime, rfl, -⟩ := groups_of_line found
      dsimp only
      generalize str2int dayText dayText.length = lineDay
      generalize str2int zoneText zoneText.length = lineZone
      by_cases bounds : lineDay < 7 ∧ lineZone ≤ cfg.zones
      · rw [if_pos bounds, if_pos bounds]
        intro day weekDay
        by_cases here : day = lineDay
        · subst here
          obtain ⟨hours, minutes, runtimes⟩ := same day weekDay
          rw [Function.update_self, Function.update_self, hours]
          refine ⟨?_, ?_, ?_⟩
          · dsimp only
            split_ifs
            · rfl
            · exact hours
          · dsimp only
            split_ifs
            · rfl
            · exact minutes
          · intro zone index
            dsimp only
            by_cases stored : zone = lineZone - 1
            · rw [stored, Function.update_self, Function.update_self]
            · rw [Function.update_of_ne stored, Function.update_of_ne stored]
              split_ifs
              · exact runtimes zone index
              · exact runtimes zone index
        · rw [Function.update_of_ne here, Function.update_of_ne here]
          exact same day weekDay
      · rw [if_neg bounds, if_neg bounds]
        exact same

theorem cleared_same (first second : Int → CalendarDay) :
    SameSchedule cfg (clearedTable cfg first) (clearedTable cfg second) := by
  intro day weekDay
  rw [clearedTable, clearedTable, if_pos weekDay, if_pos weekDay]
  refine ⟨rfl, rfl, fun zone index => ?_⟩
  dsimp only
  rw [if_pos index, if_pos index]

/-- Of the crontab nothing but its text counts. -/
theorem read_cron_same {first second : SprinklerdState}
    (file : first.disk.cronFile = second.disk.cronFile) :
    SameSchedule cfg (readCron cfg first).cron (readCron cfg second).cron := by
  have lines (lines : List Text) {one two : Int → CalendarDay} (same : SameSchedule cfg one two) :
      SameSchedule cfg (lines.foldl (readCronLine cfg) one)
        (lines.foldl (readCronLine cfg) two) := by
    induction lines generalizing one two with
    | nil => exact same
    | cons line rest ih => exact ih (read_line_same same line)
  unfold readCron
  rw [file]
  cases second.disk.cronFile with
  | none => exact cleared_same first.cron second.cron
  | some text => exact lines (getLines text) (cleared_same first.cron second.cron)

theorem restored_of_same {first second : Int → CalendarDay} (same : SameSchedule cfg first second)
    {day : Int} (weekDay : day ∈ weekDays) :
    CronRoundTrip.Restored cfg (first day) (second day) := by
  obtain ⟨hours, minutes, runtimes⟩ := same day weekDay
  constructor
  · exact fun _ => ⟨hours.symm, minutes.symm⟩
  · exact fun _ zone index => (runtimes zone index).symm
  · intro off
    rw [scheduled, ← hours, ← minutes]
    exact off

end Memory

section Zones

variable {cfg other : SprinklerdCfg}

/-- The readers of the two files ask the configuration for the number of zones only. -/
theorem read_cron_zones (same : other.zones = cfg.zones) (st : SprinklerdState) :
    readCron other st = readCron cfg st := by
  have cleared (table : Int → CalendarDay) : clearedTable other table = clearedTable cfg table := by
    unfold clearedTable zoneIndexes
    rw [same]
  have line : readCronLine other = readCronLine cfg := by
    unfold readCronLine
    rw [same]
  unfold readCron
  rw [line, cleared]

theorem zone_list_zones (same : other.zones = cfg.zones) : zoneList other = zoneList cfg := by
  rw [zoneList, zoneList, same]

end Zones

section Unedited

variable {cfg : SprinklerdCfg}

def Unedited (st : SprinklerdState) (h : History) : Prop :=
  h.edited = false → h.daemon.cronUpdate = st.cronUpdate ∧ h.daemon.cron = st.cron ∧
    h.daemon.disk.cronFile = st.disk.cronFile

theorem history_step_unedited {st : SprinklerdState} (never : st.cronUpdate ≤ 0) {h : History}
    (held : Unedited st h) (event : TimedEvent) : Unedited st (historyStep cfg h event) := by
  intro unedited
  obtain ⟨before, noEdit⟩ := Bool.or_eq_false_iff.mp unedited
  obtain ⟨update, table, file⟩ := held before
  have outcome := calendar_outcome cfg h event
  generalize historyStep cfg h event = after at outcome ⊢
  cases outcome with
  | edited read stamped =>
      rw [noEdit] at read
      cases read
  | written due => exact absurd due.1 (by omega)
  | dropped due => exact absurd due.1 (by omega)
  | untouched idle same kept saved pending stored =>
      exact ⟨pending.trans update, kept.trans table, stored.trans file⟩

theorem run_unedited {st : SprinklerdState} (never : st.cronUpdate ≤ 0)
    (events : List TimedEvent) : Unedited st (run (historyStep cfg) (begun st) events) := by
  have kept (h : History) (held : Unedited st h) :
      Unedited st (run (historyStep cfg) h events) := by
    induction events generalizing h with
    | nil => exact held
    | cons event rest ih => exact ih _ (history_step_unedited never held event)
  exact kept (begun st) fun _ => ⟨rfl, rfl, rfl⟩

end Unedited

section Starting

variable {World Again : Type} {machine : Machine World} {again : Machine Again}
  {made : Configuration} {st : SprinklerdState}

theorem count_same_file {around other : Surroundings} (file : other.inifile = around.inifile)
    (named : Int → Text) (key : Text) (left found : Nat) :
    countSections other named key left found = countSections around named key left found := by
  induction left generalizing found with
  | zero => rfl
  | succ left ih =>
      rw [countSections, countSections, getNumber, getNumber, file]
      split_ifs
      · rfl
      · exact ih (found + 1)

theorem read_cfg_zones {around : Surroundings} (read : readCfg around = some made) :
    made.cfg.zones = zoneCount around := by
  have positive := zones_of_read read
  have accepted : readCfg around = some _ := dif_pos positive
  rw [accepted] at read
  cases read
  rfl

theorem read_cfg_inputs {around : Surroundings} (read : readCfg around = some made) :
    made.inputs = inputCount around := by
  have positive := zones_of_read read
  have accepted : readCfg around = some _ := dif_pos positive
  rw [accepted] at read
  cases read
  rfl

/-- The file decides whether there is a configuration, and how many zones and inputs it has. -/
theorem read_cfg_same_file {around other : Surroundings} (file : other.inifile = around.inifile)
    (read : readCfg around = some made) :
    ∃ remade, readCfg other = some remade ∧ remade.cfg.zones = made.cfg.zones ∧
      remade.inputs = made.inputs := by
  have count : zoneCount other = zoneCount around := count_same_file file _ _ _ _
  have positive : 0 < zoneCount other := by
    rw [count]
    exact zones_of_read read
  refine ⟨_, dif_pos positive, ?_, ?_⟩
  · rw [read_cfg_zones read, ← count]
  · rw [read_cfg_inputs read]
    exact count_same_file file _ _ _ _

/-- The table of the calendar is what the crontab says, and no edit is pending. -/
theorem started_files (starts : mainStart machine = some (made, st)) :
    st.cron = (readCron made.cfg (configured machine made)).cron ∧
      st.cronUpdate = 0 ∧ st.disk = machine.disk ∧
      header st = header (readCache made.cfg (readCron made.cfg (configured machine made))) ∧
      st.defaultRuntime =
        (readCache made.cfg (readCron made.cfg (configured machine made))).defaultRuntime := by
  obtain ⟨-, -, rfl⟩ := start_reads starts
  have cache := @read_cache_aside made.cfg (readCron made.cfg (configured machine made))
  have crontab := @read_cron_aside made.cfg (configured machine made)
  simp only [aside, Prod.mk.injEq] at cache
  obtain ⟨-, -, cron, update, disk⟩ := cache
  exact ⟨cron, update.trans crontab.2.2.1, disk.trans crontab.2.2.2, rfl, rfl⟩

/-- The daemon that is stopped after a run, with no edit of the calendar pending, and started
again with the same configuration file on a machine that is ready, has its schedule and its
settings back as far as the two files can carry them. -/
theorem restart_resumes (starts : mainStart machine = some (made, st)) (ready : Ready again)
    {events : List TimedEvent} (clock : ∀ event ∈ events, 0 < event.1)
    (opens : Admitted (historyStep made.cfg) OpensWhenDue (begun st) events) :
    let h := run (historyStep made.cfg) (begun st) events
    h.daemon.cronUpdate ≤ 0 → h.daemon.disk.cacheOpens = true →
    CacheCarries made.cfg h.daemon → (h.edited = true → CronCarries made.cfg h.daemon) →
    again.around.inifile = machine.around.inifile →
    again.disk.cacheFile = (intHandler made.cfg h.daemon).disk.cacheFile →
    again.disk.cronFile = (intHandler made.cfg h.daemon).disk.cronFile →
    ∃ remade after, mainStart again = some (remade, after) ∧
      Resumes made.cfg h.daemon after := by
  intro h settled cacheOpens carried scheduleCarried file cacheFile cronFile
  obtain ⟨read, without, -⟩ := start_reads starts
  obtain ⟨remade, reread, zones, inputs⟩ := read_cfg_same_file file read
  have restarted := start_of_read reread ready (inputs.trans without)
  obtain ⟨cron, -, -, headers, runtimes⟩ := started_files restarted
  refine ⟨remade, entered again remade, restarted, ?_, ?_, (started_reads restarted).1⟩
  · intro day weekDay
    have kept : again.disk.cronFile = h.daemon.disk.cronFile :=
      cronFile.trans (congrArg CalendarPart.cronFile (int_handler_calendar_part h.daemon))
    rw [cron, read_cron_zones zones]
    cases edited : h.edited with
    | true =>
        have carries := scheduleCarried edited
        have onDisk : h.daemon.disk.cronFile = some (cronText made.cfg h.daemon.cron) :=
          run_on_disk clock opens settled edited
        rw [read_cron_eq carries.port carries.commands carries.fits (kept.trans onDisk) weekDay]
        apply (restored_iff (carries.fits day weekDay) ?_ ?_).mpr (carries.short day weekDay)
        · rw [clearedTable, if_pos weekDay]
        · intro zone index
          rw [clearedTable, if_pos weekDay]
          exact if_pos index
    | false =>
        obtain ⟨loaded, update, disk, -⟩ := started_files starts
        obtain ⟨-, table, stored⟩ := run_unedited (le_of_eq update) events edited
        rw [table, loaded]
        apply restored_of_same (read_cron_same ?_) weekDay
        change machine.disk.cronFile = again.disk.cronFile
        rw [kept, stored, disk]
  · have list := zone_list_zones zones
    have saved : (readCron remade.cfg (configured again remade)).disk.cacheFile =
        some (cacheNumbers remade.cfg h.daemon) := by
      have numbers : cacheNumbers remade.cfg h.daemon = cacheNumbers made.cfg h.daemon := by
        rw [cacheNumbers, cacheNumbers, list]
      rw [(read_cron_aside _).2.2.2, numbers]
      exact cacheFile.trans (write_cache_file cacheOpens)
    have range : CacheRange remade.cfg h.daemon :=
      ⟨carried.range.time, carried.range.chance, by rw [list]; exact carried.range.runtimes⟩
    obtain ⟨back, zonesBack⟩ := read_cache_back h.daemon _ range saved
    have values := headers.trans back
    simp only [header, Prod.mk.injEq] at values
    obtain ⟨calendar, delay, time, chance⟩ := values
    rw [chanceAfter, if_neg carried.unmarked] at chance
    have late := carried.range.time
    have percent := carried.range.chance
    constructor
    · exact calendar
    · exact delay
    · exact time.trans ((reread_eq (by omega) late.2).mpr carried.time)
    · exact chance.trans ((reread_eq percent.1 percent.2).mpr carried.chance)
    · intro zone listed
      have bounds := carried.range.runtimes zone listed
      rw [runtimes, zonesBack zone (by rw [list]; exact listed)]
      exact (reread_eq (by omega) bounds.2).mpr (carried.runtimes zone listed)

/-- The machine of the bench when it is switched on again: other levels, other memory, and the
files as they were left. -/
def benchAgain (disk : Disk) : Machine Unit :=
  { benchMachine benchPlan with
    level := fun _ => false
    disk := disk
    cronMemory := fun _ => { hour := 6, minute := 30, zruntimes := fun _ => 5 } }

theorem bench_carries {cfg : SprinklerdCfg} {st : SprinklerdState} (time : st.delay24hTime = 0)
    (chance : st.precipChanceDelay = 0)
    (runtimes : ∀ zone ∈ zoneList cfg, st.defaultRuntime zone = 15) : CacheCarries cfg st := by
  have small (value : Int) (bound : |value| < 2 ^ 24) : Survives value :=
    Or.inl (exact_of_small bound)
  constructor
  · constructor
    · rw [time]
      decide
    · rw [chance]
      decide
    · intro zone listed
      rw [runtimes zone listed]
      decide
  · rw [time]
    exact small 0 (by decide)
  · rw [chance]
    decide
  · rw [chance]
    exact small 0 (by decide)
  · intro zone listed
    rw [runtimes zone listed]
    exact small 15 (by decide)

/-- Zone 1 is set to twelve minutes on Mondays from half past six, the crontab is written, and the
calendar is turned off. -/
def benchEdits : List TimedEvent :=
  [(1000, .webRequest "type=calcfg&day=1&zone=1&time=12".toList []),
    (1001, .webRequest "type=calcfg&day=1&zone=&time=06:30".toList []),
    (1030, .checkCron), (1031, .call (.enableCalendar false))]

/-- The edits as they are read. The buffer holds more than the text. -/
def benchRuntime : CalendarEdit :=
  { day := 1, zone := 1, time := ['1', '2', nul, 'c', 'f', 'g', nul] }

def benchHour : CalendarEdit := { day := 1, zone := 0, time := "06:30".toList ++ [nul, nul] }

theorem bench_edits_read :
    calendarEdit "type=calcfg&day=1&zone=1&time=12".toList [] = some benchRuntime ∧
      calendarEdit "type=calcfg&day=1&zone=&time=06:30".toList [] = some benchHour := by
  decide +kernel

def benchTable (cfg : SprinklerdCfg) (table : Int → CalendarDay) : Int → CalendarDay :=
  editTable cfg benchHour (editTable cfg benchRuntime table)

/-- Before the crontab is written. -/
theorem bench_edits_pending (cfg : SprinklerdCfg) (st : SprinklerdState) :
    run (daemonStep cfg) st (benchEdits.take 2) =
      { st with cron := benchTable cfg st.cron, cronUpdate := 1001 } := by
  change (actionWebRequest cfg 1001 _ [] (actionWebRequest cfg 1000 _ [] st).1).1 = _
  rw [web_request_edit bench_edits_read.1, web_request_edit bench_edits_read.2]
  rfl

theorem bench_edits_run (cfg : SprinklerdCfg) {st : SprinklerdState} (calendar : st.calendar = true)
    (opens : st.disk.cronOpens = true) :
    ∃ disk mask, disk.cacheOpens = st.disk.cacheOpens ∧ run (daemonStep cfg) st benchEdits =
      { st with cron := benchTable cfg st.cron, cronUpdate := 0, calendar := false, disk := disk,
                updateEventMask := mask } := by
  have pending : run (daemonStep cfg) st benchEdits =
      enableCalendar false (CronTable.checkCron cfg 1030
        { st with cron := benchTable cfg st.cron, cronUpdate := 1001 }) :=
    congrArg (fun edited => enableCalendar false (CronTable.checkCron cfg 1030 edited))
      (bench_edits_pending cfg st)
  have due : 0 < (1001 : Int) ∧ timediffCronUpdate < (1030 : Int) - 1001 := by decide
  rw [pending, CronTable.checkCron, if_pos due, writeCron]
  simp only [remount_eq, opens, Bool.true_eq_false, if_false]
  rw [enableCalendar, if_pos (by simp [calendar])]
  refine ⟨_, _, ?_, rfl⟩
  rfl

theorem cleared_runtime {cfg : SprinklerdCfg} (table : Int → CalendarDay) {day zone : Int}
    (weekDay : day ∈ weekDays) (index : zone ∈ zoneIndexes cfg) :
    (clearedTable cfg table day).zruntimes zone = 0 := by
  rw [clearedTable, if_pos weekDay]
  exact if_pos index

theorem bench_table_monday {cfg : SprinklerdCfg} (two : cfg.zones = 2)
    (table : Int → CalendarDay) :
    benchTable cfg (clearedTable cfg table) 1 =
      { hour := 6, minute := 30,
        zruntimes := Function.update (clearedTable cfg table 1).zruntimes 0 12 } := by
  rw [benchTable, editTable, editTable]
  have runtime : editKind cfg benchRuntime = .runtime := by
    rw [editKind, two]
    rfl
  have hour : editKind cfg benchHour = .schedule := by
    rw [editKind, two]
    rfl
  have numbers : atoi benchRuntime.time = 12 ∧ str2int benchHour.time 2 = 6 ∧
      str2int (benchHour.time.drop 3) 2 = 30 := by decide +kernel
  rw [runtime, hour, editDay, editDay, numbers.1, numbers.2.1, numbers.2.2]
  have days : benchHour.day = 1 ∧ benchRuntime.day = 1 := ⟨rfl, rfl⟩
  rw [days.1, days.2, Function.update_self, Function.update_self]
  rfl

/-- What the lines of the crontab have of the configuration. -/
theorem schedule_of_read {plan : Installation} (ok : InstallationOk plan) {around : Surroundings}
    (file : around.inifile = some (installationFile plan)) (read : readCfg around = some made) :
    made.cfg.socketPort = plan.port.take 5 ∧
      made.cfg.runBeforeCmd = plan.externals.map plannedExternal := by
  have positive := zones_of_read read
  have accepted : readCfg around = some _ := dif_pos positive
  rw [accepted] at read
  cases read
  exact ⟨general_text ok file (by decide) rfl "8888".toList 6, externals_planned ok file⟩

theorem bench_table_carries {cfg : SprinklerdCfg} (two : cfg.zones = 2)
    (port : cfg.socketPort = "80".toList)
    (commands : ∀ before ∈ cfg.runBeforeCmd, 'z' ∉ before.command) {st : SprinklerdState}
    {table : Int → CalendarDay} (cron : st.cron = benchTable cfg (clearedTable cfg table)) :
    CronCarries cfg st := by
  have indexes : zoneIndexes cfg = [0, 1] := by
    rw [zoneIndexes, two]
    rfl
  have second : (clearedTable cfg table 1).zruntimes 1 = 0 :=
    cleared_runtime table (by decide) (by rw [indexes]; decide)
  have monday := bench_table_monday two table
  have only {day : Int} (weekDay : day ∈ weekDays) (on : scheduled (st.cron day) = true) :
      day = 1 := by
    by_contra other
    have unset : st.cron day = clearedTable cfg table day := by
      rw [cron, benchTable, editTable, Function.update_of_ne (show day ≠ benchHour.day from other),
        editTable, Function.update_of_ne (show day ≠ benchRuntime.day from other)]
    rw [unset, clearedTable, if_pos weekDay] at on
    cases on
  constructor
  · rw [port]
    exact List.all_iff_forall_prop.mp (by decide)
  · exact fun before member named => commands before member (names_zone_mem named)
  · intro day weekDay on
    rw [only weekDay on, cron, monday]
    constructor
    · change 0 ≤ (6 : Int) ∧ (6 : Int) ≤ 23
      decide
    · change 0 ≤ (30 : Int) ∧ (30 : Int) ≤ 59
      decide
    · rw [indexes]
      simp [second]
    · rw [indexes]
      exact ⟨0, by decide, by simp⟩
    · rw [indexes]
      simp [second]
  · intro day weekDay on
    rw [only weekDay on, cron, monday, indexes]
    simp [second]

theorem restart_resumes_calendar :
    ∃ made st remade after, mainStart (benchMachine benchPlan) = some (made, st) ∧
      mainStart (benchAgain (intHandler made.cfg (run (daemonStep made.cfg) st benchEdits)).disk) =
        some (remade, after) ∧
      after.calendar = false ∧ after.defaultRuntime 2 = 15 ∧
      (after.cron 1).hour = 6 ∧ (after.cron 1).minute = 30 ∧ (after.cron 1).zruntimes 0 = 12 := by
  obtain ⟨made, read, table⟩ := @plan_read benchPlan bench_plan_ok
    (benchMachine benchPlan).around rfl
  have starts := start_of_read read (bench_machine_ready benchPlan) table.inputs
  generalize entered (benchMachine benchPlan) made = st at starts
  obtain ⟨loaded, update, disk, headers, runtimes⟩ := started_files starts
  have fresh : header st = (true, false, 0, 0) := headers
  simp only [header, Prod.mk.injEq] at fresh
  obtain ⟨calendar, -, time, chance⟩ := fresh
  have fifteen (zone : Int) (listed : zone ∈ zoneList made.cfg) : st.defaultRuntime zone = 15 := by
    obtain ⟨valve, planned⟩ := planned_of_table table (in_table_of_zone listed)
    have entry := congrArg ZoneEntry.defaultRuntime (table.entries zone valve planned)
    rw [runtimes]
    exact entry.trans (bench_planned planned).2.1
  have opens : st.disk.cronOpens = true := congrArg Disk.cronOpens disk
  obtain ⟨stored, mask, cacheOpens, stopped⟩ := @bench_edits_run made.cfg st calendar opens
  have two : made.cfg.zones = 2 := table.zones
  have carried : CacheCarries made.cfg (run (daemonStep made.cfg) st benchEdits) := by
    rw [stopped]
    exact bench_carries time chance fifteen
  have schedule : CronCarries made.cfg (run (daemonStep made.cfg) st benchEdits) := by
    obtain ⟨port, commands⟩ := schedule_of_read bench_plan_ok rfl read
    rw [stopped, loaded]
    refine bench_table_carries two port ?_ rfl
    rw [commands]
    exact List.all_iff_forall_prop.mp (by decide)
  have due : (run (daemonStep made.cfg) st (benchEdits.take 2)).disk.cronOpens = true := by
    rw [bench_edits_pending]
    exact opens
  have settled : (run (daemonStep made.cfg) st benchEdits).cronUpdate ≤ 0 := by rw [stopped]
  have cacheFree : (run (daemonStep made.cfg) st benchEdits).disk.cacheOpens = true := by
    rw [stopped]
    exact cacheOpens.trans (congrArg Disk.cacheOpens disk)
  obtain ⟨remade, after, restarted, resumes⟩ := @restart_resumes Unit Unit (benchMachine benchPlan)
    (benchAgain (intHandler made.cfg (run (daemonStep made.cfg) st benchEdits)).disk) made st starts
    ⟨rfl, rfl⟩ benchEdits (by decide) ⟨trivial, trivial, fun _ => due, trivial, trivial⟩
    settled cacheFree carried (fun _ => schedule) rfl rfl rfl
  have back : Resumes made.cfg (run (daemonStep made.cfg) st benchEdits) after := resumes
  have monday : (run (daemonStep made.cfg) st benchEdits).cron 1 =
      { hour := 6, minute := 30,
        zruntimes := Function.update (clearedTable made.cfg
          (benchMachine benchPlan).cronMemory 1).zruntimes 0 12 } := by
    rw [stopped, loaded]
    exact bench_table_monday two _
  obtain ⟨start, minutes, -⟩ := back.schedule 1 (by decide)
  rw [monday] at start minutes
  have first : (0 : Int) ∈ zoneIndexes made.cfg := by
    rw [zoneIndexes, two]
    decide
  have listed : (2 : Int) ∈ zoneList made.cfg := by
    rw [mem_zone_list, two]
    decide
  refine ⟨made, st, remade, after, starts, restarted, ?_, ?_, (start rfl).1, (start rfl).2, ?_⟩
  · rw [back.settings.calendar, stopped]
  · rw [back.settings.runtimes 2 listed, stopped]
    exact fifteen 2 listed
  · rw [minutes rfl 0 first]
    simp

end Starting

end SprinklerD.Restart
