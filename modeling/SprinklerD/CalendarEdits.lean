import SprinklerD.Untouched
import SprinklerD.WebDispatch

/-!
# Edits of the calendar

A `calcfg` query reads a day, a zone and a time and edits one day of the calendar.
No other event of the daemon touches the calendar, and only `check_cron` looks at
the crontab and at the time of the last edit.
-/

namespace SprinklerD.CalendarEdits

open Foundation.MachineInt Foundation.CString
open SprinklerD.Config SprinklerD.ZoneCtrl SprinklerD.SdCron SprinklerD.CronTable
open SprinklerD.NetServices SprinklerD.Operations SprinklerD.Daemon SprinklerD.Untouched
open SprinklerD.WebDispatch

set_option autoImplicit false

/-- What a `calcfg` query says. `time` is the buffer, which goes on after the text. -/
structure CalendarEdit where
  day : Int
  zone : Int
  time : Text
deriving DecidableEq

def readEdit (query buf : Text) : CalendarEdit :=
  let dayText := mgGetHttpVar query "day".toList buf
  let zoneText := mgGetHttpVar query "zone".toList dayText
  { day := atoi dayText, zone := atoi zoneText, time := mgGetHttpVar query "time".toList zoneText }

def calendarEdit (query stack : Text) : Option CalendarEdit :=
  let buf := mgGetHttpVar query "type".toList stack
  if query ≠ [] ∧ strcmpEqual buf "calcfg".toList then some (readEdit query buf) else none

inductive EditKind where
  | runtime
  | schedule
  | remove
  | nothing
deriving DecidableEq, Repr

def editKind (cfg : SprinklerdCfg) (edit : CalendarEdit) : EditKind :=
  if edit.day < 0 ∨ 6 < edit.day then .nothing
  else if 0 < edit.zone then (if edit.zone ≤ cfg.zones then .runtime else .nothing)
  else if cString edit.time = [] then .remove
  else .schedule

def editDay (edit : CalendarEdit) (entry : CalendarDay) : EditKind → CalendarDay
  | .runtime =>
      { entry with zruntimes := Function.update entry.zruntimes (edit.zone - 1) (atoi edit.time) }
  | .schedule =>
      { entry with hour := str2int edit.time 2, minute := str2int (edit.time.drop 3) 2 }
  | .remove => { entry with hour := -1, minute := -1 }
  | .nothing => entry

def editTable (cfg : SprinklerdCfg) (edit : CalendarEdit) (table : Int → CalendarDay) :
    Int → CalendarDay :=
  Function.update table edit.day (editDay edit (table edit.day) (editKind cfg edit))

structure CalendarPart where
  cron : Int → CalendarDay
  cronUpdate : Int
  cronOpens : Bool
  cronFile : Option Text

def calendarPart (st : SprinklerdState) : CalendarPart where
  cron := st.cron
  cronUpdate := st.cronUpdate
  cronOpens := st.disk.cronOpens
  cronFile := st.disk.cronFile

variable {cfg : SprinklerdCfg}

section OtherEvents

theorem calendar_part_of_untouched {st st' : SprinklerdState}
    (same : untouched st' = untouched st) : calendarPart st' = calendarPart st :=
  congrArg (fun part : UntouchedPart =>
    CalendarPart.mk part.cron part.cronUpdate part.cronOpens part.cronFile) same

theorem write_cache_calendar_part (st : SprinklerdState) :
    calendarPart (writeCache cfg st) = calendarPart st :=
  calendar_part_of_untouched (write_cache_untouched st)

end OtherEvents

section Requests

/-- The branches of the handler, on the values it has read. -/
theorem configured_eq (day zone : Int) (time : Text) (st : SprinklerdState) :
    (if (0 ≤ day ∧ day ≤ 6) ∧ 0 < zone then
      if zone ≤ cfg.zones then
        { st with cron := Function.update st.cron day { st.cron day with
          zruntimes := Function.update (st.cron day).zruntimes (zone - 1) (atoi time) } }
      else st
    else if (0 ≤ day ∧ day ≤ 6) ∧ cString time ≠ [] then
      { st with cron := Function.update st.cron day { st.cron day with
        hour := str2int time 2, minute := str2int (time.drop 3) 2 } }
    else if 0 ≤ day ∧ day ≤ 6 then
      { st with cron := Function.update st.cron day { st.cron day with
        hour := -1, minute := -1 } }
    else st) = { st with cron := editTable cfg ⟨day, zone, time⟩ st.cron } := by
  unfold editTable editKind
  by_cases week : 0 ≤ day ∧ day ≤ 6
  · have inside : ¬ (day < 0 ∨ 6 < day) := by omega
    rw [if_neg inside]
    by_cases positive : 0 < zone
    · rw [if_pos ⟨week, positive⟩, if_pos positive]
      split_ifs
      · simp only [editDay]
      · simp only [editDay, Function.update_eq_self]
    rw [if_neg fun both => positive both.2, if_neg positive]
    by_cases empty : cString time = []
    · rw [if_neg fun both => both.2 empty, if_pos week, if_pos empty]
      simp only [editDay]
    · rw [if_pos ⟨week, empty⟩, if_neg empty]
      simp only [editDay]
  · have outside : day < 0 ∨ 6 < day := by omega
    rw [if_neg fun both => week both.1, if_neg fun both => week both.1, if_neg week,
      if_pos outside]
    simp only [editDay, Function.update_eq_self]

theorem serve_calcfg_edit (now : Int) (query buf : Text) (st : SprinklerdState) :
    (serveCalcfg cfg now query buf st).1 =
      { st with cron := editTable cfg (readEdit query buf) st.cron, cronUpdate := now } := by
  unfold serveCalcfg readEdit
  simp only
  rw [configured_eq]

theorem serve_web_request_other (now : Int) (query stack : Text) (st : SprinklerdState)
    (other : strcmpEqual (mgGetHttpVar query "type".toList stack) "calcfg".toList = false) :
    calendarPart (serveWebRequest cfg now query stack st).1 = calendarPart st := by
  have served := serve_web_request_served cfg now query stack st
  generalize serveWebRequest cfg now query stack st = answer at served ⊢
  cases served with
  | read reply => rfl
  | option => exact calendar_part_of_untouched (serve_option_untouched now query _ st)
  | config => exact calendar_part_of_untouched (serve_config_untouched query _ st)
  | sensor => exact calendar_part_of_untouched (serve_sensor_untouched now query _ st)
  | zone => exact calendar_part_of_untouched (serve_zone_untouched now query _ st)
  | zrtcfg => exact calendar_part_of_untouched (serve_zrtcfg_untouched query _ st)
  | calcfg asked => exact absurd asked (Bool.eq_false_iff.mp other)

/-- An edit changes the table and its time, and nothing else. -/
theorem web_request_edit {now : Int} {query stack : Text} {edit : CalendarEdit}
    (read : calendarEdit query stack = some edit) (st : SprinklerdState) :
    (actionWebRequest cfg now query stack st).1 =
      { st with cron := editTable cfg edit st.cron, cronUpdate := now } := by
  unfold calendarEdit at read
  simp only at read
  split_ifs at read with asked
  rw [actionWebRequest, if_neg asked.1]
  simp only
  rw [serve_web_request_calcfg now st asked.2, serve_calcfg_edit, Option.some.inj read]

/-- A query edits the calendar as its `calcfg` text says, or leaves it alone. -/
theorem web_request_calendar (now : Int) (query stack : Text) (st : SprinklerdState) :
    calendarPart (actionWebRequest cfg now query stack st).1 =
      match calendarEdit query stack with
      | some edit =>
          { calendarPart st with cron := editTable cfg edit st.cron, cronUpdate := now }
      | none => calendarPart st := by
  cases read : calendarEdit query stack with
  | some edit => exact congrArg calendarPart (web_request_edit read st)
  | none =>
      unfold calendarEdit at read
      simp only at read
      split_ifs at read with asked
      rw [actionWebRequest]
      split_ifs with empty
      · rfl
      · have other : strcmpEqual (mgGetHttpVar query "type".toList stack) "calcfg".toList = false :=
          Bool.eq_false_of_not_eq_true fun calcfg => asked ⟨empty, calcfg⟩
        exact serve_web_request_other now query stack st other

end Requests

def calendarAfter (cfg : SprinklerdCfg) (st : SprinklerdState) : TimedEvent → CalendarPart
  | (now, .webRequest query stack) =>
      match calendarEdit query stack with
      | some edit =>
          { calendarPart st with cron := editTable cfg edit st.cron, cronUpdate := now }
      | none => calendarPart st
  | (now, .checkCron) => calendarPart (CronTable.checkCron cfg now st)
  | (_, .filesOpen _ cronOpens) => { calendarPart st with cronOpens := cronOpens }
  | _ => calendarPart st

theorem daemon_step_calendar (st : SprinklerdState) (event : TimedEvent) :
    calendarPart (daemonStep cfg st event) = calendarAfter cfg st event := by
  obtain ⟨now, event⟩ := event
  cases event with
  | webRequest query stack => exact web_request_calendar now query stack st
  | mqttMessage message => exact calendar_part_of_untouched (action_mqtt_untouched now message st)
  | domoticzMessage idx nvalue svalue =>
      rw [daemonStep, action_domoticz_perform]
      exact calendar_part_of_untouched (perform_untouched now st _)
  | call operation =>
      exact calendar_part_of_untouched (apply_operation_untouched cfg now st operation)
  | checkCron => rfl
  | broadcast dzCache mask => rfl
  | filesOpen cacheOpens cronOpens => rfl

theorem check_cron_idle {now : Int} {st : SprinklerdState}
    (idle : ¬ (0 < st.cronUpdate ∧ timediffCronUpdate < now - st.cronUpdate)) :
    CronTable.checkCron cfg now st = st := if_neg idle

theorem write_cron_calendar_part (st : SprinklerdState) :
    calendarPart (writeCron cfg st) = { calendarPart st with
      cronFile := if st.disk.cronOpens then some (cronText cfg st.cron)
        else st.disk.cronFile } := by
  simp only [writeCron, remount_eq]
  cases free : st.disk.cronOpens with
  | false =>
      rw [if_pos rfl]
      simp only [calendarPart, free, Bool.false_eq_true, if_false]
  | true =>
      rw [if_neg (by decide)]
      simp only [calendarPart, free, if_true]

/-- A `check_cron` that is due writes the crontab if the file opens, and forgets the
edit either way. -/
theorem check_cron_due {now : Int} {st : SprinklerdState}
    (due : 0 < st.cronUpdate ∧ timediffCronUpdate < now - st.cronUpdate) :
    calendarPart (CronTable.checkCron cfg now st) =
      { calendarPart st with
        cronUpdate := 0
        cronFile := if st.disk.cronOpens then some (cronText cfg st.cron)
          else st.disk.cronFile } := by
  rw [CronTable.checkCron, if_pos due]
  change { calendarPart (writeCron cfg st) with cronUpdate := 0 } = _
  rw [write_cron_calendar_part]

end SprinklerD.CalendarEdits
