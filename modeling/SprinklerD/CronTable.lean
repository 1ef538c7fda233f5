import SprinklerD.SdCron
import SprinklerD.Foundation.CString
import SprinklerD.Foundation.GreedyPattern
import Mathlib.Logic.Function.Basic

/-!
# Writing and reading the crontab

`check_cron`, `write_cron` and `read_cron` of `sd_cron.c`. The zone lines of a day
are computed as records first and printed afterwards. The reader's regular
expression is a greedy pattern; it has no alternation, and its last piece runs to
the end of the line.
-/

namespace SprinklerD.CronTable

open Foundation.MachineInt Foundation.Decimal Foundation.CString Foundation.GreedyPattern
open SprinklerD.Config SprinklerD.SdCron

set_option autoImplicit false

def weekDays : List Int := [0, 1, 2, 3, 4, 5, 6]

def timediffCronUpdate : Int := 20

/-- The sum is an `int` at every step. -/
def str2int (text : Text) (len : Nat) : Int := wrap32 (readDigits 0 (text.take len))

structure CronLine where
  minute : Int
  hour : Int
  day : Int
  zone : Int
  runtime : Int
deriving DecidableEq, Repr

/-- The loop over the zones of a day, from the time of the next line on. It stops
when the hour passes the end of the day. -/
def zoneLines (day : Int) (zruntimes : Int → Int) : List Int → Int → Int → List CronLine
  | [], _, _ => []
  | zone :: rest, min, hour =>
      if 0 < zruntimes zone then
        let summed := wrap32 (min + zruntimes zone)
        let nextMin := if summed ≥ 60 then summed - 60 else summed
        let nextHour := if summed ≥ 60 then hour + 1 else hour
        { minute := min, hour := hour, day := day, zone := zone + 1,
          runtime := zruntimes zone } ::
          if nextHour ≥ 24 then [] else zoneLines day zruntimes rest nextMin nextHour
      else zoneLines day zruntimes rest min hour

/-- The test `hour >= 0 && minute >= 0` of a calendar day. -/
def scheduled (entry : CalendarDay) : Bool := 0 ≤ entry.hour ∧ 0 ≤ entry.minute

/-- The indexes of `zruntimes`, one below the zone numbers. -/
def zoneIndexes (cfg : SprinklerdCfg) : List Int := zonesFrom cfg.zones 0

variable (cfg : SprinklerdCfg)

def cronLines (table : Int → CalendarDay) (day : Int) : List CronLine :=
  if scheduled (table day) then
    zoneLines day (table day).zruntimes (zoneIndexes cfg) (table day).minute (table day).hour
  else []

def zoneLineText (line : CronLine) : Text :=
  printInt line.minute ++ " ".toList ++ printInt line.hour ++ " * * ".toList ++
    printInt line.day ++ " root /usr/bin/curl -s -o /dev/null 'localhost:".toList ++
    cfg.socketPort ++ "?type=cron&zone=".toList ++ printInt line.zone ++
    "&runtime=".toList ++ printInt line.runtime ++ "&state=on'\n".toList

/-- A command goes out for every day of the week, scheduled or not. -/
def runBeforeText (entry : CalendarDay) (day : Int) (before : RunB4CalStart) : Text :=
  (if entry.minute < before.mins then
    printInt (wrap32 (60 - (before.mins - entry.minute))) ++ " ".toList ++
      printInt (entry.hour - 1)
  else
    printInt (wrap32 (entry.minute - before.mins)) ++ " ".toList ++ printInt entry.hour) ++
  " * * ".toList ++ printInt day ++ " root ".toList ++ before.command ++ "\n".toList

def dayText (table : Int → CalendarDay) (day : Int) : Text :=
  (cronLines cfg table day).flatMap (zoneLineText cfg) ++
    cfg.runBeforeCmd.flatMap (runBeforeText (table day) day)

def bannerText : Text := "#***** AUTO GENERATED DO NOT EDIT *****\n".toList

def nightlyText (sensor : Text) : Text :=
  "0 0 * * * root /usr/bin/curl -s -o /dev/null 'localhost:".toList ++ cfg.socketPort ++
    "?type=sensor&sensor=".toList ++ sensor ++ "&value=0'\n".toList

def cronText (table : Int → CalendarDay) : Text :=
  bannerText ++ weekDays.flatMap (dayText cfg table) ++
    nightlyText cfg "chanceofrain".toList ++ nightlyText cfg "raintotal".toList ++ bannerText

def writeCron (st : SprinklerdState) : SprinklerdState :=
  let remounted := remountRootRo false st
  if remounted.1.disk.cronOpens = false then (remountRootRo true remounted.1).1
  else
    let written := { remounted.1 with disk := { remounted.1.disk with
      cronFile := some (cronText cfg remounted.1.cron) } }
    (remountRootRo remounted.2 written).1

def checkCron (now : Int) (st : SprinklerdState) : SprinklerdState :=
  if 0 < st.cronUpdate ∧ timediffCronUpdate < now - st.cronUpdate then
    { writeCron cfg st with cronUpdate := 0 }
  else st

/-- The lines of a file as `getline` returns them, each with its line end. -/
def getLines : Text → List Text
  | [] => []
  | char :: rest =>
      if char = '\n' then [char] :: getLines rest
      else
        match getLines rest with
        | [] => [[char]]
        | line :: lines => (char :: line) :: lines

/-- `[0-9]{1,2}` in parentheses. -/
def number : Piece := Piece.group Char.isDigit 1 2

def blank : Piece := Piece.one isSpace

/-- `.*zone=([0-9]{1,2}).*runtime=([0-9]{1,2}).*$` -/
def zonePattern : List Piece :=
  Piece.anything :: (Piece.literal "zone=".toList ++
    (number :: Piece.anything :: (Piece.literal "runtime=".toList ++ [number, Piece.anything])))

/-- `\s([0-9]{1,2})\s` and `zonePattern` -/
def dayPattern : List Piece := blank :: number :: blank :: zonePattern

/-- `([0-9]{1,2})\s([0-9]{1,2})\s.*` and `dayPattern` -/
def cronPattern : List Piece :=
  number :: blank :: number :: blank :: Piece.anything :: dayPattern

/-- One line of `read_cron`. The first line of a day sets its start time. -/
def readCronLine (table : Int → CalendarDay) (line : Text) : Int → CalendarDay :=
  match search cronPattern line with
  | some [minuteText, hourText, dayText, zoneText, runtimeText] =>
      let day := str2int dayText dayText.length
      let zone := str2int zoneText zoneText.length
      if day < 7 ∧ zone ≤ cfg.zones then
        let entry := table day
        let timed :=
          if entry.hour = -1 then
            { entry with
              hour := str2int hourText hourText.length,
              minute := str2int minuteText minuteText.length }
          else entry
        let runtime := str2int runtimeText runtimeText.length
        let zruntimes := Function.update timed.zruntimes (zone - 1) runtime
        Function.update table day { timed with zruntimes := zruntimes }
      else table
  | _ => table

/-- No day scheduled and every runtime zero. -/
def clearedTable (table : Int → CalendarDay) (day : Int) : CalendarDay :=
  if day ∈ weekDays then
    { hour := -1, minute := -1,
      zruntimes := fun zone => if zone ∈ zoneIndexes cfg then 0 else (table day).zruntimes zone }
  else table day

def readCron (st : SprinklerdState) : SprinklerdState :=
  match st.disk.cronFile with
  | none => { st with cron := clearedTable cfg st.cron }
  | some file =>
      { st with cron := (getLines file).foldl (readCronLine cfg) (clearedTable cfg st.cron) }

end SprinklerD.CronTable
