import SprinklerD.Broadcast
import SprinklerD.Foundation.SinglePrecision

/-!
# The status documents

`build_sprinkler_JSON` and the three documents beside it, of `json_messages.c`. What a loop
prints and where the write position steps back is as in the source: a step back loses the last
character printed. The status line goes through an array of its own, which it can run past. The
buffer of a document is taken to be large enough here.
-/

namespace SprinklerD.JsonMessages

open Foundation.MachineInt Foundation.Decimal Foundation.SinglePrecision
open SprinklerD.Config SprinklerD.ZoneCtrl SprinklerD.CronTable SprinklerD.Broadcast

set_option autoImplicit false

/-- The names from the configuration file, which nothing but the documents prints. -/
structure Labels where
  title : Text
  names : Int → Text

def minusSign (negative : Bool) : Text := if negative then ['-'] else []

/-- Rounded to even. -/
def fixedDigits (places : Nat) (magnitude : ℚ) : Text :=
  let scaled := (roundEven (magnitude * 10 ^ places)).toNat
  let digits := printNat (scaled % 10 ^ places)
  printNat (scaled / 10 ^ places) ++
    '.' :: (List.replicate (places - digits.length) '0' ++ digits)

/-- `%.1f` and `%.2f`. What is negative keeps its sign, also where only zeros are printed. -/
def printFixed (places : Nat) : CFloat → Text
  | .nan negative => minusSign negative ++ "nan".toList
  | .negInf => "-inf".toList
  | .negZero => minusSign true ++ fixedDigits places 0
  | .finite value => minusSign (value < 0) ++ fixedDigits places |value|
  | .posInf => "inf".toList

def onOff (on : Bool) : Text := if on then "on".toList else "off".toList

/-- Hours and minutes, of which neither is negative where `%.2d` prints them. -/
def clock (first second : Int) : Text := printTwo first ++ ":".toList ++ printTwo second

/-- What the calendar of a document says, one entry for each call of `sprintf`. -/
inductive CalendarEntry where
  | startTime (day hour minute : Int)
  | runtime (day zone minutes : Int)
deriving DecidableEq, Repr

/-- A scheduled day, with the loop over some indexes of `zruntimes`. -/
def dayEntries (indexes : List Int) (table : Int → CalendarDay) (day : Int) :
    List CalendarEntry :=
  if scheduled (table day) then
    .startTime day (table day).hour (table day).minute ::
      (indexes.filter fun zone => 0 ≤ (table day).zruntimes zone).map fun zone =>
        .runtime day (zone + 1) ((table day).zruntimes zone)
  else []

variable (cfg : SprinklerdCfg) (labels : Labels)

/-- What both `build_sprinkler_JSON` and `build_advanced_sprinkler_JSON` begin with. -/
def switchesText (st : SprinklerdState) : Text :=
  "\x7b \"title\" : \"".toList ++ labels.title ++ "\",\"calendar\" : \"".toList ++
    onOff st.calendar ++ "\", \"24hdelay\" : \"".toList ++ onOff st.delay24h ++
    "\", \"allz\" : \"".toList ++ onOff (st.currentZone.type = .zcAll) ++
    "\", \"zones\" : \"".toList ++ printInt cfg.zones ++
    "\", \"24hdelay-offtime\" : ".toList ++ printInt st.delay24hTime

def rainText (st : SprinklerdState) : Text :=
  ", \"raindelaychance\" : \"".toList ++ printInt st.precipChanceDelay ++
    "\", \"raindelaytotal1\" : \"".toList ++ printFixed 1 st.precipInchDelay1day ++
    "\", \"raindelaytotal2\" : \"".toList ++ printFixed 1 st.precipInchDelay2day ++
    "\", \"todaychanceofrain\" : \"".toList ++ printInt st.todayRainChance ++
    "\", \"todayraintotal\" : \"".toList ++ printFixed 2 st.todayRainTotal ++ "\"".toList

section Sprinkler

def statusText (st : SprinklerdState) : Text :=
  if st.currentZone.type ≠ .zcNone then
    "Active: Zone ".toList ++ printInt st.currentZone.zone ++ " : time left ".toList ++
      clock (st.currentZone.timeleft.tdiv 60) (st.currentZone.timeleft.tmod 60)
  else if 0 < st.todayRainChance ∨ CFloat.zero.lt st.todayRainTotal then
    "Today:- Chance of rain: ".toList ++ printInt st.todayRainChance ++
      "%,  Rain total: ".toList ++ printFixed 2 st.todayRainTotal ++ "\\\"".toList
  else []

/-- `sprintf` into an array, which it runs past where text and terminator do not fit. -/
def sprintf (room : Nat) (text : Text) : Option Text :=
  if text.length < room then some text else none

def zoneStateText (st : SprinklerdState) (zone : Int) : Text :=
  ", \"z".toList ++ printInt zone ++ "\" : \"".toList ++ onOff (zoneReadsOn cfg st.gpio zone) ++
    "\" ".toList

def sprinklerText (st : SprinklerdState) (status : Text) : Text :=
  switchesText cfg labels st ++ ", \"status\" : \"".toList ++ status ++ "\"".toList ++
    rainText st ++ (zoneList cfg).flatMap (zoneStateText cfg st) ++ ['\x7d']

/-- `char status[50]` -/
def buildSprinklerJSON (st : SprinklerdState) : Option Text :=
  (sprintf 50 (statusText st)).map (sprinklerText cfg labels st)

def zoneDefaultText (st : SprinklerdState) (zone : Int) : Text :=
  ", \"z".toList ++ printInt zone ++ "-runtime\" : ".toList ++
    printInt (st.defaultRuntime zone) ++ ", \"z".toList ++ printInt zone ++
    "-name\" : \"".toList ++ labels.names zone ++ "\" ".toList

def calEntryText : CalendarEntry → Text
  | .startTime day hour minute =>
      ", \"d".toList ++ printInt day ++ "-starttime\" : \"".toList ++ clock hour minute ++
        "\" ".toList
  | .runtime day zone minutes =>
      ", \"d".toList ++ printInt day ++ "z".toList ++ printInt zone ++
        "-runtime\" : ".toList ++ printInt minutes

/-- The loop over the zones begins at index 0. -/
def calEntries (table : Int → CalendarDay) : List CalendarEntry :=
  weekDays.flatMap (dayEntries (zonesFrom cfg.zones 0) table)

/-- The closing brace of the shorter document is overwritten. -/
def sprinklerCalText (st : SprinklerdState) (document : Text) : Text :=
  document.dropLast ++ (zoneList cfg).flatMap (zoneDefaultText labels st) ++
    (calEntries cfg st.cron).flatMap calEntryText ++ ['\x7d']

def buildSprinklerCalJSON (st : SprinklerdState) : Option Text :=
  (buildSprinklerJSON cfg labels st).map (sprinklerCalText cfg labels st)

end Sprinkler

section Advanced

def advancedZone (st : SprinklerdState) (zone : Int) : Text :=
  "\"zone ".toList ++ printInt zone ++ "\": \x7b\"number\": ".toList ++ printInt zone ++
    ", \"name\": \"".toList ++ labels.names zone ++ "\", \"state\": \"".toList ++
    onOff (zoneReadsOn cfg st.gpio zone) ++ "\", \"runtime\": ".toList ++
    printInt (st.defaultRuntime zone) ++ " \x7d".toList

def activeZone (st : SprinklerdState) : Text :=
  "\"active\": \x7b\"zone\": ".toList ++ printInt st.currentZone.zone ++
    ", \"name\": \"".toList ++ labels.names st.currentZone.zone ++ "\"\x7d".toList

/-- The members of `zones`, of which the last loses its comma. -/
def advancedZones (st : SprinklerdState) : Text :=
  (((zoneList cfg).flatMap fun zone => advancedZone cfg labels st zone ++ [',']) ++
    if st.currentZone.type ≠ .zcNone then activeZone labels st ++ [','] else []).dropLast

def advancedEntryText : CalendarEntry → Text
  | .startTime day hour minute =>
      "\"day ".toList ++ printInt day ++ "\" : \x7b \"start time\" : \"".toList ++
        clock hour minute ++ "\", ".toList
  | .runtime _ zone minutes =>
      "\"Zone ".toList ++ printInt zone ++ "\" : ".toList ++ printInt minutes ++ [',']

/-- The loop over the zones begins at index 1. -/
def advancedDayEntries (table : Int → CalendarDay) (day : Int) : List CalendarEntry :=
  dayEntries (zonesFrom (cfg.zones - 1) 1) table day

def advancedEntries (table : Int → CalendarDay) : List CalendarEntry :=
  weekDays.flatMap (advancedDayEntries cfg table)

/-- The last character before the closing brace of a day is lost, whatever it is. -/
def advancedDay (table : Int → CalendarDay) (day : Int) : Text :=
  ((advancedDayEntries cfg table day).flatMap advancedEntryText).dropLast ++ ['\x7d']

def scheduledDays (table : Int → CalendarDay) : List Int :=
  weekDays.filter fun day => scheduled (table day)

def advancedCalendar (table : Int → CalendarDay) : Text :=
  ((scheduledDays table).flatMap fun day => advancedDay cfg table day ++ [',']).dropLast

def buildAdvancedSprinklerJSON (st : SprinklerdState) : Text :=
  switchesText cfg labels st ++ rainText st ++ ", \"zones\": \x7b".toList ++
    advancedZones cfg labels st ++ "\x7d, \"calendar\": \x7b".toList ++
    advancedCalendar cfg st.cron ++ "\x7d\x7d".toList

end Advanced

section Homebridge

def homebridgeZone (st : SprinklerdState) (zone : Int) : Text :=
  "\x7b\"type\" : \"zone\", \"zone\": ".toList ++ printInt zone ++ ", \"name\": \"".toList ++
    labels.names zone ++ "\", \"state\": \"".toList ++ onOff (zoneReadsOn cfg st.gpio zone) ++
    "\", \"duration\": ".toList ++ printInt (wrap32 (st.defaultRuntime zone * 60)) ++
    ", \"id\" : \"zone".toList ++ printInt zone ++ "\" \x7d,".toList

def buildHomebridgeSprinklerJSON (st : SprinklerdState) : Text :=
  "\x7b \"title\" : \"".toList ++ labels.title ++ "\", ".toList ++ " \"devices\": [".toList ++
    (tableZones cfg).flatMap (homebridgeZone cfg labels st) ++
    "\x7b\"type\" : \"zone\", \"zone\": ".toList ++ printInt (cfg.zones + 1) ++
    ", \"name\": \"Cycle all zones\", \"state\": \"".toList ++
    onOff (st.currentZone.type = .zcAll) ++
    "\", \"duration\": 0, \"id\" : \"cycleallzones\" \x7d,".toList ++
    "\x7b\"type\" : \"switch\", \"zone\": -1, \"name\": \"24h Rain Delay\", \"state\": \"".toList ++
    onOff st.delay24h ++ "\", \"duration\": 0, \"id\" : \"24hdelay\" \x7d,".toList ++
    "\x7b\"type\" : \"switch\", \"zone\": -1, \"name\": \"Run on calendar schedule\", ".toList ++
    "\"state\": \"".toList ++ onOff st.calendar ++
    "\", \"duration\": 0, \"id\" : \"calendar\" \x7d".toList ++ "]\x7d".toList

end Homebridge

end SprinklerD.JsonMessages
