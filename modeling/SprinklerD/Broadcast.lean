import SprinklerD.NetServices

/-!
# Publications

What `publish_zone_mqtt`, `broadcast_sprinklerdstate` and
`broadcast_sprinklerdactivestate` send, and what they do to the Domoticz cache and to
the event mask. There is at most one MQTT connection; other connections get nothing.
Texts for Domoticz are the numbers and the text that their JSON carries.
-/

namespace SprinklerD.Broadcast

open Foundation.MachineInt Foundation.Decimal
open SprinklerD.Config SprinklerD.ZoneCtrl SprinklerD.NetServices

set_option autoImplicit false

inductive StatusTopic where
  | alive
  | zone (zone : Int)
  | zoneDuration (zone : Int)
  | zoneRemaining (zone : Int)
  | active
  | status
  | calendar
  | delay24h
  | cycleAllZones
  | cycleRemaining
  | chanceOfRain
  | chanceOfRainDay
  | rainTotal
  | rainTotalDay
deriving DecidableEq, Repr

def zoneText (zone : Int) : Text := "zone".toList ++ printInt zone

def topicParts : StatusTopic → Text × Option Text
  | .alive => ("Alive".toList, none)
  | .zone zone => (zoneText zone, none)
  | .zoneDuration zone => (zoneText zone, some "duration".toList)
  | .zoneRemaining zone => (zoneText zone, some "remainingduration".toList)
  | .active => ("active".toList, none)
  | .status => ("status".toList, none)
  | .calendar => ("calendar".toList, none)
  | .delay24h => ("24hdelay".toList, none)
  | .cycleAllZones => ("cycleallzones".toList, none)
  | .cycleRemaining => ("cycleallzones".toList, some "remainingduration".toList)
  | .chanceOfRain => ("chanceofrain".toList, none)
  | .chanceOfRainDay => ("chanceofrain".toList, some "day".toList)
  | .rainTotal => ("raintotal".toList, none)
  | .rainTotalDay => ("raintotal".toList, some "day".toList)

def topicText (topic : StatusTopic) : Text :=
  match (topicParts topic).2 with
  | none => '/' :: (topicParts topic).1
  | some second => '/' :: (topicParts topic).1 ++ '/' :: second

/-- Retained messages on a topic of the daemon, and messages to Domoticz with the
identifier, the number and the text of their JSON. -/
inductive Publication where
  | status (topic : StatusTopic) (payload : Text)
  | domoticz (idx nvalue : Int) (svalue : Text)
deriving DecidableEq, Repr

def mqttOn : Text := "1".toList

def mqttOff : Text := "0".toList

def mqttSwitch (on : Bool) : Text := if on then mqttOn else mqttOff

def dzSwitch (on : Bool) : Int := if on then dzOn else dzOff

/-- What `strftime` and `printf` make of the clock and of a float. -/
structure CLibrary where
  todayString : Int → Text
  delayEndTime : Int → Text
  twoDecimals : CFloat → Text

/-- `%02d` -/
def printTwo (value : Int) : Text :=
  if 0 ≤ value ∧ value < 10 then '0' :: printInt value else printInt value

/-- The static variables of `broadcast_sprinklerdstate`. -/
structure Published where
  todayRainChance : Int := -1
  todayRainTotal : CFloat := .finite (-1)
  lastStateMsg : Text := []

variable (cfg : SprinklerdCfg) (lib : CLibrary)

def sprinklerdstatus (st : SprinklerdState) : Text × Int :=
  if st.currentZone.type ≠ .zcNone then
    ("Running: Zone ".toList ++ printInt st.currentZone.zone ++ " - time left ".toList ++
      printTwo (st.currentZone.timeleft.tdiv 60) ++ ":".toList ++
      printTwo (st.currentZone.timeleft.tmod 60), 1)
  else if st.delay24h then (lib.delayEndTime st.delay24hTime, 3)
  else if st.calendar then ("Calendar schedule".toList, 2)
  else ("OFF".toList, 0)

/-- A value goes out to Domoticz when the cache says that it is new. -/
def publishDz (idx : Int) (on : Bool) (st : SprinklerdState) :
    SprinklerdState × List Publication :=
  if 0 < idx ∧ cfg.enableMQTTdz then
    let updated := updateDzCache idx (dzSwitch on) st.dzCache
    ({ st with dzCache := updated.1 },
      if updated.2 then [.domoticz idx (dzSwitch on) []] else [])
  else (st, [])

def publishZoneStatus (zone : Int) (st : SprinklerdState) : List Publication :=
  if cfg.enableMQTTaq then
    [.status (.zone zone) (mqttSwitch (zoneReadsOn cfg st.gpio zone)),
      .status (.zoneDuration zone) (printInt (wrap32 (st.defaultRuntime zone * 60))),
      .status (.zoneRemaining zone)
        (if st.currentZone.zone = zone ∧ st.currentZone.type ≠ .zcNone then
          printInt (wrap32 (st.currentZone.timeleft * 60))
        else printInt 0)]
  else []

def publishZoneMqtt (zone : Int) (st : SprinklerdState) : SprinklerdState × List Publication :=
  let announced := publishDz cfg (cfg.zonecfg zone).dzIdx (zoneReadsOn cfg st.gpio zone) st
  (announced.1, publishZoneStatus cfg zone st ++ announced.2)

def publishZones : List Int → SprinklerdState → SprinklerdState × List Publication
  | [], st => (st, [])
  | zone :: rest, st =>
      let first := publishZoneMqtt cfg zone st
      let later := publishZones rest first.1
      (later.1, first.2 ++ later.2)

def chanceIsNew (published : Published) (st : SprinklerdState) : Bool :=
  published.todayRainChance ≠ st.todayRainChance ∨ st.updateEventMask.rainProbability = true

def totalIsNew (published : Published) (st : SprinklerdState) : Bool :=
  published.todayRainTotal.same st.todayRainTotal = false ∨ st.updateEventMask.rainTotal = true

def publishReports (now : Int) (published : Published) (st : SprinklerdState) :
    List Publication :=
  [.status .calendar (mqttSwitch st.calendar), .status .delay24h (mqttSwitch st.delay24h),
    .status .cycleAllZones (mqttSwitch (st.currentZone.type = .zcAll)),
    .status .status (sprinklerdstatus lib st).1] ++
  (if chanceIsNew published st then
    [.status .chanceOfRain (printInt st.todayRainChance),
      .status .chanceOfRainDay (lib.todayString now)]
  else []) ++
  (if totalIsNew published st then
    [.status .rainTotal (lib.twoDecimals st.todayRainTotal),
      .status .rainTotalDay (lib.todayString now)]
  else [])

def reported (published : Published) (st : SprinklerdState) : Published × SprinklerdState :=
  ({ published with
      todayRainChance :=
        if chanceIsNew published st then st.todayRainChance else published.todayRainChance
      todayRainTotal :=
        if totalIsNew published st then st.todayRainTotal else published.todayRainTotal },
    { st with updateEventMask := { st.updateEventMask with
      rainProbability :=
        if chanceIsNew published st then false else st.updateEventMask.rainProbability
      rainTotal := if totalIsNew published st then false else st.updateEventMask.rainTotal } })

def publishSwitches (st : SprinklerdState) : SprinklerdState × List Publication :=
  let calendar := publishDz cfg cfg.dzidxCalendar st.calendar st
  let delay := publishDz cfg cfg.dzidx24hDelay calendar.1.delay24h calendar.1
  let all := publishDz cfg cfg.dzidxAllzones (delay.1.currentZone.type = .zcAll) delay.1
  (all.1, calendar.2 ++ delay.2 ++ all.2)

def publishDzStatus (published : Published) (st : SprinklerdState) :
    Published × List Publication :=
  if cfg.enableMQTTdz ∧ 0 < cfg.dzidxStatus then
    let status := sprinklerdstatus lib st
    if published.lastStateMsg ≠ status.1 then
      ({ published with lastStateMsg := status.1 },
        [.domoticz cfg.dzidxStatus status.2 status.1])
    else (published, [])
  else (published, [])

def clearEventStatus (st : SprinklerdState) : SprinklerdState :=
  { st with updateEventMask := { st.updateEventMask with status := false } }

def clearEventZones (st : SprinklerdState) : SprinklerdState :=
  { st with updateEventMask := { st.updateEventMask with zones := false } }

structure Announced where
  st : SprinklerdState
  published : Published
  sent : List Publication

def broadcastSprinklerdstate (connected : Bool) (now : Int) (published : Published)
    (st : SprinklerdState) : Announced :=
  if connected then
    let zones := publishZones cfg (tableZones cfg) st
    let reports :=
      if cfg.enableMQTTaq then
        (reported published zones.1, publishReports lib now published zones.1)
      else ((published, zones.1), [])
    let switches := publishSwitches cfg reports.1.2
    let status := publishDzStatus cfg lib reports.1.1 switches.1
    { st := clearEventStatus switches.1
      published := status.1
      sent := zones.2 ++ reports.2 ++ switches.2 ++ status.2 }
  else { st := clearEventStatus st, published := published, sent := [] }

/-- The time a cycle of all zones still needs. The sum is an `int` at every step. -/
def cycleTotal (st : SprinklerdState) : Int :=
  (zonesFrom (cfg.zones - st.currentZone.zone).toNat (st.currentZone.zone + 1)).foldl
    (fun total zone => wrap32 (total + wrap32 (st.defaultRuntime zone * 60)))
    st.currentZone.timeleft

def publishActive (st : SprinklerdState) : List Publication :=
  (if st.currentZone.type = .zcNone then
    [.status .active " ".toList, .status .cycleRemaining (printInt 0)]
  else
    [.status .active ("Zone ".toList ++ printInt st.currentZone.zone),
      .status .status (sprinklerdstatus lib st).1,
      .status (.zoneRemaining st.currentZone.zone) (printInt st.currentZone.timeleft)]) ++
  (if st.currentZone.type = .zcAll then
    [.status .cycleRemaining (printInt (cycleTotal cfg st)),
      .status (.zoneRemaining 0) (printInt (cycleTotal cfg st))]
  else if st.currentZone.type ≠ .zcNone then
    [.status (.zoneRemaining 0) (printInt st.currentZone.timeleft)]
  else [])

def broadcastSprinklerdactivestate (connected : Bool) (st : SprinklerdState) :
    SprinklerdState × List Publication :=
  (clearEventZones st, if connected then publishActive cfg lib st else [])

section Bench

def benchLibrary : CLibrary where
  todayString _ := "Thu Jan 01.".toList
  delayEndTime _ := "24h delay: end time Thu 12:00AM".toList
  twoDecimals _ := "0.00".toList

end Bench

end SprinklerD.Broadcast
