import SprinklerD.Daemon

/-!
# Accesses to the zone table

For each function of the source that uses `zonecfg`, the numbers of the entries it reads
or writes, in their order and with those of the functions it calls. Log messages count.
Where one entry is used several times in a row it is listed once, and of what
`start_next_zone` reads past the last entry only the first is listed.
-/

namespace SprinklerD.TableAccess

open Foundation.MachineInt Foundation.CString
open SprinklerD.Config SprinklerD.ZoneCtrl SprinklerD.SdCron SprinklerD.NetServices
open SprinklerD.Operations SprinklerD.Daemon

set_option autoImplicit false

variable (cfg : SprinklerdCfg) (now : Int)

section ZoneControl

def zcStateAccess (zone : Int) : List Int := if 0 < zone ∧ zone ≤ cfg.zones then [zone] else []

def zcStartAccess (zone : Int) : List Int := [zone]

def zcStopAccess (zone : Int) : List Int := [zone]

def zcMasterAccess : List Int := if cfg.masterValve then [0] else []

/-- The loop test, the messages and the start of a zone all use its own entry. -/
def startNextZoneFromAccess : Nat → Int → SprinklerdState → List Int
  | 0, zone, _ => [zone]
  | left + 1, zone, st =>
      zone :: if st.defaultRuntime zone ≤ 0 ∨ GpioPi.validGPIO (cfg.zonecfg zone).pin = false then
        if zone + 1 > cfg.zones then zcMasterAccess cfg
        else startNextZoneFromAccess left (zone + 1) st
      else
        let started := zcStart cfg zone st
        zcStartAccess zone ++
          if started.2 then zcMasterAccess cfg ++ [zone]
          else startNextZoneFromAccess left (zone + 1) started.1.setEventZones

def startNextZoneAccess (startz : Int) (st : SprinklerdState) : List Int :=
  startNextZoneFromAccess cfg (cfg.zones - startz).toNat (startz + 1) st.setEventZones

def zcUpdateRuntimeAccess (zone : Int) (st : SprinklerdState) : List Int :=
  if 0 < zone ∧ zone < cfg.zones ∧ zone = st.currentZone.zone then [zone] else []

def zcCheckAccess (st : SprinklerdState) : List Int :=
  if st.currentZone.type = .zcNone then []
  else
    let timed := calcTimeleft now st
    if timed.currentZone.timeleft ≤ 0 then
      if timed.currentZone.type = .zcAll ∧ timed.currentZone.zone < cfg.zones then
        let stopped := (zcStop cfg timed.currentZone.zone timed).1
        zcStopAccess timed.currentZone.zone ++
          startNextZoneAccess cfg stopped.currentZone.zone stopped
      else zcMasterAccess cfg ++ zcStopAccess timed.currentZone.zone
    else []

/-- Each pass of the loop closes the master and tests, and may close, one zone. -/
def cycleAllZonesAccess (state : ZcState) (st : SprinklerdState) : List Int :=
  let stopped := stopEveryZone cfg (zoneList cfg) st
  let idle := { stopped with currentZone := { stopped.currentZone with type := .zcNone } }
  ((zoneList cfg).flatMap fun zone => zcMasterAccess cfg ++ [zone]) ++
    if state = .zcOn then startNextZoneAccess cfg 0 idle else []

def stopOtherAccess (requested : Int) : List Int → SprinklerdState → List Int
  | [], _ => []
  | zone :: rest, st =>
      zone :: if zoneReadsOn cfg st.gpio zone then
        if requested = zone then []
        else stopOtherAccess requested rest (zcStop cfg zone st).1
      else stopOtherAccess requested rest st

def turnZoneOnAccess (zone : Int) (st : SprinklerdState) : List Int :=
  let stopped := stopOtherZones cfg zone (zoneList cfg) st
  stopOtherAccess cfg zone (zoneList cfg) st ++
    if stopped.2 then []
    else zcStartAccess zone ++ if (zcStart cfg zone stopped.1).2 then zcMasterAccess cfg else []

/-- The run of a cycle is made to expire before the check. -/
def expired (st : SprinklerdState) : SprinklerdState :=
  { st with currentZone := { st.currentZone with
    startedTime := st.currentZone.startedTime -
      wrap32 (st.currentZone.duration * sec2Min) - 1 } }

def turnZoneOffAccess (zone : Int) (st : SprinklerdState) : List Int :=
  if st.currentZone.type = .zcAll then zcCheckAccess cfg now (expired st)
  else zcMasterAccess cfg ++ zcStopAccess zone

/-- The first test reads the pin of a listed zone, as `zc_state` does. -/
def zcZoneAccess (type : ZcRunType) (zone : Int) (state : ZcState) (length : Int)
    (st : SprinklerdState) : List Int :=
  zcStateAccess cfg zone ++
    if duplicateRequest cfg type zone state st then []
    else if type = .zcCron ∧ state = .zcOn ∧ (st.calendar = false ∨ st.delay24h = true) then []
    else if type = .zcAll then cycleAllZonesAccess cfg state st
    else
      (if length = 0 then [zone] else []) ++
        match state with
        | .zcOn => if 0 < requestLength zone length st then turnZoneOnAccess cfg zone st else []
        | .zcOff => turnZoneOffAccess cfg now zone st

def zcRainDelayEnabeledAccess (st : SprinklerdState) : List Int :=
  if st.currentZone.type = .zcCron ∧ 0 < st.currentZone.zone then
    st.currentZone.zone :: zcZoneAccess cfg now .zcSingle st.currentZone.zone .zcOff 0 st
  else []

end ZoneControl

section RainDelay

def writeCacheAccess (st : SprinklerdState) : List Int :=
  if st.disk.cacheOpens then zoneList cfg else []

def enableDelay24hAccess (state : Bool) (st : SprinklerdState) : List Int :=
  if st.delay24h ≠ state then
    let flagged := { st.setEventStatus with delay24h := state }
    (if state then
      zcRainDelayEnabeledAccess cfg now { flagged with delay24hTime := now + delay24hSec }
    else []) ++ writeCacheAccess cfg st
  else []

def resetDelay24hTimeAccess (dtime : Int) (st : SprinklerdState) : List Int :=
  let flagged := if st.delay24h ≠ true then st.setEventStatus else st
  let timed :=
    if dtime > wrapUnsigned 64 now then
      { flagged with delay24h := true, delay24hTime := wrapSigned 64 dtime }
    else { flagged with delay24h := true, delay24hTime := now + delay24hSec }
  zcRainDelayEnabeledAccess cfg now timed ++ writeCacheAccess cfg st

def setTodayChanceOfRainAccess (percent : Int) (st : SprinklerdState) : List Int :=
  if percent ≤ 100 ∧ 0 ≤ percent then
    let reported := { st.setEventRainProbability with todayRainChance := percent }
    if 0 < reported.precipChanceDelay ∧ reported.precipChanceDelay ≤ reported.todayRainChance then
      resetDelay24hTimeAccess cfg now 0 reported
    else enableDelay24hAccess cfg now false reported
  else []

def setTodayRainTotalAccess (rain : CFloat) (st : SprinklerdState) : List Int :=
  if st.todayRainTotal.same rain ∧ rain.same .zero = false then []
  else
    let reported := { st with todayRainTotal := rain }.setEventRainTotal
    if CFloat.zero.lt reported.precipInchDelay2day ∧
        reported.precipInchDelay2day.le reported.todayRainTotal then
      resetDelay24hTimeAccess cfg now (wrapUnsigned 64 (now + delay24hSec * 2)) reported
    else if CFloat.zero.lt reported.precipInchDelay1day ∧
        reported.precipInchDelay1day.le reported.todayRainTotal then
      resetDelay24hTimeAccess cfg now (wrapUnsigned 64 (now + delay24hSec)) reported
    else []

def checkDelay24hAccess (st : SprinklerdState) : List Int :=
  if 0 < st.delay24hTime ∧ 0 < now - st.delay24hTime then enableDelay24hAccess cfg now false st
  else []

end RainDelay

section Requests

def operationAccess (st : SprinklerdState) : Operation → List Int
  | .zone type zone state length => zcZoneAccess cfg now type zone state length st
  | .check => zcCheckAccess cfg now st
  | .enableDelay24h state => enableDelay24hAccess cfg now state st
  | .resetDelay24hTime dtime => resetDelay24hTimeAccess cfg now dtime st
  | .setTodayChanceOfRain percent => setTodayChanceOfRainAccess cfg now percent st
  | .setTodayRainTotal rain => setTodayRainTotalAccess cfg now rain st
  | .checkDelay24h => checkDelay24hAccess cfg now st
  | .setDefaultRuntime zone _ => zone :: zcUpdateRuntimeAccess cfg zone st
  | _ => []

def performAccess (st : SprinklerdState) : List Operation → List Int
  | [] => []
  | operation :: rest =>
      operationAccess cfg now st operation ++
        performAccess (applyOperation cfg now st operation) rest

/-- The entries that the answers list; one names the running zone as well. -/
def documentAccess (st : SprinklerdState) : Document → List Int
  | .advancedSprinkler =>
      zoneList cfg ++ if st.currentZone.type ≠ .zcNone then [st.currentZone.zone] else []
  | .homebridgeSprinkler => tableZones cfg
  | .sprinklerCal => zoneList cfg ++ zoneList cfg
  | .sprinkler => zoneList cfg

def replyAccess (st : SprinklerdState) : WebReply → List Int
  | .document kind => documentAccess cfg st kind
  | .error _ => []
  | .empty => []

/-- A query that flips a zone asks `zc_state` for it first. -/
def flipAccess (query buf : Text) : List Int :=
  let zoneText := mgGetHttpVar query "zone".toList buf
  let state := mgGetHttpVar query "state".toList (mgGetHttpVar query "runtime".toList zoneText)
  if isValueON state ≠ 1 ∧ isValueON state ≠ 0 ∧ isValueFlip state ∧
      atoi zoneText ≤ cfg.zones then
    zcStateAccess cfg (atoi zoneText)
  else []

/-- What the handlers use on their own account. A message for the duration of a zone
uses the entry to set it or, if there is no such zone, to log it; a Domoticz message
that is for a zone is compared with every zone. -/
def handlerAccess (st : SprinklerdState) : Event → List Int
  | .webRequest query stack =>
      if query = [] then []
      else
        let buf := mgGetHttpVar query "type".toList stack
        let served := serveWebRequest cfg now query stack st
        (if strcmpEqual buf "zone".toList ∨ strcmpEqual buf "cron".toList then
          flipAccess cfg query buf
        else []) ++ replyAccess cfg served.1 served.2
  | .mqttMessage message =>
      let pointers := topicPointers message.afterTopic (message.topic.drop cfg.mqttTopic.length)
      if mqttTopicOf pointers[0]? pointers[1]? pointers[2]? = .duration then
        [topicZone pointers[0]?]
      else []
  | .domoticzMessage idx nvalue _ =>
      if idx ≤ 0 ∨ checkDzCache idx nvalue st.dzCache ∨ idx = cfg.dzidxCalendar ∨
          idx = cfg.dzidx24hDelay ∨ idx = cfg.dzidxAllzones ∨ idx = cfg.dzidxRainsensor then []
      else zoneList cfg
  | _ => []

def eventAccess (st : SprinklerdState) (event : TimedEvent) : List Int :=
  handlerAccess cfg event.1 st event.2 ++
    performAccess cfg event.1 st (operations cfg st event.2)

end Requests

end SprinklerD.TableAccess
