import SprinklerD.CronTable
import SprinklerD.Foundation.FloatValue

/-!
# Requests from the network

The handlers of `net_services.c` and the reader of query variables they use from
`mongoose.c`. A handler works on memory as the source does: one buffer takes every
variable in turn, so what an earlier one left behind may be read again, and topics
and payloads have no terminator. Log messages are left out. A Domoticz message is
taken after it has been parsed.
-/

namespace SprinklerD.NetServices

open Foundation.MachineInt Foundation.Decimal Foundation.CString
open Foundation.FloatValue (atof)
open SprinklerD.Config SprinklerD.ZoneCtrl SprinklerD.SdCron SprinklerD.CronTable

set_option autoImplicit false

section QueryVariables

def buflen : Nat := 50

def isHexDigit (char : Char) : Bool :=
  char.isDigit ∨ ('a' ≤ char.toLower ∧ char.toLower ≤ 'f')

/-- `HEXTOI` of the lower-case digit. -/
def hexToInt (char : Char) : Nat :=
  if char.isDigit then char.toNat - '0'.toNat else char.toLower.toNat - 'W'.toNat

/-- The characters `mg_url_decode` stores in `room` places, and whether it goes on to
store the terminator. An escape that is not followed by two digits ends it at once. -/
def mgUrlDecode : Nat → Text → Text × Bool
  | 0, _ => ([], true)
  | _ + 1, [] => ([], true)
  | room + 1, char :: rest =>
      if char = '%' then
        match rest with
        | high :: low :: later =>
            if isHexDigit high ∧ isHexDigit low then
              let decoded := mgUrlDecode room later
              (Char.ofNat (hexToInt high * 16 + hexToInt low) :: decoded.1, decoded.2)
            else ([], false)
        | _ => ([], false)
      else
        let decoded := mgUrlDecode room rest
        ((if char = '+' then ' ' else char) :: decoded.1, decoded.2)

/-- The value of the first variable of that name in the query, from a place that
begins a variable or not. -/
def findHttpVar (name : Text) : Bool → Text → Option Text
  | _, [] => none
  | begins, char :: rest =>
      if begins ∧ ((char :: rest).take name.length).map Char.toLower = name.map Char.toLower ∧
          ((char :: rest).drop name.length).head? = some '=' then
        some (((char :: rest).drop (name.length + 1)).takeWhile (· ≠ '&'))
      else findHttpVar name (char = '&') rest

def overwrite (written memory : Text) : Text := written ++ memory.drop written.length

/-- The buffer after `mg_get_http_var`. Its answer is not looked at by any caller. -/
def mgGetHttpVar (query name buf : Text) : Text :=
  let cleared := overwrite [nul] buf
  match findHttpVar name true query with
  | none => cleared
  | some value =>
      let decoded := mgUrlDecode (buflen - 1) value
      overwrite (if decoded.2 then decoded.1 ++ [nul] else decoded.1) cleared

/-- 1 and 0 are `true` and `false`, -1 is neither. -/
def isValueON (buf : Text) : Int :=
  if strncasecmpEqual buf "on".toList 3 ∨ strncmpEqual buf "1".toList 1 then 1
  else if strncasecmpEqual buf "off".toList 3 ∨ strncmpEqual buf "0".toList 1 then 0
  else -1

def isValueFlip (buf : Text) : Bool :=
  strncasecmpEqual buf "flip".toList 4 ∨ strncasecmpEqual buf "toggle".toList 6

end QueryVariables

/-- The texts that `build_…_JSON` make of the state. -/
inductive Document where
  | advancedSprinkler
  | homebridgeSprinkler
  | sprinklerCal
  | sprinkler
deriving DecidableEq, Repr

inductive WebReply where
  | document (kind : Document)
  | error (text : Text)
  | empty
deriving DecidableEq, Repr

variable (cfg : SprinklerdCfg) (now : Int) (query : Text)

section WebRequests

def unknownRequest : WebReply := .error "\x7b \"error\": \"unknown request\"\x7d".toList

/-- A state that is neither on nor off counts as on for the calendar and for all zones. -/
def serveOption (buf : Text) (st : SprinklerdState) : SprinklerdState × WebReply :=
  let option := mgGetHttpVar query "option".toList buf
  let state := mgGetHttpVar query "state".toList option
  let served :=
    if strncasecmpEqual option "calendar".toList 6 then
      (enableCalendar (isValueON state ≠ 0) st, WebReply.document .sprinkler)
    else if strncasecmpEqual option "24hdelay".toList 8 then
      let delayed :=
        if isValueON state = 1 ∨ isValueON state = 0 then
          enableDelay24h cfg now (isValueON state = 1) st
        else if strncasecmpEqual state "reset".toList 5 then
          let time := mgGetHttpVar query "time".toList state
          resetDelay24hTime cfg now (wrapUnsigned 64 (atoi time)) st
        else st
      (delayed, .document .sprinkler)
    else if strncasecmpEqual option "allz".toList 4 then
      ((zcZone cfg now .zcAll 0 (if isValueON state ≠ 0 then .zcOn else .zcOff) 0 st).1,
        .document .sprinkler)
    else (st, .error "\x7b \"error\": \"Bad request unknown option\" \x7d".toList)
  (served.1.setEventStatus, served.2)

def serveConfig (buf : Text) (st : SprinklerdState) : SprinklerdState × WebReply :=
  let option := mgGetHttpVar query "option".toList buf
  let value := mgGetHttpVar query "value".toList option
  let configured :=
    if strncasecmpEqual option "raindelaychance".toList 15 then
      { st with precipChanceDelay := atoi value }
    else if strncasecmpEqual option "raindelaytotal1".toList 15 then
      { st with precipInchDelay1day := atof (cString value) }
    else if strncasecmpEqual option "raindelaytotal2".toList 15 then
      { st with precipInchDelay2day := atof (cString value) }
    else st
  (configured, .document .sprinkler)

def serveSensor (buf : Text) (st : SprinklerdState) : SprinklerdState × WebReply :=
  let sensor := mgGetHttpVar query "sensor".toList buf
  let value := mgGetHttpVar query "value".toList sensor
  let measured :=
    if strncasecmpEqual sensor "chanceofrain".toList 13 then
      (setTodayChanceOfRain cfg now (atoi value) st).1
    else if strncasecmpEqual sensor "raintotal".toList 9 then
      (setTodayRainTotal cfg now (atof (cString value)) st).1
    else st
  (measured, .document .sprinkler)

/-- Only the upper end of the zone number is checked. A flipped zone gets no answer. -/
def serveZone (buf : Text) (st : SprinklerdState) : SprinklerdState × WebReply :=
  let type := if strcmpEqual buf "cron".toList then ZcRunType.zcCron else .zcSingle
  let zoneText := mgGetHttpVar query "zone".toList buf
  let runtimeText := mgGetHttpVar query "runtime".toList zoneText
  let state := mgGetHttpVar query "state".toList runtimeText
  let zone := atoi zoneText
  let runtime := atoi runtimeText
  if isValueON state = 1 ∧ zone ≤ cfg.zones then
    ((zcZone cfg now type zone .zcOn runtime st).1, .document .sprinkler)
  else if isValueON state = 0 ∧ zone ≤ cfg.zones then
    ((zcZone cfg now type zone .zcOff runtime st).1, .document .sprinkler)
  else if isValueFlip state ∧ zone ≤ cfg.zones then
    let flipped := if zcState cfg zone st = .zcOn then ZcState.zcOff else .zcOn
    ((zcZone cfg now type zone flipped runtime st).1, .empty)
  else if zone > cfg.zones then
    (st.setEventZones, .error ("\x7b \"error\": \"Bad request unknown zone ".toList ++
      printInt zone ++ "\"\x7d".toList))
  else
    (st.setEventZones, .error ("\x7b \"error\": \"Bad request on zone ".toList ++
      printInt zone ++ ", unknown state ".toList ++ cString state ++ "\"\x7d".toList))

def serveZrtcfg (buf : Text) (st : SprinklerdState) : SprinklerdState × WebReply :=
  let zoneText := mgGetHttpVar query "zone".toList buf
  let zone := atoi zoneText
  let runtime := atoi (mgGetHttpVar query "time".toList zoneText)
  if 0 < zone ∧ zone ≤ cfg.zones ∧ -1 < runtime then
    let configured := { st with
      defaultRuntime := Function.update st.defaultRuntime zone runtime }
    ((zcUpdateRuntime cfg zone configured).setEventZones, .document .sprinkler)
  else
    (st, .error ("\x7b \"error\": \"bad request zone ".toList ++ printInt zone ++
      " runtime ".toList ++ printInt runtime ++ "\"\x7d".toList))

/-- The third test of the first branch compares the address of the function `time`
with 0, so it always holds. Errors are overwritten by the answer. -/
def serveCalcfg (buf : Text) (st : SprinklerdState) : SprinklerdState × WebReply :=
  let dayText := mgGetHttpVar query "day".toList buf
  let zoneText := mgGetHttpVar query "zone".toList dayText
  let time := mgGetHttpVar query "time".toList zoneText
  let day := atoi dayText
  let zone := atoi zoneText
  let configured :=
    if (0 ≤ day ∧ day ≤ 6) ∧ 0 < zone then
      if zone ≤ cfg.zones then
        { st with cron := Function.update st.cron day { st.cron day with
          zruntimes := Function.update (st.cron day).zruntimes (zone - 1) (atoi time) } }
      else st
    else if (0 ≤ day ∧ day ≤ 6) ∧ cString time ≠ [] then
      { st with cron := Function.update st.cron day { st.cron day with
        hour := str2int time 2, minute := str2int (time.drop 3) 2 } }
    else if 0 ≤ day ∧ day ≤ 6 then
      { st with cron := Function.update st.cron day { st.cron day with
        hour := -1, minute := -1 } }
    else st
  ({ configured with cronUpdate := now }, .document .sprinklerCal)

/-- `stack` is what the memory of the buffer holds at the beginning. -/
def serveWebRequest (stack : Text) (st : SprinklerdState) : SprinklerdState × WebReply :=
  let buf := mgGetHttpVar query "type".toList stack
  if strcmpEqual buf "json".toList then (st, .document .advancedSprinkler)
  else if strcmpEqual buf "homebridge".toList then (st, .document .homebridgeSprinkler)
  else if strcmpEqual buf "firstload".toList then (st, .document .sprinklerCal)
  else if strcmpEqual buf "read".toList then (st, .document .sprinkler)
  else if strcmpEqual buf "option".toList then serveOption cfg now query buf st
  else if strncasecmpEqual buf "config".toList 6 then serveConfig query buf st
  else if strncasecmpEqual buf "sensor".toList 6 then serveSensor cfg now query buf st
  else if strcmpEqual buf "zone".toList ∨ strcmpEqual buf "cron".toList then
    serveZone cfg now query buf st
  else if strcmpEqual buf "zrtcfg".toList then serveZrtcfg cfg query buf st
  else if strcmpEqual buf "calcfg".toList then serveCalcfg cfg now query buf st
  else (st, unknownRequest)

/-- A request without a query asks for a file. -/
def actionWebRequest (stack : Text) (st : SprinklerdState) : SprinklerdState × Option WebReply :=
  if query = [] then (st, none)
  else
    let served := serveWebRequest cfg now query stack st
    (served.1, some (if served.2 = .empty then unknownRequest else served.2))

end WebRequests

section MqttMessages

/-- Topic and payload with their lengths, and what follows each of them in memory. -/
structure MqttMessage where
  topic : Text
  afterTopic : Text
  payload : Text
  afterPayload : Text

/-- The places after each slash. The character after a slash is not looked at. -/
def topicPointers (afterTopic : Text) : Text → List Text
  | [] => []
  | [char] => if char = '/' then [afterTopic] else []
  | char :: next :: rest =>
      if char = '/' then (next :: rest ++ afterTopic) :: topicPointers afterTopic rest
      else topicPointers afterTopic (next :: rest)

/-- The pointer is not null, and `strncmp` answers 0. -/
def pointsTo (pointer : Option Text) (word : Text) (count : Nat) : Bool :=
  pointer.any fun memory => strncmpEqual memory word count

inductive MqttTopic where
  | duration
  | delay24h
  | calendar
  | cycleAllZones
  | rainTotal
  | chanceOfRain
  | zone
  | unknown
deriving DecidableEq, Repr

/-- The conditions of the handler, in its order. -/
def mqttTopicOf (pt2 pt3 pt4 : Option Text) : MqttTopic :=
  if pointsTo pt2 "zone".toList 4 ∧ pointsTo pt3 "duration".toList 8 ∧
      pointsTo pt4 "set".toList 3 then .duration
  else if pointsTo pt2 "24hdelay".toList 8 ∧ pointsTo pt3 "set".toList 3 then .delay24h
  else if pointsTo pt2 "calendar".toList 6 ∧ pointsTo pt3 "set".toList 3 then .calendar
  else if pointsTo pt2 "cycleallzones".toList 13 ∧ pointsTo pt3 "set".toList 3 then .cycleAllZones
  else if pointsTo pt2 "raintotal".toList 9 ∧ pointsTo pt3 "set".toList 3 then .rainTotal
  else if pointsTo pt2 "chanceofrain".toList 12 ∧ pointsTo pt3 "set".toList 3 then .chanceOfRain
  else if pointsTo pt2 "zone".toList 4 ∧ pointsTo pt3 "set".toList 3 then .zone
  else .unknown

def payloadStatus (memory : Text) : ZcState :=
  if strncasecmpEqual memory "on".toList 2 ∨ strncmpEqual memory "1".toList 1 then .zcOn
  else .zcOff

/-- The number after `zone` in the second part of the topic. -/
def topicZone (pt2 : Option Text) : Int := atoi ((pt2.getD []).drop 4)

/-- The branches of the handler. `status`, `number` and `rain` are the payload, read as
a switch, with `str2int` and with `str2float`. -/
def actionMqttTopic (topic : MqttTopic) (zone : Int) (status : ZcState) (number : Int)
    (rain : CFloat) (st : SprinklerdState) : SprinklerdState :=
  match topic with
  | .duration =>
      if 0 < zone ∧ zone ≤ cfg.zones then
        zcUpdateRuntime cfg zone
          { st with defaultRuntime := Function.update st.defaultRuntime zone (number.tdiv 60) }
      else st
  | .delay24h => enableDelay24h cfg now (status = .zcOn) st
  | .calendar => enableCalendar (status = .zcOn) st
  | .cycleAllZones => (zcZone cfg now .zcAll 0 status 0 st).1
  | .rainTotal => (setTodayRainTotal cfg now rain st).1
  | .chanceOfRain => (setTodayChanceOfRain cfg now number st).1
  | .zone =>
      if 0 < zone ∧ zone ≤ cfg.zones then
        (zcZone cfg now .zcSingle zone status 0 st).1
      else if zone = 0 ∧ status = .zcOff ∧ st.currentZone.type ≠ .zcNone then
        -- turning the master off turns the running zone off
        (zcZone cfg now .zcSingle st.currentZone.zone .zcOff 0 st).1
      else if zone = 0 ∧ status = .zcOn then st.setEventZones.setEventStatus
      else st
  | .unknown => st

def actionMqttMessage (message : MqttMessage) (st : SprinklerdState) : SprinklerdState :=
  let pointers := topicPointers message.afterTopic (message.topic.drop cfg.mqttTopic.length)
  let payload := message.payload ++ message.afterPayload
  actionMqttTopic cfg now (mqttTopicOf pointers[0]? pointers[1]? pointers[2]?)
    (topicZone pointers[0]?) (payloadStatus payload) (str2int payload message.payload.length)
    (atof (cString payload)) st

end MqttMessages

section DomoticzMessages

def dzOn : Int := 1

def dzOff : Int := 0

def checkDzCache (idx value : Int) : List DZcache → Bool
  | [] => false
  | entry :: rest => if entry.idx = idx then entry.status = value else checkDzCache idx value rest

/-- Writes the first entry with the identifier `old`. -/
def writeDzEntry (old : Int) (entry : DZcache) : List DZcache → List DZcache
  | [] => []
  | first :: rest => if first.idx = old then entry :: rest else first :: writeDzEntry old entry rest

/-- An identifier that is not in the cache takes the first entry with identifier 0.
The answer is `true` when the value is new, and when a full cache has no entry left. -/
def updateDzCache (dzidx value : Int) (cache : List DZcache) : List DZcache × Bool :=
  match cache.find? fun entry => entry.idx = dzidx with
  | some entry =>
      if entry.status = value then (cache, false)
      else (writeDzEntry dzidx { idx := dzidx, status := value } cache, true)
  | none => (writeDzEntry 0 { idx := dzidx, status := value } cache, true)

def dzZone (idx nvalue : Int) (st : SprinklerdState) (zone : Int) : SprinklerdState :=
  if (cfg.zonecfg zone).dzIdx = idx ∧ (nvalue = dzOn ∨ nvalue = dzOff) then
    (zcZone cfg now .zcSingle zone (if nvalue = dzOn then .zcOn else .zcOff) 0 st).1
  else st

def actionDomoticzMqttMessage (idx nvalue : Int) (svalue : Text) (st : SprinklerdState) :
    SprinklerdState :=
  if idx ≤ 0 ∨ checkDzCache idx nvalue st.dzCache then st
  else if idx = cfg.dzidxCalendar then enableCalendar (nvalue = dzOn) st
  else if idx = cfg.dzidx24hDelay then enableDelay24h cfg now (nvalue = dzOn) st
  else if idx = cfg.dzidxAllzones then
    (zcZone cfg now .zcAll 0 (if nvalue = dzOn then .zcOn else .zcOff) 0 st).1
  else if idx = cfg.dzidxRainsensor then
    (setTodayRainTotal cfg now (atof (cString svalue)) st).1
  else (zoneList cfg).foldl (dzZone cfg now idx nvalue) st

end DomoticzMessages

end SprinklerD.NetServices
