import SprinklerD.NetServices
import SprinklerD.Operations
import SprinklerD.Foundation.Transitions

/-!
# The daemon

What reaches the daemon from outside, as events with a clock reading, and what each
of them asks of the controller. The handlers of the front ends are shown to perform
exactly the operations they ask for and to leave the rest of the controller alone,
so that everything proved of operations holds of the daemon.
-/

namespace SprinklerD.Daemon

open Foundation.MachineInt Foundation.CString Foundation.Transitions
open Foundation.FloatValue (atof)
open SprinklerD.Config SprinklerD.ZoneCtrl SprinklerD.SdCron SprinklerD.CronTable
open SprinklerD.NetServices SprinklerD.Operations

set_option autoImplicit false

/-- `call` stands for the calls `main_loop` makes on its own account. A broadcast of
the state rewrites the Domoticz cache and clears events; here it may leave either of
them in any way. `filesOpen` changes how the next `fopen` will end. -/
inductive Event where
  | webRequest (query stack : Text)
  | mqttMessage (message : MqttMessage)
  | domoticzMessage (idx nvalue : Int) (svalue : Text)
  | call (operation : Operation)
  | checkCron
  | broadcast (dzCache : List DZcache) (mask : EventMask)
  | filesOpen (cacheOpens cronOpens : Bool)

abbrev TimedEvent := Int × Event

variable (cfg : SprinklerdCfg)

def daemonStep (st : SprinklerdState) : TimedEvent → SprinklerdState
  | (now, .webRequest query stack) => (actionWebRequest cfg now query stack st).1
  | (now, .mqttMessage message) => actionMqttMessage cfg now message st
  | (now, .domoticzMessage idx nvalue svalue) =>
      actionDomoticzMqttMessage cfg now idx nvalue svalue st
  | (now, .call operation) => applyOperation cfg now st operation
  | (now, .checkCron) => CronTable.checkCron cfg now st
  | (_, .broadcast dzCache mask) => { st with dzCache := dzCache, updateEventMask := mask }
  | (_, .filesOpen cacheOpens cronOpens) =>
      { st with disk := { st.disk with cacheOpens := cacheOpens, cronOpens := cronOpens } }

section Requests

variable (query : Text)

def optionOperation (buf : Text) : Option Operation :=
  let option := mgGetHttpVar query "option".toList buf
  let state := mgGetHttpVar query "state".toList option
  if strncasecmpEqual option "calendar".toList 6 then some (.enableCalendar (isValueON state ≠ 0))
  else if strncasecmpEqual option "24hdelay".toList 8 then
    if isValueON state = 1 ∨ isValueON state = 0 then some (.enableDelay24h (isValueON state = 1))
    else if strncasecmpEqual state "reset".toList 5 then
      some (.resetDelay24hTime (wrapUnsigned 64 (atoi (mgGetHttpVar query "time".toList state))))
    else none
  else if strncasecmpEqual option "allz".toList 4 then
    some (.zone .zcAll 0 (if isValueON state ≠ 0 then .zcOn else .zcOff) 0)
  else none

def configOperation (buf : Text) : Option Operation :=
  let option := mgGetHttpVar query "option".toList buf
  let value := mgGetHttpVar query "value".toList option
  if strncasecmpEqual option "raindelaychance".toList 15 then some (.precipChanceDelay (atoi value))
  else if strncasecmpEqual option "raindelaytotal1".toList 15 then
    some (.precipInchDelay1day (atof (cString value)))
  else if strncasecmpEqual option "raindelaytotal2".toList 15 then
    some (.precipInchDelay2day (atof (cString value)))
  else none

def sensorOperation (buf : Text) : Option Operation :=
  let sensor := mgGetHttpVar query "sensor".toList buf
  let value := mgGetHttpVar query "value".toList sensor
  if strncasecmpEqual sensor "chanceofrain".toList 13 then some (.setTodayChanceOfRain (atoi value))
  else if strncasecmpEqual sensor "raintotal".toList 9 then
    some (.setTodayRainTotal (atof (cString value)))
  else none

def zoneOperation (buf : Text) (st : SprinklerdState) : Option Operation :=
  let type := if strcmpEqual buf "cron".toList then ZcRunType.zcCron else .zcSingle
  let zoneText := mgGetHttpVar query "zone".toList buf
  let runtimeText := mgGetHttpVar query "runtime".toList zoneText
  let state := mgGetHttpVar query "state".toList runtimeText
  let zone := atoi zoneText
  if zone ≤ cfg.zones then
    if isValueON state = 1 then some (.zone type zone .zcOn (atoi runtimeText))
    else if isValueON state = 0 then some (.zone type zone .zcOff (atoi runtimeText))
    else if isValueFlip state then
      some (.zone type zone (if zcState cfg zone st = .zcOn then .zcOff else .zcOn)
        (atoi runtimeText))
    else none
  else none

def zrtcfgOperation (buf : Text) : Option Operation :=
  let zoneText := mgGetHttpVar query "zone".toList buf
  let zone := atoi zoneText
  let runtime := atoi (mgGetHttpVar query "time".toList zoneText)
  if 0 < zone ∧ zone ≤ cfg.zones ∧ -1 < runtime then some (.setDefaultRuntime zone runtime) else none

/-- What a query asks of the controller; a calendar change asks nothing of it. -/
def webOperation (stack : Text) (st : SprinklerdState) : Option Operation :=
  let buf := mgGetHttpVar query "type".toList stack
  if strcmpEqual buf "json".toList ∨ strcmpEqual buf "homebridge".toList ∨
      strcmpEqual buf "firstload".toList ∨ strcmpEqual buf "read".toList then none
  else if strcmpEqual buf "option".toList then optionOperation query buf
  else if strncasecmpEqual buf "config".toList 6 then configOperation query buf
  else if strncasecmpEqual buf "sensor".toList 6 then sensorOperation query buf
  else if strcmpEqual buf "zone".toList ∨ strcmpEqual buf "cron".toList then
    zoneOperation cfg query buf st
  else if strcmpEqual buf "zrtcfg".toList then zrtcfgOperation cfg query buf
  else none

def mqttTopicOperation (topic : MqttTopic) (zone : Int) (status : ZcState) (number : Int)
    (rain : CFloat) (st : SprinklerdState) : Option Operation :=
  match topic with
  | .duration =>
      if 0 < zone ∧ zone ≤ cfg.zones then some (.setDefaultRuntime zone (number.tdiv 60)) else none
  | .delay24h => some (.enableDelay24h (status = .zcOn))
  | .calendar => some (.enableCalendar (status = .zcOn))
  | .cycleAllZones => some (.zone .zcAll 0 status 0)
  | .rainTotal => some (.setTodayRainTotal rain)
  | .chanceOfRain => some (.setTodayChanceOfRain number)
  | .zone =>
      if 0 < zone ∧ zone ≤ cfg.zones then some (.zone .zcSingle zone status 0)
      else if zone = 0 ∧ status = .zcOff ∧ st.currentZone.type ≠ .zcNone then
        some (.zone .zcSingle st.currentZone.zone .zcOff 0)
      else none
  | .unknown => none

def mqttOperation (message : MqttMessage) (st : SprinklerdState) : Option Operation :=
  let pointers := topicPointers message.afterTopic (message.topic.drop cfg.mqttTopic.length)
  let payload := message.payload ++ message.afterPayload
  mqttTopicOperation cfg (mqttTopicOf pointers[0]? pointers[1]? pointers[2]?)
    (topicZone pointers[0]?) (payloadStatus payload) (str2int payload message.payload.length)
    (atof (cString payload)) st

def domoticzOperations (idx nvalue : Int) (svalue : Text) (st : SprinklerdState) :
    List Operation :=
  if idx ≤ 0 ∨ checkDzCache idx nvalue st.dzCache then []
  else if idx = cfg.dzidxCalendar then [.enableCalendar (nvalue = dzOn)]
  else if idx = cfg.dzidx24hDelay then [.enableDelay24h (nvalue = dzOn)]
  else if idx = cfg.dzidxAllzones then
    [.zone .zcAll 0 (if nvalue = dzOn then .zcOn else .zcOff) 0]
  else if idx = cfg.dzidxRainsensor then [.setTodayRainTotal (atof (cString svalue))]
  else if nvalue = dzOn ∨ nvalue = dzOff then
    ((zoneList cfg).filter fun zone => (cfg.zonecfg zone).dzIdx = idx).map fun zone =>
      .zone .zcSingle zone (if nvalue = dzOn then .zcOn else .zcOff) 0
  else []

def operations (st : SprinklerdState) : Event → List Operation
  | .webRequest query stack =>
      if query = [] then [] else (webOperation cfg query stack st).toList
  | .mqttMessage message => (mqttOperation cfg message st).toList
  | .domoticzMessage idx nvalue svalue => domoticzOperations cfg idx nvalue svalue st
  | .call operation => [operation]
  | _ => []

end Requests

/-- The state without the calendar table, the Domoticz cache, the event mask and the
files. -/
def controller (st : SprinklerdState) : SprinklerdState :=
  { st with
    dzCache := []
    cron := fun _ => { hour := -1, minute := -1, zruntimes := fun _ => 0 }
    cronUpdate := 0
    updateEventMask := ⟨false, false, false, false⟩
    disk := ⟨false, false, false, none, none⟩ }

def performAny (now : Int) (st : SprinklerdState) (asked : Option Operation) :
    SprinklerdState :=
  asked.elim st (applyOperation cfg now st)

def perform (now : Int) (st : SprinklerdState) (asked : List Operation) : SprinklerdState :=
  run (timedStep cfg) st (asked.map (Prod.mk now))

variable {cfg}

@[simp]
theorem perform_any_none (now : Int) (st : SprinklerdState) :
    performAny cfg now st none = st := rfl

@[simp]
theorem perform_any_some (now : Int) (st : SprinklerdState) (operation : Operation) :
    performAny cfg now st (some operation) = applyOperation cfg now st operation := rfl

theorem perform_to_list (now : Int) (st : SprinklerdState) (asked : Option Operation) :
    perform cfg now st asked.toList = performAny cfg now st asked := by
  cases asked <;> rfl

@[simp]
theorem perform_nil (now : Int) (st : SprinklerdState) : perform cfg now st [] = st := rfl

@[simp]
theorem perform_one (now : Int) (st : SprinklerdState) (operation : Operation) :
    perform cfg now st [operation] = applyOperation cfg now st operation := rfl

theorem perform_invariant (invariant : SprinklerdState → Prop) (allowed : Operation → Prop)
    {now : Int} (preserved : ∀ st operation, invariant st → allowed operation →
      invariant (applyOperation cfg now st operation))
    {asked : List Operation} (every : ∀ operation ∈ asked, allowed operation)
    {st : SprinklerdState} (holds : invariant st) : invariant (perform cfg now st asked) := by
  have admitted : Admitted (timedStep cfg) (fun _ event => event.1 = now ∧ allowed event.2) st
      (asked.map (Prod.mk now)) := admitted_of_forall (by simpa using every)
  apply run_invariant (fun st _ => invariant st) _ holds admitted
  rintro st ⟨time, operation⟩ rest holds ⟨same, permitted⟩
  rw [timedStep, same]
  exact preserved st operation holds permitted

@[simp]
theorem controller_event_status (st : SprinklerdState) :
    controller st.setEventStatus = controller st := rfl

@[simp]
theorem controller_event_zones (st : SprinklerdState) :
    controller st.setEventZones = controller st := rfl

section WebRequests

section Dispatch

inductive Served (cfg : SprinklerdCfg) (now : Int) (query buf : Text) (st : SprinklerdState) :
    SprinklerdState × WebReply → Prop where
  | read (reply : WebReply) : Served cfg now query buf st (st, reply)
  | option : Served cfg now query buf st (serveOption cfg now query buf st)
  | config : Served cfg now query buf st (serveConfig query buf st)
  | sensor : Served cfg now query buf st (serveSensor cfg now query buf st)
  | zone : Served cfg now query buf st (serveZone cfg now query buf st)
  | zrtcfg : Served cfg now query buf st (serveZrtcfg cfg query buf st)
  | calcfg (asked : strcmpEqual buf "calcfg".toList = true) :
      Served cfg now query buf st (serveCalcfg cfg now query buf st)

variable {now : Int} {query buf : Text} {st : SprinklerdState}

theorem served_if {taken : Prop} [Decidable taken] {here later : SprinklerdState × WebReply}
    (first : taken → Served cfg now query buf st here)
    (rest : Served cfg now query buf st later) :
    Served cfg now query buf st (if taken then here else later) := by
  split_ifs with holds
  · exact first holds
  · exact rest

theorem serve_web_request_served (cfg : SprinklerdCfg) (now : Int) (query stack : Text)
    (st : SprinklerdState) :
    Served cfg now query (mgGetHttpVar query "type".toList stack) st
      (serveWebRequest cfg now query stack st) := by
  unfold serveWebRequest
  refine served_if (fun _ => .read _) ?_
  refine served_if (fun _ => .read _) ?_
  refine served_if (fun _ => .read _) ?_
  refine served_if (fun _ => .read _) ?_
  refine served_if (fun _ => .option) ?_
  refine served_if (fun _ => .config) ?_
  refine served_if (fun _ => .sensor) ?_
  refine served_if (fun _ => .zone) ?_
  refine served_if (fun _ => .zrtcfg) ?_
  refine served_if (fun asked => .calcfg asked) ?_
  exact .read _

end Dispatch

variable {query : Text}

theorem serve_option_controller (now : Int) (buf : Text) (st : SprinklerdState) :
    controller (serveOption cfg now query buf st).1 =
      controller (performAny cfg now st (optionOperation query buf)) := by
  unfold serveOption optionOperation
  simp only [controller_event_status]
  split_ifs <;> simp only [perform_any_some, perform_any_none, applyOperation]

theorem serve_config_controller (now : Int) (buf : Text) (st : SprinklerdState) :
    controller (serveConfig query buf st).1 =
      controller (performAny cfg now st (configOperation query buf)) := by
  unfold serveConfig configOperation
  simp only
  split_ifs <;> simp only [perform_any_some, perform_any_none, applyOperation]

theorem serve_sensor_controller (now : Int) (buf : Text) (st : SprinklerdState) :
    controller (serveSensor cfg now query buf st).1 =
      controller (performAny cfg now st (sensorOperation query buf)) := by
  unfold serveSensor sensorOperation
  simp only
  split_ifs <;> simp only [perform_any_some, perform_any_none, applyOperation]

theorem serve_zone_controller (now : Int) (buf : Text) (st : SprinklerdState) :
    controller (serveZone cfg now query buf st).1 =
      controller (performAny cfg now st (zoneOperation cfg query buf st)) := by
  unfold serveZone zoneOperation
  simp only
  by_cases listed : atoi (mgGetHttpVar query "zone".toList buf) ≤ cfg.zones
  · simp only [listed, and_true, if_true]
    split_ifs <;> simp only [perform_any_some, perform_any_none, applyOperation, controller_event_zones]
  · simp only [listed, and_false, if_false]
    split_ifs <;> simp only [perform_any_none, controller_event_zones]

theorem serve_zrtcfg_controller (now : Int) (buf : Text) (st : SprinklerdState) :
    controller (serveZrtcfg cfg query buf st).1 =
      controller (performAny cfg now st (zrtcfgOperation cfg query buf)) := by
  unfold serveZrtcfg zrtcfgOperation
  simp only
  split_ifs <;> simp only [perform_any_some, perform_any_none, applyOperation, controller_event_zones]

theorem serve_calcfg_controller (now : Int) (buf : Text) (st : SprinklerdState) :
    controller (serveCalcfg cfg now query buf st).1 = controller st := by
  unfold serveCalcfg
  simp only
  split_ifs <;> rfl

theorem serve_web_request_controller (now : Int) (stack : Text) (st : SprinklerdState) :
    controller (serveWebRequest cfg now query stack st).1 =
      controller (performAny cfg now st (webOperation cfg query stack st)) := by
  unfold serveWebRequest webOperation
  generalize mgGetHttpVar query "type".toList stack = buf
  simp only
  generalize strcmpEqual buf "json".toList = json
  generalize strcmpEqual buf "homebridge".toList = homebridge
  generalize strcmpEqual buf "firstload".toList = firstload
  generalize strcmpEqual buf "read".toList = read
  by_cases document : json = true ∨ homebridge = true ∨ firstload = true ∨ read = true
  · rw [if_pos document]
    cases json <;> cases homebridge <;> cases firstload <;> cases read <;> simp_all
  · obtain ⟨noJson, noHomebridge, noFirstload, noRead⟩ := by simpa only [not_or] using document
    rw [if_neg document, if_neg noJson, if_neg noHomebridge, if_neg noFirstload, if_neg noRead]
    split_ifs
    · exact serve_option_controller now buf st
    · exact serve_config_controller now buf st
    · exact serve_sensor_controller now buf st
    · exact serve_zone_controller now buf st
    · exact serve_zrtcfg_controller now buf st
    · exact serve_calcfg_controller now buf st
    · rfl

end WebRequests

theorem action_mqtt_topic_controller (now : Int) (topic : MqttTopic) (zone : Int)
    (status : ZcState) (number : Int) (rain : CFloat) (st : SprinklerdState) :
    controller (actionMqttTopic cfg now topic zone status number rain st) =
      controller (performAny cfg now st
        (mqttTopicOperation cfg topic zone status number rain st)) := by
  cases topic with
  | duration | zone =>
      simp only [actionMqttTopic, mqttTopicOperation]
      split_ifs <;> simp only [perform_any_some, perform_any_none, applyOperation, controller_event_status,
        controller_event_zones]
  | _ => rfl

theorem action_mqtt_message_controller (now : Int) (message : MqttMessage)
    (st : SprinklerdState) :
    controller (actionMqttMessage cfg now message st) =
      controller (performAny cfg now st (mqttOperation cfg message st)) :=
  action_mqtt_topic_controller now _ _ _ _ _ st

theorem dz_zones_perform (now idx nvalue : Int) (known : nvalue = dzOn ∨ nvalue = dzOff)
    (zones : List Int) (st : SprinklerdState) :
    zones.foldl (dzZone cfg now idx nvalue) st =
      perform cfg now st ((zones.filter fun zone => (cfg.zonecfg zone).dzIdx = idx).map fun zone =>
        .zone .zcSingle zone (if nvalue = dzOn then .zcOn else .zcOff) 0) := by
  induction zones generalizing st with
  | nil => rfl
  | cons zone zones ih =>
      rw [List.foldl_cons, ih, dzZone]
      by_cases same : (cfg.zonecfg zone).dzIdx = idx
      · rw [if_pos ⟨same, known⟩, List.filter_cons, if_pos (decide_eq_true same)]
        rfl
      · have skipped : ¬ decide ((cfg.zonecfg zone).dzIdx = idx) = true := by simpa using same
        rw [if_neg fun both => same both.1, List.filter_cons, if_neg skipped]

theorem action_domoticz_perform (now idx nvalue : Int) (svalue : Text) (st : SprinklerdState) :
    actionDomoticzMqttMessage cfg now idx nvalue svalue st =
      perform cfg now st (domoticzOperations cfg idx nvalue svalue st) := by
  unfold actionDomoticzMqttMessage domoticzOperations
  have zones : (zoneList cfg).foldl (dzZone cfg now idx nvalue) st = perform cfg now st
      (if nvalue = dzOn ∨ nvalue = dzOff then
        ((zoneList cfg).filter fun zone => (cfg.zonecfg zone).dzIdx = idx).map fun zone =>
          .zone .zcSingle zone (if nvalue = dzOn then .zcOn else .zcOff) 0
      else []) := by
    by_cases known : nvalue = dzOn ∨ nvalue = dzOff
    · rw [if_pos known]
      exact dz_zones_perform now idx nvalue known (zoneList cfg) st
    · have idle : dzZone cfg now idx nvalue = fun st _ => st := by
        funext other zone
        exact if_neg fun both => known both.2
      rw [if_neg known, idle, List.foldl_fixed, perform_nil]
  rw [zones]
  simp only [apply_ite (perform cfg now st), perform_nil, perform_one, applyOperation]

theorem check_cron_frame (cfg : SprinklerdCfg) (now : Int) (st : SprinklerdState) :
    ∃ disk update, CronTable.checkCron cfg now st =
      { st with disk := disk, cronUpdate := update } := by
  simp only [CronTable.checkCron, writeCron, remount_eq]
  split_ifs <;> exact ⟨_, _, rfl⟩

theorem check_cron_controller (now : Int) (st : SprinklerdState) :
    controller (CronTable.checkCron cfg now st) = controller st := by
  obtain ⟨disk, update, checked⟩ := check_cron_frame cfg now st
  rw [checked]
  rfl

/-- On the controller an event does what the operations it asks for do. -/
theorem daemon_step_controller (st : SprinklerdState) (now : Int) (event : Event) :
    controller (daemonStep cfg st (now, event)) =
      controller (perform cfg now st (operations cfg st event)) := by
  cases event with
  | webRequest query stack =>
      rw [daemonStep, actionWebRequest, operations]
      split_ifs
      · rfl
      · rw [perform_to_list]
        exact serve_web_request_controller now stack st
  | mqttMessage message =>
      rw [operations, perform_to_list]
      exact action_mqtt_message_controller now message st
  | domoticzMessage idx nvalue svalue =>
      rw [daemonStep, operations, action_domoticz_perform]
  | call operation => rfl
  | checkCron => exact check_cron_controller now st
  | broadcast dzCache mask => rfl
  | filesOpen cacheOpens cronOpens => rfl

section TableRequests

def TableRequest (cfg : SprinklerdCfg) : Operation → Prop
  | .zone type zone _ length =>
      (type = .zcSingle ∨ type = .zcCron) ∧ InTable cfg zone ∨
        type = .zcAll ∧ zone = 0 ∧ length = 0
  | _ => True

def zoneRequest : Operation → Option (ZcRunType × Int × ZcState × Int)
  | .zone type zone state length => some (type, zone, state, length)
  | _ => none

def isZoneRequest (operation : Operation) : Bool := (zoneRequest operation).isSome

/-- The part of the zone number that no handler checks: a query names no zone below
zero, and zone 0 only with a master valve. -/
def ZoneNumbered (cfg : SprinklerdCfg) (st : SprinklerdState) : Event → Prop
  | .webRequest query stack =>
      ∀ type zone state length, type ≠ .zcAll →
        webOperation cfg query stack st = some (.zone type zone state length) →
        0 ≤ zone ∧ (zone = 0 → cfg.masterValve = true)
  | .call operation => isZoneRequest operation = false
  | _ => True

theorem table_request_other {operation : Operation} (other : isZoneRequest operation = false) :
    TableRequest cfg operation := by
  cases operation with
  | zone => cases other
  | _ => trivial

theorem zone_of_request {asked : Option Operation} {type : ZcRunType} {zone : Int}
    {state : ZcState} {length : Int}
    (request : asked.bind zoneRequest = some (type, zone, state, length)) :
    asked = some (.zone type zone state length) := by
  obtain ⟨operation, rfl, some⟩ := Option.bind_eq_some_iff.mp request
  cases operation with
  | zone => cases some; rfl
  | _ => cases some

theorem numbered_of_request {query stack : Text} {st : SprinklerdState} {type : ZcRunType}
    {zone : Int} {state : ZcState} {length : Int}
    (request : (webOperation cfg query stack st).bind zoneRequest =
      some (type, zone, state, length))
    (lower : 0 ≤ zone) (master : zone = 0 → cfg.masterValve = true) :
    ZoneNumbered cfg st (.webRequest query stack) := by
  intro askedType asked askedState askedLength _ same
  cases (zone_of_request request).symm.trans same
  exact ⟨lower, master⟩

theorem numbered_of_other {query stack : Text} {st : SprinklerdState}
    (other : (webOperation cfg query stack st).bind zoneRequest = none) :
    ZoneNumbered cfg st (.webRequest query stack) := by
  intro type zone state length _ asked
  rw [asked] at other
  cases other

theorem other_of_some {operation only : Operation} (asked : some only = some operation)
    (other : isZoneRequest only = false) : isZoneRequest operation = false :=
  Option.some.inj asked ▸ other

theorem table_request_all (state : ZcState) : TableRequest cfg (.zone .zcAll 0 state 0) :=
  Or.inr ⟨rfl, rfl, rfl⟩

theorem table_request_zone {zone : Int} (inside : 0 < zone ∧ zone ≤ cfg.zones) (state : ZcState) :
    TableRequest cfg (.zone .zcSingle zone state 0) :=
  Or.inl ⟨Or.inl rfl, in_table_of_zone (mem_zone_list.mpr ⟨inside.1, inside.2⟩)⟩

theorem option_operation_checked {query buf : Text} {operation : Operation}
    (asked : optionOperation query buf = some operation) :
    isZoneRequest operation = false ∨ ∃ state, operation = .zone .zcAll 0 state 0 := by
  unfold optionOperation at asked
  simp only at asked
  split_ifs at asked
  · exact Or.inl (other_of_some asked rfl)
  · exact Or.inl (other_of_some asked rfl)
  · exact Or.inl (other_of_some asked rfl)
  · exact Or.inr ⟨_, (Option.some.inj asked).symm⟩
  · exact Or.inr ⟨_, (Option.some.inj asked).symm⟩

theorem zone_operation_checked {query buf : Text} {st : SprinklerdState}
    {operation : Operation} (asked : zoneOperation cfg query buf st = some operation) :
    ∃ type zone state length, operation = .zone type zone state length ∧
      (type = .zcSingle ∨ type = .zcCron) ∧ zone ≤ cfg.zones := by
  have kind : (if strcmpEqual buf "cron".toList then ZcRunType.zcCron else .zcSingle) = .zcSingle ∨
      (if strcmpEqual buf "cron".toList then ZcRunType.zcCron else .zcSingle) = .zcCron := by
    split_ifs
    · exact Or.inr rfl
    · exact Or.inl rfl
  unfold zoneOperation at asked
  generalize (if strcmpEqual buf "cron".toList then ZcRunType.zcCron else .zcSingle) = type
    at asked kind
  simp only at asked
  by_cases listed : atoi (mgGetHttpVar query "zone".toList buf) ≤ cfg.zones
  · rw [if_pos listed] at asked
    split_ifs at asked
    · exact ⟨_, _, _, _, (Option.some.inj asked).symm, kind, listed⟩
    · exact ⟨_, _, _, _, (Option.some.inj asked).symm, kind, listed⟩
    · exact ⟨_, _, _, _, (Option.some.inj asked).symm, kind, listed⟩
    · exact ⟨_, _, _, _, (Option.some.inj asked).symm, kind, listed⟩
  · rw [if_neg listed] at asked
    cases asked

/-- What the handler checks of a query's zone request. -/
theorem web_operation_checked {query stack : Text} {st : SprinklerdState}
    {operation : Operation} (asked : webOperation cfg query stack st = some operation) :
    isZoneRequest operation = false ∨ (∃ state, operation = .zone .zcAll 0 state 0) ∨
      ∃ type zone state length, operation = .zone type zone state length ∧
        (type = .zcSingle ∨ type = .zcCron) ∧ zone ≤ cfg.zones := by
  unfold webOperation at asked
  generalize mgGetHttpVar query "type".toList stack = buf at asked
  simp only at asked
  split_ifs at asked
  · exact (option_operation_checked asked).imp id Or.inl
  · unfold configOperation at asked
    simp only at asked
    split_ifs at asked
    · exact Or.inl (other_of_some asked rfl)
    · exact Or.inl (other_of_some asked rfl)
    · exact Or.inl (other_of_some asked rfl)
  · unfold sensorOperation at asked
    simp only at asked
    split_ifs at asked
    · exact Or.inl (other_of_some asked rfl)
    · exact Or.inl (other_of_some asked rfl)
  · exact Or.inr (Or.inr (zone_operation_checked asked))
  · unfold zrtcfgOperation at asked
    simp only at asked
    split_ifs at asked
    · exact Or.inl (other_of_some asked rfl)

theorem web_operation_in_table {query stack : Text} {st : SprinklerdState}
    (numbered : ZoneNumbered cfg st (.webRequest query stack)) {operation : Operation}
    (asked : webOperation cfg query stack st = some operation) : TableRequest cfg operation := by
  rcases web_operation_checked asked with other | ⟨state, rfl⟩ |
    ⟨type, zone, state, length, rfl, kind, listed⟩
  · exact table_request_other other
  · exact table_request_all state
  · have single : type ≠ .zcAll := by rcases kind with rfl | rfl <;> simp
    obtain ⟨lower, master⟩ := numbered type zone state length single asked
    refine Or.inl ⟨kind, ?_⟩
    by_cases zero : zone = 0
    · exact Or.inr ⟨zero, master zero⟩
    · exact in_table_of_zone (mem_zone_list.mpr ⟨by omega, listed⟩)

/-- Only a request to turn the master off names a zone that the handler has not
checked: the zone of the record. -/
theorem mqtt_operation_checked {message : MqttMessage} {st : SprinklerdState}
    {operation : Operation} (asked : mqttOperation cfg message st = some operation) :
    isZoneRequest operation = false ∨ (∃ state, operation = .zone .zcAll 0 state 0) ∨
      (∃ zone state, operation = .zone .zcSingle zone state 0 ∧ zone ∈ zoneList cfg) ∨
      (operation = .zone .zcSingle st.currentZone.zone .zcOff 0 ∧
        st.currentZone.type ≠ .zcNone) := by
  unfold mqttOperation at asked
  simp only at asked
  generalize mqttTopicOf _ _ _ = topic at asked
  cases topic with
  | duration =>
      simp only [mqttTopicOperation] at asked
      split_ifs at asked
      · exact Or.inl (other_of_some asked rfl)
  | zone =>
      simp only [mqttTopicOperation] at asked
      split_ifs at asked with inside master
      · have listed := mem_zone_list.mpr ⟨inside.1, inside.2⟩
        exact Or.inr (Or.inr (Or.inl ⟨_, _, (Option.some.inj asked).symm, listed⟩))
      · exact Or.inr (Or.inr (Or.inr ⟨(Option.some.inj asked).symm, master.2.2⟩))
  | cycleAllZones => exact Or.inr (Or.inl ⟨_, (Option.some.inj asked).symm⟩)
  | unknown => cases asked
  | _ => exact Or.inl (other_of_some asked rfl)

theorem mqtt_operation_in_table {message : MqttMessage} {st : SprinklerdState}
    (running : st.currentZone.type ≠ .zcNone → InTable cfg st.currentZone.zone)
    {operation : Operation} (asked : mqttOperation cfg message st = some operation) :
    TableRequest cfg operation := by
  rcases mqtt_operation_checked asked with other | ⟨state, rfl⟩ | ⟨zone, state, rfl, listed⟩ |
    ⟨rfl, runs⟩
  · exact table_request_other other
  · exact table_request_all state
  · exact Or.inl ⟨Or.inl rfl, in_table_of_zone listed⟩
  · exact Or.inl ⟨Or.inl rfl, running runs⟩

/-- A message asks for one operation, or for zones to be switched one after another. -/
theorem domoticz_operations_checked {idx nvalue : Int} {svalue : Text} {st : SprinklerdState}
    {operation : Operation} (asked : operation ∈ domoticzOperations cfg idx nvalue svalue st) :
    domoticzOperations cfg idx nvalue svalue st = [operation] ∧
        (isZoneRequest operation = false ∨ ∃ state, operation = .zone .zcAll 0 state 0) ∨
      ∃ zone state, operation = .zone .zcSingle zone state 0 ∧ zone ∈ zoneList cfg := by
  unfold domoticzOperations at asked ⊢
  by_cases ignored : idx ≤ 0 ∨ checkDzCache idx nvalue st.dzCache = true
  · rw [if_pos ignored] at asked
    cases asked
  rw [if_neg ignored] at asked ⊢
  by_cases calendar : idx = cfg.dzidxCalendar
  · rw [if_pos calendar] at asked ⊢
    rw [List.mem_singleton.mp asked]
    exact Or.inl ⟨rfl, Or.inl rfl⟩
  rw [if_neg calendar] at asked ⊢
  by_cases delay : idx = cfg.dzidx24hDelay
  · rw [if_pos delay] at asked ⊢
    rw [List.mem_singleton.mp asked]
    exact Or.inl ⟨rfl, Or.inl rfl⟩
  rw [if_neg delay] at asked ⊢
  by_cases all : idx = cfg.dzidxAllzones
  · rw [if_pos all] at asked ⊢
    rw [List.mem_singleton.mp asked]
    exact Or.inl ⟨rfl, Or.inr ⟨_, rfl⟩⟩
  rw [if_neg all] at asked ⊢
  by_cases rain : idx = cfg.dzidxRainsensor
  · rw [if_pos rain] at asked ⊢
    rw [List.mem_singleton.mp asked]
    exact Or.inl ⟨rfl, Or.inl rfl⟩
  rw [if_neg rain] at asked
  by_cases known : nvalue = dzOn ∨ nvalue = dzOff
  · rw [if_pos known] at asked
    obtain ⟨zone, matched, same⟩ := List.mem_map.mp asked
    exact Or.inr ⟨zone, _, same.symm, (List.mem_filter.mp matched).1⟩
  · rw [if_neg known] at asked
    cases asked

theorem domoticz_operations_in_table {idx nvalue : Int} {svalue : Text} {st : SprinklerdState}
    {operation : Operation} (asked : operation ∈ domoticzOperations cfg idx nvalue svalue st) :
    TableRequest cfg operation := by
  rcases domoticz_operations_checked asked with ⟨-, other | ⟨state, rfl⟩⟩ |
    ⟨zone, state, rfl, listed⟩
  · exact table_request_other other
  · exact table_request_all state
  · have bounds := mem_zone_list.mp listed
    exact table_request_zone ⟨by omega, bounds.2⟩ state

theorem operations_alone {st : SprinklerdState} {event : Event} {operation : Operation}
    (asked : operation ∈ operations cfg st event) :
    operations cfg st event = [operation] ∨
      ∃ zone state, operation = .zone .zcSingle zone state 0 ∧ zone ∈ zoneList cfg := by
  cases event with
  | webRequest query stack =>
      rw [operations] at asked ⊢
      split_ifs at asked ⊢
      · cases asked
      · rw [Option.mem_toList.mp asked]
        exact Or.inl rfl
  | mqttMessage message =>
      rw [operations] at asked ⊢
      rw [Option.mem_toList.mp asked]
      exact Or.inl rfl
  | domoticzMessage idx nvalue svalue =>
      exact (domoticz_operations_checked asked).imp And.left id
  | call operation =>
      rw [List.mem_singleton.mp asked]
      exact Or.inl rfl
  | checkCron => cases asked
  | broadcast dzCache mask => cases asked
  | filesOpen cacheOpens cronOpens => cases asked

theorem operations_in_table {st : SprinklerdState} {event : Event}
    (running : st.currentZone.type ≠ .zcNone → InTable cfg st.currentZone.zone)
    (numbered : ZoneNumbered cfg st event) {operation : Operation}
    (asked : operation ∈ operations cfg st event) : TableRequest cfg operation := by
  cases event with
  | webRequest query stack =>
      rw [operations] at asked
      split_ifs at asked
      · cases asked
      · exact web_operation_in_table numbered (Option.mem_toList.mp asked)
  | mqttMessage message => exact mqtt_operation_in_table running (Option.mem_toList.mp asked)
  | domoticzMessage idx nvalue svalue => exact domoticz_operations_in_table asked
  | call call =>
      rw [List.mem_singleton.mp asked]
      exact table_request_other numbered
  | checkCron => cases asked
  | broadcast dzCache mask => cases asked
  | filesOpen cacheOpens cronOpens => cases asked

end TableRequests

section Bench

def benchWatering : List TimedEvent :=
  [(1000, .webRequest "type=zone&zone=1&runtime=5&state=on".toList [])]

theorem bench_watering_numbered : Admitted (daemonStep (benchCfg benchWiring))
    (fun st event => ZoneNumbered (benchCfg benchWiring) st event.2) benchState benchWatering := by
  have request : (webOperation (benchCfg benchWiring)
      "type=zone&zone=1&runtime=5&state=on".toList [] benchState).bind zoneRequest =
      some (.zcSingle, 1, .zcOn, 5) := by decide +kernel
  exact ⟨numbered_of_request request (by decide) (fun _ => rfl), trivial⟩

end Bench

end SprinklerD.Daemon
