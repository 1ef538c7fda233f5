import SprinklerD.DomoticzCache
import SprinklerD.StatusMessages
import SprinklerD.Untouched

/-!
# The devices of Domoticz

Domoticz switches the zones and three flags, each under an identifier of its own. A
broadcast puts them all into the cache, the master valve before them, and sends to
Domoticz what was new to the cache.
-/

namespace SprinklerD.Devices

open Foundation.SlotTable
open SprinklerD.Config SprinklerD.ZoneCtrl SprinklerD.NetServices SprinklerD.Broadcast
open SprinklerD.Operations SprinklerD.Daemon SprinklerD.DomoticzCache SprinklerD.StatusMessages
open SprinklerD.Untouched

set_option autoImplicit false

inductive Device where
  | zone (zone : Int)
  | calendar
  | delay24h
  | allZones
deriving DecidableEq, Repr

def deviceId (cfg : SprinklerdCfg) : Device → Int
  | .zone zone => (cfg.zonecfg zone).dzIdx
  | .calendar => cfg.dzidxCalendar
  | .delay24h => cfg.dzidx24hDelay
  | .allZones => cfg.dzidxAllzones

def deviceOn (cfg : SprinklerdCfg) (st : SprinklerdState) : Device → Bool
  | .zone zone => zoneReadsOn cfg st.gpio zone
  | .calendar => st.calendar
  | .delay24h => st.delay24h
  | .allZones => st.currentZone.type = .zcAll

def flags : List Device := [.calendar, .delay24h, .allZones]

def devices (cfg : SprinklerdCfg) : List Device := (zoneList cfg).map .zone ++ flags

def publishedDevices (cfg : SprinklerdCfg) : List Device := (tableZones cfg).map .zone ++ flags

structure SeparateIds (cfg : SprinklerdCfg) : Prop where
  positive : ∀ device ∈ devices cfg, 0 < deviceId cfg device
  distinct : ((devices cfg).map (deviceId cfg)).Nodup

def announcement (cfg : SprinklerdCfg) (idx : Int) (on : Bool) : List (Int × Int) :=
  if 0 < idx ∧ cfg.enableMQTTdz then [(idx, dzSwitch on)] else []

def announcements (cfg : SprinklerdCfg) (st : SprinklerdState) : List (Int × Int) :=
  (publishedDevices cfg).flatMap fun device =>
    announcement cfg (deviceId cfg device) (deviceOn cfg st device)

/-- The status text goes to Domoticz without the cache. -/
def statusAnnouncement (cfg : SprinklerdCfg) (lib : CLibrary) (published : Published)
    (st : SprinklerdState) : List (Int × Int) :=
  if (cfg.enableMQTTdz ∧ 0 < cfg.dzidxStatus) ∧
      published.lastStateMsg ≠ (sprinklerdstatus lib st).1 then
    [(cfg.dzidxStatus, (sprinklerdstatus lib st).2)]
  else []

def domoticzMessages (sent : List Publication) : List (Int × Int) :=
  sent.filterMap fun publication =>
    match publication with
    | .status _ _ => none
    | .domoticz idx nvalue _ => some (idx, nvalue)

theorem domoticz_messages_append (first second : List Publication) :
    domoticzMessages (first ++ second) = domoticzMessages first ++ domoticzMessages second :=
  List.filterMap_append

section Relays

/-- A part of a broadcast that puts these entries into the cache. -/
structure Relays (entries : List (Int × Int)) (st : SprinklerdState)
    (result : SprinklerdState × List Publication) : Prop where
  frame : ∃ cache, result.1 = { st with dzCache := cache }
  stored : slots result.1.dzCache = putAll 0 (slots st.dzCache) entries
  messages : domoticzMessages result.2 = changes 0 (slots st.dzCache) entries

variable {entries later : List (Int × Int)} {st : SprinklerdState}
variable {first second : SprinklerdState × List Publication}

theorem relays_append (before : Relays entries st first) (after : Relays later first.1 second) :
    Relays (entries ++ later) st (second.1, first.2 ++ second.2) where
  frame := by
    obtain ⟨here, framed⟩ := before.frame
    obtain ⟨cache, last⟩ := after.frame
    exact ⟨cache, by rw [last, framed]⟩
  stored := by
    rw [after.stored, before.stored, putAll, putAll, putAll, List.foldl_append]
  messages := by
    rw [domoticz_messages_append, before.messages, after.messages, before.stored,
      changes_append]

variable (cfg : SprinklerdCfg) (lib : CLibrary)

theorem publish_dz_relays (idx : Int) (on : Bool) (st : SprinklerdState) :
    Relays (announcement cfg idx on) st (publishDz cfg idx on st) := by
  refine ⟨publish_dz_frame cfg idx on st, ?_, ?_⟩ <;> unfold publishDz announcement
  · split_ifs
    · exact slots_update idx (dzSwitch on) st.dzCache
    · rfl
  · have answer := congrArg Prod.snd (update_dz_cache_eq idx (dzSwitch on) st.dzCache)
    simp only at answer
    split_ifs with used
    · rw [changes, ← answer]
      simp only
      cases (updateDzCache idx (dzSwitch on) st.dzCache).2 <;> rfl
    · rfl

theorem zone_status_silent (zone : Int) (st : SprinklerdState) :
    domoticzMessages (publishZoneStatus cfg zone st) = [] := by
  unfold publishZoneStatus
  split_ifs <;> rfl

theorem publish_zone_relays (zone : Int) (st : SprinklerdState) :
    Relays (announcement cfg (cfg.zonecfg zone).dzIdx (zoneReadsOn cfg st.gpio zone)) st
      (publishZoneMqtt cfg zone st) := by
  have relays := publish_dz_relays cfg (cfg.zonecfg zone).dzIdx (zoneReadsOn cfg st.gpio zone) st
  refine ⟨relays.frame, relays.stored, ?_⟩
  rw [publishZoneMqtt, domoticz_messages_append, zone_status_silent, List.nil_append]
  exact relays.messages

theorem publish_zones_relays (zones : List Int) (st : SprinklerdState) :
    Relays (zones.flatMap fun zone =>
      announcement cfg (cfg.zonecfg zone).dzIdx (zoneReadsOn cfg st.gpio zone)) st
      (publishZones cfg zones st) := by
  induction zones generalizing st with
  | nil => exact ⟨⟨st.dzCache, rfl⟩, rfl, rfl⟩
  | cons zone rest ih =>
      have first := publish_zone_relays cfg zone st
      obtain ⟨cache, frame⟩ := first.frame
      have later := ih (publishZoneMqtt cfg zone st).1
      have same : (publishZoneMqtt cfg zone st).1.gpio = st.gpio := by rw [frame]
      rw [same] at later
      exact relays_append first later

theorem publish_switches_relays (st : SprinklerdState) :
    Relays (flags.flatMap fun device =>
      announcement cfg (deviceId cfg device) (deviceOn cfg st device)) st
      (publishSwitches cfg st) := by
  have calendar := publish_dz_relays cfg cfg.dzidxCalendar st.calendar st
  obtain ⟨first, framed⟩ := calendar.frame
  have delay := publish_dz_relays cfg cfg.dzidx24hDelay st.delay24h
    (publishDz cfg cfg.dzidxCalendar st.calendar st).1
  have both := relays_append calendar delay
  obtain ⟨second, framedBoth⟩ := both.frame
  have all := relays_append both (publish_dz_relays cfg cfg.dzidxAllzones
    (st.currentZone.type = .zcAll) _)
  simp only at framedBoth all
  rw [publishSwitches]
  simp only [flags, List.flatMap_cons, List.flatMap_nil, List.append_nil, deviceId, deviceOn]
  have sameDelay : (publishDz cfg cfg.dzidxCalendar st.calendar st).1.delay24h = st.delay24h := by
    rw [framed]
  rw [sameDelay]
  have sameType : (publishDz cfg cfg.dzidx24hDelay st.delay24h
      (publishDz cfg cfg.dzidxCalendar st.calendar st).1).1.currentZone = st.currentZone := by
    rw [framedBoth]
  rw [sameType]
  rw [List.append_assoc] at all
  exact all

theorem announcements_eq (cfg : SprinklerdCfg) (st : SprinklerdState) :
    announcements cfg st =
      ((tableZones cfg).flatMap fun zone =>
        announcement cfg (cfg.zonecfg zone).dzIdx (zoneReadsOn cfg st.gpio zone)) ++
      flags.flatMap fun device =>
        announcement cfg (deviceId cfg device) (deviceOn cfg st device) := by
  rw [announcements, publishedDevices, List.flatMap_append, List.flatMap_map]
  rfl

theorem reports_silent (now : Int) (published : Published) (st : SprinklerdState) :
    domoticzMessages (publishReports lib now published st) = [] := by
  unfold publishReports
  rw [domoticz_messages_append, domoticz_messages_append]
  split_ifs <;> rfl

theorem dz_status_messages (published : Published) (st : SprinklerdState) :
    domoticzMessages (publishDzStatus cfg lib published st).2 =
      statusAnnouncement cfg lib published st := by
  unfold publishDzStatus statusAnnouncement
  by_cases used : cfg.enableMQTTdz = true ∧ 0 < cfg.dzidxStatus
  · rw [if_pos used]
    simp only [used, true_and]
    by_cases new : published.lastStateMsg ≠ (sprinklerdstatus lib st).1
    · rw [if_pos new, if_pos new]
      rfl
    · rw [if_neg new, if_neg new]
      rfl
  · rw [if_neg used, if_neg fun both => used both.1]
    rfl

/-- A broadcast to Domoticz is the announcements of the devices and the status text. -/
theorem broadcast_relays (now : Int) (published : Published) (st : SprinklerdState) :
    slots (broadcastSprinklerdstate cfg lib true now published st).st.dzCache =
        putAll 0 (slots st.dzCache) (announcements cfg st) ∧
      domoticzMessages (broadcastSprinklerdstate cfg lib true now published st).sent =
        changes 0 (slots st.dzCache) (announcements cfg st) ++
          statusAnnouncement cfg lib published st := by
  have zones := publish_zones_relays cfg (tableZones cfg) st
  obtain ⟨cache, framed⟩ := zones.frame
  -- the reports change nothing that the switches and the status text read
  have unread (reports : (Published × SprinklerdState) × List Publication)
      (mask : EventMask) (same : reports.1.2 =
        { st with dzCache := cache, updateEventMask := mask })
      (text : reports.1.1.lastStateMsg = published.lastStateMsg)
      (silent : domoticzMessages reports.2 = []) :
      slots (clearEventStatus (publishSwitches cfg reports.1.2).1).dzCache =
          putAll 0 (slots st.dzCache) (announcements cfg st) ∧
        domoticzMessages ((publishZones cfg (tableZones cfg) st).2 ++ reports.2 ++
            (publishSwitches cfg reports.1.2).2 ++
            (publishDzStatus cfg lib reports.1.1 (publishSwitches cfg reports.1.2).1).2) =
          changes 0 (slots st.dzCache) (announcements cfg st) ++
            statusAnnouncement cfg lib published st := by
    have stored := zones.stored
    rw [framed] at stored
    simp only at stored
    have switches := publish_switches_relays cfg reports.1.2
    obtain ⟨last, switched⟩ := switches.frame
    have kept : reports.1.2.dzCache = cache := by rw [same]
    have devices (device : Device) : deviceOn cfg reports.1.2 device = deviceOn cfg st device := by
      rw [same]
      cases device <;> rfl
    have status : statusAnnouncement cfg lib reports.1.1 (publishSwitches cfg reports.1.2).1 =
        statusAnnouncement cfg lib published st := by
      rw [switched, same, statusAnnouncement, text]
      rfl
    rw [announcements_eq]
    constructor
    · refine Eq.trans switches.stored ?_
      rw [kept, stored, putAll, putAll, putAll, List.foldl_append]
      simp only [devices]
    · rw [domoticz_messages_append, domoticz_messages_append, domoticz_messages_append, silent,
        List.append_nil, zones.messages, switches.messages, dz_status_messages, status, kept,
        stored, changes_append]
      simp only [devices]
  unfold broadcastSprinklerdstate
  simp only [if_true]
  by_cases own : cfg.enableMQTTaq = true
  · rw [if_pos own]
    apply unread (reported published (publishZones cfg (tableZones cfg) st).1,
      publishReports lib now published (publishZones cfg (tableZones cfg) st).1)
    · rw [framed]
      rfl
    · rfl
    · exact reports_silent lib now published _
  · rw [if_neg own]
    exact unread ((published, (publishZones cfg (tableZones cfg) st).1), []) st.updateEventMask
      framed rfl rfl

end Relays

section Identifiers

variable {cfg : SprinklerdCfg} {st : SprinklerdState}

theorem mem_announcements {entry : Int × Int} :
    entry ∈ announcements cfg st ↔ cfg.enableMQTTdz = true ∧
      ∃ device ∈ publishedDevices cfg, 0 < deviceId cfg device ∧
        (deviceId cfg device, dzSwitch (deviceOn cfg st device)) = entry := by
  have one (device : Device) :
      entry ∈ announcement cfg (deviceId cfg device) (deviceOn cfg st device) ↔
        cfg.enableMQTTdz = true ∧ 0 < deviceId cfg device ∧
          (deviceId cfg device, dzSwitch (deviceOn cfg st device)) = entry := by
    unfold announcement
    split_ifs with used
    · simp [used.1, used.2, eq_comm]
    · simp only [List.not_mem_nil, false_iff]
      exact fun all => used ⟨all.2.1, all.1⟩
  rw [announcements, List.mem_flatMap]
  simp only [one]
  constructor
  · rintro ⟨device, listed, enabled, rest⟩
    exact ⟨enabled, device, listed, rest⟩
  · rintro ⟨enabled, device, listed, rest⟩
    exact ⟨device, listed, enabled, rest⟩

theorem announcements_off (off : ¬ cfg.enableMQTTdz = true) : announcements cfg st = [] := by
  apply List.eq_nil_iff_forall_not_mem.mpr
  intro entry member
  exact off (mem_announcements.mp member).1

theorem published_of_device {device : Device} (listed : device ∈ devices cfg) :
    device ∈ publishedDevices cfg := by
  rw [devices, List.mem_append, List.mem_map] at listed
  rw [publishedDevices, List.mem_append, List.mem_map]
  apply listed.imp _ id
  rintro ⟨zone, member, same⟩
  exact ⟨zone, mem_table_zones.mpr (in_table_of_zone member), same⟩

/-- Of the entries with the identifier of a device its own is the last, also where the
master valve has the same one. -/
theorem latest_announcement (separate : SeparateIds cfg) (enabled : cfg.enableMQTTdz = true)
    {device : Device} (listed : device ∈ devices cfg) :
    latest (deviceId cfg device) (announcements cfg st) =
      some (dzSwitch (deviceOn cfg st device)) := by
  have every : (devices cfg).flatMap (fun other =>
      announcement cfg (deviceId cfg other) (deviceOn cfg st other)) =
      (devices cfg).map fun other => (deviceId cfg other, dzSwitch (deviceOn cfg st other)) := by
    rw [List.map_eq_flatMap]
    apply List.flatMap_congr
    intro other member
    exact if_pos ⟨separate.positive other member, enabled⟩
  have own : latest (deviceId cfg device) ((devices cfg).flatMap fun other =>
      announcement cfg (deviceId cfg other) (deviceOn cfg st other)) =
      some (dzSwitch (deviceOn cfg st device)) := by
    rw [every]
    apply latest_of_nodup
    · rw [List.map_map]
      exact separate.distinct
    · exact List.mem_map_of_mem listed
  rw [announcements, publishedDevices, tableZones]
  split_ifs
  · rw [List.map_cons, List.cons_append, ← devices, List.flatMap_cons, latest_append, own,
      Option.some_or]
  · exact own

/-- The cache has under its identifier all that a broadcast would put there, or
Domoticz is not in use, so that the broadcast tells Domoticz nothing of the device. -/
def Unheard (cfg : SprinklerdCfg) (st : SprinklerdState) (device : Device) : Prop :=
  cfg.enableMQTTdz = false ∨
    ∀ other ∈ publishedDevices cfg, deviceId cfg other = deviceId cfg device →
      checkDzCache (deviceId cfg device) (dzSwitch (deviceOn cfg st other)) st.dzCache = true

instance (cfg : SprinklerdCfg) (st : SprinklerdState) (device : Device) :
    Decidable (Unheard cfg st device) :=
  inferInstanceAs (Decidable (_ ∨ ∀ other ∈ publishedDevices cfg, _ → _))

theorem unheard_iff (separate : SeparateIds cfg) {device : Device}
    (listed : device ∈ devices cfg) :
    latest (deviceId cfg device) (changes 0 (slots st.dzCache) (announcements cfg st)) = none ↔
      Unheard cfg st device := by
  have positive := separate.positive device listed
  rw [no_change_iff positive.ne', Unheard]
  cases enabled : cfg.enableMQTTdz with
  | false => simp [mem_announcements, enabled]
  | true =>
      simp only [reduceCtorEq, false_or, check_dz_cache_eq]
      constructor
      · intro quiet other published same
        exact quiet _ (mem_announcements.mpr ⟨enabled, other, published, same ▸ positive, rfl⟩) same
      · intro cached entry member same
        obtain ⟨-, other, published, -, rfl⟩ := mem_announcements.mp member
        exact cached other published same

/-- What a broadcast tells Domoticz of a device last is its state. -/
theorem heard_state (separate : SeparateIds cfg) {device : Device}
    (listed : device ∈ devices cfg) (heard : ¬ Unheard cfg st device) :
    latest (deviceId cfg device) (changes 0 (slots st.dzCache) (announcements cfg st)) =
      some (dzSwitch (deviceOn cfg st device)) := by
  have enabled : cfg.enableMQTTdz = true := by
    by_contra off
    exact heard (Or.inl (Bool.eq_false_iff.mpr off))
  rw [← unheard_iff separate listed] at heard
  rw [← latest_announcement separate enabled listed]
  exact (latest_change (separate.positive device listed).ne').resolve_left heard

theorem device_id_ne_zero (separate : SeparateIds cfg) {device : Device}
    (listed : device ∈ devices cfg) : deviceId cfg device ≠ 0 :=
  (separate.positive device listed).ne'

end Identifiers

section Requests

def isBroadcast : Event → Bool
  | .broadcast _ _ => true
  | _ => false

abbrev Request := { event : Event // isBroadcast event = false }

theorem request_dz_cache (cfg : SprinklerdCfg) (st : SprinklerdState) (now : Int)
    (request : Request) : (daemonStep cfg st (now, request.1)).dzCache = st.dzCache := by
  obtain ⟨event, other⟩ := request
  rw [daemon_step_dz_cache]
  cases event with
  | broadcast => cases other
  | _ => rfl

end Requests

section Bench

def benchDevices (runtime : Int) : SprinklerdState :=
  { benchState with
    dzCache := zeroedCache (benchDomoticz (-1))
    defaultRuntime := fun _ => runtime }

theorem bench_separate_ids : SeparateIds (benchDomoticz (-1)) :=
  ⟨by decide, by decide⟩

end Bench

end SprinklerD.Devices
