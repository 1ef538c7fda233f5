import SprinklerD.OwnPublications
import SprinklerD.MainLoop
import Mathlib.Data.List.TakeWhile

/-!
# What the broadcasts send

The topics are told apart by their texts. The messages of the two broadcasts are
listed once, by membership; of the state a broadcast changes only the Domoticz cache
and the event mask.
-/

namespace SprinklerD.StatusMessages

open Foundation.MachineInt Foundation.Decimal
open SprinklerD.Config SprinklerD.ZoneCtrl SprinklerD.Broadcast SprinklerD.OwnPublications

set_option autoImplicit false

section Topics

theorem zone_text_injective : Function.Injective zoneText := by
  intro zone other same
  exact print_int_injective (List.append_cancel_left same)

def topicOfParts (parts : Text × Option Text) (zone : Int) : StatusTopic :=
  if parts.2 = none then
    if parts.1 = "Alive".toList then .alive
    else if parts.1 = "active".toList then .active
    else if parts.1 = "status".toList then .status
    else if parts.1 = "calendar".toList then .calendar
    else if parts.1 = "24hdelay".toList then .delay24h
    else if parts.1 = "cycleallzones".toList then .cycleAllZones
    else if parts.1 = "chanceofrain".toList then .chanceOfRain
    else if parts.1 = "raintotal".toList then .rainTotal
    else .zone zone
  else if parts.2 = some "duration".toList then .zoneDuration zone
  else if parts.2 = some "remainingduration".toList then
    if parts.1 = "cycleallzones".toList then .cycleRemaining else .zoneRemaining zone
  else if parts.1 = "chanceofrain".toList then .chanceOfRainDay
  else .rainTotalDay

theorem topic_of_parts (topic : StatusTopic) :
    ∃ zone, topic = topicOfParts (topicParts topic) zone := by
  cases topic with
  | zone zone => exact ⟨zone, rfl⟩
  | zoneDuration zone => exact ⟨zone, rfl⟩
  | zoneRemaining zone => exact ⟨zone, rfl⟩
  | _ => exact ⟨0, rfl⟩

theorem topic_parts_injective : Function.Injective topicParts := by
  intro topic other same
  obtain ⟨zone, named⟩ := topic_of_parts other
  rw [← same] at named
  cases topic with
  | zone =>
      rw [named] at same ⊢
      exact congrArg StatusTopic.zone (zone_text_injective (congrArg Prod.fst same))
  | zoneDuration =>
      rw [named] at same ⊢
      exact congrArg StatusTopic.zoneDuration (zone_text_injective (congrArg Prod.fst same))
  | zoneRemaining =>
      rw [named] at same ⊢
      exact congrArg StatusTopic.zoneRemaining (zone_text_injective (congrArg Prod.fst same))
  | _ => exact named.symm

theorem topic_text_injective : Function.Injective topicText := by
  have read (topic : StatusTopic) :
      (topicText topic).tail.takeWhile (· ≠ '/') = (topicParts topic).1 ∧
        (topicText topic).tail.dropWhile (· ≠ '/') =
          ((topicParts topic).2.map fun second => '/' :: second).getD [] := by
    have plain : ∀ char ∈ (topicParts topic).1, decide (char ≠ '/') = true := by
      intro char member
      apply decide_eq_true
      rintro rfl
      exact (first_part topic).1 member
    unfold topicText
    cases (topicParts topic).2 with
    | none =>
        simp only [List.tail_cons]
        exact ⟨List.takeWhile_eq_self_iff.mpr plain, List.dropWhile_eq_nil_iff.mpr plain⟩
    | some second =>
        simp only [List.cons_append, List.tail_cons]
        rw [List.takeWhile_append_of_pos plain, List.dropWhile_append_of_pos plain]
        simp
  intro topic other same
  apply topic_parts_injective
  apply Prod.ext
  · rw [← (read topic).1, same, (read other).1]
  · have rest := (read topic).2
    rw [same, (read other).2] at rest
    cases second : (topicParts topic).2 <;> cases otherSecond : (topicParts other).2 <;>
      simp_all

end Topics

section Frames

variable (cfg : SprinklerdCfg) (lib : CLibrary)

theorem publish_dz_frame (idx : Int) (on : Bool) (st : SprinklerdState) :
    ∃ cache, (publishDz cfg idx on st).1 = { st with dzCache := cache } := by
  unfold publishDz
  split_ifs
  · exact ⟨_, rfl⟩
  · exact ⟨st.dzCache, rfl⟩

theorem publish_zones_frame (zones : List Int) (st : SprinklerdState) :
    ∃ cache, (publishZones cfg zones st).1 = { st with dzCache := cache } := by
  induction zones generalizing st with
  | nil => exact ⟨st.dzCache, rfl⟩
  | cons zone rest ih =>
      obtain ⟨here, first⟩ := publish_dz_frame cfg (cfg.zonecfg zone).dzIdx
        (zoneReadsOn cfg st.gpio zone) st
      obtain ⟨later, second⟩ := ih { st with dzCache := here }
      refine ⟨later, ?_⟩
      rw [publishZones, publishZoneMqtt]
      simp only [first, second]

theorem publish_switches_frame (st : SprinklerdState) :
    ∃ cache, (publishSwitches cfg st).1 = { st with dzCache := cache } := by
  obtain ⟨calendar, first⟩ := publish_dz_frame cfg cfg.dzidxCalendar st.calendar st
  obtain ⟨delay, second⟩ := publish_dz_frame cfg cfg.dzidx24hDelay st.delay24h
    { st with dzCache := calendar }
  obtain ⟨all, third⟩ := publish_dz_frame cfg cfg.dzidxAllzones (st.currentZone.type = .zcAll)
    { st with dzCache := delay }
  refine ⟨all, ?_⟩
  unfold publishSwitches
  simp only [first, second, third]

theorem broadcast_state_frame (now : Int) (published : Published) (st : SprinklerdState) :
    ∃ cache mask, (broadcastSprinklerdstate cfg lib true now published st).st =
      { st with dzCache := cache, updateEventMask := mask } := by
  obtain ⟨zones, first⟩ := publish_zones_frame cfg (tableZones cfg) st
  unfold broadcastSprinklerdstate
  simp only [first, if_true, clearEventStatus]
  by_cases own : cfg.enableMQTTaq = true
  · rw [if_pos own]
    obtain ⟨cache, second⟩ := publish_switches_frame cfg
      (reported published { st with dzCache := zones }).2
    exact ⟨cache, _, by rw [second]; rfl⟩
  · rw [if_neg own]
    obtain ⟨cache, second⟩ := publish_switches_frame cfg { st with dzCache := zones }
    exact ⟨cache, _, by rw [second]⟩

end Frames

section Messages

def statusMessages (sent : List Publication) : List (StatusTopic × Text) :=
  sent.filterMap fun publication =>
    match publication with
    | .status topic payload => some (topic, payload)
    | .domoticz _ _ _ => none

theorem mem_status_messages {sent : List Publication} {topic : StatusTopic} {payload : Text} :
    (topic, payload) ∈ statusMessages sent ↔ .status topic payload ∈ sent := by
  unfold statusMessages
  rw [List.mem_filterMap]
  constructor
  · rintro ⟨publication, member, same⟩
    cases publication with
    | status => cases same; exact member
    | domoticz => cases same
  · intro member
    exact ⟨_, member, rfl⟩

variable {cfg : SprinklerdCfg} {lib : CLibrary} {topic : StatusTopic} {payload : Text}

theorem publish_dz_sends_none (idx : Int) (on : Bool) (st : SprinklerdState) :
    .status topic payload ∉ (publishDz cfg idx on st).2 := by
  unfold publishDz
  simp only
  split_ifs <;> simp

theorem mem_publish_zones {zones : List Int} {st : SprinklerdState} :
    .status topic payload ∈ (publishZones cfg zones st).2 ↔
      ∃ zone ∈ zones, .status topic payload ∈ publishZoneStatus cfg zone st := by
  induction zones generalizing st with
  | nil => simp [publishZones]
  | cons zone rest ih =>
      obtain ⟨cache, frame⟩ := publish_dz_frame cfg (cfg.zonecfg zone).dzIdx
        (zoneReadsOn cfg st.gpio zone) st
      have same (other : Int) : publishZoneStatus cfg other { st with dzCache := cache } =
          publishZoneStatus cfg other st := rfl
      have none := @publish_dz_sends_none cfg topic payload (cfg.zonecfg zone).dzIdx
        (zoneReadsOn cfg st.gpio zone) st
      rw [publishZones, publishZoneMqtt]
      simp only [frame, List.mem_append, ih, same, none, or_false, List.mem_cons,
        exists_eq_or_imp]

theorem publish_switches_send_none (st : SprinklerdState) :
    .status topic payload ∉ (publishSwitches cfg st).2 := by
  unfold publishSwitches
  simp only [List.mem_append, not_or]
  exact ⟨⟨publish_dz_sends_none _ _ _, publish_dz_sends_none _ _ _⟩, publish_dz_sends_none _ _ _⟩

theorem publish_dz_status_sends_none (published : Published) (st : SprinklerdState) :
    .status topic payload ∉ (publishDzStatus cfg lib published st).2 := by
  unfold publishDzStatus
  simp only
  split_ifs <;> simp

/-- `broadcast_sprinklerdstate` sends the three messages of each entry, and reports. -/
theorem mem_broadcast_state {now : Int} {published : Published} {st : SprinklerdState} :
    .status topic payload ∈ (broadcastSprinklerdstate cfg lib true now published st).sent ↔
      (∃ zone, InTable cfg zone ∧ .status topic payload ∈ publishZoneStatus cfg zone st) ∨
        cfg.enableMQTTaq = true ∧ .status topic payload ∈ publishReports lib now published st := by
  obtain ⟨cache, frame⟩ := publish_zones_frame cfg (tableZones cfg) st
  have reports : publishReports lib now published { st with dzCache := cache } =
      publishReports lib now published st := rfl
  have zones : .status topic payload ∈ (publishZones cfg (tableZones cfg) st).2 ↔
      ∃ zone, InTable cfg zone ∧ .status topic payload ∈ publishZoneStatus cfg zone st := by
    rw [mem_publish_zones]
    simp only [mem_table_zones]
  unfold broadcastSprinklerdstate
  simp only [if_true, List.mem_append, zones, publish_dz_status_sends_none, or_false,
    publish_switches_send_none, frame]
  by_cases own : cfg.enableMQTTaq = true
  · simp only [own, if_true, true_and, reports]
  · simp only [own, if_false, false_and, List.not_mem_nil, Bool.false_eq_true]

end Messages

end SprinklerD.StatusMessages
