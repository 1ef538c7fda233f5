import SprinklerD.Hassio
import SprinklerD.OwnBytes
import SprinklerD.ValidDocuments

/-!
# What Home Assistant can do with the entities

Home Assistant knows of the daemon only what the discovery documents say. So what they
name has to be what the daemon does: a payload sent on a command topic performs the
operation of that entity, and a state topic is one that the broadcasts publish on.
-/

namespace SprinklerD.HassioEntities

open Foundation.Decimal Foundation.CString Foundation.Json
open Foundation.FloatValue (atof)
open SprinklerD.Config SprinklerD.ZoneCtrl SprinklerD.NetServices SprinklerD.Broadcast
open SprinklerD.JsonMessages SprinklerD.Operations SprinklerD.Daemon SprinklerD.OwnBytes
open SprinklerD.TopicGrammar SprinklerD.OwnPublications SprinklerD.Hassio

set_option autoImplicit false

def entityOperation (on : Bool) : Entity → Option Operation
  | .calendar => some (.enableCalendar on)
  | .delay24h => some (.enableDelay24h on)
  | .cycleAllZones => some (.zone .zcAll 0 (if on then .zcOn else .zcOff) 0)
  | .zone zone => some (.zone .zcSingle zone (if on then .zcOn else .zcOff) 0)
  | _ => none

def switchPayload (on : Bool) (members : Members) : Option Text :=
  if on then (members.lookup "payload_on".toList).or (members.lookup "payload_open".toList)
  else (members.lookup "payload_off".toList).or (members.lookup "payload_close".toList)

variable {cfg : SprinklerdCfg} {labels : Labels}

section Commands

theorem command_taken {kind : MqttTopic} {part : Text} (known : kind ≠ .unknown)
    (single : kind ≠ .duration) (plain : '/' ∉ part) (begins : comparedWord kind <+: part)
    (now : Int) (afterTopic payload afterPayload : Text) (st : SprinklerdState) :
    actionMqttMessage cfg now
        { topic := cfg.mqttTopic ++ '/' :: part ++ "/set".toList, afterTopic := afterTopic,
          payload := payload, afterPayload := afterPayload } st =
      actionMqttTopic cfg now kind (atoi (part.drop 4)) (payloadStatus (payload ++ afterPayload))
        (CronTable.str2int (payload ++ afterPayload) payload.length)
        (atof (cString (payload ++ afterPayload))) st := by
  have taken : TakenAs afterTopic ('/' :: part ++ "/set".toList) kind (atoi (part.drop 4)) :=
    @TakenAs.option afterTopic _ kind [] part "set".toList known single rfl List.not_mem_nil
      plain begins (List.prefix_append _ _)
  obtain ⟨topic, zone⟩ := (taken_as_iff known).mp taken
  unfold actionMqttMessage
  simp only [List.append_assoc, List.drop_left]
  rw [topic, zone]

theorem payload_status_switch (on : Bool) (afterPayload : Text) :
    payloadStatus ((if on then "1".toList else "0".toList) ++ afterPayload) =
      if on then .zcOn else .zcOff := by
  cases on
  · rw [if_neg Bool.false_ne_true, payload_status_own (by decide)]
    decide
  · rw [if_pos rfl, payload_status_own (by decide)]
    decide

theorem topic_number {zone : Int} (listed : zone ∈ zoneList cfg) :
    atoi ((zoneText zone).drop 4) = zone := by
  have bounds := mem_zone_list.mp listed
  have few := cfg.zonesBounded
  have number : (zoneText zone).drop 4 = printInt zone := rfl
  rw [number, ← atoi_stops [] (show ('/' : Char).isDigit = false by decide) (by decide) (by decide),
    atoi_print_int zone [] (by decide), atoi_value_iff]
  omega

def sendCommand (cfg : SprinklerdCfg) (labels : Labels) (entity : Entity) (on : Bool) (now : Int)
    (afterTopic afterPayload : Text) (st : SprinklerdState) : Option SprinklerdState := do
  let topic ← (entityMembers cfg labels entity).lookup "command_topic".toList
  let payload ← switchPayload on (entityMembers cfg labels entity)
  pure (actionMqttMessage cfg now
    { topic := topic, afterTopic := afterTopic, payload := payload,
      afterPayload := afterPayload } st)

theorem send_command_of {entity : Entity} {kind : MqttTopic} (known : kind ≠ .unknown)
    (single : kind ≠ .duration) (plain : '/' ∉ entityPart entity)
    (begins : comparedWord kind <+: entityPart entity)
    (topic : (entityMembers cfg labels entity).lookup "command_topic".toList =
      some (entityState cfg entity ++ "/set".toList))
    (payload : ∀ on, switchPayload on (entityMembers cfg labels entity) =
      some (if on then "1".toList else "0".toList))
    (on : Bool) (now : Int) (afterTopic afterPayload : Text) (st : SprinklerdState) :
    ∃ number rain, sendCommand cfg labels entity on now afterTopic afterPayload st =
      some (actionMqttTopic cfg now kind (atoi ((entityPart entity).drop 4))
        (if on then .zcOn else .zcOff) number rain st) := by
  have taken := @command_taken cfg _ _ known single plain begins now afterTopic
    (if on then "1".toList else "0".toList) afterPayload st
  rw [payload_status_switch] at taken
  unfold sendCommand
  rw [topic, payload]
  exact ⟨_, _, congrArg some taken⟩

/-- Exactly the entities that can be switched have a command topic, and a payload sent
there does what switching the entity is meant to do, whatever follows it in memory. -/
theorem discovered_commands_switch {entity : Entity} (member : entity ∈ entities cfg) (on : Bool)
    (now : Int) (afterTopic afterPayload : Text) (st : SprinklerdState) :
    sendCommand cfg labels entity on now afterTopic afterPayload st =
      (entityOperation on entity).map (applyOperation cfg now st) := by
  have pairs {entity : Entity} (on : Bool)
      (both : switchPayload true (entityMembers cfg labels entity) = some "1".toList ∧
        switchPayload false (entityMembers cfg labels entity) = some "0".toList) :
      switchPayload on (entityMembers cfg labels entity) =
        some (if on then "1".toList else "0".toList) := by
    cases on
    · exact both.2
    · exact both.1
  cases entity with
  | status | activeZone | rainProbability | rainTotal => rfl
  | calendar =>
      obtain ⟨number, rain, sent⟩ := @send_command_of cfg labels .calendar .calendar (by decide)
        (by decide) (by decide) (by decide) rfl (fun on => pairs on ⟨rfl, rfl⟩) on now afterTopic
        afterPayload st
      rw [sent]
      cases on <;> rfl
  | delay24h =>
      obtain ⟨number, rain, sent⟩ := @send_command_of cfg labels .delay24h .delay24h (by decide)
        (by decide) (by decide) (by decide) rfl (fun on => pairs on ⟨rfl, rfl⟩) on now afterTopic
        afterPayload st
      rw [sent]
      cases on <;> rfl
  | cycleAllZones =>
      obtain ⟨number, rain, sent⟩ := @send_command_of cfg labels .cycleAllZones .cycleAllZones
        (by decide) (by decide) (by decide) (by decide) rfl (fun on => pairs on ⟨rfl, rfl⟩) on now
        afterTopic afterPayload st
      rw [sent]
      rfl
  | zone zone =>
      have listed : zone ∈ zoneList cfg := by simpa [entities] using member
      have bounds := mem_zone_list.mp listed
      obtain ⟨number, rain, sent⟩ := @send_command_of cfg labels (.zone zone) .zone (by decide)
        (by decide) (zone_text_plain zone) (List.prefix_append _ _) rfl
        (fun on => pairs on ⟨rfl, rfl⟩) on now afterTopic afterPayload st
      have number : atoi ((entityPart (.zone zone)).drop 4) = zone := topic_number listed
      rw [sent, number, actionMqttTopic, if_pos ⟨by omega, bounds.2⟩]
      rfl

theorem discovered_commands_switch_bench :
    sendCommand (benchCfg benchWiring) ⟨[], fun _ => "Lawn".toList⟩ (.zone 2) true 1000
        "x".toList "y".toList benchState =
      some (applyOperation (benchCfg benchWiring) 1000 benchState (.zone .zcSingle 2 .zcOn 0)) :=
  discovered_commands_switch (by decide) true 1000 "x".toList "y".toList benchState

end Commands

end SprinklerD.HassioEntities
