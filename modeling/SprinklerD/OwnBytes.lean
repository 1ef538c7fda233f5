import SprinklerD.Announcements
import SprinklerD.RefusedRequest
import SprinklerD.TopicGrammar

/-!
# What a message means beyond its own bytes

Topic and payload have lengths and no terminators, but the handler compares and converts
them as strings. The result says for which messages it acts on command topics only and in
a way that does not depend on the memory behind them. The mark of an event is part of the
state here.
-/

namespace SprinklerD.OwnBytes

open Foundation.MachineInt Foundation.CString
open Foundation.FloatValue (atof Settled atof_c_string atof_settled_iff)
open SprinklerD.Config SprinklerD.GpioPi SprinklerD.ZoneCtrl SprinklerD.SdCron
open SprinklerD.CronTable SprinklerD.ZoneValves SprinklerD.NetServices SprinklerD.Operations
open SprinklerD.RefusedRequest SprinklerD.Announcements SprinklerD.TopicGrammar

set_option autoImplicit false

/-- A message changes the state on a command topic only, and what follows topic and payload
in memory has no part in the change. -/
structure ReadsOwnBytes (cfg : SprinklerdCfg) (topic payload : Text) : Prop where
  grammar : ∀ now afterTopic afterPayload st,
    actionMqttMessage cfg now ⟨topic, afterTopic, payload, afterPayload⟩ st ≠ st →
      InGrammar cfg.mqttTopic topic
  own : ∀ now afterTopic otherTopic afterPayload otherPayload st,
    actionMqttMessage cfg now ⟨topic, afterTopic, payload, afterPayload⟩ st =
      actionMqttMessage cfg now ⟨topic, otherTopic, payload, otherPayload⟩ st

/-- There are states that the command changes. A zone has to read other than asked for in
one, which not every wiring has. -/
def CanAct (cfg : SprinklerdCfg) (kind : MqttTopic) (zone : Int) (status : ZcState)
    (number : Int) : Prop :=
  match kind with
  | .duration => zone ∈ zoneList cfg
  | .chanceOfRain => 0 ≤ number ∧ number ≤ 100
  | .zone => zone = 0 ∨
      zone ∈ zoneList cfg ∧ ∃ gpio, zoneReadsOn cfg gpio zone = decide (status = .zcOff)
  | .unknown => False
  | _ => True

def Switches (cfg : SprinklerdCfg) (kind : MqttTopic) (zone : Int) : Prop :=
  kind = .delay24h ∨ kind = .calendar ∨ kind = .cycleAllZones ∨
    kind = .zone ∧ (zone = 0 ∨ zone ∈ zoneList cfg)

/-- The condition on a message. A topic outside the grammar is not taken for a command that
can act. The two characters of a switch that are looked at are in the payload, or the first
decides alone. No byte behind the payload can change its amount of rain. -/
structure MessageClear (cfg : SprinklerdCfg) (topic payload : Text) : Prop where
  known : ∀ afterTopic afterPayload kind zone,
    TakenAs afterTopic (topic.drop cfg.mqttTopic.length) kind zone →
    CanAct cfg kind zone (payloadStatus (payload ++ afterPayload))
      (str2int payload payload.length) →
    InGrammar cfg.mqttTopic topic
  switch : ∀ afterTopic kind zone,
    TakenAs afterTopic (topic.drop cfg.mqttTopic.length) kind zone → Switches cfg kind zone →
    payload ≠ [] ∧ payload ≠ ['o'] ∧ payload ≠ ['O']
  rain : ∀ afterTopic zone,
    TakenAs afterTopic (topic.drop cfg.mqttTopic.length) .rainTotal zone → Settled payload

variable {cfg : SprinklerdCfg}

section Payload

theorem str2int_own (payload afterPayload : Text) :
    str2int (payload ++ afterPayload) payload.length = str2int payload payload.length := by
  rw [str2int, str2int, List.take_left, List.take_length]

theorem lower_o {char : Char} (small : char ≠ 'o') (large : char ≠ 'O') :
    char.toLower ≠ 'o' := by
  unfold Char.toLower
  split_ifs with capital
  · intro same
    have value : char.val + ('a'.val - 'A'.val) = 'O'.val + ('a'.val - 'A'.val) :=
      congrArg Char.val same
    exact large (Char.ext ((UInt32.add_left_inj _).mp value))
  · exact small

theorem begins_unlike_on {char : Char} (rest : Text) (other : char.toLower ≠ 'o') :
    strncasecmpEqual (char :: rest) "on".toList 2 = false := by
  apply decide_eq_false
  intro same
  rw [compared, cString, List.takeWhile_cons] at same
  split_ifs at same
  · exact other (List.cons.inj same).1
  · exact absurd same (by decide)

/-- The first two characters make a payload on or off, and the first alone unless it is
the letter of `on`. -/
theorem payload_status_own {payload : Text}
    (clear : payload ≠ [] ∧ payload ≠ ['o'] ∧ payload ≠ ['O']) (afterPayload : Text) :
    payloadStatus (payload ++ afterPayload) = payloadStatus payload := by
  have one : strncmpEqual (payload ++ afterPayload) "1".toList 1 =
      strncmpEqual payload "1".toList 1 := by
    unfold strncmpEqual
    rw [compared_own (List.length_pos_iff.mpr clear.1)]
  have on : strncasecmpEqual (payload ++ afterPayload) "on".toList 2 =
      strncasecmpEqual payload "on".toList 2 := by
    cases payload with
    | nil => exact absurd rfl clear.1
    | cons char rest =>
        cases rest with
        | nil =>
            have other : char.toLower ≠ 'o' :=
              lower_o (fun small => clear.2.1 (small ▸ rfl)) (fun large => clear.2.2 (large ▸ rfl))
            rw [List.cons_append, begins_unlike_on _ other, begins_unlike_on _ other]
        | cons second rest =>
            unfold strncasecmpEqual
            rw [compared_own (by simp)]
  unfold payloadStatus
  rw [one, on]

theorem payload_status_open {payload : Text}
    (unclear : ¬ (payload ≠ [] ∧ payload ≠ ['o'] ∧ payload ≠ ['O'])) :
    ∃ afterPayload otherPayload, payloadStatus (payload ++ afterPayload) = .zcOn ∧
      payloadStatus (payload ++ otherPayload) = .zcOff := by
  by_cases empty : payload = []
  · subst empty
    exact ⟨"1".toList, [], by decide, by decide⟩
  · by_cases small : payload = ['o']
    · subst small
      exact ⟨"n".toList, [], by decide, by decide⟩
    · have large : payload = ['O'] := by
        by_contra other
        exact unclear ⟨empty, small, other⟩
      subst large
      exact ⟨"n".toList, [], by decide, by decide⟩

end Payload

section Commands

variable {st : SprinklerdState}

theorem changed_of_loud {after : SprinklerdState} (quiet : Quiet st) (loud : ¬ Quiet after) :
    after ≠ st :=
  fun same => loud (same ▸ quiet)

theorem enable_delay_acts (now : Int) (quiet : Quiet st) {state : Bool}
    (other : st.delay24h ≠ state) : enableDelay24h cfg now state st ≠ st := by
  apply changed_of_loud quiet
  unfold enableDelay24h
  rw [if_pos other]
  apply loud_kept (write_cache_announces _)
  split_ifs
  · exact loud_kept (zc_rain_delay_announces now _) (status_event_loud st)
  · exact status_event_loud st

theorem enable_calendar_acts {state : Bool} (other : st.calendar ≠ state) :
    enableCalendar state st ≠ st := by
  intro same
  have calendar := congrArg SprinklerdState.calendar same
  rw [enableCalendar, if_pos other] at calendar
  exact other calendar.symm

theorem cycle_acts (now : Int) (quiet : Quiet st) (idle : st.currentZone.type = .zcNone) :
    (zcZone cfg now .zcAll 0 .zcOn 0 st).1 ≠ st := by
  apply changed_of_loud quiet
  have fresh : duplicateRequest cfg .zcAll 0 .zcOn st = false := by
    simp [duplicateRequest, idle]
  simp only [zcZone, fresh, Bool.false_eq_true, if_false, if_true, reduceCtorEq, false_and]
  unfold cycleAllZones
  simp only [if_true]
  split_ifs
  · exact start_next_zone_loud now 0 _
  · exact start_next_zone_loud now 0 _

theorem cycle_stop_acts (now : Int) (cycling : st.currentZone.type = .zcAll) :
    (zcZone cfg now .zcAll 0 .zcOff 0 st).1 ≠ st := by
  have fresh : duplicateRequest cfg .zcAll 0 .zcOff st = false := by
    simp [duplicateRequest, cycling]
  intro same
  have type := congrArg (fun after => after.currentZone.type) same
  simp only [zcZone, fresh, Bool.false_eq_true, if_false, if_true, reduceCtorEq, false_and,
    cycleAllZones] at type
  rw [cycling] at type
  cases type

theorem start_acts (now length : Int) {zone : Int} (quiet : Quiet st)
    (listed : zone ∈ zoneList cfg) (off : zoneReadsOn cfg st.gpio zone = false) :
    (turnZoneOn cfg now .zcSingle zone length st).1 ≠ st := by
  have loop := stop_other_requested st listed
  have missed := @stop_other_absent cfg zone (otherZones cfg zone) st (not_mem_other_zones cfg zone)
  unfold turnZoneOn
  simp only
  split_ifs with found started
  · intro same
    rw [loop] at found same
    split_ifs at found same with met
    · rw [same, off] at met
      cases met
    · rw [missed] at found
      cases found
  · exact changed_of_loud quiet (zc_master_loud (zc_started_loud started))
  · by_cases on : zoneReadsOn cfg (stopOtherZones cfg zone (zoneList cfg) st).1.gpio zone = true
    · intro same
      rw [zc_start_refused on] at same
      rw [same, off] at on
      cases on
    · apply changed_of_loud quiet
      rw [zcStart, if_neg on]
      exact zones_event_loud _

theorem zone_command_ignored (now : Int) {zone : Int} {status : ZcState}
    (listed : zone ∈ zoneList cfg) (same : zoneReadsOn cfg st.gpio zone = decide (status = .zcOn)) :
    (zcZone cfg now .zcSingle zone status 0 st).1 = st := by
  have bounds := mem_zone_list.mp listed
  have inside : 0 < zone ∧ zone ≤ cfg.zones := ⟨by omega, bounds.2⟩
  have duplicate : duplicateRequest cfg .zcSingle zone status st = true := by
    rw [duplicateRequest, if_pos inside, same]
    cases status <;> rfl
  unfold zcZone
  rw [if_pos duplicate]

theorem zone_command_acts (now : Int) {zone : Int} {status : ZcState} (quiet : Quiet st)
    (listed : zone ∈ zoneList cfg) (lasting : 0 < st.defaultRuntime zone)
    (single : st.currentZone.type = .zcSingle)
    (other : zoneReadsOn cfg st.gpio zone = decide (status = .zcOff)) :
    (zcZone cfg now .zcSingle zone status 0 st).1 ≠ st := by
  have bounds := mem_zone_list.mp listed
  have inside : 0 < zone ∧ zone ≤ cfg.zones := ⟨by omega, bounds.2⟩
  have fresh : duplicateRequest cfg .zcSingle zone status st = false := by
    rw [duplicateRequest, if_pos inside, other]
    cases status <;> rfl
  cases status with
  | zcOn =>
      have length : requestLength zone 0 st = st.defaultRuntime zone := rfl
      simp only [zcZone, fresh, length, if_pos lasting, Bool.false_eq_true, if_false, reduceCtorEq,
        false_and]
      exact start_acts now _ quiet listed other
  | zcOff =>
      intro same
      have type := congrArg (fun after => after.currentZone.type) same
      simp only [zcZone, fresh, Bool.false_eq_true, if_false, reduceCtorEq, false_and,
        turnZoneOff, single] at type

end Commands

section Topics

variable {kind : MqttTopic} {zone number : Int} {status : ZcState} {rain : CFloat}

theorem listed_iff : zone ∈ zoneList cfg ↔ 0 < zone ∧ zone ≤ cfg.zones := by
  rw [mem_zone_list]
  omega

/-- A state without events, in which reports of rain arm no delay. -/
def restingState : SprinklerdState :=
  { benchState with
    precipChanceDelay := 0, precipInchDelay1day := .zero, precipInchDelay2day := .zero,
    todayRainTotal := .nan false }

def heldState (gpio : Gpio) : SprinklerdState :=
  { restingState with
    gpio := gpio, currentZone := { restingState.currentZone with type := .zcSingle } }

theorem resting_rain (now : Int) (rain : CFloat) :
    (setTodayRainTotal cfg now rain restingState).1 =
      { restingState with todayRainTotal := rain }.setEventRainTotal := rfl

theorem resting_chance (now : Int) {percent : Int} (inside : 0 ≤ percent ∧ percent ≤ 100) :
    (setTodayChanceOfRain cfg now percent restingState).1 =
      { restingState.setEventRainProbability with todayRainChance := percent } := by
  rw [setTodayChanceOfRain, if_pos inside.symm]
  rfl

theorem master_stop_acts {st : SprinklerdState} (now : Int) (single : st.currentZone.type = .zcSingle)
    (unlisted : ¬ 0 < st.currentZone.zone) :
    (zcZone cfg now .zcSingle st.currentZone.zone .zcOff 0 st).1 ≠ st := by
  have fresh : duplicateRequest cfg .zcSingle st.currentZone.zone .zcOff st = false := by
    simp [duplicateRequest, unlisted]
  intro same
  have type := congrArg (fun after => after.currentZone.type) same
  simp only [zcZone, fresh, Bool.false_eq_true, if_false, reduceCtorEq, false_and, turnZoneOff,
    single] at type

theorem can_act_of_change {now : Int} {st : SprinklerdState}
    (changed : actionMqttTopic cfg now kind zone status number rain st ≠ st) :
    CanAct cfg kind zone status number := by
  cases kind with
  | duration =>
      by_contra unlisted
      rw [CanAct, listed_iff] at unlisted
      rw [actionMqttTopic, if_neg unlisted] at changed
      exact changed rfl
  | chanceOfRain =>
      by_contra outside
      rw [CanAct, and_comm] at outside
      rw [actionMqttTopic, setTodayChanceOfRain, if_neg outside] at changed
      exact changed rfl
  | zone =>
      rw [actionMqttTopic] at changed
      by_cases listed : zone ∈ zoneList cfg
      · rw [if_pos (listed_iff.mp listed)] at changed
        refine Or.inr ⟨listed, st.gpio, ?_⟩
        by_contra other
        apply changed
        apply zone_command_ignored now listed
        cases status <;> simpa using other
      · rw [if_neg (fun inside => listed (listed_iff.mpr inside))] at changed
        apply Or.inl
        by_contra other
        rw [if_neg fun master => other master.1, if_neg fun master => other master.1] at changed
        exact changed rfl
  | unknown => exact (changed rfl).elim
  | _ => trivial

theorem change_of_can_act (rain : CFloat) (acts : CanAct cfg kind zone status number) :
    ∃ now st, actionMqttTopic cfg now kind zone status number rain st ≠ st := by
  have quiet : Quiet restingState := rfl
  cases kind with
  | duration =>
      refine ⟨0, restingState, changed_of_loud quiet ?_⟩
      rw [actionMqttTopic, if_pos (listed_iff.mp acts)]
      exact zc_update_runtime_loud zone _
  | delay24h =>
      cases status with
      | zcOn => exact ⟨0, restingState, enable_delay_acts 0 quiet (by decide)⟩
      | zcOff =>
          have delayed : Quiet { restingState with delay24h := true } := rfl
          exact ⟨0, _, enable_delay_acts 0 delayed (by decide)⟩
  | calendar =>
      cases status with
      | zcOn =>
          exact ⟨0, { restingState with calendar := false }, enable_calendar_acts (by decide)⟩
      | zcOff => exact ⟨0, restingState, enable_calendar_acts (by decide)⟩
  | cycleAllZones =>
      cases status with
      | zcOn => exact ⟨0, restingState, cycle_acts 0 quiet rfl⟩
      | zcOff =>
          exact ⟨0, { restingState with currentZone := { restingState.currentZone with
            type := .zcAll } }, cycle_stop_acts 0 rfl⟩
  | rainTotal =>
      refine ⟨0, restingState, changed_of_loud quiet ?_⟩
      rw [actionMqttTopic, resting_rain]
      intro silent
      exact absurd (congrArg EventMask.rainTotal silent) Bool.true_eq_false.mp
  | chanceOfRain =>
      refine ⟨0, restingState, changed_of_loud quiet ?_⟩
      rw [actionMqttTopic, resting_chance 0 acts]
      intro silent
      exact absurd (congrArg EventMask.rainProbability silent) Bool.true_eq_false.mp
  | zone =>
      rcases acts with rfl | ⟨listed, gpio, other⟩
      · cases status with
        | zcOn => exact ⟨0, restingState, changed_of_loud quiet (status_event_loud _)⟩
        | zcOff =>
            exact ⟨0, heldState restingState.gpio, master_stop_acts 0 rfl (by decide)⟩
      · refine ⟨0, heldState gpio, ?_⟩
        rw [actionMqttTopic, if_pos (listed_iff.mp listed)]
        exact zone_command_acts 0 rfl listed (show (0 : Int) < 10 by decide) rfl other
  | unknown => exact acts.elim

theorem switch_differs (rain other : CFloat) (switches : Switches cfg kind zone) :
    ∃ now st, actionMqttTopic cfg now kind zone .zcOn number rain st ≠
      actionMqttTopic cfg now kind zone .zcOff number other st := by
  have quiet : Quiet restingState := rfl
  rcases switches with rfl | rfl | rfl | ⟨rfl, rfl | listed⟩
  · exact ⟨0, restingState, enable_delay_acts 0 quiet (by decide)⟩
  · exact ⟨0, restingState, fun same => enable_calendar_acts (by decide) same.symm⟩
  · exact ⟨0, restingState, cycle_acts 0 quiet rfl⟩
  · exact ⟨0, restingState, changed_of_loud quiet (status_event_loud _)⟩
  · -- A listed zone reads on or off here, so one of the two commands is ignored.
    refine ⟨0, heldState restingState.gpio, ?_⟩
    rw [actionMqttTopic, actionMqttTopic, if_pos (listed_iff.mp listed),
      if_pos (listed_iff.mp listed)]
    cases reads : zoneReadsOn cfg restingState.gpio zone with
    | false =>
        rw [@zone_command_ignored cfg (heldState restingState.gpio) 0 zone .zcOff listed reads]
        exact zone_command_acts 0 rfl listed (show (0 : Int) < 10 by decide) rfl reads
    | true =>
        rw [@zone_command_ignored cfg (heldState restingState.gpio) 0 zone .zcOn listed reads]
        apply Ne.symm
        exact zone_command_acts 0 rfl listed (show (0 : Int) < 10 by decide) rfl reads

/-- A command that is no switch does not depend on the two statuses. -/
theorem status_unused {other : ZcState} (now : Int) (st : SprinklerdState)
    (noSwitch : ¬ Switches cfg kind zone) :
    actionMqttTopic cfg now kind zone status number rain st =
      actionMqttTopic cfg now kind zone other number rain st := by
  cases kind with
  | delay24h => exact absurd (Or.inl rfl) noSwitch
  | calendar => exact absurd (Or.inr (Or.inl rfl)) noSwitch
  | cycleAllZones => exact absurd (Or.inr (Or.inr (Or.inl rfl))) noSwitch
  | zone =>
      have neither : ¬ (zone = 0 ∨ zone ∈ zoneList cfg) := fun either =>
        noSwitch (Or.inr (Or.inr (Or.inr ⟨rfl, either⟩)))
      rw [not_or, listed_iff] at neither
      simp only [actionMqttTopic, neither.1, neither.2, false_and, if_false]
  | _ => rfl

theorem rain_unused {other : CFloat} (now : Int) (st : SprinklerdState)
    (noRain : kind ≠ .rainTotal) :
    actionMqttTopic cfg now kind zone status number rain st =
      actionMqttTopic cfg now kind zone status number other st := by
  cases kind with
  | rainTotal => exact absurd rfl noRain
  | _ => rfl

end Topics

section Messages

variable {topic payload : Text}

theorem message_taken {afterTopic : Text} {kind : MqttTopic} {zone : Int}
    (known : kind ≠ .unknown)
    (taken : TakenAs afterTopic (topic.drop cfg.mqttTopic.length) kind zone) (now : Int)
    (afterPayload : Text) (st : SprinklerdState) :
    actionMqttMessage cfg now ⟨topic, afterTopic, payload, afterPayload⟩ st =
      actionMqttTopic cfg now kind zone (payloadStatus (payload ++ afterPayload))
        (str2int payload payload.length) (atof (cString (payload ++ afterPayload))) st := by
  obtain ⟨found, number⟩ := (taken_as_iff known).mp taken
  simp only [actionMqttMessage, found, number, str2int_own]

theorem taken_of_change {now : Int} {afterTopic afterPayload : Text} {st : SprinklerdState}
    (changed : actionMqttMessage cfg now ⟨topic, afterTopic, payload, afterPayload⟩ st ≠ st) :
    ∃ kind zone, TakenAs afterTopic (topic.drop cfg.mqttTopic.length) kind zone ∧
      CanAct cfg kind zone (payloadStatus (payload ++ afterPayload))
        (str2int payload payload.length) := by
  have acts := can_act_of_change changed
  rw [str2int_own] at acts
  refine ⟨_, _, (taken_as_iff ?_).mpr ⟨rfl, rfl⟩, acts⟩
  intro unknown
  rw [unknown] at acts
  exact acts

/-- A message changes the state on command topics only, and by its own bytes only, if and
only if it is clear. -/
theorem mqtt_reads_own_bytes_iff (cfg : SprinklerdCfg) (topic payload : Text) :
    ReadsOwnBytes cfg topic payload ↔ MessageClear cfg topic payload := by
  constructor
  · intro reads
    refine ⟨?_, ?_, ?_⟩
    · intro afterTopic afterPayload kind zone taken acts
      have known : kind ≠ .unknown := by
        rintro rfl
        exact acts
      obtain ⟨now, st, changed⟩ :=
        change_of_can_act (atof (cString (payload ++ afterPayload))) acts
      rw [← message_taken known taken now afterPayload st] at changed
      exact reads.grammar now afterTopic afterPayload st changed
    · intro afterTopic kind zone taken switches
      by_contra unclear
      obtain ⟨on, off, readsOn, readsOff⟩ := payload_status_open unclear
      have known : kind ≠ .unknown := by
        rintro rfl
        simp [Switches] at switches
      obtain ⟨now, st, differs⟩ := switch_differs (atof (cString (payload ++ on)))
        (atof (cString (payload ++ off))) switches
      have same := reads.own now afterTopic afterTopic on off st
      rw [message_taken known taken, message_taken known taken, readsOn, readsOff] at same
      exact differs same
    · intro afterTopic zone taken
      refine (atof_settled_iff payload).mp fun afterPayload otherPayload => ?_
      have same := reads.own 0 afterTopic afterTopic afterPayload otherPayload restingState
      rw [message_taken (by decide) taken, message_taken (by decide) taken, actionMqttTopic,
        actionMqttTopic, resting_rain, resting_rain] at same
      have total := congrArg SprinklerdState.todayRainTotal same
      rw [← atof_c_string, ← atof_c_string (payload ++ otherPayload)]
      exact total
  · intro clear
    have grammar : ∀ now afterTopic afterPayload st,
        actionMqttMessage cfg now ⟨topic, afterTopic, payload, afterPayload⟩ st ≠ st →
          InGrammar cfg.mqttTopic topic := by
      intro now afterTopic afterPayload st changed
      obtain ⟨kind, zone, taken, acts⟩ := taken_of_change changed
      exact clear.known afterTopic afterPayload kind zone taken acts
    refine ⟨grammar, ?_⟩
    intro now afterTopic otherTopic afterPayload otherPayload st
    by_cases command : InGrammar cfg.mqttTopic topic
    · obtain ⟨kind, zone, known, taken⟩ := grammar_taken command
      rw [message_taken known (taken afterTopic), message_taken known (taken otherTopic)]
      have switch : actionMqttTopic cfg now kind zone (payloadStatus (payload ++ afterPayload)) =
          actionMqttTopic cfg now kind zone (payloadStatus (payload ++ otherPayload)) := by
        funext number rain st
        by_cases switches : Switches cfg kind zone
        · have own := clear.switch afterTopic kind zone (taken afterTopic) switches
          rw [payload_status_own own, payload_status_own own]
        · exact status_unused now st switches
      rw [switch]
      by_cases rain : kind = .rainTotal
      · subst rain
        rw [atof_c_string, atof_c_string (payload ++ otherPayload),
          (atof_settled_iff payload).mpr (clear.rain afterTopic zone (taken afterTopic))
            afterPayload otherPayload]
      · exact rain_unused now st rain
    · have unchanged : ∀ afterTopic afterPayload,
          actionMqttMessage cfg now ⟨topic, afterTopic, payload, afterPayload⟩ st = st := by
        intro afterTopic afterPayload
        by_contra changed
        exact command (grammar now afterTopic afterPayload st changed)
      rw [unchanged, unchanged]

end Messages

section Bench

def benchBase : SprinklerdCfg := { benchCfg benchWiring with mqttTopic := "sprinkler".toList }

/-- An empty payload is read as on when the next packet begins with the character `1`, and
a topic needs only the first six letters of `calendar`. -/
theorem foreign_bytes_switch_calendar :
    ¬ ReadsOwnBytes benchBase "sprinkler/calendar/set".toList [] ∧
      ¬ ReadsOwnBytes benchBase "sprinkler/calendX/set".toList "0".toList := by
  constructor
  · intro reads
    have same := congrArg SprinklerdState.calendar
      (reads.own 0 "1".toList [] "1".toList [] benchState)
    exact absurd same (by decide +kernel)
  · intro reads
    have changed : actionMqttMessage benchBase 0
        ⟨"sprinkler/calendX/set".toList, "0".toList, "0".toList, []⟩ benchState ≠ benchState := by
      intro same
      have calendar := congrArg SprinklerdState.calendar same
      exact absurd calendar (by decide +kernel)
    obtain ⟨part, command, same⟩ := reads.grammar 0 _ _ _ changed
    have named : part = "calendX".toList := by
      rw [show "sprinkler/calendX/set".toList =
        benchBase.mqttTopic ++ ('/' :: "calendX".toList ++ "/set".toList) by decide] at same
      have tail := List.append_cancel_left same
      rw [List.cons_append, List.cons_append, List.cons.injEq] at tail
      exact (List.append_cancel_right tail.2).symm
    cases command <;> simp at named

end Bench

end SprinklerD.OwnBytes
