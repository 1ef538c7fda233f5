import SprinklerD.MainLoop
import SprinklerD.ValveAgreement

/-!
# Changes and their event bits

`main_loop` broadcasts when a bit of the event mask is set or a tick says that it
acted. The handlers never clear a bit, and a call that leaves the mask empty leaves
everything a broadcast reports as it was, except that it may end a run. With sound
pins ending a run switches a valve, which sets a bit.
-/

namespace SprinklerD.Announcements

open Foundation.MachineInt Foundation.CString Foundation.Transitions
open SprinklerD.Config SprinklerD.GpioPi SprinklerD.ZoneCtrl SprinklerD.SdCron
open SprinklerD.NetServices SprinklerD.ZoneValves SprinklerD.Operations SprinklerD.Daemon
open SprinklerD.ValveAgreement SprinklerD.MainLoop

set_option autoImplicit false

structure SameReports (st st' : SprinklerdState) : Prop where
  gpio : st'.gpio = st.gpio
  defaultRuntime : st'.defaultRuntime = st.defaultRuntime
  calendar : st'.calendar = st.calendar
  delay24h : st'.delay24h = st.delay24h
  delay24hTime : st'.delay24hTime = st.delay24hTime
  todayRainChance : st'.todayRainChance = st.todayRainChance
  todayRainTotal : st'.todayRainTotal = st.todayRainTotal

def SameRun (record record' : SzRunning) : Prop :=
  record'.type = record.type ∧ record'.zone = record.zone

/-- A call that leaves the mask empty found it empty, and changed no report; it may
have ended the run. -/
structure Silent (st st' : SprinklerdState) : Prop where
  quiet : Quiet st
  reports : SameReports st st'
  run : SameRun st.currentZone st'.currentZone ∨ st'.currentZone.type = .zcNone

def Announces (st st' : SprinklerdState) : Prop := Quiet st' → Silent st st'

variable {cfg : SprinklerdCfg}

section EventBits

theorem same_reports_refl (st : SprinklerdState) : SameReports st st :=
  ⟨rfl, rfl, rfl, rfl, rfl, rfl, rfl⟩

theorem same_reports_trans {first second third : SprinklerdState}
    (before : SameReports first second) (after : SameReports second third) :
    SameReports first third where
  gpio := after.gpio.trans before.gpio
  defaultRuntime := after.defaultRuntime.trans before.defaultRuntime
  calendar := after.calendar.trans before.calendar
  delay24h := after.delay24h.trans before.delay24h
  delay24hTime := after.delay24hTime.trans before.delay24hTime
  todayRainChance := after.todayRainChance.trans before.todayRainChance
  todayRainTotal := after.todayRainTotal.trans before.todayRainTotal

theorem announces_refl (st : SprinklerdState) : Announces st st := by
  intro quiet
  exact ⟨quiet, same_reports_refl st, Or.inl ⟨rfl, rfl⟩⟩

theorem announces_trans {first second third : SprinklerdState}
    (before : Announces first second) (after : Announces second third) :
    Announces first third := by
  intro quiet
  have later := after quiet
  have earlier := before later.quiet
  refine ⟨earlier.quiet, same_reports_trans earlier.reports later.reports, ?_⟩
  rcases later.run with same | ended
  · rcases earlier.run with kept | ended
    · exact Or.inl ⟨same.1.trans kept.1, same.2.trans kept.2⟩
    · exact Or.inr (same.1.trans ended)
  · exact Or.inr ended

theorem announces_set {st st' : SprinklerdState} (loud : ¬ Quiet st') : Announces st st' := by
  intro quiet
  exact absurd quiet loud

theorem loud_kept {st st' : SprinklerdState} (after : Announces st st') (loud : ¬ Quiet st) :
    ¬ Quiet st' := by
  intro quiet
  exact loud (after quiet).quiet

/-- Once a bit is set, calls that clear none may do anything. -/
theorem announces_loud {first second third : SprinklerdState} (loud : ¬ Quiet second)
    (after : Announces second third) : Announces first third :=
  announces_set (loud_kept after loud)

/-- A change of something that no broadcast reports. -/
theorem announces_other {st st' : SprinklerdState}
    (mask : st'.updateEventMask = st.updateEventMask) (reports : SameReports st st')
    (record : st'.currentZone = st.currentZone) : Announces st st' := by
  intro quiet
  refine ⟨mask.symm.trans quiet, reports, Or.inl ?_⟩
  rw [record]
  exact ⟨rfl, rfl⟩

/-- A change of the record that keeps the run or ends it needs no bit. -/
theorem announces_record (st : SprinklerdState) {record : SzRunning}
    (run : SameRun st.currentZone record ∨ record.type = .zcNone) :
    Announces st { st with currentZone := record } := by
  intro quiet
  exact ⟨quiet, ⟨rfl, rfl, rfl, rfl, rfl, rfl, rfl⟩, run⟩

theorem zones_event_loud (st : SprinklerdState) : ¬ Quiet st.setEventZones := by
  intro quiet
  exact absurd (congrArg EventMask.zones quiet) Bool.true_eq_false.mp

theorem status_event_loud (st : SprinklerdState) : ¬ Quiet st.setEventStatus := by
  intro quiet
  exact absurd (congrArg EventMask.status quiet) Bool.true_eq_false.mp

end EventBits

section ZoneFunctions

theorem zc_start_announces (zone : Int) (st : SprinklerdState) :
    Announces st (zcStart cfg zone st).1 := by
  unfold zcStart
  split_ifs
  · exact announces_refl st
  · exact announces_set (zones_event_loud _)

theorem zc_started_loud {zone : Int} {st : SprinklerdState}
    (started : (zcStart cfg zone st).2 = true) : ¬ Quiet (zcStart cfg zone st).1 := by
  unfold zcStart at started ⊢
  split_ifs at started ⊢
  exact zones_event_loud _

theorem zc_stop_announces (zone : Int) (st : SprinklerdState) :
    Announces st (zcStop cfg zone st).1 := by
  unfold zcStop
  by_cases off : zoneReadsOn cfg st.gpio zone = false
  · rw [if_pos off]
    exact announces_refl st
  · rw [if_neg off]
    exact announces_set (zones_event_loud _)

theorem zc_master_announces (state : ZcState) (st : SprinklerdState) :
    Announces st (zcMaster cfg state st) := by
  unfold zcMaster
  split_ifs
  · exact announces_refl st
  · exact zc_start_announces 0 st
  · exact zc_stop_announces 0 st
  · exact announces_refl st

theorem zc_master_loud {state : ZcState} {st : SprinklerdState} (loud : ¬ Quiet st) :
    ¬ Quiet (zcMaster cfg state st) :=
  loud_kept (zc_master_announces state st) loud

theorem calc_timeleft_announces (now : Int) (st : SprinklerdState) :
    Announces st (calcTimeleft now st) :=
  announces_record st (Or.inl ⟨rfl, rfl⟩)

theorem start_next_zone_from_announces (now : Int) (left : Nat) (zone : Int)
    (st : SprinklerdState) : Announces st (startNextZoneFrom cfg now left zone st).1 := by
  induction left generalizing zone st with
  | zero =>
      intro quiet
      exact ⟨quiet, ⟨rfl, rfl, rfl, rfl, rfl, rfl, rfl⟩, Or.inl ⟨rfl, rfl⟩⟩
  | succ left ih =>
      rw [startNextZoneFrom]
      split_ifs
      · apply announces_trans _ (zc_master_announces .zcOff _)
        exact announces_record st (Or.inr rfl)
      · exact ih (zone + 1) st
      · simp only
        split_ifs with started
        · -- the record changes behind the bit of the zone that was started
          apply announces_set
          exact zc_master_loud (by exact zc_started_loud started)
        · exact announces_loud (zones_event_loud _) (ih (zone + 1) _)

theorem start_next_zone_loud (now startz : Int) (st : SprinklerdState) :
    ¬ Quiet (startNextZone cfg now startz st).1 :=
  loud_kept (start_next_zone_from_announces now _ _ _) (zones_event_loud st)

theorem zc_check_announces (cfg : SprinklerdCfg) (now : Int) (st : SprinklerdState) :
    Announces st (zcCheck cfg now st).1 := by
  have outcome := zc_check_outcome cfg now st
  generalize zcCheck cfg now st = result at outcome ⊢
  cases outcome with
  | idle => exact announces_refl st
  | waiting => exact calc_timeleft_announces now st
  | advanced =>
      exact announces_set (start_next_zone_loud now _ _)
  | finished =>
      apply announces_trans (calc_timeleft_announces now st)
      apply announces_trans (zc_master_announces .zcOff _)
      apply announces_trans (zc_stop_announces st.currentZone.zone _)
      exact announces_record _ (Or.inr rfl)

theorem stop_every_announces (zones : List Int) (st : SprinklerdState) :
    Announces st (stopEveryZone cfg zones st) := by
  induction zones generalizing st with
  | nil => exact announces_refl st
  | cons zone rest ih =>
      rw [stop_every_cons]
      apply announces_trans (zc_master_announces .zcOff st)
      exact announces_trans (zc_stop_announces zone _) (ih _)

theorem stop_other_announces (requested : Int) (zones : List Int) (st : SprinklerdState) :
    Announces st (stopOtherZones cfg requested zones st).1 := by
  induction zones generalizing st with
  | nil => exact announces_refl st
  | cons zone rest ih =>
      rw [stopOtherZones]
      split_ifs
      · exact announces_refl st
      · exact announces_trans (zc_stop_announces zone st) (ih _)
      · exact ih st

theorem cycle_all_zones_announces (now : Int) (state : ZcState) (st : SprinklerdState) :
    Announces st (cycleAllZones cfg now state st) := by
  unfold cycleAllZones
  simp only
  have stopped := @stop_every_announces cfg (zoneList cfg) st
  split_ifs
  · exact announces_set (start_next_zone_loud now 0 _)
  · exact announces_set (start_next_zone_loud now 0 _)
  · exact announces_trans stopped (announces_record _ (Or.inr rfl))

theorem turn_zone_on_announces (now : Int) (type : ZcRunType) (zone length : Int)
    (st : SprinklerdState) : Announces st (turnZoneOn cfg now type zone length st).1 := by
  unfold turnZoneOn
  simp only
  have stopped := @stop_other_announces cfg zone (zoneList cfg) st
  split_ifs with missed started
  · exact stopped
  · apply announces_set
    exact zc_master_loud (zc_started_loud started)
  · exact announces_trans stopped (zc_start_announces zone _)

theorem turn_zone_off_announces (now zone : Int) (st : SprinklerdState) :
    Announces st (turnZoneOff cfg now zone st) := by
  unfold turnZoneOff
  simp only
  split_ifs
  · apply announces_trans _ (zc_check_announces cfg now _)
    exact announces_record st (Or.inl ⟨rfl, rfl⟩)
  · apply announces_trans (zc_master_announces .zcOff st)
    apply announces_trans (zc_stop_announces zone _)
    exact announces_record _ (Or.inr rfl)

theorem zc_zone_announces (now : Int) (type : ZcRunType) (zone : Int) (state : ZcState)
    (length : Int) (st : SprinklerdState) :
    Announces st (zcZone cfg now type zone state length st).1 := by
  have outcome := zc_zone_outcome cfg now type zone state length st
  generalize zcZone cfg now type zone state length st = result at outcome ⊢
  cases outcome with
  | ignored => exact announces_refl st
  | blocked => exact announces_refl st
  | noRuntime => exact announces_refl st
  | cycled => exact cycle_all_zones_announces now state st
  | turnedOn => exact turn_zone_on_announces now type zone _ st
  | turnedOff => exact turn_zone_off_announces now zone st

theorem zc_rain_delay_announces (now : Int) (st : SprinklerdState) :
    Announces st (zcRainDelayEnabeled cfg now st) := by
  unfold zcRainDelayEnabeled
  split_ifs
  · exact zc_zone_announces now .zcSingle _ .zcOff 0 st
  · exact announces_refl st

/-- Both branches set the bit of the zones. -/
theorem zc_update_runtime_loud (zone : Int) (st : SprinklerdState) :
    ¬ Quiet (zcUpdateRuntime cfg zone st) := by
  unfold zcUpdateRuntime
  split_ifs
  · exact zones_event_loud _
  · exact zones_event_loud _

end ZoneFunctions

section DelayFunctions

theorem write_cache_announces (st : SprinklerdState) : Announces st (writeCache cfg st) := by
  obtain ⟨disk, written⟩ := write_cache_frame cfg st
  rw [written]
  exact announces_other rfl ⟨rfl, rfl, rfl, rfl, rfl, rfl, rfl⟩ rfl

theorem enable_calendar_announces (state : Bool) (st : SprinklerdState) :
    Announces st (SdCron.enableCalendar state st) := by
  unfold SdCron.enableCalendar
  split_ifs
  · exact announces_set (status_event_loud st)
  · exact announces_refl st

theorem enable_delay_announces (now : Int) (state : Bool) (st : SprinklerdState) :
    Announces st (SdCron.enableDelay24h cfg now state st) := by
  unfold SdCron.enableDelay24h
  simp only
  split_ifs
  · apply announces_set
    apply loud_kept (write_cache_announces _)
    exact loud_kept (zc_rain_delay_announces now _) (status_event_loud st)
  · apply announces_set
    exact loud_kept (write_cache_announces _) (status_event_loud st)
  · exact announces_refl st

/-- Re-arming a delay that is on sets no bit of its own, and clears none. -/
theorem reset_delay_loud {now dtime : Int} {st : SprinklerdState} (loud : ¬ Quiet st) :
    ¬ Quiet (SdCron.resetDelay24hTime cfg now dtime st) := by
  unfold SdCron.resetDelay24hTime
  apply loud_kept (write_cache_announces _)
  apply loud_kept (zc_rain_delay_announces now _)
  split_ifs
  · exact status_event_loud st
  · exact loud
  · exact status_event_loud st
  · exact loud

theorem chance_of_rain_announces (now percent : Int) (st : SprinklerdState) :
    Announces st (SdCron.setTodayChanceOfRain cfg now percent st).1 := by
  have reported : ¬ Quiet { st.setEventRainProbability with todayRainChance := percent } := by
    intro quiet
    exact absurd (congrArg EventMask.rainProbability quiet) Bool.true_eq_false.mp
  rw [chance_of_rain_eq]
  split_ifs
  · exact announces_set (reset_delay_loud reported)
  · exact announces_loud reported (enable_delay_announces now false _)
  · exact announces_refl st

theorem rain_total_announces (now : Int) (rain : CFloat) (st : SprinklerdState) :
    Announces st (SdCron.setTodayRainTotal cfg now rain st).1 := by
  have reported : ¬ Quiet { st with todayRainTotal := rain }.setEventRainTotal := by
    intro quiet
    exact absurd (congrArg EventMask.rainTotal quiet) Bool.true_eq_false.mp
  rw [rain_total_eq]
  cases rainDelaySeconds rain st with
  | some seconds => exact announces_set (reset_delay_loud reported)
  | none =>
      simp only
      split_ifs
      · exact announces_refl st
      · exact announces_set reported

theorem check_delay_announces (now : Int) (st : SprinklerdState) :
    Announces st (SdCron.checkDelay24h cfg now st).1 := by
  unfold SdCron.checkDelay24h
  split_ifs
  · exact enable_delay_announces now false st
  · exact announces_refl st
  · exact announces_refl st

end DelayFunctions

section Requests

variable {query : Text}

theorem serve_config_announces (buf : Text) (st : SprinklerdState) :
    Announces st (serveConfig query buf st).1 := by
  unfold serveConfig
  simp only
  split_ifs
  · exact announces_other rfl ⟨rfl, rfl, rfl, rfl, rfl, rfl, rfl⟩ rfl
  · exact announces_other rfl ⟨rfl, rfl, rfl, rfl, rfl, rfl, rfl⟩ rfl
  · exact announces_other rfl ⟨rfl, rfl, rfl, rfl, rfl, rfl, rfl⟩ rfl
  · exact announces_refl st

theorem serve_sensor_announces (now : Int) (buf : Text) (st : SprinklerdState) :
    Announces st (serveSensor cfg now query buf st).1 := by
  unfold serveSensor
  simp only
  split_ifs
  · exact chance_of_rain_announces now _ st
  · exact rain_total_announces now _ st
  · exact announces_refl st

theorem serve_zone_announces (now : Int) (buf : Text) (st : SprinklerdState) :
    Announces st (serveZone cfg now query buf st).1 := by
  unfold serveZone
  simp only
  generalize (if strcmpEqual buf "cron".toList then ZcRunType.zcCron else .zcSingle) = type
  split_ifs
  · exact zc_zone_announces now type _ .zcOn _ st
  · exact zc_zone_announces now type _ .zcOff _ st
  · exact zc_zone_announces now type _ .zcOff _ st
  · exact zc_zone_announces now type _ .zcOn _ st
  · exact announces_set (zones_event_loud st)
  · exact announces_set (zones_event_loud st)

theorem serve_zrtcfg_announces (buf : Text) (st : SprinklerdState) :
    Announces st (serveZrtcfg cfg query buf st).1 := by
  unfold serveZrtcfg
  simp only
  split_ifs
  · exact announces_set (zones_event_loud _)
  · exact announces_refl st

theorem serve_calcfg_announces (now : Int) (buf : Text) (st : SprinklerdState) :
    Announces st (serveCalcfg cfg now query buf st).1 := by
  unfold serveCalcfg
  simp only
  split_ifs <;> exact announces_other rfl ⟨rfl, rfl, rfl, rfl, rfl, rfl, rfl⟩ rfl

theorem serve_web_request_announces (now : Int) (stack : Text) (st : SprinklerdState) :
    Announces st (serveWebRequest cfg now query stack st).1 := by
  have served := serve_web_request_served cfg now query stack st
  generalize serveWebRequest cfg now query stack st = answer at served ⊢
  cases served with
  | read reply => exact announces_refl st
  | option => exact announces_set (status_event_loud _)
  | config => exact serve_config_announces _ st
  | sensor => exact serve_sensor_announces now _ st
  | zone => exact serve_zone_announces now _ st
  | zrtcfg => exact serve_zrtcfg_announces _ st
  | calcfg asked => exact serve_calcfg_announces now _ st

theorem action_mqtt_topic_announces (now : Int) (topic : MqttTopic) (zone : Int)
    (status : ZcState) (number : Int) (rain : CFloat) (st : SprinklerdState) :
    Announces st (actionMqttTopic cfg now topic zone status number rain st) := by
  cases topic with
  | duration =>
      simp only [actionMqttTopic]
      split_ifs
      · exact announces_set (zc_update_runtime_loud zone _)
      · exact announces_refl st
  | delay24h => exact enable_delay_announces now _ st
  | calendar => exact enable_calendar_announces _ st
  | cycleAllZones => exact zc_zone_announces now .zcAll 0 status 0 st
  | rainTotal => exact rain_total_announces now rain st
  | chanceOfRain => exact chance_of_rain_announces now number st
  | zone =>
      simp only [actionMqttTopic]
      split_ifs
      · exact zc_zone_announces now .zcSingle zone status 0 st
      · exact zc_zone_announces now .zcSingle _ .zcOff 0 st
      · exact announces_set (status_event_loud _)
      · exact announces_refl st
  | unknown => exact announces_refl st

theorem dz_zones_announce (now idx nvalue : Int) (zones : List Int) (st : SprinklerdState) :
    Announces st (zones.foldl (dzZone cfg now idx nvalue) st) := by
  induction zones generalizing st with
  | nil => exact announces_refl st
  | cons zone zones ih =>
      apply announces_trans _ (ih _)
      unfold dzZone
      split_ifs
      · exact zc_zone_announces now .zcSingle zone .zcOn 0 st
      · exact zc_zone_announces now .zcSingle zone .zcOff 0 st
      · exact announces_refl st

theorem action_domoticz_announces (now idx nvalue : Int) (svalue : Text)
    (st : SprinklerdState) :
    Announces st (actionDomoticzMqttMessage cfg now idx nvalue svalue st) := by
  unfold actionDomoticzMqttMessage
  split_ifs
  · exact announces_refl st
  · exact enable_calendar_announces _ st
  · exact enable_delay_announces now _ st
  · exact zc_zone_announces now .zcAll 0 .zcOn 0 st
  · exact zc_zone_announces now .zcAll 0 .zcOff 0 st
  · exact rain_total_announces now _ st
  · exact dz_zones_announce now idx nvalue (zoneList cfg) st

theorem check_cron_announces (now : Int) (st : SprinklerdState) :
    Announces st (CronTable.checkCron cfg now st) := by
  obtain ⟨disk, update, checked⟩ := check_cron_frame cfg now st
  rw [checked]
  exact announces_other rfl ⟨rfl, rfl, rfl, rfl, rfl, rfl, rfl⟩ rfl

theorem arrival_announces (now : Int) (arrival : Arrival) (st : SprinklerdState) :
    Announces st (daemonStep cfg st (now, arrival.1)) := by
  obtain ⟨event, outside⟩ := arrival
  cases event with
  | webRequest query stack =>
      rw [daemonStep, actionWebRequest]
      split_ifs
      · exact announces_refl st
      · exact serve_web_request_announces now stack st
  | mqttMessage message => exact action_mqtt_topic_announces now _ _ _ _ _ st
  | domoticzMessage idx nvalue svalue => exact action_domoticz_announces now idx nvalue svalue st
  | filesOpen cacheOpens cronOpens =>
      exact announces_other rfl ⟨rfl, rfl, rfl, rfl, rfl, rfl, rfl⟩ rfl
  | call => cases outside
  | checkCron => cases outside
  | broadcast => cases outside

theorem tick_announces (clock : PassClock) (st : SprinklerdState) :
    Announces st (tick cfg clock st).1 := by
  unfold tick
  simp only
  split_ifs
  · apply announces_trans (check_cron_announces clock.cron st)
    exact zc_check_announces cfg clock.check _
  · apply announces_trans (check_cron_announces clock.cron st)
    apply announces_trans (zc_check_announces cfg clock.check _)
    exact check_delay_announces clock.delay _

end Requests

section CheckedEvents

/-- The requests name zones from 1 on, and of the calls only the two ticks occur. A
broadcast may clear the mask at any time. -/
def CheckedEvent (cfg : SprinklerdCfg) (st : SprinklerdState) : Event → Prop
  | .webRequest query stack =>
      ∀ type zone state length, type ≠ .zcAll →
        webOperation cfg query stack st = some (.zone type zone state length) → 1 ≤ zone
  | .call operation => operation = .check ∨ operation = .checkDelay24h
  | _ => True

theorem checked_of_other {operation : Operation} (other : isZoneRequest operation = false) :
    CheckedRequest cfg operation := by
  cases operation with
  | zone => cases other
  | _ => trivial

theorem web_operation_is_checked {query stack : Text} {st : SprinklerdState}
    (checked : CheckedEvent cfg st (.webRequest query stack)) {operation : Operation}
    (asked : webOperation cfg query stack st = some operation) : CheckedRequest cfg operation := by
  rcases web_operation_checked asked with other | ⟨state, rfl⟩ |
    ⟨type, zone, state, length, rfl, kind, listed⟩
  · exact checked_of_other other
  · exact Or.inr ⟨rfl, rfl, rfl⟩
  · have single : type ≠ .zcAll := by rcases kind with rfl | rfl <;> simp
    have lower := checked type zone state length single asked
    exact Or.inl ⟨kind, mem_zone_list.mpr ⟨lower, listed⟩⟩

/-- A request to turn the master off acts on the zone that is running. -/
theorem mqtt_operation_is_checked {message : MqttMessage} {st : SprinklerdState}
    (running : st.currentZone.type ≠ .zcNone → st.currentZone.zone ∈ zoneList cfg)
    {operation : Operation} (asked : mqttOperation cfg message st = some operation) :
    CheckedRequest cfg operation := by
  rcases mqtt_operation_checked asked with other | ⟨state, rfl⟩ | ⟨zone, state, rfl, listed⟩ |
    ⟨rfl, runs⟩
  · exact checked_of_other other
  · exact Or.inr ⟨rfl, rfl, rfl⟩
  · exact Or.inl ⟨Or.inl rfl, listed⟩
  · exact Or.inl ⟨Or.inl rfl, running runs⟩

theorem operations_are_checked {st : SprinklerdState} {event : Event}
    (agrees : Agrees cfg st.gpio st.currentZone) (checked : CheckedEvent cfg st event)
    {operation : Operation} (asked : operation ∈ operations cfg st event) :
    CheckedRequest cfg operation := by
  cases event with
  | webRequest query stack =>
      rw [operations] at asked
      split_ifs at asked
      · cases asked
      · exact web_operation_is_checked checked (Option.mem_toList.mp asked)
  | mqttMessage message =>
      exact mqtt_operation_is_checked agrees.listed (Option.mem_toList.mp asked)
  | domoticzMessage idx nvalue svalue =>
      rcases domoticz_operations_checked asked with ⟨-, other | ⟨state, rfl⟩⟩ |
        ⟨zone, state, rfl, listed⟩
      · exact checked_of_other other
      · exact Or.inr ⟨rfl, rfl, rfl⟩
      · exact Or.inl ⟨Or.inl rfl, listed⟩
  | call call =>
      rw [List.mem_singleton.mp asked]
      rcases checked with rfl | rfl
      · trivial
      · trivial
  | checkCron => cases asked
  | broadcast dzCache mask => cases asked
  | filesOpen cacheOpens cronOpens => cases asked

theorem daemon_step_agrees (sound : SoundWiring cfg) {st : SprinklerdState} {event : TimedEvent}
    (agrees : Agrees cfg st.gpio st.currentZone) (checked : CheckedEvent cfg st event.2) :
    Agrees cfg (daemonStep cfg st event).gpio (daemonStep cfg st event).currentZone := by
  have performed : Agrees cfg
      (perform cfg event.1 st (operations cfg st event.2)).gpio
      (perform cfg event.1 st (operations cfg st event.2)).currentZone := by
    apply perform_invariant (fun st => Agrees cfg st.gpio st.currentZone) (CheckedRequest cfg) _
      (fun _ asked => operations_are_checked agrees checked asked) agrees
    intro st operation agrees permitted
    exact apply_operation_agrees sound event.1 st operation agrees permitted
  have same := @daemon_step_controller cfg st event.1 event.2
  have effect := congrArg control same
  have kept : Agrees cfg (control (controller (daemonStep cfg st event))).1
      (control (controller (daemonStep cfg st event))).2 := effect ▸ performed
  exact kept

end CheckedEvents

section Observations

/-- What can be seen of the controller: the levels of the pins of the table, the run, the
default runtimes, and what the calendar, the delay and the weather are. -/
structure Observation where
  levels : List Bool
  type : ZcRunType
  zone : Option Int
  defaultRuntimes : List Int
  calendar : Bool
  delay24h : Bool
  delay24hTime : Int
  todayRainChance : Int
  todayRainTotal : CFloat
deriving DecidableEq

def observe (cfg : SprinklerdCfg) (st : SprinklerdState) : Observation where
  levels := (tableZones cfg).map fun zone => st.gpio.level (cfg.zonecfg zone).pin
  type := st.currentZone.type
  zone := if st.currentZone.type = .zcNone then none else some st.currentZone.zone
  defaultRuntimes := (tableZones cfg).map st.defaultRuntime
  calendar := st.calendar
  delay24h := st.delay24h
  delay24hTime := st.delay24hTime
  todayRainChance := st.todayRainChance
  todayRainTotal := st.todayRainTotal

theorem observe_of_same {st st' : SprinklerdState} (reports : SameReports st st')
    (run : SameRun st.currentZone st'.currentZone ∨
      st.currentZone.type = .zcNone ∧ st'.currentZone.type = .zcNone) :
    observe cfg st' = observe cfg st := by
  have type : st'.currentZone.type = st.currentZone.type := by
    rcases run with same | ⟨before, after⟩
    · exact same.1
    · exact after.trans before.symm
  have zone : (if st'.currentZone.type = .zcNone then none else some st'.currentZone.zone) =
      if st.currentZone.type = .zcNone then none else some st.currentZone.zone := by
    rcases run with same | ⟨before, after⟩
    · rw [same.1, same.2]
    · rw [if_pos after, if_pos before]
  unfold observe
  rw [reports.gpio, zone, type, reports.defaultRuntime, reports.calendar, reports.delay24h,
    reports.delay24hTime, reports.todayRainChance, reports.todayRainTotal]

/-- Where the record agrees with the valves, a run does not end behind an empty mask. -/
theorem silent_observe {st st' : SprinklerdState} (before : Agrees cfg st.gpio st.currentZone)
    (after : Agrees cfg st'.gpio st'.currentZone) (silent : Silent st st') :
    observe cfg st' = observe cfg st := by
  apply observe_of_same silent.reports
  rcases silent.run with same | ended
  · exact Or.inl same
  · refine Or.inr ⟨?_, ended⟩
    by_contra running
    have listed := before.listed running
    have opened := before.valve running st.currentZone.zone listed
    have closed := after.idle ended st.currentZone.zone (in_table_of_zone listed)
    rw [silent.reports.gpio, opened] at closed
    exact absurd closed (by simp)

end Observations

section Bench

end Bench

end SprinklerD.Announcements
