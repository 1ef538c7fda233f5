import SprinklerD.Daemon

/-!
# What the handlers leave alone

No operation touches the calendar table, the time of its last edit, the crontab or the
Domoticz cache. Of the requests only `calcfg` does, and it leaves the cache alone.
-/

namespace SprinklerD.Untouched

open Foundation.MachineInt Foundation.CString
open SprinklerD.Config SprinklerD.ZoneCtrl SprinklerD.SdCron SprinklerD.CronTable
open SprinklerD.ZoneValves SprinklerD.NetServices SprinklerD.Operations SprinklerD.Daemon

set_option autoImplicit false

/-- The calendar table with the time of its last edit, the crontab and the Domoticz
cache. -/
structure UntouchedPart where
  cron : Int → CalendarDay
  cronUpdate : Int
  cronOpens : Bool
  cronFile : Option Text
  dzCache : List DZcache

def untouched (st : SprinklerdState) : UntouchedPart where
  cron := st.cron
  cronUpdate := st.cronUpdate
  cronOpens := st.disk.cronOpens
  cronFile := st.disk.cronFile
  dzCache := st.dzCache

variable {cfg : SprinklerdCfg}

theorem untouched_of_outside {st st' : SprinklerdState}
    (same : outsideControl st' = outsideControl st) : untouched st' = untouched st := by
  change untouched (outsideControl st') = untouched (outsideControl st)
  rw [same]

@[simp]
theorem untouched_event_status (st : SprinklerdState) :
    untouched st.setEventStatus = untouched st := rfl

@[simp]
theorem untouched_event_zones (st : SprinklerdState) :
    untouched st.setEventZones = untouched st := rfl

@[simp]
theorem write_cache_untouched (st : SprinklerdState) :
    untouched (writeCache cfg st) = untouched st := by
  simp only [writeCache, remount_eq]
  split_ifs <;> rfl

@[simp]
theorem enable_calendar_untouched (state : Bool) (st : SprinklerdState) :
    untouched (enableCalendar state st) = untouched st := by
  unfold enableCalendar
  split_ifs <;> rfl

@[simp]
theorem enable_delay_untouched (now : Int) (state : Bool) (st : SprinklerdState) :
    untouched (enableDelay24h cfg now state st) = untouched st := by
  unfold enableDelay24h
  simp only
  split_ifs
  · rw [write_cache_untouched]
    exact (untouched_of_outside (zc_rain_delay_outside now _)).trans rfl
  · exact write_cache_untouched _
  · rfl

@[simp]
theorem reset_delay_untouched (now dtime : Int) (st : SprinklerdState) :
    untouched (resetDelay24hTime cfg now dtime st) = untouched st := by
  unfold resetDelay24hTime
  simp only
  rw [write_cache_untouched]
  apply (untouched_of_outside (zc_rain_delay_outside now _)).trans
  split_ifs <;> rfl

@[simp]
theorem chance_of_rain_untouched (now percent : Int) (st : SprinklerdState) :
    untouched (setTodayChanceOfRain cfg now percent st).1 = untouched st := by
  rw [chance_of_rain_eq]
  split_ifs
  · exact reset_delay_untouched now 0 _
  · exact enable_delay_untouched now false _
  · rfl

@[simp]
theorem rain_total_untouched (now : Int) (rain : CFloat) (st : SprinklerdState) :
    untouched (setTodayRainTotal cfg now rain st).1 = untouched st := by
  rw [rain_total_eq]
  cases rainDelaySeconds rain st with
  | some seconds => exact reset_delay_untouched now _ _
  | none =>
      simp only
      split_ifs <;> rfl

@[simp]
theorem update_runtime_untouched (zone : Int) (st : SprinklerdState) :
    untouched (zcUpdateRuntime cfg zone st) = untouched st := by
  unfold zcUpdateRuntime
  split_ifs <;> rfl

/-- Operations touch none of it. -/
theorem apply_operation_untouched (cfg : SprinklerdCfg) (now : Int) (st : SprinklerdState)
    (operation : Operation) :
    untouched (applyOperation cfg now st operation) = untouched st := by
  cases operation with
  | zone type zone state length =>
      exact untouched_of_outside (zc_zone_outside now type zone state length st)
  | check => exact untouched_of_outside (zc_check_outside now st)
  | enableCalendar state => exact enable_calendar_untouched state st
  | enableDelay24h state => exact enable_delay_untouched now state st
  | resetDelay24hTime dtime => exact reset_delay_untouched now dtime st
  | setTodayChanceOfRain percent => exact chance_of_rain_untouched now percent st
  | setTodayRainTotal rain => exact rain_total_untouched now rain st
  | checkDelay24h =>
      simp only [applyOperation, checkDelay24h]
      split_ifs
      · exact enable_delay_untouched now false st
      · rfl
      · rfl
  | setDefaultRuntime zone runtime => exact update_runtime_untouched zone _
  | precipChanceDelay percent => rfl
  | precipInchDelay1day rain => rfl
  | precipInchDelay2day rain => rfl

@[simp]
theorem zc_zone_untouched (now : Int) (type : ZcRunType) (zone : Int) (state : ZcState)
    (length : Int) (st : SprinklerdState) :
    untouched (zcZone cfg now type zone state length st).1 = untouched st :=
  apply_operation_untouched cfg now st (.zone type zone state length)

theorem serve_option_untouched (now : Int) (query buf : Text) (st : SprinklerdState) :
    untouched (serveOption cfg now query buf st).1 = untouched st := by
  unfold serveOption
  simp only [untouched_event_status]
  split_ifs
  · exact enable_calendar_untouched _ st
  · exact enable_delay_untouched now _ st
  · exact reset_delay_untouched now _ st
  · rfl
  · exact zc_zone_untouched now _ _ .zcOn _ st
  · exact zc_zone_untouched now _ _ .zcOff _ st
  · rfl

theorem serve_config_untouched (query buf : Text) (st : SprinklerdState) :
    untouched (serveConfig query buf st).1 = untouched st := by
  unfold serveConfig
  simp only
  split_ifs
  all_goals rfl

theorem serve_sensor_untouched (now : Int) (query buf : Text) (st : SprinklerdState) :
    untouched (serveSensor cfg now query buf st).1 = untouched st := by
  unfold serveSensor
  simp only
  split_ifs <;> simp

theorem serve_zone_untouched (now : Int) (query buf : Text) (st : SprinklerdState) :
    untouched (serveZone cfg now query buf st).1 = untouched st := by
  unfold serveZone
  simp only
  generalize (if strcmpEqual buf "cron".toList then ZcRunType.zcCron else .zcSingle) = type
  split_ifs <;> simp

theorem serve_zrtcfg_untouched (query buf : Text) (st : SprinklerdState) :
    untouched (serveZrtcfg cfg query buf st).1 = untouched st := by
  unfold serveZrtcfg
  simp only
  split_ifs
  · exact update_runtime_untouched _ _
  · rfl

theorem mqtt_topic_untouched (now : Int) (topic : MqttTopic) (zone : Int)
    (status : ZcState) (number : Int) (rain : CFloat) (st : SprinklerdState) :
    untouched (actionMqttTopic cfg now topic zone status number rain st) =
      untouched st := by
  cases topic with
  | duration =>
      simp only [actionMqttTopic]
      split_ifs
      · exact update_runtime_untouched _ _
      · rfl
  | delay24h => exact enable_delay_untouched now _ st
  | calendar => exact enable_calendar_untouched _ st
  | cycleAllZones => exact zc_zone_untouched now _ _ _ _ st
  | rainTotal => exact rain_total_untouched now _ st
  | chanceOfRain => exact chance_of_rain_untouched now _ st
  | zone =>
      simp only [actionMqttTopic]
      split_ifs <;> simp
  | unknown => rfl

theorem action_mqtt_untouched (now : Int) (message : MqttMessage) (st : SprinklerdState) :
    untouched (actionMqttMessage cfg now message st) = untouched st :=
  mqtt_topic_untouched now _ _ _ _ _ st

theorem perform_untouched (now : Int) (st : SprinklerdState) (asked : List Operation) :
    untouched (perform cfg now st asked) = untouched st :=
  perform_invariant (fun after => untouched after = untouched st) (fun _ => True)
    (fun after operation same _ => (apply_operation_untouched cfg now after operation).trans same)
    (fun _ _ => trivial) rfl

section DomoticzCache

theorem dz_cache_of_untouched {st st' : SprinklerdState} (same : untouched st' = untouched st) :
    st'.dzCache = st.dzCache := congrArg UntouchedPart.dzCache same

theorem serve_web_request_dz_cache (now : Int) (query stack : Text) (st : SprinklerdState) :
    (serveWebRequest cfg now query stack st).1.dzCache = st.dzCache := by
  have served := serve_web_request_served cfg now query stack st
  generalize serveWebRequest cfg now query stack st = answer at served ⊢
  cases served with
  | read reply => rfl
  | option => exact dz_cache_of_untouched (serve_option_untouched now query _ st)
  | config => exact dz_cache_of_untouched (serve_config_untouched query _ st)
  | sensor => exact dz_cache_of_untouched (serve_sensor_untouched now query _ st)
  | zone => exact dz_cache_of_untouched (serve_zone_untouched now query _ st)
  | zrtcfg => exact dz_cache_of_untouched (serve_zrtcfg_untouched query _ st)
  | calcfg asked =>
      unfold serveCalcfg
      simp only
      split_ifs <;> rfl

theorem check_cron_dz_cache (now : Int) (st : SprinklerdState) :
    (CronTable.checkCron cfg now st).dzCache = st.dzCache := by
  obtain ⟨disk, update, checked⟩ := check_cron_frame cfg now st
  rw [checked]

theorem daemon_step_dz_cache (st : SprinklerdState) (event : TimedEvent) :
    (daemonStep cfg st event).dzCache =
      match event.2 with
      | .broadcast dzCache _ => dzCache
      | _ => st.dzCache := by
  obtain ⟨now, event⟩ := event
  cases event with
  | webRequest query stack =>
      rw [daemonStep, actionWebRequest]
      split_ifs
      · rfl
      · exact serve_web_request_dz_cache now query stack st
  | mqttMessage message => exact dz_cache_of_untouched (action_mqtt_untouched now message st)
  | domoticzMessage idx nvalue svalue =>
      rw [daemonStep, action_domoticz_perform]
      exact dz_cache_of_untouched (perform_untouched now st _)
  | call operation => exact dz_cache_of_untouched (apply_operation_untouched cfg now st operation)
  | checkCron => exact check_cron_dz_cache now st
  | broadcast dzCache mask => rfl
  | filesOpen cacheOpens cronOpens => rfl

end DomoticzCache

end SprinklerD.Untouched
