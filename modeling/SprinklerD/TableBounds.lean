import SprinklerD.TableAccess

/-!
# Accesses stay in the table

Which requests lead to an access outside the initialised part of `zonecfg`: zone numbers
that a front end does not check, and a cycle that finds its last zone on already, so that
it goes on behind the end of the table.
-/

namespace SprinklerD.TableBounds

open Foundation.MachineInt Foundation.Transitions
open SprinklerD.Config SprinklerD.GpioPi SprinklerD.ZoneCtrl SprinklerD.SdCron
open SprinklerD.ZoneValves SprinklerD.NetServices SprinklerD.Operations SprinklerD.Daemon
open SprinklerD.TableAccess

set_option autoImplicit false

variable (cfg : SprinklerdCfg)

def InBounds (accesses : List Int) : Prop := ∀ index ∈ accesses, InTable cfg index

def Recorded (record : SzRunning) : Prop := record.type ≠ .zcNone → InTable cfg record.zone

section Conditions

/-- Every zone after `startz` that the walk does not skip reads on already, the last
zone of the table among them. -/
def PassesEnd (runtime : Int → Int) (gpio : Gpio) (startz : Int) : Prop :=
  runnable cfg runtime cfg.zones = true ∧
    ∀ zone ∈ zonesAfter cfg startz, runnable cfg runtime zone = true →
      zoneReadsOn cfg gpio zone = true

/-- A cycle whose zone has expired does not pass the end when the zone is closed. -/
def CycleStays (now : Int) (st : SprinklerdState) : Prop :=
  st.currentZone.type = .zcAll → st.currentZone.zone < cfg.zones →
    (calcTimeleft now st).currentZone.timeleft ≤ 0 →
      ¬ PassesEnd cfg st.defaultRuntime (driveOff cfg st.gpio st.currentZone.zone)
        st.currentZone.zone

def HeldBack (type : ZcRunType) (state : ZcState) (st : SprinklerdState) : Prop :=
  type = .zcCron ∧ state = .zcOn ∧ (st.calendar = false ∨ st.delay24h = true)

/-- A request for one zone that is not in the table must not get as far as its entry. -/
def RefusedInTime (type : ZcRunType) (state : ZcState) (length : Int) (st : SprinklerdState) :
    Prop :=
  HeldBack type state st ∨
    length ≠ 0 ∧ (state = .zcOn → length < 0) ∧ (state = .zcOff → st.currentZone.type = .zcAll)

/-- Turning any zone off during a cycle moves the cycle on. -/
def ZoneHarmless (now : Int) (type : ZcRunType) (zone : Int) (state : ZcState) (length : Int)
    (st : SprinklerdState) : Prop :=
  type ≠ .zcAll →
    (¬ InTable cfg zone → RefusedInTime type state length st) ∧
    (state = .zcOff → st.currentZone.type = .zcAll → duplicateRequest cfg type zone state st = false →
      CycleStays cfg now (expired st))

def OperationHarmless (now : Int) (st : SprinklerdState) : Operation → Prop
  | .zone type zone state length => ZoneHarmless cfg now type zone state length st
  | .check => CycleStays cfg now st
  | .setDefaultRuntime zone _ => InTable cfg zone
  | _ => True

def durationZone (message : MqttMessage) : Option Int :=
  let pointers := topicPointers message.afterTopic (message.topic.drop cfg.mqttTopic.length)
  if mqttTopicOf pointers[0]? pointers[1]? pointers[2]? = .duration then
    some (topicZone pointers[0]?)
  else none

/-- A message names a zone of the table for its duration, and each operation of the
event is harmless in its turn. -/
def EventHarmless (st : SprinklerdState) (event : TimedEvent) : Prop :=
  (∀ message, event.2 = .mqttMessage message →
    ∀ zone ∈ durationZone cfg message, InTable cfg zone) ∧
  Admitted (timedStep cfg) (fun st operation => OperationHarmless cfg operation.1 st operation.2) st
    ((operations cfg st event.2).map (Prod.mk event.1))

end Conditions

variable {cfg}

section Lists

@[simp]
theorem in_bounds_nil : InBounds cfg [] := fun _ never => by cases never

@[simp]
theorem in_bounds_cons {index : Int} {rest : List Int} :
    InBounds cfg (index :: rest) ↔ InTable cfg index ∧ InBounds cfg rest :=
  List.forall_mem_cons

@[simp]
theorem in_bounds_append {first second : List Int} :
    InBounds cfg (first ++ second) ↔ InBounds cfg first ∧ InBounds cfg second :=
  List.forall_mem_append

@[simp]
theorem in_bounds_zone_list : InBounds cfg (zoneList cfg) := fun _ => in_table_of_zone

@[simp]
theorem in_bounds_table_zones : InBounds cfg (tableZones cfg) := fun _ => mem_table_zones.mp

@[simp]
theorem in_bounds_master : InBounds cfg (zcMasterAccess cfg) := by
  unfold zcMasterAccess
  split_ifs with master
  · simp [in_table_zero, master]
  · exact in_bounds_nil

@[simp]
theorem in_bounds_state (zone : Int) : InBounds cfg (zcStateAccess cfg zone) := by
  unfold zcStateAccess
  split_ifs with inside
  · have listed := mem_zone_list.mpr ⟨inside.1, inside.2⟩
    simp [in_table_of_zone listed]
  · exact in_bounds_nil

end Lists

section Walk

theorem skipped_in_bounds {left : Nat} {zone : Int} {st : SprinklerdState}
    (here : InTable cfg zone) (skipped : runnable cfg st.defaultRuntime zone = false) :
    InBounds cfg (startNextZoneFromAccess cfg (left + 1) zone st) ↔
      (zone < cfg.zones → InBounds cfg (startNextZoneFromAccess cfg left (zone + 1) st)) := by
  rw [startNextZoneFromAccess, in_bounds_cons, and_iff_right here,
    if_pos (runnable_eq_false.mp skipped)]
  split_ifs with last
  · exact iff_of_true in_bounds_master fun below => by omega
  · exact (imp_iff_right (by omega)).symm

theorem opened_in_bounds {left : Nat} {zone : Int} {st : SprinklerdState}
    (here : InTable cfg zone) (runs : runnable cfg st.defaultRuntime zone = true)
    (off : zoneReadsOn cfg st.gpio zone = false) :
    InBounds cfg (startNextZoneFromAccess cfg (left + 1) zone st) := by
  have opened : (zcStart cfg zone st).2 = true :=
    (zc_start_result zone st).mpr ⟨off, (of_decide_eq_true runs).2⟩
  rw [startNextZoneFromAccess, if_neg (not_skipped runs)]
  simp [zcStartAccess, opened, here]

/-- A zone that is on already cannot be started, and the walk goes on without a test. -/
theorem failed_in_bounds {left : Nat} {zone : Int} {st : SprinklerdState}
    (here : InTable cfg zone) (runs : runnable cfg st.defaultRuntime zone = true)
    (on : zoneReadsOn cfg st.gpio zone = true) :
    InBounds cfg (startNextZoneFromAccess cfg (left + 1) zone st) ↔
      InBounds cfg (startNextZoneFromAccess cfg left (zone + 1) st.setEventZones) := by
  rw [startNextZoneFromAccess, if_neg (not_skipped runs)]
  simp [zcStartAccess, zc_start_refused on, here]

theorem in_table_bounds {zone : Int} (member : InTable cfg zone) : 0 ≤ zone ∧ zone ≤ cfg.zones := by
  rcases member with listed | ⟨rfl, -⟩
  · have bounds := mem_zone_list.mp listed
    omega
  · omega

/-- The walk leaves the table exactly when it finds no zone that it can start, and its
last zone is not skipped. -/
theorem walk_in_bounds {left : Nat} {zone : Int} (st : SprinklerdState) (remaining : 0 < left)
    (first : 1 ≤ zone) (bound : zone + left = cfg.zones + 1) :
    InBounds cfg (startNextZoneFromAccess cfg left zone st) ↔
      ¬ (runnable cfg st.defaultRuntime cfg.zones = true ∧
        ∀ later ∈ zonesFrom left zone, runnable cfg st.defaultRuntime later = true →
          zoneReadsOn cfg st.gpio later = true) := by
  induction left generalizing zone st with
  | zero => omega
  | succ left ih =>
      push_cast at bound
      have here : InTable cfg zone := in_table_of_zone (mem_zone_list.mpr ⟨first, by omega⟩)
      rw [zonesFrom, List.forall_mem_cons]
      cases runs : runnable cfg st.defaultRuntime zone with
      | false =>
          rw [skipped_in_bounds here runs]
          simp only [Bool.false_eq_true, false_imp_iff, true_and]
          cases left with
          | zero =>
              have last : zone = cfg.zones := by omega
              rw [← last, runs]
              simp
          | succ left =>
              rw [imp_iff_right (by omega)]
              exact ih st (by omega) (by omega) (by push_cast; omega)
      | true =>
          rw [imp_iff_right rfl]
          cases on : zoneReadsOn cfg st.gpio zone with
          | false => simp [opened_in_bounds here runs on]
          | true =>
              rw [failed_in_bounds here runs on]
              simp only [true_and]
              cases left with
              | zero =>
                  have last : zone = cfg.zones := by omega
                  rw [← last, runs]
                  have outside : ¬ InTable cfg (zone + 1) := fun member => by
                    have bounds := in_table_bounds member
                    omega
                  simp [startNextZoneFromAccess, zonesFrom, outside]
              | succ left => exact ih st.setEventZones (by omega) (by omega) (by push_cast; omega)

theorem start_next_in_bounds {startz : Int} (st : SprinklerdState)
    (inside : 0 ≤ startz ∧ startz < cfg.zones) :
    InBounds cfg (startNextZoneAccess cfg startz st) ↔
      ¬ PassesEnd cfg st.defaultRuntime st.gpio startz :=
  walk_in_bounds st.setEventZones (by omega) (by omega) (by omega)

theorem check_in_bounds (now : Int) {st : SprinklerdState} (recorded : Recorded cfg st.currentZone) :
    InBounds cfg (zcCheckAccess cfg now st) ↔ CycleStays cfg now st := by
  unfold zcCheckAccess CycleStays
  by_cases idle : st.currentZone.type = .zcNone
  · simp [idle]
  have member := recorded idle
  have bounds := in_table_bounds member
  rw [if_neg idle]
  simp only
  split_ifs with elapsed more
  · have all : st.currentZone.type = .zcAll := more.1
    have below : st.currentZone.zone < cfg.zones := more.2
    simp only [zcStopAccess, List.singleton_append, in_bounds_cons, zc_stop_record,
      calc_timeleft_zone, member, all, below, elapsed, true_and, true_imp_iff]
    rw [start_next_in_bounds _ ⟨bounds.1, below⟩, zc_stop_gpio, calc_timeleft_gpio,
      default_runtime_of_outside (zc_stop_outside _ _)]
    rfl
  · refine iff_of_true ?_ fun all below => absurd ⟨all, below⟩ more
    simp [zcStopAccess, member]
  · exact iff_of_true in_bounds_nil fun _ _ late => absurd late elapsed

end Walk

section Cycle

theorem stop_every_append (first second : List Int) (st : SprinklerdState) :
    stopEveryZone cfg (first ++ second) st =
      stopEveryZone cfg second (stopEveryZone cfg first st) := by
  induction first generalizing st with
  | nil => rfl
  | cons zone rest ih => rw [List.cons_append, stop_every_cons, stop_every_cons, ih]

/-- The last zone is closed last, so that a cycle cannot find it on at its start. -/
theorem last_zone_closed (st : SprinklerdState)
    (valid : validGPIO (cfg.zonecfg cfg.zones).pin = true) :
    zoneReadsOn cfg (stopEveryZone cfg (zoneList cfg) st).gpio cfg.zones = false := by
  obtain ⟨before, count⟩ := Nat.exists_eq_succ_of_ne_zero cfg.zonesPositive.ne'
  have last : zoneList cfg = zonesFrom before 1 ++ [(cfg.zones : Int)] := by
    rw [zoneList, count, Nat.succ_eq_add_one, zones_from_append]
    congr 1
    simp only [zonesFrom, List.cons.injEq, and_true]
    push_cast
    omega
  rw [last, stop_every_append, stop_every_cons]
  simp only [stopEveryZone, zc_stop_gpio]
  exact reads_off_closed _ valid

theorem cycle_in_bounds (state : ZcState) (st : SprinklerdState) :
    InBounds cfg (cycleAllZonesAccess cfg state st) := by
  unfold cycleAllZonesAccess
  simp only [in_bounds_append]
  constructor
  · intro index member
    obtain ⟨zone, listed, used⟩ := List.mem_flatMap.mp member
    have both : InBounds cfg (zcMasterAccess cfg ++ [zone]) := by
      simp [in_table_of_zone listed]
    exact both index used
  · split_ifs
    · have positive := cfg.zonesPositive
      rw [start_next_in_bounds _ ⟨le_refl 0, by omega⟩]
      rintro ⟨last, found⟩
      have on := found cfg.zones (mem_zones_after.mpr ⟨by omega, le_refl _⟩) last
      have valid : validGPIO (cfg.zonecfg cfg.zones).pin = true := (of_decide_eq_true last).2
      rw [last_zone_closed st valid] at on
      cases on
    · exact in_bounds_nil

end Cycle

section ZoneRequests

theorem stop_other_in_bounds (requested : Int) {zones : List Int} (st : SprinklerdState)
    (listed : ∀ zone ∈ zones, zone ∈ zoneList cfg) :
    InBounds cfg (stopOtherAccess cfg requested zones st) := by
  induction zones generalizing st with
  | nil => exact in_bounds_nil
  | cons zone rest ih =>
      have later : ∀ zone ∈ rest, zone ∈ zoneList cfg :=
        fun zone member => listed zone (List.mem_cons_of_mem _ member)
      rw [stopOtherAccess, in_bounds_cons]
      refine ⟨in_table_of_zone (listed zone List.mem_cons_self), ?_⟩
      split_ifs
      · exact in_bounds_nil
      · exact ih _ later
      · exact ih st later

theorem turn_on_in_bounds (zone : Int) (st : SprinklerdState) :
    InBounds cfg (turnZoneOnAccess cfg zone st) ↔ InTable cfg zone := by
  unfold turnZoneOnAccess
  simp only [in_bounds_append]
  rw [and_iff_right (stop_other_in_bounds zone st fun _ => id)]
  split_ifs with found
  · apply iff_of_true in_bounds_nil
    by_contra outside
    rw [stop_other_absent cfg st fun listed => outside (in_table_of_zone listed)] at found
    cases found
  · simp [zcStartAccess]
  · simp [zcStartAccess]

theorem turn_off_in_bounds (now zone : Int) {st : SprinklerdState}
    (recorded : Recorded cfg st.currentZone) :
    InBounds cfg (turnZoneOffAccess cfg now zone st) ↔
      if st.currentZone.type = .zcAll then CycleStays cfg now (expired st)
      else InTable cfg zone := by
  unfold turnZoneOffAccess
  split_ifs
  · exact check_in_bounds now recorded
  · simp [zcStopAccess]

theorem not_duplicate_outside {type : ZcRunType} {zone : Int} {state : ZcState}
    {st : SprinklerdState} (outside : ¬ InTable cfg zone) (one : type ≠ .zcAll) :
    duplicateRequest cfg type zone state st = false := by
  have unlisted : ¬ (0 < zone ∧ zone ≤ cfg.zones) := fun inside =>
    outside (in_table_of_zone (mem_zone_list.mpr ⟨inside.1, inside.2⟩))
  rw [duplicateRequest, if_neg unlisted]
  simp [one]

/-- `zc_zone` uses entries of the table exactly for harmless requests. -/
theorem zone_in_bounds (now : Int) (type : ZcRunType) (zone : Int) (state : ZcState)
    (length : Int) {st : SprinklerdState} (recorded : Recorded cfg st.currentZone) :
    InBounds cfg (zcZoneAccess cfg now type zone state length st) ↔
      ZoneHarmless cfg now type zone state length st := by
  unfold zcZoneAccess ZoneHarmless
  rw [in_bounds_append, and_iff_right (in_bounds_state zone)]
  by_cases duplicate : duplicateRequest cfg type zone state st = true
  · rw [if_pos duplicate]
    refine iff_of_true in_bounds_nil fun one => ⟨fun outside => ?_, fun _ _ fresh => ?_⟩
    · rw [not_duplicate_outside outside one] at duplicate
      cases duplicate
    · rw [duplicate] at fresh
      cases fresh
  rw [if_neg duplicate]
  have fresh := Bool.eq_false_iff.mpr duplicate
  by_cases held : type = .zcCron ∧ state = .zcOn ∧ (st.calendar = false ∨ st.delay24h = true)
  · rw [if_pos held]
    refine iff_of_true in_bounds_nil fun _ => ⟨fun _ => Or.inl held, fun off => ?_⟩
    rw [off] at held
    cases held.2.1
  rw [if_neg held]
  have free : ¬ HeldBack type state st := held
  by_cases all : type = .zcAll
  · rw [if_pos all]
    exact iff_of_true (cycle_in_bounds state st) fun one => absurd all one
  rw [if_neg all]
  have looked : InBounds cfg (if length = 0 then [zone] else []) ↔
      (length = 0 → InTable cfg zone) := by
    split_ifs with default <;> simp [default]
  simp only [in_bounds_append, looked, ne_eq, all, not_false_eq_true, true_imp_iff, fresh,
    RefusedInTime, free, false_or]
  cases state with
  | zcOn =>
      have opens : InBounds cfg (if 0 < requestLength zone length st then
            turnZoneOnAccess cfg zone st else []) ↔
          (0 < requestLength zone length st → InTable cfg zone) := by
        split_ifs with lasting <;> simp [lasting, turn_on_in_bounds]
      simp only [opens, reduceCtorEq, false_imp_iff, and_true, true_imp_iff]
      by_cases member : InTable cfg zone
      · simp [member]
      · simp only [member, imp_false, not_false_eq_true, true_imp_iff]
        apply and_congr_right
        intro given
        rw [requestLength, if_neg given, not_lt]
        exact ⟨fun short => lt_of_le_of_ne short given, le_of_lt⟩
  | zcOff =>
      simp only [turn_off_in_bounds now zone recorded, reduceCtorEq, false_imp_iff, true_imp_iff,
        true_and]
      by_cases member : InTable cfg zone
      · by_cases cycling : st.currentZone.type = .zcAll <;> simp [member, cycling]
      · by_cases cycling : st.currentZone.type = .zcAll <;> simp [member, cycling]

end ZoneRequests

section Operations

variable {now : Int} {st : SprinklerdState}

theorem rain_delay_in_bounds (recorded : Recorded cfg st.currentZone) :
    InBounds cfg (zcRainDelayEnabeledAccess cfg now st) := by
  unfold zcRainDelayEnabeledAccess
  split_ifs with cron
  · have member : InTable cfg st.currentZone.zone := recorded (by rw [cron.1]; decide)
    rw [in_bounds_cons, zone_in_bounds now _ _ _ _ recorded]
    refine ⟨member, fun _ => ⟨fun outside => absurd member outside, fun _ all => ?_⟩⟩
    rw [cron.1] at all
    cases all
  · exact in_bounds_nil

theorem write_cache_in_bounds (st : SprinklerdState) : InBounds cfg (writeCacheAccess cfg st) := by
  unfold writeCacheAccess
  split_ifs
  · exact in_bounds_zone_list
  · exact in_bounds_nil

theorem enable_delay_in_bounds (state : Bool) (recorded : Recorded cfg st.currentZone) :
    InBounds cfg (enableDelay24hAccess cfg now state st) := by
  unfold enableDelay24hAccess
  simp only
  split_ifs
  · exact in_bounds_append.mpr ⟨rain_delay_in_bounds recorded, write_cache_in_bounds st⟩
  · exact in_bounds_append.mpr ⟨in_bounds_nil, write_cache_in_bounds st⟩
  · exact in_bounds_nil

theorem reset_delay_in_bounds (dtime : Int) (recorded : Recorded cfg st.currentZone) :
    InBounds cfg (resetDelay24hTimeAccess cfg now dtime st) := by
  unfold resetDelay24hTimeAccess
  refine in_bounds_append.mpr ⟨rain_delay_in_bounds ?_, write_cache_in_bounds st⟩
  split_ifs <;> exact recorded

theorem update_runtime_in_bounds (zone : Int) (st : SprinklerdState) :
    InBounds cfg (zcUpdateRuntimeAccess cfg zone st) := by
  unfold zcUpdateRuntimeAccess
  split_ifs with inside
  · have listed := mem_zone_list.mpr ⟨inside.1, le_of_lt inside.2.1⟩
    simp [in_table_of_zone listed]
  · exact in_bounds_nil

theorem operation_in_bounds (recorded : Recorded cfg st.currentZone) (operation : Operation) :
    InBounds cfg (operationAccess cfg now st operation) ↔
      OperationHarmless cfg now st operation := by
  cases operation with
  | zone type zone state length => exact zone_in_bounds now type zone state length recorded
  | check => exact check_in_bounds now recorded
  | setDefaultRuntime zone runtime =>
      exact in_bounds_cons.trans (and_iff_left (update_runtime_in_bounds zone st))
  | enableDelay24h state => exact iff_of_true (enable_delay_in_bounds state recorded) trivial
  | resetDelay24hTime dtime => exact iff_of_true (reset_delay_in_bounds dtime recorded) trivial
  | setTodayChanceOfRain percent =>
      refine iff_of_true ?_ trivial
      simp only [operationAccess, setTodayChanceOfRainAccess]
      split_ifs
      · exact reset_delay_in_bounds 0 recorded
      · exact enable_delay_in_bounds false recorded
      · exact in_bounds_nil
  | setTodayRainTotal rain =>
      refine iff_of_true ?_ trivial
      simp only [operationAccess, setTodayRainTotalAccess]
      split_ifs
      · exact in_bounds_nil
      · exact reset_delay_in_bounds _ recorded
      · exact reset_delay_in_bounds _ recorded
      · exact in_bounds_nil
  | checkDelay24h =>
      refine iff_of_true ?_ trivial
      simp only [operationAccess, checkDelay24hAccess]
      split_ifs
      · exact enable_delay_in_bounds false recorded
      · exact in_bounds_nil
  | _ => exact iff_of_true in_bounds_nil trivial

end Operations

section RunningRecord

/-- The walk of a cycle ends with a zone of the table or with none. -/
theorem walk_recorded (now : Int) {left : Nat} {zone : Int} {st : SprinklerdState}
    (first : 1 ≤ zone) (bound : zone + left = cfg.zones + 1)
    (recorded : Recorded cfg st.currentZone) :
    Recorded cfg (startNextZoneFrom cfg now left zone st).1.currentZone ∧
      ((startNextZoneFrom cfg now left zone st).2 ≠ -1 →
        InTable cfg (startNextZoneFrom cfg now left zone st).1.currentZone.zone) := by
  induction left generalizing zone st with
  | zero => exact ⟨recorded, fun never => absurd rfl never⟩
  | succ left ih =>
      have here : InTable cfg zone := by
        apply in_table_of_zone
        rw [mem_zone_list]
        push_cast at bound
        omega
      rw [startNextZoneFrom]
      split_ifs with skipped last
      · refine ⟨fun running => ?_, fun never => absurd rfl never⟩
        exact absurd (by simp) running
      · exact ih (by omega) (by push_cast at bound ⊢; omega) recorded
      · simp only
        split_ifs
        · have named : (cycleStarted cfg now zone st).currentZone.zone = zone := by
            rw [cycle_started_record]
            rfl
          change Recorded cfg (cycleStarted cfg now zone st).currentZone ∧
            (zone ≠ -1 → InTable cfg (cycleStarted cfg now zone st).currentZone.zone)
          rw [Recorded, named]
          exact ⟨fun _ => here, fun _ => here⟩
        · apply ih (by omega) (by push_cast at bound ⊢; omega)
          rw [SprinklerdState.setEventZones, zc_start_record]
          exact recorded

theorem start_next_recorded (now : Int) {startz : Int} {st : SprinklerdState}
    (inside : 0 ≤ startz ∧ startz ≤ cfg.zones) (recorded : Recorded cfg st.currentZone) :
    Recorded cfg (startNextZone cfg now startz st).1.currentZone ∧
      ((startNextZone cfg now startz st).2 ≠ -1 →
        InTable cfg (startNextZone cfg now startz st).1.currentZone.zone) :=
  @walk_recorded cfg now _ _ st.setEventZones (by omega) (by omega) recorded

theorem check_recorded (now : Int) {st : SprinklerdState} (recorded : Recorded cfg st.currentZone) :
    Recorded cfg (zcCheck cfg now st).1.currentZone := by
  have outcome := zc_check_outcome cfg now st
  generalize zcCheck cfg now st = result at outcome ⊢
  cases outcome with
  | idle => exact recorded
  | waiting => exact recorded
  | advanced all more =>
      have member := recorded (by rw [all]; decide)
      have bounds := in_table_bounds member
      apply (start_next_recorded now ⟨bounds.1, bounds.2⟩ _).1
      rw [zc_stop_record]
      exact recorded
  | finished => exact fun running => absurd rfl running

theorem cycle_recorded (now : Int) (state : ZcState) (st : SprinklerdState) :
    Recorded cfg (cycleAllZones cfg now state st).currentZone := by
  have idle : Recorded cfg { (stopEveryZone cfg (zoneList cfg) st).currentZone with
      type := .zcNone } := fun running => absurd rfl running
  have walked := @start_next_recorded cfg now 0 { stopEveryZone cfg (zoneList cfg) st with
    currentZone := { (stopEveryZone cfg (zoneList cfg) st).currentZone with type := .zcNone } }
    ⟨le_refl 0, by omega⟩ idle
  unfold cycleAllZones
  simp only
  split_ifs with on started
  · exact fun _ => walked.2 started
  · exact walked.1
  · exact idle

theorem turn_on_recorded (now : Int) (type : ZcRunType) {zone : Int} (length : Int)
    {st : SprinklerdState} (member : InTable cfg zone) (recorded : Recorded cfg st.currentZone) :
    Recorded cfg (turnZoneOn cfg now type zone length st).1.currentZone := by
  unfold turnZoneOn
  simp only
  split_ifs
  · rw [stop_other_record]
    exact recorded
  · exact fun _ => member
  · rw [zc_start_record, stop_other_record]
    exact recorded

theorem zone_recorded (now : Int) {type : ZcRunType} {zone : Int} {state : ZcState}
    {length : Int} {st : SprinklerdState} (recorded : Recorded cfg st.currentZone)
    (refused : type ≠ .zcAll → ¬ InTable cfg zone → RefusedInTime type state length st) :
    Recorded cfg (zcZone cfg now type zone state length st).1.currentZone := by
  have outcome := zc_zone_outcome cfg now type zone state length st
  generalize zcZone cfg now type zone state length st = result at outcome ⊢
  cases outcome with
  | ignored => exact recorded
  | blocked => exact recorded
  | noRuntime => exact recorded
  | cycled => exact cycle_recorded now state st
  | turnedOn fresh one on lasting free =>
      apply turn_on_recorded now type _ _ recorded
      by_contra outside
      rcases refused one outside with held | ⟨given, short, -⟩
      · have unheld := free held.1
        rcases held.2.2 with off | delayed
        · rw [unheld.1] at off
          cases off
        · rw [unheld.2] at delayed
          cases delayed
      · rw [requestLength, if_neg given] at lasting
        exact absurd lasting (not_lt.mpr (le_of_lt (short on)))
  | turnedOff =>
      unfold turnZoneOff
      split_ifs
      · exact check_recorded now recorded
      · exact fun running => absurd rfl running

/-- What keeps an operation from recording an entry outside the table. -/
def RecordsEntry (cfg : SprinklerdCfg) (st : SprinklerdState) : Operation → Prop
  | .zone type zone state length =>
      type ≠ .zcAll → ¬ InTable cfg zone → RefusedInTime type state length st
  | _ => True

theorem records_entry_of_harmless {now : Int} {st : SprinklerdState} {operation : Operation}
    (harmless : OperationHarmless cfg now st operation) : RecordsEntry cfg st operation := by
  cases operation with
  | zone => exact fun one => (harmless one).1
  | _ => trivial

theorem records_entry_of_request {st : SprinklerdState} {operation : Operation}
    (request : TableRequest cfg operation) : RecordsEntry cfg st operation := by
  cases operation with
  | zone type zone state length =>
      intro one outside
      rcases request with entry | all
      · exact absurd entry.2 outside
      · exact absurd all.1 one
  | _ => trivial

theorem operation_recorded (now : Int) {st : SprinklerdState} (recorded : Recorded cfg st.currentZone)
    {operation : Operation} (entry : RecordsEntry cfg st operation) :
    Recorded cfg (applyOperation cfg now st operation).currentZone := by
  apply operation_record now operation fun _ => recorded
  · exact fun record none running => absurd none running
  · rintro type zone state length rfl
    exact zone_recorded now recorded entry
  · exact check_recorded now recorded

end RunningRecord

section Events

variable {st : SprinklerdState}

/-- Each operation of an event is served in the state that the ones before it leave. -/
theorem perform_in_bounds (now : Int) {asked : List Operation}
    (recorded : Recorded cfg st.currentZone) :
    InBounds cfg (performAccess cfg now st asked) ↔
      Admitted (timedStep cfg)
        (fun st operation => OperationHarmless cfg operation.1 st operation.2) st
        (asked.map (Prod.mk now)) := by
  induction asked generalizing st with
  | nil => exact iff_of_true in_bounds_nil trivial
  | cons operation rest ih =>
      rw [performAccess, in_bounds_append, operation_in_bounds recorded, List.map_cons, Admitted]
      apply and_congr_right
      intro harmless
      exact ih (operation_recorded now recorded (records_entry_of_harmless harmless))

theorem perform_recorded (now : Int) {asked : List Operation}
    (recorded : Recorded cfg st.currentZone)
    (harmless : Admitted (timedStep cfg)
      (fun st operation => OperationHarmless cfg operation.1 st operation.2) st
      (asked.map (Prod.mk now))) : Recorded cfg (perform cfg now st asked).currentZone :=
  run_invariant (fun st _ => Recorded cfg st.currentZone)
    (fun _ event _ recorded permitted =>
      operation_recorded event.1 recorded (records_entry_of_harmless permitted))
    recorded harmless

theorem daemon_step_record (event : TimedEvent) :
    (daemonStep cfg st event).currentZone =
      (perform cfg event.1 st (operations cfg st event.2)).currentZone := by
  have same := congrArg SprinklerdState.currentZone
    (@daemon_step_controller cfg st event.1 event.2)
  exact same

theorem event_recorded (event : TimedEvent) (recorded : Recorded cfg st.currentZone)
    (harmless : EventHarmless cfg st event) :
    Recorded cfg (daemonStep cfg st event).currentZone := by
  rw [daemon_step_record]
  exact perform_recorded event.1 recorded harmless.2

/-- Whatever the wiring, the record names an entry of the table after every event. -/
theorem reachable_recorded (reached : Reachable (daemonStep cfg) (Startup cfg)
    (fun st event => ZoneNumbered cfg st event.2) st) : Recorded cfg st.currentZone := by
  apply reachable_invariant (fun st => Recorded cfg st.currentZone) _ _ reached
  · intro st startup running
    exact absurd startup.idle running
  · intro st event recorded numbered
    rw [daemon_step_record]
    exact perform_invariant (fun st => Recorded cfg st.currentZone) (TableRequest cfg)
      (fun _ _ recorded request =>
        operation_recorded event.1 recorded (records_entry_of_request request))
      (fun _ asked => operations_in_table recorded numbered asked) recorded

theorem document_in_bounds (kind : Document) (recorded : Recorded cfg st.currentZone) :
    InBounds cfg (documentAccess cfg st kind) := by
  cases kind with
  | advancedSprinkler =>
      rw [documentAccess, in_bounds_append]
      refine ⟨in_bounds_zone_list, ?_⟩
      split_ifs with running
      · simp [recorded running]
      · exact in_bounds_nil
  | homebridgeSprinkler => exact in_bounds_table_zones
  | sprinklerCal => exact in_bounds_append.mpr ⟨in_bounds_zone_list, in_bounds_zone_list⟩
  | sprinkler => exact in_bounds_zone_list

theorem web_handler_in_bounds (now : Int) (query stack : Text)
    (after : Recorded cfg (daemonStep cfg st (now, .webRequest query stack)).currentZone) :
    InBounds cfg (handlerAccess cfg now st (.webRequest query stack)) := by
  rw [daemonStep, actionWebRequest] at after
  rw [handlerAccess]
  by_cases empty : query = []
  · rw [if_pos empty]
    exact in_bounds_nil
  · rw [if_neg empty] at after ⊢
    simp only [in_bounds_append]
    constructor
    · split_ifs
      · unfold flipAccess
        simp only
        split_ifs
        · exact in_bounds_state _
        · exact in_bounds_nil
      · exact in_bounds_nil
    · cases (serveWebRequest cfg now query stack st).2 with
      | document kind => exact document_in_bounds kind after
      | error text => exact in_bounds_nil
      | empty => exact in_bounds_nil

/-- The handlers stay in the table on their own account, but for the duration topic. -/
theorem handler_in_bounds {event : TimedEvent}
    (after : Recorded cfg (daemonStep cfg st event).currentZone) :
    InBounds cfg (handlerAccess cfg event.1 st event.2) ↔
      ∀ message, event.2 = .mqttMessage message →
        ∀ zone ∈ durationZone cfg message, InTable cfg zone := by
  obtain ⟨now, event⟩ := event
  cases event with
  | webRequest query stack =>
      exact iff_of_true (web_handler_in_bounds now query stack after)
        fun _ never => by cases never
  | mqttMessage message =>
      simp only [handlerAccess, durationZone, Event.mqttMessage.injEq, forall_eq']
      split_ifs <;> simp
  | domoticzMessage idx nvalue svalue =>
      refine iff_of_true ?_ fun _ never => by cases never
      simp only [handlerAccess]
      split_ifs
      · exact in_bounds_nil
      · exact in_bounds_zone_list
  | _ => exact iff_of_true in_bounds_nil fun _ never => by cases never

theorem event_in_bounds {event : TimedEvent} (recorded : Recorded cfg st.currentZone) :
    InBounds cfg (eventAccess cfg st event) ↔ EventHarmless cfg st event := by
  rw [eventAccess, in_bounds_append, perform_in_bounds event.1 recorded, EventHarmless]
  apply and_congr_left
  intro served
  apply handler_in_bounds
  rw [daemon_step_record]
  exact perform_recorded event.1 recorded served

/-- From an idle start the daemon uses only entries of the table throughout a run exactly
when every event of the run is harmless. -/
theorem accesses_stay_in_table (cfg : SprinklerdCfg) {st : SprinklerdState}
    (idle : st.currentZone.type = .zcNone) (events : List TimedEvent) :
    Admitted (daemonStep cfg) (fun st event => InBounds cfg (eventAccess cfg st event)) st events ↔
      Admitted (daemonStep cfg) (EventHarmless cfg) st events :=
  admitted_congr (fun st : SprinklerdState => Recorded cfg st.currentZone)
    (fun _ _ recorded _ => event_in_bounds recorded)
    (fun _ event recorded _ harmless => event_recorded event recorded harmless)
    (fun running => absurd idle running) (admitted_of_forall fun _ _ => trivial)

end Events

section Bench

theorem accesses_stay_in_table_watering :
    Admitted (daemonStep (benchCfg benchWiring))
      (fun st event => InBounds (benchCfg benchWiring) (eventAccess (benchCfg benchWiring) st event))
      benchState benchWatering := by
  apply (accesses_stay_in_table (benchCfg benchWiring) rfl benchWatering).mpr
  have request : webOperation (benchCfg benchWiring)
      "type=zone&zone=1&runtime=5&state=on".toList [] benchState = some (.zone .zcSingle 1 .zcOn 5) :=
    zone_of_request (by decide +kernel)
  refine ⟨⟨fun _ never => (by cases never), ?_⟩, trivial⟩
  rw [operations, if_neg (by decide +kernel), request]
  refine ⟨fun _ => ⟨fun outside => absurd ?_ outside, fun off => by cases off⟩, trivial⟩
  exact mem_bench_table.mpr (Or.inr (Or.inl rfl))

def benchNetwork (masterPin : Int) : SprinklerdCfg :=
  { benchCfg fun zone => if zone = 0 then { pin := masterPin, onState := 1 } else benchWiring zone with
    enableMQTTaq := true
    mqttTopic := "sprinklerd".toList }

def benchQuery (query : String) : TimedEvent := (1000, .webRequest query.toList [])

def benchDuration : TimedEvent :=
  (1000, .mqttMessage
    { topic := "sprinklerd/zone99/duration/set".toList, afterTopic := [],
      payload := "600".toList, afterPayload := [] })

/-- A query names zone -5, a message names zone 99, and where the master valve shares the
pin of the last zone a cycle goes on to zone 3 when its first zone is turned off. -/
theorem accesses_leave_table :
    ¬ InBounds (benchNetwork 4) (eventAccess (benchNetwork 4) benchState
        (benchQuery "type=zone&zone=-5&runtime=5&state=on")) ∧
      ¬ InBounds (benchNetwork 4) (eventAccess (benchNetwork 4) benchState benchDuration) ∧
      ¬ InBounds (benchNetwork 6) (eventAccess (benchNetwork 6)
        (daemonStep (benchNetwork 6) benchState
          (benchQuery "type=option&option=allz&state=on"))
        (benchQuery "type=zone&zone=1&runtime=5&state=off")) := by
  have outside {masterPin zone : Int} (far : zone < 0 ∨ 2 < zone) :
      ¬ InTable (benchNetwork masterPin) zone := fun member => by
    have bounds : 0 ≤ zone ∧ zone ≤ 2 := in_table_bounds member
    omega
  refine ⟨fun inside => ?_, fun inside => ?_, fun inside => ?_⟩
  · exact outside (by decide) (inside (-5) (by decide +kernel))
  · exact outside (by decide) (inside 99 (by decide +kernel))
  · exact outside (by decide) (inside 3 (by decide +kernel))

end Bench

end SprinklerD.TableBounds
