import SprinklerD.PinLevels
import SprinklerD.TableAccess
import SprinklerD.TimedZones

/-!
# A zone request that comes twice

Hubs and brokers send a command again. The second of two equal requests in the same second
finds the first one done, or fails as it did. What the result rests on is that the zone that
was turned off reads off: on shared pins the next zone of a cycle turns it on again.
-/

namespace SprinklerD.RepeatedRequest

open Foundation.MachineInt Foundation.Transitions
open SprinklerD.Config SprinklerD.GpioPi SprinklerD.ZoneCtrl SprinklerD.ZoneValves
open SprinklerD.Operations SprinklerD.Daemon SprinklerD.GuardedValves SprinklerD.TimedZones
open SprinklerD.TableAccess SprinklerD.RefusedRequest SprinklerD.PinLevels

set_option autoImplicit false

/-- Two states that agree in pins, record and pending events. -/
structure SameEffect (first second : SprinklerdState) : Prop where
  pins : SamePins first.gpio second.gpio
  record : first.currentZone = second.currentZone
  events : first.updateEventMask = second.updateEventMask

variable {cfg : SprinklerdCfg}

theorem same_effect_refl (st : SprinklerdState) : SameEffect st st :=
  ⟨same_pins_refl st.gpio, rfl, rfl⟩

section Marks

theorem mark_again {mask : EventMask} (marked : mask.zones = true) :
    { mask with zones := true } = mask := by
  cases mask
  cases marked
  rfl

theorem zc_start_mask (zone : Int) {st : SprinklerdState}
    (marked : st.updateEventMask.zones = true) :
    (zcStart cfg zone st).1.updateEventMask = st.updateEventMask := by
  by_cases on : zoneReadsOn cfg st.gpio zone = true
  · rw [zc_start_refused on]
  · rw [zcStart, if_neg on]
    exact mark_again marked

theorem zc_start_marks {zone : Int} {st : SprinklerdState}
    (off : zoneReadsOn cfg st.gpio zone = false) :
    (zcStart cfg zone st).1.updateEventMask.zones = true := by
  rw [zcStart, if_neg (by simp [off])]
  rfl

theorem zc_stop_mask (zone : Int) {st : SprinklerdState}
    (marked : st.updateEventMask.zones = true) :
    (zcStop cfg zone st).1.updateEventMask = st.updateEventMask := by
  by_cases off : zoneReadsOn cfg st.gpio zone = false
  · rw [zc_stop_refused off]
  · rw [zcStop, if_neg off]
    exact mark_again marked

theorem zc_master_mask (state : ZcState) {st : SprinklerdState}
    (marked : st.updateEventMask.zones = true) :
    (zcMaster cfg state st).updateEventMask = st.updateEventMask := by
  unfold zcMaster
  split_ifs
  · rfl
  · exact zc_start_mask 0 marked
  · exact zc_stop_mask 0 marked
  · rfl

theorem stop_other_mask (requested : Int) (zones : List Int) {st : SprinklerdState}
    (marked : st.updateEventMask.zones = true) :
    (stopOtherZones cfg requested zones st).1.updateEventMask = st.updateEventMask := by
  induction zones generalizing st with
  | nil => rfl
  | cons zone rest ih =>
      have stopped := @zc_stop_mask cfg zone st marked
      simp only [stopOtherZones]
      split_ifs
      · rfl
      · rw [ih (by rw [stopped]; exact marked), stopped]
      · exact ih marked

end Marks

section Repetition

variable {now : Int} {type : ZcRunType} {zone length : Int} {state : ZcState}
  {st : SprinklerdState}

theorem repeated_of_duplicate {once : SprinklerdState}
    (duplicate : duplicateRequest cfg type zone state once = true) :
    SameEffect once (zcZone cfg now type zone state length once).1 := by
  unfold zcZone
  rw [if_pos duplicate]
  exact same_effect_refl once

theorem duplicate_stop (given : SprinklerdState) (listed : zone ∈ zoneList cfg) :
    duplicateRequest cfg type zone .zcOff given = !zoneReadsOn cfg given.gpio zone := by
  have bounds := mem_zone_list.mp listed
  have inside : 0 < zone ∧ zone ≤ cfg.zones := ⟨by omega, bounds.2⟩
  rw [duplicateRequest, if_pos inside]
  cases zoneReadsOn cfg given.gpio zone <;> rfl

/-- During a cycle only the zone of the record reads on, and it is made to expire. -/
theorem off_after_skip (apart : Apart cfg) (cycling : Cycling cfg st.gpio st.currentZone)
    (all : st.currentZone.type = .zcAll) (begun : st.currentZone.startedTime ≤ now)
    (listed : zone ∈ zoneList cfg) (on : zoneReadsOn cfg st.gpio zone = true) :
    zoneReadsOn cfg (turnZoneOff cfg now zone st).gpio zone = false := by
  have running : st.currentZone.type ≠ .zcNone := by rw [all]; decide
  have timed : Timed cfg (expired st).gpio (expired st).currentZone :=
    ⟨fun other inside reads => ⟨running, cycling.valve all other inside reads⟩, cycling.listed⟩
  have skipped : turnZoneOff cfg now zone st = (zcCheck cfg now (expired st)).1 := by
    rw [turnZoneOff, if_pos all, expired]
  rw [skipped]
  apply zc_check_ends_zone apart timed listed on
  unfold calcTimeleft
  simp only
  split_ifs
  · rw [saturate32_nonpos, expired]
    simp only
    omega
  · exact le_refl 0

theorem off_after_stop_request (apart : Apart cfg) (cycling : Cycling cfg st.gpio st.currentZone)
    (begun : st.currentZone.type = .zcAll → st.currentZone.startedTime ≤ now)
    (listed : zone ∈ zoneList cfg) (on : zoneReadsOn cfg st.gpio zone = true) :
    zoneReadsOn cfg (turnZoneOff cfg now zone st).gpio zone = false := by
  by_cases all : st.currentZone.type = .zcAll
  · exact off_after_skip apart cycling all (begun all) listed on
  · unfold turnZoneOff
    rw [if_neg all]
    simp only [zc_stop_gpio]
    exact reads_off_closed _ (valid_of_reads_on apart (in_table_of_zone listed) on)

theorem repeated_stop (apart : Apart cfg) (cycling : Cycling cfg st.gpio st.currentZone)
    (begun : st.currentZone.type = .zcAll → st.currentZone.startedTime ≤ now)
    (one : type ≠ .zcAll) (listed : zone ∈ zoneList cfg) :
    SameEffect (zcZone cfg now type zone .zcOff length st).1
      (zcZone cfg now type zone .zcOff length (zcZone cfg now type zone .zcOff length st).1).1 := by
  apply repeated_of_duplicate
  rw [duplicate_stop _ listed, Bool.not_eq_true']
  have outcome := zc_zone_outcome cfg now type zone .zcOff length st
  generalize zcZone cfg now type zone .zcOff length st = result at outcome ⊢
  cases outcome with
  | ignored duplicate =>
      rw [duplicate_stop _ listed, Bool.not_eq_true'] at duplicate
      exact duplicate
  | blocked cron on => cases on
  | noRuntime on => cases on
  | cycled fresh all => exact absurd all one
  | turnedOn fresh _ on => cases on
  | turnedOff fresh _ off =>
      apply off_after_stop_request apart cycling begun listed
      rw [duplicate_stop _ listed, Bool.not_eq_false'] at fresh
      exact fresh

theorem others_stopped_again {given : SprinklerdState} {pin : Int} (valid : validGPIO pin = true)
    (same : given.gpio.level pin = (othersStopped cfg zone st).gpio.level pin) :
    (othersStopped cfg zone given).gpio.level pin = given.gpio.level pin := by
  rw [others_stopped_level _ _ valid] at same ⊢
  cases last : lastOnPin cfg (otherZones cfg zone) pin with
  | none => rfl
  | some other =>
      rw [last] at same
      exact same.symm

theorem others_stopped_mask {given : SprinklerdState}
    (marked : given.updateEventMask.zones = true) :
    (othersStopped cfg zone given).updateEventMask = given.updateEventMask :=
  stop_other_mask zone (otherZones cfg zone) marked

theorem zone_started_again (minutes : Int) (stopped : zoneReadsOn cfg (othersStopped cfg zone st).gpio
      zone = false) :
    SameEffect (zoneStarted cfg now type zone minutes st)
      (zoneStarted cfg now type zone minutes (zoneStarted cfg now type zone minutes st)) := by
  have begun := zc_start_marks stopped
  have marked : (zoneStarted cfg now type zone minutes st).updateEventMask.zones = true := by
    change (zcMaster cfg .zcOn _).updateEventMask.zones = true
    rw [zc_master_mask .zcOn begun]
    exact begun
  refine ⟨same_pins_iff.mpr fun pin valid => ?_, rfl, ?_⟩
  · have level := @zone_started_level cfg now type zone minutes st pin valid
    generalize zoneStarted cfg now type zone minutes st = once at level ⊢
    rw [zone_started_level now type zone minutes once valid]
    split_ifs at level ⊢
    · exact level
    · exact level
    · exact (others_stopped_again valid level).symm
  · have markedOthers := @others_stopped_mask cfg zone _ marked
    change _ = (zcMaster cfg .zcOn (zcStart cfg zone (othersStopped cfg zone
      (zoneStarted cfg now type zone minutes st))).1).updateEventMask
    have stillMarked := marked
    rw [← markedOthers] at stillMarked
    have started := @zc_start_mask cfg zone _ stillMarked
    rw [← started] at stillMarked
    rw [zc_master_mask .zcOn stillMarked, started, markedOthers]

theorem refused_start_again (invalid : validGPIO (cfg.zonecfg zone).pin = false)
    (stopped : zoneReadsOn cfg (othersStopped cfg zone st).gpio zone = false) :
    SameEffect (zcStart cfg zone (othersStopped cfg zone st)).1
      (zcStart cfg zone (othersStopped cfg zone
        (zcStart cfg zone (othersStopped cfg zone st)).1)).1 := by
  have marked := zc_start_marks stopped
  have pins := (refused_start st invalid).1
  generalize (zcStart cfg zone (othersStopped cfg zone st)).1 = once at marked pins ⊢
  obtain ⟨again, record⟩ := refused_start once invalid
  refine ⟨same_pins_iff.mpr fun pin valid => ?_, record.symm, ?_⟩
  · rw [again]
    exact (others_stopped_again valid (congrArg (fun gpio => gpio.level pin) pins)).symm
  · have markedOthers := @others_stopped_mask cfg zone _ marked
    rw [← markedOthers] at marked
    rw [zc_start_mask zone marked, markedOthers]

theorem repeated_start (distinct : DistinctPins cfg) (one : type ≠ .zcAll)
    (listed : zone ∈ zoneList cfg) :
    SameEffect (zcZone cfg now type zone .zcOn length st).1
      (zcZone cfg now type zone .zcOn length (zcZone cfg now type zone .zcOn length st).1).1 := by
  by_cases starts : StartsZone cfg type zone .zcOn length st
  · have stopped := others_stopped_off distinct listed starts.off
    have runtime : requestLength zone length (zcZone cfg now type zone .zcOn length st).1 =
        requestLength zone length st := by
      rw [requestLength, requestLength,
        default_runtime_of_outside (zc_zone_outside now type zone .zcOn length st)]
    by_cases again : StartsZone cfg type zone .zcOn length
        (zcZone cfg now type zone .zcOn length st).1
    · rw [zc_zone_starts now again listed, runtime]
      have off := again.off
      rw [zc_zone_starts now starts listed] at off ⊢
      rw [turn_zone_on_distinct distinct now type _ listed off]
      rw [turn_zone_on_distinct distinct now type _ listed starts.off]
      by_cases valid : validGPIO (cfg.zonecfg zone).pin = true
      · rw [if_pos valid, if_pos valid]
        exact zone_started_again _ stopped
      · rw [if_neg valid, if_neg valid]
        exact refused_start_again (Bool.eq_false_iff.mpr valid) stopped
    · rw [zc_zone_not_started now one listed again]
      exact same_effect_refl _
  · rw [zc_zone_not_started now one listed starts, zc_zone_not_started now one listed starts]
    exact same_effect_refl st

end Repetition

section Cycles

variable {now : Int} {state : ZcState} {st : SprinklerdState}

/-- With everything off, stopping everything is no change at all. -/
theorem stop_every_idle (off : ∀ entry, InTable cfg entry → zoneReadsOn cfg st.gpio entry = false)
    {zones : List Int} (listed : ∀ zone ∈ zones, zone ∈ zoneList cfg) :
    stopEveryZone cfg zones st = st := by
  induction zones with
  | nil => rfl
  | cons zone rest ih =>
      have closed : zcMaster cfg .zcOff st = st := by
        unfold zcMaster
        cases master : cfg.masterValve with
        | false => rfl
        | true => simp [off 0 (in_table_zero.mpr master)]
      have stopped := zc_stop_refused (off zone (in_table_of_zone (listed zone (by simp))))
      rw [stop_every_cons, closed, stopped]
      exact ih fun later inside => listed later (List.mem_cons_of_mem _ inside)

/-- A cycle without a zone to run leaves everything off and the record empty. -/
def emptyCycle (cfg : SprinklerdCfg) (st : SprinklerdState) : SprinklerdState :=
  cycleEnded cfg (SprinklerdState.setEventZones { stopEveryZone cfg (zoneList cfg) st with
    currentZone := { (stopEveryZone cfg (zoneList cfg) st).currentZone with type := .zcNone } })

theorem zones_off_after_stop (apart : Apart cfg) (st : SprinklerdState) :
    ∀ zone ∈ zoneList cfg,
      zoneReadsOn cfg (stopEveryZone cfg (zoneList cfg) st).gpio zone = false := by
  intro zone listed
  rw [reads_on_stop_every apart st (fun _ inside => inside) (in_table_of_zone listed),
    if_pos (Or.inl listed)]

/-- A cycle request starts a cycle unless there is no zone to run. -/
theorem cycle_all_zones_cases (apart : Apart cfg) (now : Int) (st : SprinklerdState) :
    if (zonesAfter cfg 0).find? (runnable cfg st.defaultRuntime) = none then
      cycleAllZones cfg now .zcOn st = emptyCycle cfg st
    else (cycleAllZones cfg now .zcOn st).currentZone.type = .zcAll := by
  have runtime : (stopEveryZone cfg (zoneList cfg) st).defaultRuntime = st.defaultRuntime :=
    default_runtime_of_outside (stop_every_outside (zoneList cfg) st)
  have outcome := start_next_zone_outcome now
    { stopEveryZone cfg (zoneList cfg) st with currentZone :=
      { (stopEveryZone cfg (zoneList cfg) st).currentZone with type := .zcNone } }
    ⟨le_refl 0, by exact_mod_cast cfg.zonesPositive⟩ (zones_off_after_stop apart st)
  unfold cycleAllZones
  simp only [if_true]
  generalize startNextZone cfg now 0 _ = result at outcome ⊢
  cases outcome with
  | ended found =>
      rw [runtime] at found
      rw [if_pos found]
      rfl
  | @started next found later listed =>
      rw [runtime] at found
      rw [if_neg (by simp [found]), if_pos (by simp only; omega)]

theorem empty_cycle_off (apart : Apart cfg) (st : SprinklerdState) :
    ∀ entry, InTable cfg entry → zoneReadsOn cfg (emptyCycle cfg st).gpio entry = false := by
  intro entry member
  rw [emptyCycle, reads_on_cycle_ended apart _ member]
  split_ifs with master
  · rfl
  · rcases member with listed | ⟨zero, -⟩
    · exact zones_off_after_stop apart st entry listed
    · exact absurd zero master

theorem empty_cycle_again (apart : Apart cfg) (st : SprinklerdState) :
    SameEffect (emptyCycle cfg st) (emptyCycle cfg (emptyCycle cfg st)) := by
  have off := empty_cycle_off apart st
  have marked : (emptyCycle cfg st).updateEventMask.zones = true := by
    rw [emptyCycle, cycleEnded, zc_master_mask .zcOff rfl]
    rfl
  have record : (emptyCycle cfg st).currentZone.type = .zcNone ∧
      (emptyCycle cfg st).currentZone.zone = -1 ∧
      (emptyCycle cfg st).currentZone.timeleft = 0 := by
    rw [emptyCycle, cycle_ended_record]
    exact ⟨rfl, rfl, rfl⟩
  generalize emptyCycle cfg st = once at off marked record ⊢
  have closed : driveMaster cfg .zcOff once.gpio = once.gpio := by
    unfold driveMaster
    cases master : cfg.masterValve with
    | false => rfl
    | true => simp [driveOff, off 0 (in_table_zero.mpr master)]
  unfold emptyCycle
  rw [stop_every_idle off fun _ listed => listed]
  refine ⟨?_, ?_, ?_⟩
  · rw [cycleEnded, zc_master_gpio]
    change SamePins once.gpio (driveMaster cfg .zcOff once.gpio)
    rw [closed]
    exact same_pins_refl once.gpio
  · rw [cycle_ended_record]
    obtain ⟨none, unnamed, late⟩ := record
    generalize once.currentZone = kept at none unnamed late ⊢
    cases kept
    simp_all [SprinklerdState.setEventZones]
  · rw [cycleEnded, zc_master_mask .zcOff rfl]
    exact (mark_again marked).symm

/-- The second request for a cycle finds it running, or finds no zone to run again. -/
theorem repeated_cycle_start (apart : Apart cfg) :
    SameEffect (zcZone cfg now .zcAll 0 .zcOn 0 st).1
      (zcZone cfg now .zcAll 0 .zcOn 0 (zcZone cfg now .zcAll 0 .zcOn 0 st).1).1 := by
  by_cases all : st.currentZone.type = .zcAll
  · have duplicate : duplicateRequest cfg .zcAll 0 .zcOn st = true := by
      rw [duplicate_all_on]
      exact decide_eq_true all
    rw [zc_zone_all now .zcOn st, if_pos duplicate]
    exact repeated_of_duplicate duplicate
  · have fresh : ¬ duplicateRequest cfg .zcAll 0 .zcOn st = true := by
      rw [duplicate_all_on]
      simpa using all
    have once := cycle_all_zones_cases apart now st
    rw [zc_zone_all now .zcOn st, if_neg fresh]
    by_cases found : (zonesAfter cfg 0).find? (runnable cfg st.defaultRuntime) = none
    · rw [if_pos found] at once
      simp only [once]
      have again := cycle_all_zones_cases apart now (emptyCycle cfg st)
      have runtime : (emptyCycle cfg st).defaultRuntime = st.defaultRuntime := by
        rw [← once]
        exact default_runtime_of_outside (cycle_all_zones_outside now .zcOn st)
      have idle : (emptyCycle cfg st).currentZone.type = .zcNone := by
        rw [emptyCycle, cycle_ended_record]
      rw [runtime, if_pos found] at again
      rw [zc_zone_all now .zcOn (emptyCycle cfg st), if_neg, again]
      · exact empty_cycle_again apart st
      · rw [duplicate_all_on, idle]
        decide
    · rw [if_neg found] at once
      apply repeated_of_duplicate
      rw [duplicate_all_on]
      exact decide_eq_true once

theorem repeated_cycle_stop :
    SameEffect (zcZone cfg now .zcAll 0 .zcOff 0 st).1
      (zcZone cfg now .zcAll 0 .zcOff 0 (zcZone cfg now .zcAll 0 .zcOff 0 st).1).1 := by
  apply repeated_of_duplicate
  rw [duplicate_all_off, zc_zone_all, duplicate_all_off]
  split_ifs with idle
  · exact idle
  · rfl

end Cycles

section Runs

def ListedRequest (cfg : SprinklerdCfg) (type : ZcRunType) (zone length : Int) : Prop :=
  (type = .zcSingle ∨ type = .zcCron) ∧ zone ∈ zoneList cfg ∨
    type = .zcAll ∧ zone = 0 ∧ length = 0

/-- What reads off at startup without a pin never reads on. -/
theorem reachable_apart (distinct : DistinctPins cfg) {st : SprinklerdState}
    (reached : Reachable (daemonStep cfg) (Startup cfg)
      (fun st event => ZoneNumbered cfg st event.2) st) : Apart cfg := by
  apply reachable_invariant (fun _ => Apart cfg) _ (fun _ _ apart _ => apart) reached
  intro st startup
  refine ⟨distinct, fun zone member invalid same => ?_⟩
  have off := startup.pinsOff zone member
  rw [zoneReadsOn, digital_read_invalid _ invalid, decide_eq_false_iff_not] at off
  exact off same

theorem reachable_cycling (apart : Apart cfg) {st : SprinklerdState}
    (reached : Reachable (daemonStep cfg) (Startup cfg)
      (fun st event => ZoneNumbered cfg st event.2) st) : Cycling cfg st.gpio st.currentZone := by
  apply reachable_invariant (fun st => Cycling cfg st.gpio st.currentZone) _ _ reached
  · intro st startup
    exact cycling_idle startup.idle
  · intro st event cycling numbered
    have performed : Cycling cfg (perform cfg event.1 st (operations cfg st event.2)).gpio
        (perform cfg event.1 st (operations cfg st event.2)).currentZone :=
      perform_invariant (fun st => Cycling cfg st.gpio st.currentZone) (TableRequest cfg)
        (fun st operation cycling request => (valve_outcome_drives cycling
          (apply_operation_valves apart event.1 st operation cycling request)).2)
        (fun operation asked => operations_in_table cycling.listed numbered asked) cycling
    have same := congrArg Operations.control (@daemon_step_controller cfg st event.1 event.2)
    rw [show (daemonStep cfg st event).gpio = _ from congrArg Prod.fst same,
      show (daemonStep cfg st event).currentZone = _ from congrArg Prod.snd same]
    exact performed

/-- A zone request that comes twice at the same time leaves the pins, the record and the
events of the first one, whatever the request and the state, if no pin is shared and the
clock has not gone back behind the start of the zone that a cycle runs. -/
theorem repeated_request_changes_nothing (distinct : DistinctPins cfg) (now : Int) {st : SprinklerdState}
    (reached : Reachable (daemonStep cfg) (Startup cfg)
      (fun st event => ZoneNumbered cfg st event.2) st)
    (begun : st.currentZone.type = .zcAll → st.currentZone.startedTime ≤ now)
    {type : ZcRunType} {zone length : Int} (state : ZcState)
    (request : ListedRequest cfg type zone length) :
    SameEffect (zcZone cfg now type zone state length st).1
      (zcZone cfg now type zone state length (zcZone cfg now type zone state length st).1).1 := by
  have apart := reachable_apart distinct reached
  rcases request with ⟨kind, listed⟩ | ⟨rfl, rfl, rfl⟩
  · have one : type ≠ .zcAll := by rcases kind with rfl | rfl <;> decide
    cases state with
    | zcOn => exact repeated_start apart.distinct one listed
    | zcOff => exact repeated_stop apart (reachable_cycling apart reached) begun one listed
  · cases state with
    | zcOn => exact repeated_cycle_start apart
    | zcOff => exact repeated_cycle_stop

def cycleAsked : TimedEvent :=
  (1000, .mqttMessage { topic := "/cycleallzones/set".toList, afterTopic := [],
                        payload := "1".toList, afterPayload := [] })

def cycleRunning (zonecfg : Int → GPIOcfg) : SprinklerdState :=
  daemonStep (benchCfg zonecfg) benchState cycleAsked

theorem repeated_request_skips_one_zone :
    SameEffect (zcZone (benchCfg benchWiring) 1060 .zcSingle 1 .zcOff 0 (cycleRunning benchWiring)).1
        (zcZone (benchCfg benchWiring) 1060 .zcSingle 1 .zcOff 0 (zcZone (benchCfg benchWiring) 1060
          .zcSingle 1 .zcOff 0 (cycleRunning benchWiring)).1).1 ∧
      (zcZone (benchCfg benchWiring) 1060 .zcSingle 1 .zcOff 0
        (cycleRunning benchWiring)).1.currentZone.zone = 2 :=
  ⟨repeated_request_changes_nothing bench_wired.distinct 1060
    (.next (.start bench_startup) cycleAsked trivial) (fun _ => by decide +kernel)
    .zcOff (Or.inl ⟨Or.inl rfl, by decide⟩), by decide +kernel⟩

def twinWiring (zone : Int) : GPIOcfg := if zone = 2 then benchWiring 1 else benchWiring zone

/-- On the shared pin the second stop of zone 1 skips zone 2; and with the clock set back
the first stop shortens the time of zone 1, and only the second one ends it. -/
theorem repeated_stop_skips_two_zones :
    Startup (benchCfg twinWiring) benchState ∧
      (zcZone (benchCfg twinWiring) 1060 .zcSingle 1 .zcOff 0
        (cycleRunning twinWiring)).1.currentZone.zone = 2 ∧
      (zcZone (benchCfg twinWiring) 1060 .zcSingle 1 .zcOff 0 (zcZone (benchCfg twinWiring) 1060
        .zcSingle 1 .zcOff 0 (cycleRunning twinWiring)).1).1.currentZone.type = .zcNone ∧
      (zcZone (benchCfg benchWiring) 900 .zcSingle 1 .zcOff 0
        (cycleRunning benchWiring)).1.currentZone.zone = 1 ∧
      (zcZone (benchCfg benchWiring) 900 .zcSingle 1 .zcOff 0 (zcZone (benchCfg benchWiring) 900
        .zcSingle 1 .zcOff 0 (cycleRunning benchWiring)).1).1.currentZone.zone = 2 := by
  refine ⟨⟨rfl, fun zone member => ?_, rfl⟩, by decide +kernel, by decide +kernel,
    by decide +kernel, by decide +kernel⟩
  rcases mem_bench_table.mp member with rfl | rfl | rfl <;> decide

end Runs

end SprinklerD.RepeatedRequest
