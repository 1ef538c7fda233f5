import SprinklerD.GuardedValves

/-!
# No zone is left on without a timer

As long as a zone reads on, the record names it and `zc_check` will turn it off. One
request breaks this: turning entry 0, the master valve, off while a zone is on. The
query handler passes it on as it is, and `zc_zone` clears the record of a zone that it
leaves on. The MQTT handler takes the same request for one to turn off the running zone.
-/

namespace SprinklerD.TimedZones

open Foundation.Transitions
open SprinklerD.Config SprinklerD.GpioPi SprinklerD.ZoneCtrl SprinklerD.ZoneValves
open SprinklerD.NetServices SprinklerD.Operations SprinklerD.Daemon SprinklerD.GuardedValves

set_option autoImplicit false

/-- A zone that reads on is the one whose time runs, and the first tick at which the
time is up turns it off. -/
def ZonesTimed (cfg : SprinklerdCfg) (st : SprinklerdState) : Prop :=
  ∀ zone ∈ zoneList cfg, zoneReadsOn cfg st.gpio zone = true →
    (st.currentZone.type ≠ .zcNone ∧ st.currentZone.zone = zone) ∧
    ∀ now, (calcTimeleft now st).currentZone.timeleft ≤ 0 →
      zoneReadsOn cfg (zcCheck cfg now st).1.gpio zone = false

def AsksMasterOff : Operation → Prop
  | .zone type zone state _ => type ≠ .zcAll ∧ zone = 0 ∧ state = .zcOff
  | _ => False

/-- A query that turns the master off while a zone reads on and no cycle runs. -/
def LeavesZoneOn (cfg : SprinklerdCfg) (st : SprinklerdState) : Event → Prop
  | .webRequest query stack =>
      (∃ operation ∈ operations cfg st (.webRequest query stack), AsksMasterOff operation) ∧
        st.currentZone.type ≠ .zcAll ∧
        ∃ zone ∈ zoneList cfg, zoneReadsOn cfg st.gpio zone = true
  | _ => False

variable {cfg : SprinklerdCfg}

section Ticks

theorem next_zone_keeps_off (apart : Apart cfg) (now : Int) {startz : Int}
    (st : SprinklerdState) (inside : 0 ≤ startz ∧ startz < cfg.zones)
    (off : ∀ zone ∈ zoneList cfg, zoneReadsOn cfg st.gpio zone = false)
    {zone : Int} (listed : zone ∈ zoneList cfg) (passed : zone ≤ startz) :
    zoneReadsOn cfg (startNextZone cfg now startz st).1.gpio zone = false := by
  have outcome := start_next_zone_outcome now st inside off
  generalize startNextZone cfg now startz st = result at outcome ⊢
  cases outcome with
  | ended =>
      rw [reads_on_cycle_ended apart _ (in_table_of_zone listed), if_neg (zone_ne_zero listed)]
      exact off zone listed
  | @started next found later nextListed =>
      rw [reads_on_cycle_started_other apart now _ nextListed listed (by omega)]
      exact off zone listed

theorem zc_check_ends_zone (apart : Apart cfg) {st : SprinklerdState}
    (timed : Timed cfg st.gpio st.currentZone) {zone : Int} (listed : zone ∈ zoneList cfg)
    (on : zoneReadsOn cfg st.gpio zone = true) {now : Int}
    (expired : (calcTimeleft now st).currentZone.timeleft ≤ 0) :
    zoneReadsOn cfg (zcCheck cfg now st).1.gpio zone = false := by
  obtain ⟨running, current⟩ := timed.valve zone listed on
  have recorded := fun other member reads => (timed.valve other member reads).2
  have outcome := zc_check_outcome cfg now st
  generalize zcCheck cfg now st = result at outcome ⊢
  cases outcome with
  | idle none => exact absurd none running
  | waiting _ left => omega
  | advanced all more =>
      have bounds := mem_zone_list.mp listed
      apply next_zone_keeps_off apart now _ ⟨by omega, more⟩ _ listed (le_of_eq current.symm)
      rw [zc_stop_gpio]
      exact off_after_stop apart (timed.listed running) recorded
  | finished =>
      simp only [zc_stop_gpio, zc_master_gpio, calc_timeleft_gpio]
      exact off_after_closing apart (timed.listed running) recorded zone listed

theorem zones_timed_of_timed (wired : WellWired cfg) {st : SprinklerdState}
    (timed : Timed cfg st.gpio st.currentZone) : ZonesTimed cfg st := by
  intro zone listed on
  constructor
  · exact timed.valve zone listed on
  · intro now expired
    exact zc_check_ends_zone wired.apart timed listed on expired

end Ticks

section Steps

/-- An operation keeps every zone timed, unless it closes the master under an open zone. -/
theorem apply_operation_timed (wired : WellWired cfg) (now : Int) (st : SprinklerdState)
    (operation : Operation) (timed : Timed cfg st.gpio st.currentZone)
    (request : TableRequest cfg operation)
    (attended : AsksOff st operation 0 →
      ∀ zone ∈ zoneList cfg, zoneReadsOn cfg st.gpio zone = false) :
    Timed cfg (applyOperation cfg now st operation).gpio
      (applyOperation cfg now st operation).currentZone := by
  have outcome := apply_operation_valves wired.apart now st operation (cycling_of_timed timed) request
  change Timed cfg (control (applyOperation cfg now st operation)).1
    (control (applyOperation cfg now st operation)).2
  generalize control (applyOperation cfg now st operation) = after at outcome ⊢
  cases outcome with
  | kept type zone => exact timed_same_run timed type zone
  | timed drives timed => exact timed
  | closed none named member =>
      apply timed_all_off _ (fun running => absurd none running)
      apply off_after_closing wired.apart member
      intro other listed on
      have current := (timed.valve other listed on).2
      rcases named with ⟨running, same⟩ | ⟨asked, reads⟩
      · rw [same]
        exact current
      · rcases member with zoneListed | ⟨rfl, -⟩
        · rw [← current]
          exact (timed.valve _ zoneListed (reads zoneListed)).2.symm
        · exact absurd on (Bool.eq_false_iff.mp (attended asked other listed))

theorem asks_off_master {st : SprinklerdState} {operation : Operation}
    (asked : AsksOff st operation 0) :
    AsksMasterOff operation ∧ st.currentZone.type ≠ .zcAll := by
  cases operation with
  | zone type zone state length => exact ⟨⟨asked.2.1, asked.1.symm, asked.2.2.1⟩, asked.2.2.2⟩
  | _ => exact absurd asked id

theorem not_master_off_of_other {operation : Operation}
    (other : isZoneRequest operation = false) : ¬ AsksMasterOff operation := by
  cases operation with
  | zone => cases other
  | _ => exact id

/-- No event asks for anything else together with turning the master off. -/
theorem master_off_alone {st : SprinklerdState} {event : Event} {operation : Operation}
    (asked : operation ∈ operations cfg st event) (off : AsksMasterOff operation) :
    operations cfg st event = [operation] := by
  rcases operations_alone asked with alone | ⟨zone, state, rfl, listed⟩
  · exact alone
  · exact absurd off.2.1 (zone_ne_zero listed)

/-- A message to turn the master off turns off the entry of the record instead. -/
theorem mqtt_master_off {message : MqttMessage} {st : SprinklerdState} {operation : Operation}
    (asked : mqttOperation cfg message st = some operation) (off : AsksMasterOff operation) :
    st.currentZone.type ≠ .zcNone ∧ st.currentZone.zone = 0 := by
  rcases mqtt_operation_checked asked with other | ⟨state, rfl⟩ | ⟨zone, state, rfl, listed⟩ |
    ⟨rfl, runs⟩
  · exact absurd off (not_master_off_of_other other)
  · exact absurd rfl off.1
  · exact absurd off.2.1 (zone_ne_zero listed)
  · exact ⟨runs, off.2.1⟩

/-- The requests to turn the master off that may come while zones are timed. -/
theorem master_off_attended {st : SprinklerdState} {event : Event}
    (timed : Timed cfg st.gpio st.currentZone) (numbered : ZoneNumbered cfg st event)
    (harmless : ¬ LeavesZoneOn cfg st event) {operation : Operation}
    (asked : operation ∈ operations cfg st event) (off : AsksOff st operation 0) :
    ∀ zone ∈ zoneList cfg, zoneReadsOn cfg st.gpio zone = false := by
  obtain ⟨master, noCycle⟩ := asks_off_master off
  intro zone listed
  rw [Bool.eq_false_iff]
  intro on
  cases event with
  | webRequest query stack => exact harmless ⟨⟨operation, asked, master⟩, noCycle, zone, listed, on⟩
  | mqttMessage message =>
      have current := (timed.valve zone listed on).2
      have zero := (mqtt_master_off (Option.mem_toList.mp asked) master).2
      exact zone_ne_zero listed (current.symm.trans zero)
  | domoticzMessage idx nvalue svalue =>
      rcases domoticz_operations_checked asked with ⟨-, other | ⟨state, rfl⟩⟩ |
        ⟨zone, state, rfl, entry⟩
      · exact not_master_off_of_other other master
      · exact master.1 rfl
      · exact zone_ne_zero entry master.2.1
  | call operation =>
      rw [List.mem_singleton.mp asked] at master
      exact not_master_off_of_other numbered master
  | checkCron => cases asked
  | broadcast dzCache mask => cases asked
  | filesOpen cacheOpens cronOpens => cases asked

theorem daemon_step_timed (wired : WellWired cfg) {st : SprinklerdState} {event : TimedEvent}
    (timed : Timed cfg st.gpio st.currentZone) (numbered : ZoneNumbered cfg st event.2)
    (harmless : ¬ LeavesZoneOn cfg st event.2) :
    Timed cfg (daemonStep cfg st event).gpio (daemonStep cfg st event).currentZone := by
  have requests : ∀ operation ∈ operations cfg st event.2, TableRequest cfg operation :=
    fun operation asked => operations_in_table timed.listed numbered asked
  change Timed cfg (controller (daemonStep cfg st (event.1, event.2))).gpio
    (controller (daemonStep cfg st (event.1, event.2))).currentZone
  rw [daemon_step_controller]
  by_cases closing : ∃ operation ∈ operations cfg st event.2, AsksMasterOff operation
  · obtain ⟨operation, asked, off⟩ := closing
    rw [master_off_alone asked off, perform_one]
    exact apply_operation_timed wired event.1 st operation timed (requests operation asked)
      (master_off_attended timed numbered harmless asked)
  · apply perform_invariant (fun st => Timed cfg st.gpio st.currentZone)
      (fun operation => TableRequest cfg operation ∧ ¬ AsksMasterOff operation) _ _ timed
    · intro st operation timed allowed
      exact apply_operation_timed wired event.1 st operation timed allowed.1
        fun off => absurd (asks_off_master off).1 allowed.2
    · intro operation asked
      exact ⟨requests operation asked, fun off => closing ⟨operation, asked, off⟩⟩

/-- Outside a cycle the master is closed and the record cleared, whatever runs. -/
theorem master_off_control (now : Int) {type : ZcRunType} (length : Int) {st : SprinklerdState}
    (one : type ≠ .zcAll) (noCycle : st.currentZone.type ≠ .zcAll) :
    control (applyOperation cfg now st (.zone type 0 .zcOff length)) =
      (driveOff cfg (driveMaster cfg .zcOff st.gpio) 0,
        { st.currentZone with type := .zcNone, zone := -1 }) := by
  have fresh : duplicateRequest cfg type 0 .zcOff st = false := by
    simp [duplicateRequest, one]
  simp [applyOperation, zcZone, fresh, one, turnZoneOff, noCycle, Operations.control]

theorem master_off_leaves_zone_on (wired : WellWired cfg) {st : SprinklerdState}
    {event : TimedEvent} (numbered : ZoneNumbered cfg st event.2)
    (leaves : LeavesZoneOn cfg st event.2) : ¬ ZonesTimed cfg (daemonStep cfg st event) := by
  obtain ⟨now, event⟩ := event
  cases event with
  | webRequest query stack =>
      obtain ⟨⟨operation, asked, off⟩, noCycle, zone, listed, on⟩ := leaves
      have effect := @daemon_step_controller cfg st now (.webRequest query stack)
      rw [master_off_alone asked off, perform_one] at effect
      cases operation with
      | zone type entry state length =>
          obtain ⟨one, rfl, rfl⟩ := off
          rw [operations] at asked
          split_ifs at asked
          · cases asked
          have member : InTable cfg 0 := in_table_zero.mpr
            ((numbered type 0 .zcOff length one (Option.mem_toList.mp asked)).2 rfl)
          have turned : control (daemonStep cfg st (now, .webRequest query stack)) =
              (driveOff cfg (driveMaster cfg .zcOff st.gpio) 0,
                { st.currentZone with type := .zcNone, zone := -1 }) :=
            (congrArg Operations.control effect).trans (master_off_control now length one noCycle)
          intro timed
          apply (timed zone listed _).1.1
          · exact congrArg (fun after => after.2.type) turned
          · rw [show (daemonStep cfg st (now, .webRequest query stack)).gpio = _ from
                congrArg Prod.fst turned,
              reads_on_drive_off wired.apart _ member (in_table_of_zone listed),
              if_neg (zone_ne_zero listed), master_keeps_zone wired.apart _ _ listed]
            exact on
      | _ => exact absurd off id
  | _ => exact absurd leaves id

end Steps

section Runs

theorem daemon_step_timed_iff (wired : WellWired cfg) {st : SprinklerdState} {event : TimedEvent}
    (timed : Timed cfg st.gpio st.currentZone) (numbered : ZoneNumbered cfg st event.2) :
    ZonesTimed cfg (daemonStep cfg st event) ↔ ¬ LeavesZoneOn cfg st event.2 := by
  constructor
  · intro kept leaves
    exact master_off_leaves_zone_on wired numbered leaves kept
  · intro harmless
    exact zones_timed_of_timed wired (daemon_step_timed wired timed numbered harmless)

theorem startup_timed {st : SprinklerdState} (startup : Startup cfg st) :
    Timed cfg st.gpio st.currentZone :=
  timed_all_off (fun zone listed => startup.pinsOff zone (in_table_of_zone listed))
    fun running => absurd startup.idle running

/-- In a run from startup every zone that reads on has its time running, after each
event, exactly when no query turns the master off under an open zone. -/
theorem zones_left_on_are_timed (wired : WellWired cfg) {st : SprinklerdState}
    (startup : Startup cfg st) (events : List TimedEvent)
    (numbered : Admitted (daemonStep cfg) (fun st event => ZoneNumbered cfg st event.2) st events) :
    (∀ done, done <+: events → ZonesTimed cfg (run (daemonStep cfg) st done)) ↔
      Admitted (daemonStep cfg) (fun st event => ¬ LeavesZoneOn cfg st event.2) st events := by
  have timed := startup_timed startup
  rw [prefixes_iff_admitted, and_iff_right (zones_timed_of_timed wired timed)]
  apply admitted_congr (fun st => Timed cfg st.gpio st.currentZone) _ _ timed numbered
  · intro st event timed numbered
    exact daemon_step_timed_iff wired timed numbered
  · intro st event timed numbered harmless
    exact daemon_step_timed wired timed numbered harmless

theorem zones_left_on_are_timed_watering :
    zoneReadsOn (benchCfg benchWiring)
        (run (daemonStep (benchCfg benchWiring)) benchState benchWatering).gpio 1 = true ∧
      ZonesTimed (benchCfg benchWiring)
        (run (daemonStep (benchCfg benchWiring)) benchState benchWatering) := by
  refine ⟨by decide +kernel, (zones_left_on_are_timed bench_wired bench_startup benchWatering
    bench_watering_numbered).mpr ⟨?_, trivial⟩ benchWatering (List.prefix_refl _)⟩
  rintro ⟨-, -, zone, listed, on⟩
  rw [bench_startup.pinsOff zone (in_table_of_zone listed)] at on
  cases on

/-- The master is turned off while zone 1 is watering: zone 1 stays on and nothing runs. -/
theorem master_off_query_leaves_zone_on :
    Startup (benchCfg benchWiring) benchState ∧
      Admitted (daemonStep (benchCfg benchWiring))
        (fun st event => ZoneNumbered (benchCfg benchWiring) st event.2) benchState
        (benchWatering ++ [(1060, .webRequest "type=zone&zone=0&state=off".toList [])]) ∧
      zoneReadsOn (benchCfg benchWiring) (run (daemonStep (benchCfg benchWiring)) benchState
        (benchWatering ++ [(1060, .webRequest "type=zone&zone=0&state=off".toList [])])).gpio 1 =
          true ∧
      (run (daemonStep (benchCfg benchWiring)) benchState (benchWatering ++
        [(1060, .webRequest "type=zone&zone=0&state=off".toList [])])).currentZone.type =
          .zcNone := by
  have request : (webOperation (benchCfg benchWiring) "type=zone&zone=0&state=off".toList []
      (run (daemonStep (benchCfg benchWiring)) benchState benchWatering)).bind zoneRequest =
      some (.zcSingle, 0, .zcOff, 0) := by decide +kernel
  refine ⟨bench_startup, admitted_append.mpr ⟨bench_watering_numbered, ?_, trivial⟩,
    by decide +kernel, by decide +kernel⟩
  exact numbered_of_request request (le_refl 0) fun _ => rfl

end Runs

end SprinklerD.TimedZones
