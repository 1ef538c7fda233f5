import SprinklerD.Operations
import SprinklerD.Foundation.Transitions

/-!
# The running record agrees with the valves

With sound pins the record, the zone valves and the master valve say the same
thing between any two operations. The agreement is stated on the pins and the
record alone, shown for each operation from the list of its outcomes, and then
carried along runs.
-/

namespace SprinklerD.ValveAgreement

open Foundation.Transitions
open SprinklerD.Config SprinklerD.GpioPi SprinklerD.ZoneCtrl SprinklerD.ZoneValves
open SprinklerD.Operations

set_option autoImplicit false

/-- A wiring in which every entry of the table has a pin that can be driven. -/
structure SoundWiring (cfg : SprinklerdCfg) : Prop extends WellWired cfg where
  valid : ∀ zone, InTable cfg zone → validGPIO (cfg.zonecfg zone).pin = true

/-- Nothing reads on while nothing runs; otherwise exactly the zone of the record
reads on, together with the master valve. -/
structure Agrees (cfg : SprinklerdCfg) (gpio : Gpio) (record : SzRunning) : Prop where
  idle : record.type = .zcNone →
    ∀ zone, InTable cfg zone → zoneReadsOn cfg gpio zone = false
  listed : record.type ≠ .zcNone → record.zone ∈ zoneList cfg
  valve : record.type ≠ .zcNone →
    ∀ zone ∈ zoneList cfg, zoneReadsOn cfg gpio zone = decide (zone = record.zone)
  master : record.type ≠ .zcNone → cfg.masterValve = true → zoneReadsOn cfg gpio 0 = true

variable {cfg : SprinklerdCfg}

theorem agrees_same_run {gpio : Gpio} {record record' : SzRunning} (agrees : Agrees cfg gpio record)
    (type : record'.type = record.type) (zone : record'.zone = record.zone) :
    Agrees cfg gpio record' where
  idle none := agrees.idle (type ▸ none)
  listed some := zone ▸ agrees.listed (type ▸ some)
  valve some := zone ▸ agrees.valve (type ▸ some)
  master some := agrees.master (type ▸ some)

theorem agrees_all_off {gpio : Gpio} {record : SzRunning} (none : record.type = .zcNone)
    (off : ∀ zone, InTable cfg zone → zoneReadsOn cfg gpio zone = false) :
    Agrees cfg gpio record where
  idle _ := off
  listed some := absurd none some
  valve some := absurd none some
  master some := absurd none some

/-- One zone of an otherwise closed system has been opened, and the master with it. -/
theorem agrees_opened {gpio : Gpio} {record : SzRunning} (listed : record.zone ∈ zoneList cfg)
    (some : record.type ≠ .zcNone)
    (opened : ∀ zone, InTable cfg zone →
      zoneReadsOn cfg gpio zone = decide (zone = 0 ∨ zone = record.zone)) :
    Agrees cfg gpio record where
  idle none := absurd none some
  listed _ := listed
  valve _ zone member := by
    have notMaster := zone_ne_zero member
    simpa [notMaster] using opened zone (in_table_of_zone member)
  master _ master := by simpa using opened 0 (in_table_zero.mpr master)

/-- Closing the master and the running zone closes everything. -/
theorem closed_after_run (wired : WellWired cfg) {gpio : Gpio} {record : SzRunning}
    (agrees : Agrees cfg gpio record) (running : record.type ≠ .zcNone) {zone : Int}
    (member : InTable cfg zone) :
    zoneReadsOn cfg (driveOff cfg (driveMaster cfg .zcOff gpio) record.zone) zone = false := by
  rw [reads_on_drive_off wired.apart _ (in_table_of_zone (agrees.listed running)) member,
    reads_on_drive_master wired _ _ member]
  rcases member with listed | ⟨rfl, -⟩
  · rw [agrees.valve running zone listed]
    split_ifs with same notMaster <;> simp_all
  · simp

/-- Handing over to the next zone from a state in which every zone reads off. -/
theorem agrees_next_zone (sound : SoundWiring cfg) (now : Int) {startz : Int}
    (st : SprinklerdState) (inside : 0 ≤ startz ∧ startz < cfg.zones)
    (off : ∀ zone ∈ zoneList cfg, zoneReadsOn cfg st.gpio zone = false)
    (type : ZcRunType) (some : type ≠ .zcNone) :
    (startNextZone cfg now startz st).2 = -1 ∧
        Agrees cfg (startNextZone cfg now startz st).1.gpio
          (startNextZone cfg now startz st).1.currentZone ∨
      (startNextZone cfg now startz st).2 ≠ -1 ∧
        (startNextZone cfg now startz st).1.currentZone.type = st.currentZone.type ∧
        Agrees cfg (startNextZone cfg now startz st).1.gpio
          { (startNextZone cfg now startz st).1.currentZone with type := type } := by
  have outcome := start_next_zone_outcome now st inside off
  generalize startNextZone cfg now startz st = result at outcome ⊢
  cases outcome with
  | ended =>
      refine Or.inl ⟨rfl, agrees_all_off (by simp) fun zone member => ?_⟩
      rw [reads_on_cycle_ended sound.toWellWired.apart _ member]
      rcases member with listed | ⟨rfl, -⟩
      · exact (if_neg (zone_ne_zero listed)).trans (off zone listed)
      · exact if_pos rfl
  | @started next found later listed =>
      refine Or.inr ⟨by simp only; omega, by simp [calcTimeleft, SprinklerdState.setEventZones],
        agrees_opened (by simpa [calcTimeleft] using listed) some fun zone member => ?_⟩
      rw [reads_on_cycle_started sound.toWellWired now _ listed member]
      simp only [cycle_started_record, calcTimeleft]
      rcases member with zoneListed | ⟨rfl, master⟩
      · by_cases same : zone = next
        · subst same
          simp [sound.valid zone (in_table_of_zone zoneListed), zone_ne_zero zoneListed]
        · have closed : zoneReadsOn cfg st.setEventZones.gpio zone = false := off zone zoneListed
          simp [same, zone_ne_zero zoneListed, closed]
      · simp [sound.valid 0 (in_table_zero.mpr master)]

theorem zc_check_agrees (sound : SoundWiring cfg) (now : Int) (st : SprinklerdState)
    (agrees : Agrees cfg st.gpio st.currentZone) :
    Agrees cfg (zcCheck cfg now st).1.gpio (zcCheck cfg now st).1.currentZone := by
  have wired := sound.toWellWired
  have outcome := zc_check_outcome cfg now st
  generalize zcCheck cfg now st = result at outcome ⊢
  cases outcome with
  | idle => exact agrees
  | waiting => exact agrees_same_run agrees rfl rfl
  | advanced all more expired =>
      have running : st.currentZone.type ≠ .zcNone := by simp [all]
      have listed := agrees.listed running
      have stopped : ∀ zone ∈ zoneList cfg, zoneReadsOn cfg
          (zcStop cfg st.currentZone.zone (calcTimeleft now st)).1.gpio zone = false := by
        rw [zc_stop_gpio]
        apply off_after_stop wired.apart (in_table_of_zone listed)
        intro zone member on
        rw [calc_timeleft_gpio, agrees.valve running zone member, decide_eq_true_eq] at on
        exact on.symm
      have bounds := mem_zone_list.mp listed
      rcases agrees_next_zone sound now _ ⟨by omega, more⟩ stopped .zcAll (by simp) with
        ended | ⟨-, type, started⟩
      · exact ended.2
      · refine agrees_same_run started ?_ rfl
        simpa [all] using type
  | finished running last expired =>
      apply agrees_all_off rfl
      intro zone member
      simp only [zc_stop_gpio, zc_master_gpio, calc_timeleft_gpio]
      exact closed_after_run wired agrees running member

/-- The requests whose numbers the front ends have checked: one zone of the table,
or all of them. -/
def CheckedRequest (cfg : SprinklerdCfg) : Operation → Prop
  | .zone type zone _ length =>
      (type = .zcSingle ∨ type = .zcCron) ∧ zone ∈ zoneList cfg ∨
        type = .zcAll ∧ zone = 0 ∧ length = 0
  | _ => True

theorem cycle_all_zones_agrees (sound : SoundWiring cfg) (now : Int) (state : ZcState)
    (st : SprinklerdState) :
    Agrees cfg (cycleAllZones cfg now state st).gpio
      (cycleAllZones cfg now state st).currentZone := by
  have off : ∀ zone, InTable cfg zone →
      zoneReadsOn cfg (stopEveryZone cfg (zoneList cfg) st).gpio zone = false := by
    intro zone member
    rw [reads_on_stop_every sound.toWellWired.apart st (fun _ listed => listed) member, if_pos]
    exact member.imp id fun valve => ⟨valve.1, zone_list_ne_nil⟩
  unfold cycleAllZones
  simp only
  split_ifs with on started
  · rcases agrees_next_zone sound now
      { stopEveryZone cfg (zoneList cfg) st with
        currentZone := { (stopEveryZone cfg (zoneList cfg) st).currentZone with type := .zcNone } }
      ⟨le_refl 0, by exact_mod_cast cfg.zonesPositive⟩
      (fun zone listed => off zone (in_table_of_zone listed)) .zcAll (by simp) with
      ended | ⟨-, -, agrees⟩
    · exact absurd ended.1 started
    · exact agrees
  · rcases agrees_next_zone sound now
      { stopEveryZone cfg (zoneList cfg) st with
        currentZone := { (stopEveryZone cfg (zoneList cfg) st).currentZone with type := .zcNone } }
      ⟨le_refl 0, by exact_mod_cast cfg.zonesPositive⟩
      (fun zone listed => off zone (in_table_of_zone listed)) .zcAll (by simp) with
      ended | running
    · exact ended.2
    · exact absurd running.1 started
  · exact agrees_all_off rfl off

theorem turn_zone_on_agrees (sound : SoundWiring cfg) (now : Int) {type : ZcRunType}
    (some : type ≠ .zcNone) {zone : Int} (length : Int) (st : SprinklerdState)
    (listed : zone ∈ zoneList cfg) (off : zoneReadsOn cfg st.gpio zone = false) :
    Agrees cfg (turnZoneOn cfg now type zone length st).1.gpio
      (turnZoneOn cfg now type zone length st).1.currentZone := by
  have wired := sound.toWellWired
  have missed : (stopOtherZones cfg zone (zoneList cfg) st).2 = false :=
    stop_other_missed wired.apart st (fun _ member => member) fun _ => off
  have stopped (other : Int) (member : InTable cfg other) :
      zoneReadsOn cfg (stopOtherZones cfg zone (zoneList cfg) st).1.gpio other =
        if other ∈ zoneList cfg then false else zoneReadsOn cfg st.gpio other :=
    reads_on_stop_other wired.apart st (fun _ inside => inside) (fun _ => off) member
  have opened : (zcStart cfg zone (stopOtherZones cfg zone (zoneList cfg) st).1).2 = true :=
    (zc_start_result zone _).mpr
      ⟨by rw [stopped zone (in_table_of_zone listed), if_pos listed],
        sound.valid zone (in_table_of_zone listed)⟩
  simp only [turnZoneOn, missed, opened, Bool.false_eq_true, if_false, if_true]
  apply agrees_opened listed some
  intro other member
  simp only [calcTimeleft, zc_master_gpio, zc_start_gpio]
  rw [reads_on_drive_master wired _ _ member,
    reads_on_drive_on wired _ (in_table_of_zone listed) member, stopped other member]
  rcases member with otherListed | ⟨rfl, master⟩
  · by_cases same : other = zone
    · subst same
      simp [zone_ne_zero listed, sound.valid other (in_table_of_zone listed)]
    · simp [zone_ne_zero otherListed, same, otherListed]
  · simp [sound.valid 0 (in_table_zero.mpr master)]

theorem turn_zone_off_agrees (sound : SoundWiring cfg) (now : Int) {zone : Int}
    (st : SprinklerdState) (agrees : Agrees cfg st.gpio st.currentZone)
    (listed : zone ∈ zoneList cfg) (on : zoneReadsOn cfg st.gpio zone = true) :
    Agrees cfg (turnZoneOff cfg now zone st).gpio (turnZoneOff cfg now zone st).currentZone := by
  have running : st.currentZone.type ≠ .zcNone := by
    intro none
    simp [agrees.idle none zone (in_table_of_zone listed)] at on
  have current : zone = st.currentZone.zone := by
    simpa [on] using agrees.valve running zone listed
  unfold turnZoneOff
  split_ifs with all
  · exact zc_check_agrees sound now _ (agrees_same_run agrees rfl rfl)
  · apply agrees_all_off rfl
    intro other member
    simp only [zc_stop_gpio, zc_master_gpio]
    subst current
    exact closed_after_run sound.toWellWired agrees running member

theorem zc_zone_agrees (sound : SoundWiring cfg) (now : Int) (type : ZcRunType) (zone : Int)
    (state : ZcState) (length : Int) (st : SprinklerdState)
    (agrees : Agrees cfg st.gpio st.currentZone)
    (checked : CheckedRequest cfg (.zone type zone state length)) :
    Agrees cfg (zcZone cfg now type zone state length st).1.gpio
      (zcZone cfg now type zone state length st).1.currentZone := by
  have outcome := zc_zone_outcome cfg now type zone state length st
  generalize zcZone cfg now type zone state length st = result at outcome ⊢
  cases outcome with
  | ignored => exact agrees
  | blocked => exact agrees
  | noRuntime => exact agrees
  | cycled => exact cycle_all_zones_agrees sound now state st
  | turnedOn fresh one on =>
      obtain ⟨kind, listed⟩ := checked.resolve_right fun all => one all.1
      have bounds := mem_zone_list.mp listed
      refine turn_zone_on_agrees sound now ?_ _ st listed ?_
      · rcases kind with rfl | rfl <;> simp
      · simpa [duplicateRequest, on, show 0 < zone by omega, bounds.2] using fresh
  | turnedOff fresh one off =>
      obtain ⟨-, listed⟩ := checked.resolve_right fun all => one all.1
      have bounds := mem_zone_list.mp listed
      apply turn_zone_off_agrees sound now st agrees listed
      simpa [duplicateRequest, off, show 0 < zone by omega, bounds.2] using fresh

/-- A starting rain delay ends a run that cron started and touches no other. -/
theorem rain_stopped_agrees (sound : SoundWiring cfg) {gpio : Gpio} {record : SzRunning}
    (agrees : Agrees cfg gpio record) :
    (record.type = .zcCron →
      (rainStopped cfg (gpio, record)).2.type = .zcNone ∧
        ∀ zone, InTable cfg zone →
          zoneReadsOn cfg (rainStopped cfg (gpio, record)).1 zone = false) ∧
      (record.type ≠ .zcCron → rainStopped cfg (gpio, record) = (gpio, record)) := by
  constructor
  · intro cron
    have running : record.type ≠ .zcNone := by simp [cron]
    have listed := agrees.listed running
    have bounds := mem_zone_list.mp listed
    have stops : record.type = .zcCron ∧ 0 < record.zone ∧
        (record.zone ≤ cfg.zones → zoneReadsOn cfg gpio record.zone = true) :=
      ⟨cron, by omega, fun _ => by simp [agrees.valve running _ listed]⟩
    simp only [rainStopped, if_pos stops, true_and]
    intro zone member
    exact closed_after_run sound.toWellWired agrees running member
  · intro other
    exact by rw [rainStopped, if_neg fun stops => other stops.1]

theorem rain_stopped_keeps_agreement (sound : SoundWiring cfg) {gpio : Gpio}
    {record : SzRunning} (agrees : Agrees cfg gpio record) :
    Agrees cfg (rainStopped cfg (gpio, record)).1 (rainStopped cfg (gpio, record)).2 := by
  have effect := rain_stopped_agrees sound agrees
  by_cases cron : record.type = .zcCron
  · exact agrees_all_off (effect.1 cron).1 (effect.1 cron).2
  · rw [effect.2 cron]
    exact agrees

theorem apply_operation_agrees (sound : SoundWiring cfg) (now : Int) (st : SprinklerdState)
    (operation : Operation) (agrees : Agrees cfg st.gpio st.currentZone)
    (checked : CheckedRequest cfg operation) :
    Agrees cfg (applyOperation cfg now st operation).gpio
      (applyOperation cfg now st operation).currentZone := by
  by_cases runs : runsZones operation
  · cases operation with
    | zone type zone state length =>
        exact zc_zone_agrees sound now type zone state length st agrees checked
    | check => exact zc_check_agrees sound now st agrees
    | setDefaultRuntime zone runtime =>
        simp only [applyOperation, zcUpdateRuntime]
        split_ifs
        · exact agrees_same_run agrees rfl rfl
        · exact agrees
    | _ => exact absurd runs id
  · have effect := apply_operation_control cfg now st operation runs
    have kept : Agrees cfg (control (applyOperation cfg now st operation)).1
        (control (applyOperation cfg now st operation)).2 := by
      rw [effect]
      split_ifs
      · exact rain_stopped_keeps_agreement sound agrees
      · exact agrees
    exact kept

/-- The states that checked requests, ticks and rain operations lead to. -/
abbrev CheckedRun (cfg : SprinklerdCfg) : SprinklerdState → Prop :=
  Reachable (timedStep cfg) (Startup cfg) fun _ event => CheckedRequest cfg event.2

theorem checked_run_agrees (sound : SoundWiring cfg) {st : SprinklerdState}
    (reached : CheckedRun cfg st) : Agrees cfg st.gpio st.currentZone :=
  reachable_invariant (fun st => Agrees cfg st.gpio st.currentZone)
    (fun _ startup => agrees_all_off startup.idle startup.pinsOff)
    (fun st event agrees checked =>
      apply_operation_agrees sound event.1 st event.2 agrees checked) reached

theorem bench_sound : SoundWiring (benchCfg benchWiring) where
  toWellWired := bench_wired
  valid zone member := by
    rcases mem_bench_table.mp member with rfl | rfl | rfl <;> decide

/-- In every reachable state the record, the zone valves and the master valve agree. -/
theorem valves_match_record (sound : SoundWiring cfg) {st : SprinklerdState}
    (reached : CheckedRun cfg st) :
    (st.currentZone.type = .zcNone →
      ∀ zone, InTable cfg zone → zoneReadsOn cfg st.gpio zone = false) ∧
    (st.currentZone.type ≠ .zcNone →
      (1 ≤ st.currentZone.zone ∧ st.currentZone.zone ≤ cfg.zones) ∧
      (∀ zone ∈ zoneList cfg,
        zoneReadsOn cfg st.gpio zone = decide (zone = st.currentZone.zone)) ∧
      (cfg.masterValve = true → zoneReadsOn cfg st.gpio 0 = true)) := by
  have agrees := checked_run_agrees sound reached
  refine ⟨agrees.idle, fun running => ⟨?_, agrees.valve running, agrees.master running⟩⟩
  exact mem_zone_list.mp (agrees.listed running)

def benchRunning (type : ZcRunType) : SprinklerdState :=
  timedStep (benchCfg benchWiring) benchState (1000, .zone type 2 .zcOn 5)

theorem bench_running_reached {type : ZcRunType} (one : type = .zcSingle ∨ type = .zcCron) :
    CheckedRun (benchCfg benchWiring) (benchRunning type) :=
  .next (.start bench_startup) _ (Or.inl ⟨one, mem_zone_list.mpr (by decide)⟩)

theorem valves_match_record_running :
    (benchRunning .zcSingle).currentZone.type ≠ .zcNone ∧
      ∀ zone ∈ zoneList (benchCfg benchWiring),
        zoneReadsOn (benchCfg benchWiring) (benchRunning .zcSingle).gpio zone =
          decide (zone = (benchRunning .zcSingle).currentZone.zone) :=
  have running : (benchRunning .zcSingle).currentZone.type ≠ .zcNone := by decide
  ⟨running, ((valves_match_record bench_sound
    (bench_running_reached (Or.inl rfl))).2 running).2.1⟩

end SprinklerD.ValveAgreement
