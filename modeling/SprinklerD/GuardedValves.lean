import SprinklerD.Daemon

/-!
# One valve at a time

The zone functions open a zone only after every other zone has been closed. Each
request and each tick is a sequence of guarded valve moves, and leaves the record in
one of three ways: as it was, cleared, or set for the zone that has been opened. The
lemmas hold for zones on pins that cannot be driven, too.
-/

namespace SprinklerD.GuardedValves

open SprinklerD.Config SprinklerD.GpioPi SprinklerD.ZoneCtrl SprinklerD.ZoneValves
open SprinklerD.Operations SprinklerD.Daemon

set_option autoImplicit false

/-- Valve moves in which a zone is opened only while all zones read off. -/
inductive Drives (cfg : SprinklerdCfg) (start : Gpio) : Gpio → Prop where
  | rest : Drives cfg start start
  | close {gpio : Gpio} (drives : Drives cfg start gpio) {zone : Int}
      (member : InTable cfg zone) : Drives cfg start (driveOff cfg gpio zone)
  | openMaster {gpio : Gpio} (drives : Drives cfg start gpio) (member : InTable cfg 0) :
      Drives cfg start (driveOn cfg gpio 0)
  | openZone {gpio : Gpio} (drives : Drives cfg start gpio) {zone : Int}
      (member : InTable cfg zone)
      (off : ∀ other ∈ zoneList cfg, zoneReadsOn cfg gpio other = false) :
      Drives cfg start (driveOn cfg gpio zone)

/-- A zone that reads on is the zone of the record, whose time is running. -/
structure Timed (cfg : SprinklerdCfg) (gpio : Gpio) (record : SzRunning) : Prop where
  valve : ∀ zone ∈ zoneList cfg, zoneReadsOn cfg gpio zone = true →
    record.type ≠ .zcNone ∧ record.zone = zone
  listed : record.type ≠ .zcNone → InTable cfg record.zone

/-- Less than `Timed`: only during a cycle must the record name the zone that is on. -/
structure Cycling (cfg : SprinklerdCfg) (gpio : Gpio) (record : SzRunning) : Prop where
  valve : record.type = .zcAll →
    ∀ zone ∈ zoneList cfg, zoneReadsOn cfg gpio zone = true → record.zone = zone
  listed : record.type ≠ .zcNone → InTable cfg record.zone

variable {cfg : SprinklerdCfg}

section Moves

theorem drives_trans {first second third : Gpio} (before : Drives cfg first second)
    (after : Drives cfg second third) : Drives cfg first third := by
  induction after with
  | rest => exact before
  | close _ member ih => exact .close ih member
  | openMaster _ member ih => exact .openMaster ih member
  | openZone _ member off ih => exact .openZone ih member off

theorem drives_master (state : ZcState) (gpio : Gpio) :
    Drives cfg gpio (driveMaster cfg state gpio) := by
  unfold driveMaster
  cases master : cfg.masterValve with
  | false => exact .rest
  | true =>
      have member := in_table_zero.mpr master
      cases state with
      | zcOn => exact .openMaster .rest member
      | zcOff => exact .close .rest member

/-- The moves that end a run: the master is closed, then a zone. -/
theorem drives_closed {zone : Int} (member : InTable cfg zone) (gpio : Gpio) :
    Drives cfg gpio (driveOff cfg (driveMaster cfg .zcOff gpio) zone) :=
  .close (drives_master .zcOff gpio) member

theorem drives_stop_every {zones : List Int} (listed : ∀ zone ∈ zones, zone ∈ zoneList cfg)
    (st : SprinklerdState) : Drives cfg st.gpio (stopEveryZone cfg zones st).gpio := by
  induction zones generalizing st with
  | nil => exact .rest
  | cons zone zones ih =>
      have member := in_table_of_zone (listed zone (by simp))
      have tail := ih (fun later inside => listed later (List.mem_cons_of_mem _ inside))
        (zcStop cfg zone (zcMaster cfg .zcOff st)).1
      rw [stop_every_cons]
      refine drives_trans ?_ tail
      rw [zc_stop_gpio, zc_master_gpio]
      exact drives_closed member st.gpio

theorem drives_stop_other (requested : Int) {zones : List Int}
    (listed : ∀ zone ∈ zones, zone ∈ zoneList cfg) (st : SprinklerdState) :
    Drives cfg st.gpio (stopOtherZones cfg requested zones st).1.gpio := by
  induction zones generalizing st with
  | nil => exact .rest
  | cons zone zones ih =>
      have tail := ih fun later inside => listed later (List.mem_cons_of_mem _ inside)
      simp only [stopOtherZones]
      split_ifs
      · exact .rest
      · refine drives_trans ?_ (tail _)
        rw [zc_stop_gpio]
        exact .close .rest (in_table_of_zone (listed zone (by simp)))
      · exact tail st

end Moves

section Records

theorem timed_all_off {gpio : Gpio} {record : SzRunning}
    (off : ∀ zone ∈ zoneList cfg, zoneReadsOn cfg gpio zone = false)
    (listed : record.type ≠ .zcNone → InTable cfg record.zone) : Timed cfg gpio record where
  valve zone member on := by simp [off zone member] at on
  listed := listed

theorem timed_same_run {gpio : Gpio} {record record' : SzRunning} (timed : Timed cfg gpio record)
    (type : record'.type = record.type) (zone : record'.zone = record.zone) :
    Timed cfg gpio record' where
  valve := by rw [type, zone]; exact timed.valve
  listed := by rw [type, zone]; exact timed.listed

theorem cycling_of_timed {gpio : Gpio} {record : SzRunning} (timed : Timed cfg gpio record) :
    Cycling cfg gpio record where
  valve _ zone member on := (timed.valve zone member on).2
  listed := timed.listed

theorem cycling_same_run {gpio : Gpio} {record record' : SzRunning}
    (cycling : Cycling cfg gpio record) (type : record'.type = record.type)
    (zone : record'.zone = record.zone) : Cycling cfg gpio record' where
  valve := by rw [type, zone]; exact cycling.valve
  listed := by rw [type, zone]; exact cycling.listed

theorem cycling_idle {gpio : Gpio} {record : SzRunning} (none : record.type = .zcNone) :
    Cycling cfg gpio record where
  valve all := by rw [none] at all; cases all
  listed running := absurd none running

end Records

section NextZone

/-- A zone opened while all others are off, with the master, is the only one on. -/
theorem timed_opened (apart : Apart cfg) {gpio : Gpio} (record : SzRunning)
    (running : record.type ≠ .zcNone) (member : InTable cfg record.zone)
    (off : ∀ zone ∈ zoneList cfg, zoneReadsOn cfg gpio zone = false) :
    Timed cfg (driveMaster cfg .zcOn (driveOn cfg gpio record.zone)) record where
  valve zone listed on := by
    refine ⟨running, ?_⟩
    by_contra other
    rw [master_keeps_zone apart _ _ listed, reads_on_drive_on_other apart _ member
      (in_table_of_zone listed) fun same => other same.symm, off zone listed] at on
    cases on
  listed _ := member

theorem next_zone_timed (apart : Apart cfg) (now : Int) {startz : Int} (st : SprinklerdState)
    (inside : 0 ≤ startz ∧ startz < cfg.zones)
    (off : ∀ zone ∈ zoneList cfg, zoneReadsOn cfg st.gpio zone = false)
    (type : ZcRunType) (running : type ≠ .zcNone) :
    Drives cfg st.gpio (startNextZone cfg now startz st).1.gpio ∧
      ((startNextZone cfg now startz st).2 = -1 ∧
          Timed cfg (startNextZone cfg now startz st).1.gpio
            (startNextZone cfg now startz st).1.currentZone ∨
        (startNextZone cfg now startz st).2 ≠ -1 ∧
          (startNextZone cfg now startz st).1.currentZone.type = st.currentZone.type ∧
          Timed cfg (startNextZone cfg now startz st).1.gpio
            { (startNextZone cfg now startz st).1.currentZone with type := type }) := by
  have outcome := start_next_zone_outcome now st inside off
  generalize startNextZone cfg now startz st = result at outcome ⊢
  cases outcome with
  | ended =>
      have moves : Drives cfg st.gpio (cycleEnded cfg st.setEventZones).gpio := by
        rw [cycleEnded, zc_master_gpio]
        exact drives_master .zcOff st.gpio
      refine ⟨moves, Or.inl ⟨rfl, timed_all_off (fun zone listed => ?_) (by simp)⟩⟩
      rw [reads_on_cycle_ended apart _ (in_table_of_zone listed), if_neg (zone_ne_zero listed)]
      exact off zone listed
  | @started next found later listed =>
      have member := in_table_of_zone listed
      have gpio : (cycleStarted cfg now next st.setEventZones).gpio =
          driveMaster cfg .zcOn (driveOn cfg st.gpio next) := by
        simp [cycleStarted, calcTimeleft, SprinklerdState.setEventZones]
      have opened := timed_opened apart
        { (cycleStarted cfg now next st.setEventZones).currentZone with type := type }
        running (by simpa [calcTimeleft] using member) off
      refine ⟨?_, Or.inr ⟨by simp only; omega,
        by simp [calcTimeleft, SprinklerdState.setEventZones], ?_⟩⟩
      · rw [gpio]
        exact drives_trans (.openZone .rest member off) (drives_master .zcOn _)
      · rw [gpio]
        simpa [calcTimeleft] using opened

end NextZone

section Outcomes

/-- The ways an operation can leave the pins and the record. A run that is closed is
that of the record, or of a zone that `asksOff`. -/
inductive ValveOutcome (cfg : SprinklerdCfg) (asksOff : Int → Prop) (before : Gpio × SzRunning) :
    Gpio × SzRunning → Prop where
  | kept {record : SzRunning} (type : record.type = before.2.type)
      (zone : record.zone = before.2.zone) : ValveOutcome cfg asksOff before (before.1, record)
  | closed {record : SzRunning} {zone : Int} (none : record.type = .zcNone)
      (named : (before.2.type ≠ .zcNone ∧ zone = before.2.zone) ∨ asksOff zone)
      (member : InTable cfg zone) : ValveOutcome cfg asksOff before
        (driveOff cfg (driveMaster cfg .zcOff before.1) zone, record)
  | timed {gpio : Gpio} {record : SzRunning} (drives : Drives cfg before.1 gpio)
      (timed : Timed cfg gpio record) : ValveOutcome cfg asksOff before (gpio, record)

theorem valve_outcome_same_run {asksOff : Int → Prop} {before before' after : Gpio × SzRunning}
    (gpio : before'.1 = before.1) (type : before'.2.type = before.2.type)
    (zone : before'.2.zone = before.2.zone) (outcome : ValveOutcome cfg asksOff before' after) :
    ValveOutcome cfg asksOff before after := by
  cases outcome with
  | kept sameType sameZone =>
      rw [gpio]
      exact .kept (sameType.trans type) (sameZone.trans zone)
  | closed none named member =>
      rw [gpio]
      rw [type, zone] at named
      exact .closed none named member
  | timed drives timed =>
      rw [gpio] at drives
      exact .timed drives timed

theorem valve_outcome_drives {asksOff : Int → Prop} {before after : Gpio × SzRunning}
    (cycling : Cycling cfg before.1 before.2) (outcome : ValveOutcome cfg asksOff before after) :
    Drives cfg before.1 after.1 ∧ Cycling cfg after.1 after.2 := by
  cases outcome with
  | kept type zone => exact ⟨.rest, cycling_same_run cycling type zone⟩
  | closed none named member => exact ⟨drives_closed member before.1, cycling_idle none⟩
  | timed drives timed => exact ⟨drives, cycling_of_timed timed⟩

theorem zc_check_valves (apart : Apart cfg) (asksOff : Int → Prop) (now : Int)
    (st : SprinklerdState) (cycling : Cycling cfg st.gpio st.currentZone) :
    ValveOutcome cfg asksOff (control st) (control (zcCheck cfg now st).1) := by
  have outcome := zc_check_outcome cfg now st
  generalize zcCheck cfg now st = result at outcome ⊢
  cases outcome with
  | idle => exact .kept rfl rfl
  | waiting => exact .kept rfl rfl
  | advanced all more expired =>
      have running : st.currentZone.type ≠ .zcNone := by simp [all]
      have member := cycling.listed running
      have lower : 0 ≤ st.currentZone.zone := by
        rcases member with listed | ⟨zero, -⟩
        · exact le_trans (by decide) (mem_zone_list.mp listed).1
        · exact zero.ge
      have stopped : ∀ zone ∈ zoneList cfg, zoneReadsOn cfg
          (zcStop cfg st.currentZone.zone (calcTimeleft now st)).1.gpio zone = false := by
        rw [zc_stop_gpio]
        exact off_after_stop apart member (cycling.valve all)
      obtain ⟨moves, handed⟩ := next_zone_timed apart now _ ⟨lower, more⟩ stopped .zcAll (by simp)
      have closing : Drives cfg st.gpio
          (zcStop cfg st.currentZone.zone (calcTimeleft now st)).1.gpio := by
        rw [zc_stop_gpio]
        exact .close .rest member
      refine .timed (drives_trans closing moves) ?_
      rcases handed with ⟨-, ended⟩ | ⟨-, type, started⟩
      · exact ended
      · refine timed_same_run started ?_ rfl
        simpa [all] using type
  | finished running last expired =>
      have closed : control { (zcStop cfg st.currentZone.zone
          (zcMaster cfg .zcOff (calcTimeleft now st))).1 with
            currentZone := { (calcTimeleft now st).currentZone with
              type := .zcNone, zone := -1, timeleft := 0 } } =
          (driveOff cfg (driveMaster cfg .zcOff st.gpio) st.currentZone.zone,
            { (calcTimeleft now st).currentZone with
              type := .zcNone, zone := -1, timeleft := 0 }) := by
        simp [Operations.control]
      rw [closed]
      exact .closed rfl (Or.inl ⟨running, rfl⟩) (cycling.listed running)

theorem cycle_all_zones_valves (apart : Apart cfg) (now : Int) (state : ZcState)
    (st : SprinklerdState) :
    Drives cfg st.gpio (cycleAllZones cfg now state st).gpio ∧
      Timed cfg (cycleAllZones cfg now state st).gpio
        (cycleAllZones cfg now state st).currentZone := by
  have stopping : Drives cfg st.gpio (stopEveryZone cfg (zoneList cfg) st).gpio :=
    drives_stop_every (fun _ listed => listed) st
  have off : ∀ zone ∈ zoneList cfg,
      zoneReadsOn cfg (stopEveryZone cfg (zoneList cfg) st).gpio zone = false := by
    intro zone listed
    rw [reads_on_stop_every apart st (fun _ inside => inside) (in_table_of_zone listed),
      if_pos (Or.inl listed)]
  obtain ⟨moves, handed⟩ := next_zone_timed apart now
    { stopEveryZone cfg (zoneList cfg) st with
      currentZone := { (stopEveryZone cfg (zoneList cfg) st).currentZone with type := .zcNone } }
    ⟨le_refl 0, by exact_mod_cast cfg.zonesPositive⟩ off .zcAll (by simp)
  unfold cycleAllZones
  simp only
  split_ifs with on started
  · refine ⟨drives_trans stopping moves, ?_⟩
    rcases handed with ended | opened
    · exact absurd ended.1 started
    · exact opened.2.2
  · refine ⟨drives_trans stopping moves, ?_⟩
    rcases handed with ended | opened
    · exact ended.2
    · exact absurd opened.1 started
  · exact ⟨stopping, timed_all_off off (by simp)⟩

theorem turn_zone_on_valves (apart : Apart cfg) (now : Int) {type : ZcRunType}
    (running : type ≠ .zcNone) {zone : Int} (length : Int) (st : SprinklerdState)
    (member : InTable cfg zone)
    (off : zone ∈ zoneList cfg → zoneReadsOn cfg st.gpio zone = false)
    (listed : st.currentZone.type ≠ .zcNone → InTable cfg st.currentZone.zone) :
    Drives cfg st.gpio (turnZoneOn cfg now type zone length st).1.gpio ∧
      Timed cfg (turnZoneOn cfg now type zone length st).1.gpio
        (turnZoneOn cfg now type zone length st).1.currentZone := by
  have stopping : Drives cfg st.gpio (stopOtherZones cfg zone (zoneList cfg) st).1.gpio :=
    drives_stop_other zone (fun _ inside => inside) st
  have missed : (stopOtherZones cfg zone (zoneList cfg) st).2 = false :=
    stop_other_missed apart st (fun _ inside => inside) off
  have stopped : ∀ other ∈ zoneList cfg,
      zoneReadsOn cfg (stopOtherZones cfg zone (zoneList cfg) st).1.gpio other = false := by
    intro other inside
    rw [reads_on_stop_other apart st (fun _ inside => inside) off (in_table_of_zone inside),
      if_pos inside]
  unfold turnZoneOn
  simp only [missed, Bool.false_eq_true, if_false]
  by_cases opened : (zcStart cfg zone (stopOtherZones cfg zone (zoneList cfg) st).1).2 = true
  · simp only [opened, if_true, calc_timeleft_gpio, zc_master_gpio, zc_start_gpio]
    refine ⟨drives_trans (.openZone stopping member stopped) (drives_master .zcOn _), ?_⟩
    refine timed_same_run (timed_opened apart
      { st.currentZone with type := type, zone := zone } running member stopped) rfl rfl
  · simp only [opened, Bool.false_eq_true, if_false, zc_start_gpio, zc_start_record,
      stop_other_record]
    refine ⟨.openZone stopping member stopped, timed_all_off (fun other inside => ?_) listed⟩
    by_cases same : other = zone
    · subst same
      have refused : ¬ validGPIO (cfg.zonecfg other).pin = true := fun valid =>
        opened ((zc_start_result other _).mpr ⟨stopped other inside, valid⟩)
      rw [driveOn, digital_write_refused _ _ (Bool.eq_false_iff.mpr refused), ite_self]
      exact stopped other inside
    · rw [reads_on_drive_on_other apart _ member (in_table_of_zone inside) same]
      exact stopped other inside

/-- A request to turn an entry of the table off while no cycle runs, which closes it
whatever the record says. -/
def AsksOff (st : SprinklerdState) : Operation → Int → Prop
  | .zone type zone state _, closed =>
      closed = zone ∧ type ≠ .zcAll ∧ state = .zcOff ∧ st.currentZone.type ≠ .zcAll
  | _, _ => False

theorem zc_zone_valves (apart : Apart cfg) (now : Int) {type : ZcRunType} {zone : Int}
    {state : ZcState} {length : Int} (st : SprinklerdState)
    (cycling : Cycling cfg st.gpio st.currentZone)
    (request : TableRequest cfg (.zone type zone state length)) :
    ValveOutcome cfg (fun closed => AsksOff st (.zone type zone state length) closed ∧
        (closed ∈ zoneList cfg → zoneReadsOn cfg st.gpio closed = true)) (control st)
      (control (zcZone cfg now type zone state length st).1) := by
  have outcome := zc_zone_outcome cfg now type zone state length st
  generalize zcZone cfg now type zone state length st = result at outcome ⊢
  cases outcome with
  | ignored => exact .kept rfl rfl
  | blocked => exact .kept rfl rfl
  | noRuntime => exact .kept rfl rfl
  | cycled fresh all =>
      have moves := cycle_all_zones_valves apart now state st
      exact .timed moves.1 moves.2
  | turnedOn fresh one on lasting free =>
      obtain ⟨kind, member⟩ := request.resolve_right fun all => one all.1
      have running : type ≠ .zcNone := by rcases kind with rfl | rfl <;> simp
      have moves := turn_zone_on_valves apart now running (requestLength zone length st) st member
        (fun listed => by
          have bounds := mem_zone_list.mp listed
          simpa [duplicateRequest, on, show 0 < zone by omega, bounds.2] using fresh)
        cycling.listed
      exact .timed moves.1 moves.2
  | turnedOff fresh one off =>
      obtain ⟨kind, member⟩ := request.resolve_right fun all => one all.1
      have on : zone ∈ zoneList cfg → zoneReadsOn cfg st.gpio zone = true := fun listed => by
        have bounds := mem_zone_list.mp listed
        simpa [duplicateRequest, off, show 0 < zone by omega, bounds.2] using fresh
      unfold turnZoneOff
      by_cases all : st.currentZone.type = .zcAll
      · rw [if_pos all]
        refine valve_outcome_same_run ?_ ?_ ?_ (zc_check_valves apart _ now _ ?_)
        · rfl
        · rfl
        · rfl
        · exact cycling_same_run cycling rfl rfl
      · rw [if_neg all]
        have closed : control { (zcStop cfg zone (zcMaster cfg .zcOff st)).1 with
            currentZone := { (zcStop cfg zone (zcMaster cfg .zcOff st)).1.currentZone with
              type := .zcNone, zone := -1 } } =
            (driveOff cfg (driveMaster cfg .zcOff st.gpio) zone,
              { st.currentZone with type := .zcNone, zone := -1 }) := by
          simp [Operations.control]
        simp only [closed]
        exact .closed rfl (Or.inr ⟨⟨rfl, one, off, all⟩, on⟩) member

theorem rain_stopped_valves (asksOff : Int → Prop) {gpio : Gpio} {record : SzRunning}
    (cycling : Cycling cfg gpio record) :
    ValveOutcome cfg asksOff (gpio, record) (rainStopped cfg (gpio, record)) := by
  unfold rainStopped
  simp only
  split_ifs with stops
  · have running : record.type ≠ .zcNone := by simp [stops.1]
    exact .closed rfl (Or.inl ⟨running, rfl⟩) (cycling.listed running)
  · exact .kept rfl rfl

/-- Everything a request for the table, a tick or any other operation does to the
valves and the record. -/
theorem apply_operation_valves (apart : Apart cfg) (now : Int) (st : SprinklerdState)
    (operation : Operation) (cycling : Cycling cfg st.gpio st.currentZone)
    (request : TableRequest cfg operation) :
    ValveOutcome cfg (fun closed => AsksOff st operation closed ∧
        (closed ∈ zoneList cfg → zoneReadsOn cfg st.gpio closed = true)) (control st)
      (control (applyOperation cfg now st operation)) := by
  by_cases runs : runsZones operation
  · cases operation with
    | zone type zone state length => exact zc_zone_valves apart now st cycling request
    | check => exact zc_check_valves apart _ now st cycling
    | setDefaultRuntime zone runtime =>
        simp only [applyOperation, zcUpdateRuntime]
        split_ifs <;> exact .kept rfl rfl
    | _ => exact absurd runs id
  · rw [apply_operation_control cfg now st operation runs]
    split_ifs
    · exact rain_stopped_valves _ cycling
    · exact .kept rfl rfl

end Outcomes

end SprinklerD.GuardedValves
