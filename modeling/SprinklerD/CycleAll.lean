import SprinklerD.Operations
import SprinklerD.Foundation.Rotation

/-!
# Cycling all zones

Once a cycle request has been accepted and only the tick runs, the controller
serves the runnable zones as a rotation serves its jobs. The zones switched on
are read off the log of pin writes, not off the running record.
-/

namespace SprinklerD.CycleAll

open Foundation Foundation.MachineInt Foundation.Transitions
open SprinklerD.Config SprinklerD.GpioPi SprinklerD.ZoneCtrl SprinklerD.ZoneValves
open SprinklerD.Operations

set_option autoImplicit false

variable (cfg : SprinklerdCfg)

def zoneOpened (write : Int × Bool) : Option Int :=
  (zoneList cfg).find? fun zone =>
    (cfg.zonecfg zone).pin = write.1 ∧ write.2 = decide ((cfg.zonecfg zone).onState ≠ 0)

def openedZones (gpio : Gpio) : List Int := gpio.writes.reverse.filterMap (zoneOpened cfg)

def cyclePlan (defaultRuntime : Int → Int) (after : Int) : List Int :=
  (zonesAfter cfg after).filter (runnable cfg defaultRuntime)

def tickStep (st : SprinklerdState) (now : Int) : SprinklerdState := (zcCheck cfg now st).1

def cycleSeconds (defaultRuntime : Int → Int) (zone : Int) : Int :=
  sec2Min * defaultRuntime zone

variable {cfg}

section Log

theorem opened_zones_write (gpio : Gpio) (pin level : Int) :
    openedZones cfg (digitalWrite gpio pin level).1 =
      openedZones cfg gpio ++
        if validGPIO pin then (zoneOpened cfg (pin, decide (level ≠ 0))).toList else [] := by
  unfold digitalWrite openedZones
  generalize decide (level ≠ 0) = high
  split_ifs
  · cases opened : zoneOpened cfg (pin, high) <;> simp [opened]
  · simp

theorem opened_zones_drive_off (wired : WellWired cfg) {zone : Int} (gpio : Gpio)
    (member : InTable cfg zone) :
    openedZones cfg (driveOff cfg gpio zone) = openedZones cfg gpio := by
  unfold driveOff
  by_cases off : zoneReadsOn cfg gpio zone = false
  · rw [if_pos off]
  · have valid := valid_of_reads_on wired.apart member (by simpa using off)
    rw [if_neg off, opened_zones_write, if_pos valid]
    have nobody : zoneOpened cfg ((cfg.zonecfg zone).pin,
        decide ((if (cfg.zonecfg zone).onState = 0 then (1 : Int) else 0) ≠ 0)) = none := by
      refine List.find?_eq_none.mpr fun other listed opens => ?_
      rw [decide_eq_true_eq] at opens
      have same := wired.distinct zone other member (in_table_of_zone listed) valid opens.1.symm
      subst same
      by_cases low : (cfg.zonecfg zone).onState = 0 <;> simp [low] at opens
    rw [nobody, Option.toList_none, List.append_nil]

theorem opened_zones_drive_master (wired : WellWired cfg) (state : ZcState) (gpio : Gpio) :
    openedZones cfg (driveMaster cfg state gpio) = openedZones cfg gpio := by
  unfold driveMaster
  by_cases master : cfg.masterValve = false
  · rw [if_pos master]
  · have member : InTable cfg 0 := in_table_zero.mpr (by simpa using master)
    rw [if_neg master]
    split_ifs
    · unfold driveOn
      split_ifs
      · rfl
      · rw [opened_zones_write]
        split_ifs with valid
        · have nobody : zoneOpened cfg ((cfg.zonecfg 0).pin,
              decide ((cfg.zonecfg 0).onState ≠ 0)) = none := by
            refine List.find?_eq_none.mpr fun other listed opens => ?_
            rw [decide_eq_true_eq] at opens
            exact zone_ne_zero listed (wired.distinct 0 other member (in_table_of_zone listed)
              valid opens.1.symm).symm
          rw [nobody, Option.toList_none, List.append_nil]
        · rw [List.append_nil]
    · exact opened_zones_drive_off wired gpio member

theorem opened_zones_drive_on (wired : WellWired cfg) {zone : Int} (gpio : Gpio)
    (listed : zone ∈ zoneList cfg) (off : zoneReadsOn cfg gpio zone = false)
    (valid : validGPIO (cfg.zonecfg zone).pin = true) :
    openedZones cfg (driveOn cfg gpio zone) = openedZones cfg gpio ++ [zone] := by
  have opened : zoneOpened cfg ((cfg.zonecfg zone).pin,
      decide ((cfg.zonecfg zone).onState ≠ 0)) = some zone := by
    cases found : zoneOpened cfg ((cfg.zonecfg zone).pin,
        decide ((cfg.zonecfg zone).onState ≠ 0)) with
    | none => simpa using List.find?_eq_none.mp found zone listed
    | some other =>
        have opens := List.find?_some found
        rw [decide_eq_true_eq] at opens
        have same := wired.distinct zone other (in_table_of_zone listed)
          (in_table_of_zone (List.mem_of_find?_eq_some found)) valid opens.1.symm
        rw [same]
  rw [driveOn, if_neg (by simp [off]), opened_zones_write, if_pos valid, opened]
  rfl

theorem opened_zones_stop_every (wired : WellWired cfg) {zones : List Int} (st : SprinklerdState)
    (listed : ∀ zone ∈ zones, zone ∈ zoneList cfg) :
    openedZones cfg (stopEveryZone cfg zones st).gpio = openedZones cfg st.gpio := by
  induction zones generalizing st with
  | nil => rfl
  | cons zone rest ih =>
      rw [stop_every_cons, ih _ fun later tail => listed later (List.mem_cons_of_mem _ tail),
        zc_stop_gpio, opened_zones_drive_off wired _ (in_table_of_zone (listed zone (by simp))),
        zc_master_gpio, opened_zones_drive_master wired]

end Log

section Plan

theorem filter_zones_from {left : Nat} {first next : Int} {p : Int → Bool}
    (bound : first + left = cfg.zones + 1)
    (found : (zonesFrom left first).find? p = some next) :
    (zonesFrom left first).filter p = next :: (zonesAfter cfg next).filter p := by
  induction left generalizing first with
  | zero => simp [zonesFrom] at found
  | succ left ih =>
      rw [zonesFrom, List.find?_cons] at found
      cases head : p first with
      | true =>
          rw [head] at found
          obtain rfl := Option.some.inj found
          have rest : (cfg.zones - first).toNat = left := by
            push_cast at bound
            omega
          rw [zonesFrom, List.filter_cons_of_pos head, zonesAfter, rest]
      | false =>
          rw [head] at found
          rw [zonesFrom, List.filter_cons_of_neg (by simp [head])]
          exact ih (by push_cast at bound ⊢; omega) found

/-- The first runnable zone and the plan after it make up the plan. -/
theorem cycle_plan_next {defaultRuntime : Int → Int} {after next : Int}
    (inside : after < cfg.zones)
    (found : (zonesAfter cfg after).find? (runnable cfg defaultRuntime) = some next) :
    cyclePlan cfg defaultRuntime after = next :: cyclePlan cfg defaultRuntime next :=
  filter_zones_from (by omega) found

theorem cycle_plan_none {defaultRuntime : Int → Int} {after : Int}
    (nobody : (zonesAfter cfg after).find? (runnable cfg defaultRuntime) = none) :
    cyclePlan cfg defaultRuntime after = [] :=
  List.filter_eq_nil_iff.mpr (List.find?_eq_none.mp nobody)

theorem cycle_plan_end (defaultRuntime : Int → Int) {after : Int}
    (last : (cfg.zones : Int) ≤ after) : cyclePlan cfg defaultRuntime after = [] := by
  have nobody : zonesAfter cfg after = [] := by
    rw [zonesAfter, show (cfg.zones - after).toNat = 0 by omega]
    rfl
  rw [cyclePlan, nobody]
  rfl

theorem zones_after_zero : zonesAfter cfg 0 = zoneList cfg := by
  simp [zonesAfter, zoneList]

end Plan

section Rotation

/-- The zone `zone` has been running since `start`, as the only one. -/
structure RunsZone (cfg : SprinklerdCfg) (defaultRuntime : Int → Int) (zone start : Int)
    (st : SprinklerdState) : Prop where
  listed : zone ∈ zoneList cfg
  lasting : 0 < defaultRuntime zone
  type : st.currentZone.type = .zcAll
  current : st.currentZone.zone = zone
  started : st.currentZone.startedTime = start
  duration : st.currentZone.duration = defaultRuntime zone
  alone : ∀ other ∈ zoneList cfg, zoneReadsOn cfg st.gpio other = decide (other = zone)

def AllClosed (cfg : SprinklerdCfg) (st : SprinklerdState) : Prop :=
  st.currentZone.type = .zcNone ∧ ∀ zone, InTable cfg zone → zoneReadsOn cfg st.gpio zone = false

/-- The controller is where a rotation is. `before` are the zones switched on
before the cycle began. -/
structure Follows (cfg : SprinklerdCfg) (defaultRuntime : Int → Int) (before : List Int)
    (st : SprinklerdState) (rotation : Rotation Int) : Prop where
  runtimes : st.defaultRuntime = defaultRuntime
  log : openedZones cfg st.gpio = before ++ rotation.served.map Prod.fst
  running : ∀ zone start, rotation.current = some (zone, start) →
    RunsZone cfg defaultRuntime zone start st ∧
      rotation.waiting = cyclePlan cfg defaultRuntime zone
  closed : rotation.current = none → AllClosed cfg st

theorem all_closed_of_zones_off (wired : WellWired cfg) {st : SprinklerdState}
    (off : ∀ zone ∈ zoneList cfg, zoneReadsOn cfg st.gpio zone = false) :
    AllClosed cfg (cycleEnded cfg st) := by
  refine ⟨by simp, fun zone member => ?_⟩
  rw [reads_on_cycle_ended wired.apart st member]
  rcases member with listed | ⟨rfl, -⟩
  · exact (if_neg (zone_ne_zero listed)).trans (off zone listed)
  · exact if_pos rfl

/-- With every zone off, `start_next_zone` gives the turn to the next job. -/
theorem follows_next_zone (wired : WellWired cfg) (now : Int) {after : Int}
    {before : List Int} {defaultRuntime : Int → Int} (st : SprinklerdState)
    (rotation : Rotation Int) (inside : 0 ≤ after ∧ after < cfg.zones)
    (runtimes : st.defaultRuntime = defaultRuntime)
    (off : ∀ zone ∈ zoneList cfg, zoneReadsOn cfg st.gpio zone = false)
    (log : openedZones cfg st.gpio = before ++ rotation.served.map Prod.fst)
    (waiting : rotation.waiting = cyclePlan cfg defaultRuntime after) :
    (startNextZone cfg now after st).2 = -1 ∧
        Follows cfg defaultRuntime before (startNextZone cfg now after st).1
          (rotation.next now) ∨
      (startNextZone cfg now after st).2 ≠ -1 ∧
        (startNextZone cfg now after st).1.currentZone.type = st.currentZone.type ∧
        Follows cfg defaultRuntime before
          { (startNextZone cfg now after st).1 with currentZone :=
            { (startNextZone cfg now after st).1.currentZone with type := .zcAll } }
          (rotation.next now) := by
  subst runtimes
  have outcome := start_next_zone_outcome now st inside off
  generalize startNextZone cfg now after st = result at outcome ⊢
  cases outcome with
  | ended found =>
      have moved : rotation.next now = { rotation with current := none } := by
        rw [Rotation.next, waiting, cycle_plan_none found]
      rw [moved]
      refine Or.inl ⟨rfl, default_runtime_of_outside (zc_master_outside .zcOff _), ?_, by simp,
        fun _ => all_closed_of_zones_off wired off⟩
      rw [cycleEnded, zc_master_gpio, opened_zones_drive_master wired]
      exact log
  | @started next found later listed =>
      have runs := List.find?_some found
      simp only [runnable, decide_eq_true_eq] at runs
      have moved : rotation.next now =
          { served := rotation.served ++ [(next, now)], current := some (next, now),
            waiting := cyclePlan cfg st.defaultRuntime next } := by
        rw [Rotation.next, waiting, cycle_plan_next inside.2 found]
      rw [moved]
      have pins : (cycleStarted cfg now next st.setEventZones).gpio =
          driveMaster cfg .zcOn (driveOn cfg st.gpio next) := by
        simp only [cycleStarted, calcTimeleft, zc_master_gpio, zc_start_gpio]
        rfl
      refine Or.inr ⟨by simp only; omega, by simp [SprinklerdState.setEventZones], ?_, ?_,
        fun zone start turn => ?_, by simp⟩
      · simp [cycleStarted, calcTimeleft, SprinklerdState.setEventZones]
      · simp only [pins]
        rw [opened_zones_drive_master wired,
          opened_zones_drive_on wired _ listed (off next listed) runs.2, log]
        simp
      · simp only [Option.some.injEq, Prod.mk.injEq] at turn
        obtain ⟨rfl, rfl⟩ := turn
        refine ⟨⟨listed, runs.1, rfl, by simp, by simp [calcTimeleft], ?_, ?_⟩, rfl⟩
        · simp [calcTimeleft, SprinklerdState.setEventZones]
        · intro other otherListed
          have closed : zoneReadsOn cfg st.setEventZones.gpio other = false :=
            off other otherListed
          simp only [reads_on_cycle_started wired now st.setEventZones listed
            (in_table_of_zone otherListed), if_neg (zone_ne_zero otherListed), closed]
          by_cases same : other = next <;> simp [same, runs.2]

theorem accepted_request_follows (wired : WellWired cfg) (now : Int) (st : SprinklerdState)
    (accepted : (zcZone cfg now .zcAll 0 .zcOn 0 st).2 = true) :
    Follows cfg st.defaultRuntime (openedZones cfg st.gpio)
      (zcZone cfg now .zcAll 0 .zcOn 0 st).1
      (Rotation.begin now (cyclePlan cfg st.defaultRuntime 0)) := by
  have outcome := zc_zone_outcome cfg now .zcAll 0 .zcOn 0 st
  generalize zcZone cfg now .zcAll 0 .zcOn 0 st = result at outcome accepted ⊢
  cases outcome with
  | ignored => exact absurd accepted (by simp)
  | blocked cron => cases cron
  | noRuntime => exact absurd accepted (by simp)
  | turnedOn fresh one => exact absurd rfl one
  | turnedOff fresh one => exact absurd rfl one
  | cycled =>
      have runtime : (stopEveryZone cfg (zoneList cfg) st).defaultRuntime = st.defaultRuntime :=
        default_runtime_of_outside (stop_every_outside (zoneList cfg) st)
      have off : ∀ zone ∈ zoneList cfg,
          zoneReadsOn cfg (stopEveryZone cfg (zoneList cfg) st).gpio zone = false := by
        intro zone listed
        rw [reads_on_stop_every wired.apart st (fun _ member => member) (in_table_of_zone listed),
          if_pos (Or.inl listed)]
      have handed := follows_next_zone wired now
        { stopEveryZone cfg (zoneList cfg) st with currentZone :=
          { (stopEveryZone cfg (zoneList cfg) st).currentZone with type := .zcNone } }
        ⟨[], none, cyclePlan cfg st.defaultRuntime 0⟩
        ⟨le_refl 0, by exact_mod_cast cfg.zonesPositive⟩ runtime off
        (by simpa using opened_zones_stop_every wired st fun _ listed => listed) rfl
      simp only [cycleAllZones, if_true]
      rcases handed with ⟨none, follows⟩ | ⟨some, -, follows⟩
      · rw [if_neg (not_not.mpr none)]
        exact follows
      · rw [if_pos some]
        exact follows

theorem running_timeleft (now : Int) {defaultRuntime : Int → Int} {zone start : Int}
    {st : SprinklerdState}
    (fits : ∀ zone ∈ zoneList cfg, cycleSeconds defaultRuntime zone < 2 ^ 31)
    (runs : RunsZone cfg defaultRuntime zone start st) :
    (calcTimeleft now st).currentZone.timeleft ≤ 0 ↔
      cycleSeconds defaultRuntime zone ≤ now - start := by
  have bounds := mem_zone_list.mp runs.listed
  have upper := fits zone runs.listed
  have lower := runs.lasting
  simp only [cycleSeconds, sec2Min] at upper ⊢
  simp only [calcTimeleft, runs.current, runs.started, runs.duration, sec2Min]
  rw [if_pos (by omega), saturate32_nonpos, wrap32_of_fits (by omega) (by omega)]
  omega

/-- The tick after the last zone closes the master and the zone. -/
theorem finished_follows (wired : WellWired cfg) (now : Int) {before : List Int}
    {defaultRuntime : Int → Int} {zone start : Int} {st : SprinklerdState}
    {rotation : Rotation Int} (follows : Follows cfg defaultRuntime before st rotation)
    (runs : RunsZone cfg defaultRuntime zone start st) :
    Follows cfg defaultRuntime before
      { (zcStop cfg zone (zcMaster cfg .zcOff (calcTimeleft now st))).1 with
        currentZone := { (calcTimeleft now st).currentZone with
          type := .zcNone, zone := -1, timeleft := 0 } }
      { rotation with current := none } where
  runtimes := by
    apply (default_runtime_of_outside (zc_stop_outside zone _)).trans
    rw [zc_master_runtime]
    exact follows.runtimes
  log := by
    simp only [zc_stop_gpio, zc_master_gpio, calc_timeleft_gpio]
    rw [opened_zones_drive_off wired _ (in_table_of_zone runs.listed),
      opened_zones_drive_master wired]
    exact follows.log
  running := by simp
  closed := by
    intro _
    refine ⟨rfl, fun other member => ?_⟩
    simp only [zc_stop_gpio, zc_master_gpio, calc_timeleft_gpio]
    rw [reads_on_drive_off wired.apart _ (in_table_of_zone runs.listed) member,
      reads_on_drive_master wired _ _ member]
    rcases member with listed | ⟨rfl, -⟩
    · rw [runs.alone other listed]
      by_cases same : other = zone <;> simp [same]
    · simp

/-- One tick of the controller is one look at the rotation. -/
theorem tick_follows (wired : WellWired cfg) (now : Int) {before : List Int}
    {defaultRuntime : Int → Int} {st : SprinklerdState} {rotation : Rotation Int}
    (fits : ∀ zone ∈ zoneList cfg, cycleSeconds defaultRuntime zone < 2 ^ 31)
    (follows : Follows cfg defaultRuntime before st rotation) :
    Follows cfg defaultRuntime before (tickStep cfg st now)
      (rotation.tick (cycleSeconds defaultRuntime) now) := by
  cases current : rotation.current with
  | none =>
      have closed := follows.closed current
      rw [Rotation.tick_done current, tickStep, zcCheck, if_pos closed.1]
      exact follows
  | some turn =>
      obtain ⟨zone, start⟩ := turn
      obtain ⟨runs, waiting⟩ := follows.running zone start current
      have bounds := mem_zone_list.mp runs.listed
      have left := running_timeleft now fits runs
      have notIdle : st.currentZone.type ≠ .zcNone := by simp [runs.type]
      have stopped : ∀ other ∈ zoneList cfg,
          zoneReadsOn cfg (driveOff cfg st.gpio zone) other = false := by
        apply off_after_stop wired.apart (in_table_of_zone runs.listed)
        intro other otherListed on
        rw [runs.alone other otherListed, decide_eq_true_eq] at on
        exact on.symm
      unfold tickStep
      have outcome := zc_check_outcome cfg now st
      generalize zcCheck cfg now st = result at outcome ⊢
      cases outcome with
      | idle none => exact absurd none notIdle
      | waiting _ positive =>
          rw [Rotation.tick_waits current (not_le.mp fun late => not_lt.mpr (left.mpr late) positive)]
          refine ⟨follows.runtimes, follows.log, fun other since turn => ?_, fun none => ?_⟩
          · obtain ⟨same, rest⟩ := follows.running other since turn
            exact ⟨⟨same.listed, same.lasting, same.type, same.current, same.started,
              same.duration, same.alone⟩, rest⟩
          · simp [current] at none
      | advanced all more expired =>
          rw [Rotation.tick_moves current (left.mp expired), runs.current]
          rw [runs.current] at more
          have runtimes : (zcStop cfg zone (calcTimeleft now st)).1.defaultRuntime =
              defaultRuntime :=
            (default_runtime_of_outside (zc_stop_outside zone _)).trans follows.runtimes
          have type : (zcStop cfg zone (calcTimeleft now st)).1.currentZone.type = .zcAll := by
            rw [zc_stop_record, calc_timeleft_type, all]
          rcases follows_next_zone wired now _ _ ⟨by omega, more⟩ runtimes
            (by simpa using stopped)
            (by simpa [opened_zones_drive_off wired _ (in_table_of_zone runs.listed)]
              using follows.log) waiting with ⟨-, ended⟩ | ⟨-, kept, moved⟩
          · exact ended
          · have same := kept.trans type
            simpa only [← same] using moved
      | finished _ last expired =>
          have tail := last runs.type
          rw [runs.current] at tail ⊢
          have moved : rotation.next now = { rotation with current := none } := by
            rw [Rotation.next, waiting, cycle_plan_end defaultRuntime tail]
          rw [Rotation.tick_moves current (left.mp expired), moved]
          exact finished_follows wired now follows runs

/-- The cycle after a request at `now` and some ticks. -/
def afterTicks (cfg : SprinklerdCfg) (now : Int) (st : SprinklerdState) (ticks : List Int) :
    SprinklerdState :=
  run (tickStep cfg) (zcZone cfg now .zcAll 0 .zcOn 0 st).1 ticks

def expectedCycle (cfg : SprinklerdCfg) (now : Int) (st : SprinklerdState) (ticks : List Int) :
    Rotation Int :=
  run (Rotation.tick (cycleSeconds st.defaultRuntime))
    (Rotation.begin now ((zoneList cfg).filter (runnable cfg st.defaultRuntime))) ticks

theorem run_ticks_follows (wired : WellWired cfg) {before : List Int}
    {defaultRuntime : Int → Int}
    (fits : ∀ zone ∈ zoneList cfg, cycleSeconds defaultRuntime zone < 2 ^ 31)
    (ticks : List Int) {st : SprinklerdState} {rotation : Rotation Int}
    (follows : Follows cfg defaultRuntime before st rotation) :
    Follows cfg defaultRuntime before (run (tickStep cfg) st ticks)
      (run (Rotation.tick (cycleSeconds defaultRuntime)) rotation ticks) := by
  induction ticks generalizing st rotation with
  | nil => exact follows
  | cons now rest ih => exact ih (tick_follows wired now fits follows)

theorem after_ticks_follows (wired : WellWired cfg) (now : Int) (st : SprinklerdState)
    (fits : ∀ zone ∈ zoneList cfg, cycleSeconds st.defaultRuntime zone < 2 ^ 31)
    (accepted : (zcZone cfg now .zcAll 0 .zcOn 0 st).2 = true) (ticks : List Int) :
    Follows cfg st.defaultRuntime (openedZones cfg st.gpio) (afterTicks cfg now st ticks)
      (expectedCycle cfg now st ticks) := by
  have begun := accepted_request_follows wired now st accepted
  rw [cyclePlan, zones_after_zero] at begun
  exact run_ticks_follows wired fits ticks begun

theorem early_tick_gpio {now : Int} {defaultRuntime : Int → Int} {zone start : Int}
    {st : SprinklerdState}
    (fits : ∀ zone ∈ zoneList cfg, cycleSeconds defaultRuntime zone < 2 ^ 31)
    (runs : RunsZone cfg defaultRuntime zone start st)
    (early : now - start < cycleSeconds defaultRuntime zone) :
    (tickStep cfg st now).gpio = st.gpio := by
  have running : st.currentZone.type ≠ .zcNone := by simp [runs.type]
  have lasting := not_le.mp fun expired =>
    not_le.mpr early ((running_timeleft now fits runs).mp expired)
  rw [tickStep, zc_check_waits cfg running lasting]
  exact calc_timeleft_gpio now st

theorem late_tick_closes (wired : WellWired cfg) {now : Int} {defaultRuntime : Int → Int}
    {before : List Int} {zone start : Int} {st : SprinklerdState} {rotation : Rotation Int}
    (fits : ∀ zone ∈ zoneList cfg, cycleSeconds defaultRuntime zone < 2 ^ 31)
    (follows : Follows cfg defaultRuntime before st rotation)
    (current : rotation.current = some (zone, start))
    (late : cycleSeconds defaultRuntime zone ≤ now - start) :
    zoneReadsOn cfg (tickStep cfg st now).gpio zone = false ∧
      (rotation.waiting = [] → AllClosed cfg (tickStep cfg st now)) := by
  obtain ⟨runs, waiting⟩ := follows.running zone start current
  have after := tick_follows wired now fits follows
  rw [Rotation.tick_moves current late] at after
  cases plan : rotation.waiting with
  | nil =>
      have done : (rotation.next now).current = none := by rw [Rotation.next, plan]
      have closed := after.closed done
      exact ⟨closed.2 zone (in_table_of_zone runs.listed), fun _ => closed⟩
  | cons next rest =>
      have turn : (rotation.next now).current = some (next, now) := by rw [Rotation.next, plan]
      obtain ⟨nextRuns, -⟩ := after.running next now turn
      have planned : next ∈ cyclePlan cfg defaultRuntime zone := by
        rw [← waiting, plan]
        exact List.mem_cons_self
      have beyond := (mem_zones_after.mp (List.mem_filter.mp planned).1).1
      rw [nextRuns.alone zone runs.listed]
      exact ⟨decide_eq_false (by omega), by simp⟩

/-- A cycle switches the runnable zones on in order and each once. The zone whose
turn it is stays on through every tick before its time is up and is off after the
first one at which it is. With nobody left to run, everything is off. -/
theorem cycle_runs_every_runnable_zone_in_turn (wired : WellWired cfg) (now : Int)
    (st : SprinklerdState)
    (fits : ∀ zone ∈ zoneList cfg, cycleSeconds st.defaultRuntime zone < 2 ^ 31)
    (accepted : (zcZone cfg now .zcAll 0 .zcOn 0 st).2 = true) (ticks : List Int) (later : Int) :
    openedZones cfg (afterTicks cfg now st ticks).gpio =
        openedZones cfg st.gpio ++ (expectedCycle cfg now st ticks).served.map Prod.fst ∧
    (expectedCycle cfg now st ticks).served.map Prod.fst <+:
      (zoneList cfg).filter (runnable cfg st.defaultRuntime) ∧
    ((expectedCycle cfg now st ticks).served.map Prod.fst).Nodup ∧
    (∀ zone start, (expectedCycle cfg now st ticks).current = some (zone, start) →
      (expectedCycle cfg now st ticks).served.getLast? = some (zone, start) ∧
      (∀ other ∈ zoneList cfg,
        zoneReadsOn cfg (afterTicks cfg now st ticks).gpio other = decide (other = zone)) ∧
      (later - start < cycleSeconds st.defaultRuntime zone →
        (afterTicks cfg now st (ticks ++ [later])).gpio = (afterTicks cfg now st ticks).gpio) ∧
      (cycleSeconds st.defaultRuntime zone ≤ later - start →
        zoneReadsOn cfg (afterTicks cfg now st (ticks ++ [later])).gpio zone = false ∧
        ((expectedCycle cfg now st ticks).served.map Prod.fst =
            (zoneList cfg).filter (runnable cfg st.defaultRuntime) →
          AllClosed cfg (afterTicks cfg now st (ticks ++ [later]))))) ∧
    ((expectedCycle cfg now st ticks).current = none →
      (expectedCycle cfg now st ticks).served.map Prod.fst =
        (zoneList cfg).filter (runnable cfg st.defaultRuntime) ∧
      AllClosed cfg (afterTicks cfg now st ticks)) ∧
    ((zoneList cfg).filter (runnable cfg st.defaultRuntime) = [] →
      AllClosed cfg (afterTicks cfg now st ticks)) := by
  have follows := after_ticks_follows wired now st fits accepted ticks
  have serves : Rotation.Serves ((zoneList cfg).filter (runnable cfg st.defaultRuntime))
      (expectedCycle cfg now st ticks) :=
    Rotation.run_serves ticks (Rotation.begin_serves now _)
  have started := Rotation.served_prefix serves
  have once : ((zoneList cfg).filter (runnable cfg st.defaultRuntime)).Nodup :=
    ((zones_from_increasing cfg.zones 1).imp fun less => ne_of_lt less).sublist
      List.filter_sublist
  refine ⟨follows.log, started, once.sublist started.sublist, fun zone start current => ?_,
    fun done => ⟨Rotation.served_all serves done, follows.closed done⟩,
    fun empty => follows.closed (Rotation.current_none_of_nil (empty ▸ serves))⟩
  obtain ⟨runs, -⟩ := follows.running zone start current
  have oneMore : afterTicks cfg now st (ticks ++ [later]) =
      tickStep cfg (afterTicks cfg now st ticks) later := by
    rw [afterTicks, run_append]
    rfl
  rw [oneMore]
  refine ⟨serves.last _ current, runs.alone, early_tick_gpio fits runs, fun late => ?_⟩
  have closes := late_tick_closes wired fits follows current late
  exact ⟨closes.1, fun all => closes.2 (Rotation.waiting_nil serves all)⟩

theorem cycle_runs_every_runnable_zone_in_turn_twice :
    (expectedCycle (benchCfg benchWiring) 0 benchState [300, 600]).current = some (2, 600) ∧
      zoneReadsOn (benchCfg benchWiring)
        (afterTicks (benchCfg benchWiring) 0 benchState [300, 600]).gpio 2 = true ∧
      zoneReadsOn (benchCfg benchWiring)
        (afterTicks (benchCfg benchWiring) 0 benchState ([300, 600] ++ [1200])).gpio 2 = false := by
  have current : (expectedCycle (benchCfg benchWiring) 0 benchState [300, 600]).current =
      some (2, 600) := by decide
  have turn := (cycle_runs_every_runnable_zone_in_turn bench_wired 0 benchState (by decide)
    (by decide) [300, 600] 1200).2.2.2.1 2 600 current
  exact ⟨current, turn.2.1 2 (by decide), (turn.2.2.2 (by decide)).1⟩

def sharedWiring (zone : Int) : GPIOcfg :=
  if zone = 1 then { pin := 4, onState := 1 } else benchWiring zone

/-- On a shared pin the master valve turns the first zone on again with the second;
with an on state that is no level the first zone never reads on. -/
theorem odd_wirings_break_cycle :
    ((zcZone (benchCfg sharedWiring) 0 .zcAll 0 .zcOn 0 benchState).2 = true ∧
      openedZones (benchCfg sharedWiring)
        (afterTicks (benchCfg sharedWiring) 0 benchState [600]).gpio = [1, 2, 1]) ∧
    ((zcZone (benchCfg unreadableWiring) 0 .zcAll 0 .zcOn 0 benchState).2 = true ∧
      openedZones (benchCfg unreadableWiring)
        (afterTicks (benchCfg unreadableWiring) 0 benchState []).gpio = [1] ∧
      zoneReadsOn (benchCfg unreadableWiring)
        (afterTicks (benchCfg unreadableWiring) 0 benchState []).gpio 1 = false) := by
  decide

end Rotation

end SprinklerD.CycleAll
