import SprinklerD.ZoneCtrl
import Mathlib.Tactic.SplitIfs

/-!
# What the zone functions do to the valves

`zoneReadsOn` is the only view the source has of a valve. Under a wiring where no
valid pin is shared, each helper of `zone_ctrl.c` switches exactly the entry it
names. The lemmas below say so once, per helper; nothing later unfolds them.
-/

namespace SprinklerD.ZoneValves

open SprinklerD.Config SprinklerD.GpioPi SprinklerD.ZoneCtrl

set_option autoImplicit false

/-- Every on state is a level, and no two entries share a pin that can be driven. -/
structure WellWired (cfg : SprinklerdCfg) : Prop where
  binary : ∀ zone, InTable cfg zone →
    (cfg.zonecfg zone).onState = 0 ∨ (cfg.zonecfg zone).onState = 1
  distinct : ∀ zone other, InTable cfg zone → InTable cfg other →
    validGPIO (cfg.zonecfg zone).pin = true →
    (cfg.zonecfg zone).pin = (cfg.zonecfg other).pin → zone = other

/-- No two entries share a pin that can be driven. Any number may be an on state. -/
def DistinctPins (cfg : SprinklerdCfg) : Prop :=
  ∀ zone other, InTable cfg zone → InTable cfg other →
    validGPIO (cfg.zonecfg zone).pin = true →
    (cfg.zonecfg zone).pin = (cfg.zonecfg other).pin → zone = other

/-- Less than `WellWired`: any number may be an on state, as long as an entry whose pin
cannot be driven does not read on. -/
structure Apart (cfg : SprinklerdCfg) : Prop where
  distinct : DistinctPins cfg
  unread : ∀ zone, InTable cfg zone → validGPIO (cfg.zonecfg zone).pin = false →
    (cfg.zonecfg zone).onState ≠ gpioErrBadPin

variable {cfg : SprinklerdCfg}

theorem WellWired.apart (wired : WellWired cfg) : Apart cfg where
  distinct := wired.distinct
  unread zone member _ := by
    rcases wired.binary zone member with low | high
    · rw [low]
      decide
    · rw [high]
      decide

theorem valid_of_reads_on (apart : Apart cfg) {gpio : Gpio} {zone : Int}
    (member : InTable cfg zone) (reads : zoneReadsOn cfg gpio zone = true) :
    validGPIO (cfg.zonecfg zone).pin = true := by
  by_contra refused
  have invalid := Bool.eq_false_iff.mpr refused
  rw [zoneReadsOn, digital_read_invalid gpio invalid, decide_eq_true_eq] at reads
  exact apart.unread zone member invalid reads

theorem reads_on_other_write (apart : Apart cfg) {gpio : Gpio} {zone other : Int} (level : Int)
    (member : InTable cfg zone) (otherMember : InTable cfg other) (different : other ≠ zone) :
    zoneReadsOn cfg (digitalWrite gpio (cfg.zonecfg zone).pin level).1 other =
      zoneReadsOn cfg gpio other := by
  unfold zoneReadsOn
  rw [digital_read_other gpio level fun valid shared =>
    different (apart.distinct other zone otherMember member valid shared)]

/-- The pins after `zc_start`, which writes nothing for a zone that reads on. -/
def driveOn (cfg : SprinklerdCfg) (gpio : Gpio) (zone : Int) : Gpio :=
  if zoneReadsOn cfg gpio zone then gpio
  else (digitalWrite gpio (cfg.zonecfg zone).pin (cfg.zonecfg zone).onState).1

/-- The pins after `zc_stop`, which writes nothing for a zone that reads off. -/
def driveOff (cfg : SprinklerdCfg) (gpio : Gpio) (zone : Int) : Gpio :=
  if zoneReadsOn cfg gpio zone = false then gpio
  else (digitalWrite gpio (cfg.zonecfg zone).pin
    (if (cfg.zonecfg zone).onState = 0 then 1 else 0)).1

/-- The pins after `zc_master`. -/
def driveMaster (cfg : SprinklerdCfg) (state : ZcState) (gpio : Gpio) : Gpio :=
  if cfg.masterValve = false then gpio
  else if state = .zcOn then driveOn cfg gpio 0 else driveOff cfg gpio 0

theorem reads_on_drive_on_other (apart : Apart cfg) {zone other : Int} (gpio : Gpio)
    (member : InTable cfg zone) (otherMember : InTable cfg other) (different : other ≠ zone) :
    zoneReadsOn cfg (driveOn cfg gpio zone) other = zoneReadsOn cfg gpio other := by
  unfold driveOn
  split_ifs
  · rfl
  · exact reads_on_other_write apart _ member otherMember different

theorem reads_on_drive_on (wired : WellWired cfg) {zone other : Int} (gpio : Gpio)
    (member : InTable cfg zone) (otherMember : InTable cfg other) :
    zoneReadsOn cfg (driveOn cfg gpio zone) other =
      if other = zone then validGPIO (cfg.zonecfg zone).pin
      else zoneReadsOn cfg gpio other := by
  unfold driveOn
  by_cases reads : zoneReadsOn cfg gpio zone = true
  · have valid := valid_of_reads_on wired.apart member reads
    rw [if_pos reads]
    split_ifs with same
    · rw [same, valid, reads]
    · rfl
  · rw [if_neg reads]
    split_ifs with same
    · subst same
      by_cases valid : validGPIO (cfg.zonecfg other).pin = true
      · rw [valid, zoneReadsOn, digital_read_written _ _ valid, decide_eq_true_eq]
        rcases wired.binary other member with level | level <;> simp [level]
      · rw [Bool.eq_false_iff.mpr valid, digital_write_refused _ _ (Bool.eq_false_iff.mpr valid)]
        exact Bool.eq_false_iff.mpr reads
    · exact reads_on_other_write wired.apart _ member otherMember same

/-- A zone whose pin can be driven reads off once it has been closed. -/
theorem reads_off_closed (gpio : Gpio) {zone : Int}
    (valid : validGPIO (cfg.zonecfg zone).pin = true) :
    zoneReadsOn cfg (driveOff cfg gpio zone) zone = false := by
  unfold driveOff
  split_ifs with off low
  · exact off
  · rw [zoneReadsOn, digital_read_written _ _ valid, low]
    rfl
  · rw [zoneReadsOn, digital_read_written _ _ valid, decide_eq_false_iff_not]
    simpa using low

theorem reads_on_drive_off (apart : Apart cfg) {zone other : Int} (gpio : Gpio)
    (member : InTable cfg zone) (otherMember : InTable cfg other) :
    zoneReadsOn cfg (driveOff cfg gpio zone) other =
      if other = zone then false else zoneReadsOn cfg gpio other := by
  unfold driveOff
  by_cases reads : zoneReadsOn cfg gpio zone = true
  · have valid := valid_of_reads_on apart member reads
    rw [if_neg (by simp [reads])]
    by_cases same : other = zone
    · subst same
      have closed := reads_off_closed gpio valid
      rw [driveOff, if_neg (by simp [reads])] at closed
      rw [if_pos rfl, closed]
    · rw [if_neg same]
      exact reads_on_other_write apart _ member otherMember same
  · have off := Bool.eq_false_iff.mpr reads
    rw [if_pos off]
    split_ifs with same
    · rw [same, off]
    · rfl

theorem reads_on_master_off (apart : Apart cfg) {zone : Int} (gpio : Gpio)
    (member : InTable cfg zone) :
    zoneReadsOn cfg (driveMaster cfg .zcOff gpio) zone =
      if zone = 0 then false else zoneReadsOn cfg gpio zone := by
  unfold driveMaster
  cases master : cfg.masterValve with
  | false =>
      have notMaster : zone ≠ 0 := by
        rintro rfl
        exact absurd (in_table_zero.mp member) (by simp [master])
      simp [notMaster]
  | true => simp [reads_on_drive_off apart gpio (in_table_zero.mpr master) member]

theorem reads_on_drive_master (wired : WellWired cfg) {zone : Int} (state : ZcState)
    (gpio : Gpio) (member : InTable cfg zone) :
    zoneReadsOn cfg (driveMaster cfg state gpio) zone =
      if zone = 0 then decide (state = .zcOn) && validGPIO (cfg.zonecfg 0).pin
      else zoneReadsOn cfg gpio zone := by
  unfold driveMaster
  cases master : cfg.masterValve with
  | false =>
      have notMaster : zone ≠ 0 := by
        rintro rfl
        exact absurd (in_table_zero.mp member) (by simp [master])
      simp [notMaster]
  | true =>
      have valve : InTable cfg 0 := in_table_zero.mpr master
      cases state with
      | zcOn => simp [reads_on_drive_on wired gpio valve member]
      | zcOff => simp [reads_on_drive_off wired.apart gpio valve member]

theorem master_keeps_zone (apart : Apart cfg) (state : ZcState) (gpio : Gpio) {zone : Int}
    (listed : zone ∈ zoneList cfg) :
    zoneReadsOn cfg (driveMaster cfg state gpio) zone = zoneReadsOn cfg gpio zone := by
  have member := in_table_of_zone listed
  cases state with
  | zcOff => rw [reads_on_master_off apart _ member, if_neg (zone_ne_zero listed)]
  | zcOn =>
      unfold driveMaster
      cases master : cfg.masterValve with
      | false => rfl
      | true =>
          exact reads_on_drive_on_other apart gpio (in_table_zero.mpr master) member
            (zone_ne_zero listed)

/-- Closing the one zone that may read on closes every zone. -/
theorem off_after_stop (apart : Apart cfg) {gpio : Gpio} {zone : Int}
    (member : InTable cfg zone)
    (recorded : ∀ other ∈ zoneList cfg, zoneReadsOn cfg gpio other = true → zone = other) :
    ∀ other ∈ zoneList cfg, zoneReadsOn cfg (driveOff cfg gpio zone) other = false := by
  intro other listed
  rw [reads_on_drive_off apart _ member (in_table_of_zone listed)]
  by_cases same : other = zone
  · rw [if_pos same]
  · rw [if_neg same, Bool.eq_false_iff]
    intro on
    exact same (recorded other listed on).symm

theorem off_after_closing (apart : Apart cfg) {gpio : Gpio} {zone : Int}
    (member : InTable cfg zone)
    (recorded : ∀ other ∈ zoneList cfg, zoneReadsOn cfg gpio other = true → zone = other) :
    ∀ other ∈ zoneList cfg,
      zoneReadsOn cfg (driveOff cfg (driveMaster cfg .zcOff gpio) zone) other = false := by
  apply off_after_stop apart member
  intro other listed on
  rw [master_keeps_zone apart _ _ listed] at on
  exact recorded other listed on

section Helpers

theorem zc_start_result (zone : Int) (st : SprinklerdState) :
    (zcStart cfg zone st).2 = true ↔
      zoneReadsOn cfg st.gpio zone = false ∧ validGPIO (cfg.zonecfg zone).pin = true := by
  unfold zcStart
  split_ifs with reads
  · simp [reads]
  · simp [reads, digital_write_ok]

/-- A zone that reads on is not started again, and one that reads off not stopped. -/
theorem zc_start_refused {zone : Int} {st : SprinklerdState}
    (on : zoneReadsOn cfg st.gpio zone = true) : zcStart cfg zone st = (st, false) := by
  rw [zcStart, if_pos on]

theorem zc_stop_refused {zone : Int} {st : SprinklerdState}
    (off : zoneReadsOn cfg st.gpio zone = false) : zcStop cfg zone st = (st, false) := by
  rw [zcStop, if_pos off]

@[simp]
theorem zc_start_gpio (zone : Int) (st : SprinklerdState) :
    (zcStart cfg zone st).1.gpio = driveOn cfg st.gpio zone := by
  unfold zcStart driveOn
  split_ifs <;> rfl

@[simp]
theorem zc_stop_gpio (zone : Int) (st : SprinklerdState) :
    (zcStop cfg zone st).1.gpio = driveOff cfg st.gpio zone := by
  unfold zcStop driveOff
  split_ifs <;> rfl

@[simp]
theorem zc_master_gpio (state : ZcState) (st : SprinklerdState) :
    (zcMaster cfg state st).gpio = driveMaster cfg state st.gpio := by
  unfold zcMaster driveMaster
  cases cfg.masterValve with
  | false => rfl
  | true =>
      cases state <;> cases reads : zoneReadsOn cfg st.gpio 0 <;>
        simp [reads, driveOn, driveOff]

end Helpers

section Frame

/-- The part of the state that no function of `zone_ctrl.c` touches: all of it but
the pins, the running record, the event mask and the fault flag. -/
def outsideControl (st : SprinklerdState) : SprinklerdState :=
  { st with
    gpio := ⟨fun _ => false, []⟩
    currentZone := ⟨.zcNone, 0, 0, 0, 0⟩
    updateEventMask := ⟨false, false, false, false⟩
    outOfTable := false }

@[simp]
theorem zc_start_record (zone : Int) (st : SprinklerdState) :
    (zcStart cfg zone st).1.currentZone = st.currentZone := by
  unfold zcStart
  split_ifs <;> rfl

@[simp]
theorem zc_start_outside (zone : Int) (st : SprinklerdState) :
    outsideControl (zcStart cfg zone st).1 = outsideControl st := by
  unfold zcStart
  split_ifs <;> rfl

@[simp]
theorem zc_stop_record (zone : Int) (st : SprinklerdState) :
    (zcStop cfg zone st).1.currentZone = st.currentZone := by
  unfold zcStop
  split_ifs <;> rfl

@[simp]
theorem zc_stop_outside (zone : Int) (st : SprinklerdState) :
    outsideControl (zcStop cfg zone st).1 = outsideControl st := by
  unfold zcStop
  split_ifs <;> rfl

@[simp]
theorem zc_master_record (state : ZcState) (st : SprinklerdState) :
    (zcMaster cfg state st).currentZone = st.currentZone := by
  unfold zcMaster
  split_ifs <;> simp

@[simp]
theorem zc_master_outside (state : ZcState) (st : SprinklerdState) :
    outsideControl (zcMaster cfg state st) = outsideControl st := by
  unfold zcMaster
  split_ifs <;> simp

theorem default_runtime_of_outside {st st' : SprinklerdState}
    (same : outsideControl st' = outsideControl st) :
    st'.defaultRuntime = st.defaultRuntime := by
  change (outsideControl st').defaultRuntime = (outsideControl st).defaultRuntime
  rw [same]

@[simp]
theorem zc_start_runtime (zone : Int) (st : SprinklerdState) :
    (zcStart cfg zone st).1.defaultRuntime = st.defaultRuntime :=
  default_runtime_of_outside (zc_start_outside zone st)

@[simp]
theorem zc_master_runtime (state : ZcState) (st : SprinklerdState) :
    (zcMaster cfg state st).defaultRuntime = st.defaultRuntime :=
  default_runtime_of_outside (zc_master_outside state st)

end Frame

section Loops

theorem stop_every_cons (zone : Int) (rest : List Int) (st : SprinklerdState) :
    stopEveryZone cfg (zone :: rest) st =
      stopEveryZone cfg rest (zcStop cfg zone (zcMaster cfg .zcOff st)).1 := by
  simp only [stopEveryZone]
  split_ifs with reads
  · rfl
  · rw [zc_stop_refused (Bool.eq_false_iff.mpr reads)]

/-- The early return is taken only at the requested zone, so a zone that reads
off does not take it. -/
theorem stop_other_cons {requested zone : Int} (rest : List Int) (st : SprinklerdState)
    (missed : requested = zone → zoneReadsOn cfg st.gpio zone = false) :
    stopOtherZones cfg requested (zone :: rest) st =
      stopOtherZones cfg requested rest (zcStop cfg zone st).1 := by
  simp only [stopOtherZones]
  split_ifs with reads same
  · simp [missed same] at reads
  · rfl
  · rw [zc_stop_refused (Bool.eq_false_iff.mpr reads)]

theorem stop_other_absent (cfg : SprinklerdCfg) {requested : Int} {zones : List Int}
    (st : SprinklerdState) (absent : requested ∉ zones) : (stopOtherZones cfg requested zones st).2 = false := by
  induction zones generalizing st with
  | nil => rfl
  | cons zone rest ih =>
      have other : requested = zone → zoneReadsOn cfg st.gpio zone = false :=
        fun same => absurd (by simp [same]) absent
      rw [stop_other_cons rest st other]
      exact ih _ fun tail => absent (List.mem_cons_of_mem _ tail)

@[simp]
theorem stop_every_outside (zones : List Int) (st : SprinklerdState) :
    outsideControl (stopEveryZone cfg zones st) = outsideControl st := by
  induction zones generalizing st with
  | nil => rfl
  | cons zone rest ih => rw [stop_every_cons, ih, zc_stop_outside, zc_master_outside]

theorem stop_every_record (zones : List Int) (st : SprinklerdState) :
    (stopEveryZone cfg zones st).currentZone = st.currentZone := by
  induction zones generalizing st with
  | nil => rfl
  | cons zone rest ih => rw [stop_every_cons, ih, zc_stop_record, zc_master_record]

@[simp]
theorem stop_other_record (requested : Int) (zones : List Int) (st : SprinklerdState) :
    (stopOtherZones cfg requested zones st).1.currentZone = st.currentZone := by
  induction zones generalizing st with
  | nil => rfl
  | cons zone rest ih =>
      simp only [stopOtherZones]
      split_ifs
      · rfl
      · rw [ih, zc_stop_record]
      · exact ih st

@[simp]
theorem stop_other_outside (requested : Int) (zones : List Int) (st : SprinklerdState) :
    outsideControl (stopOtherZones cfg requested zones st).1 = outsideControl st := by
  induction zones generalizing st with
  | nil => rfl
  | cons zone rest ih =>
      simp only [stopOtherZones]
      split_ifs
      · rfl
      · rw [ih, zc_stop_outside]
      · exact ih st

theorem reads_on_stop_every (apart : Apart cfg) {zones : List Int} (st : SprinklerdState)
    (listed : ∀ zone ∈ zones, zone ∈ zoneList cfg) {other : Int} (member : InTable cfg other) :
    zoneReadsOn cfg (stopEveryZone cfg zones st).gpio other =
      if other ∈ zones ∨ (other = 0 ∧ zones ≠ []) then false
      else zoneReadsOn cfg st.gpio other := by
  induction zones generalizing st with
  | nil => simp [stopEveryZone]
  | cons zone rest ih =>
      have zoneMember := in_table_of_zone (listed zone (by simp))
      have notMaster := zone_ne_zero (listed zone (by simp))
      rw [stop_every_cons, ih _ fun later tail => listed later (by simp [tail]),
        zc_stop_gpio, zc_master_gpio, reads_on_drive_off apart _ zoneMember member,
        reads_on_master_off apart _ member]
      by_cases master : other = 0
      · simp [master]
      · by_cases same : other = zone <;> simp [master, same]

/-- A zone that reads off still does after another one is stopped. -/
theorem off_after_zc_stop (apart : Apart cfg) {zone other : Int} {st : SprinklerdState}
    (stopped : InTable cfg zone) (member : InTable cfg other)
    (off : zoneReadsOn cfg st.gpio other = false) :
    zoneReadsOn cfg (zcStop cfg zone st).1.gpio other = false := by
  rw [zc_stop_gpio, reads_on_drive_off apart _ stopped member, off, ite_self]

theorem stop_other_missed (apart : Apart cfg) {requested : Int} {zones : List Int}
    (st : SprinklerdState) (listed : ∀ zone ∈ zones, zone ∈ zoneList cfg)
    (off : requested ∈ zones → zoneReadsOn cfg st.gpio requested = false) :
    (stopOtherZones cfg requested zones st).2 = false := by
  induction zones generalizing st with
  | nil => rfl
  | cons zone rest ih =>
      have zoneMember := in_table_of_zone (listed zone (by simp))
      rw [stop_other_cons rest st fun same => same ▸ off (by simp [same])]
      apply ih _ (fun later tail => listed later (by simp [tail]))
      intro tail
      have entry := in_table_of_zone (listed requested (by simp [tail]))
      exact off_after_zc_stop apart zoneMember entry (off (by simp [tail]))

theorem reads_on_stop_other (apart : Apart cfg) {requested : Int} {zones : List Int}
    (st : SprinklerdState) (listed : ∀ zone ∈ zones, zone ∈ zoneList cfg)
    (off : requested ∈ zones → zoneReadsOn cfg st.gpio requested = false)
    {other : Int} (member : InTable cfg other) :
    zoneReadsOn cfg (stopOtherZones cfg requested zones st).1.gpio other =
      if other ∈ zones then false else zoneReadsOn cfg st.gpio other := by
  induction zones generalizing st with
  | nil => simp [stopOtherZones]
  | cons zone rest ih =>
      have zoneMember := in_table_of_zone (listed zone (by simp))
      rw [stop_other_cons rest st fun same => same ▸ off (by simp [same]),
        ih _ (fun later tail => listed later (by simp [tail])),
        zc_stop_gpio, reads_on_drive_off apart _ zoneMember member]
      · by_cases same : other = zone <;> simp [same]
      · intro tail
        have entry := in_table_of_zone (listed requested (by simp [tail]))
        exact off_after_zc_stop apart zoneMember entry (off (by simp [tail]))

end Loops

section NextZone

def runnable (cfg : SprinklerdCfg) (defaultRuntime : Int → Int) (zone : Int) : Bool :=
  0 < defaultRuntime zone ∧ validGPIO (cfg.zonecfg zone).pin = true

theorem runnable_eq_false {defaultRuntime : Int → Int} {zone : Int} :
    runnable cfg defaultRuntime zone = false ↔
      defaultRuntime zone ≤ 0 ∨ validGPIO (cfg.zonecfg zone).pin = false := by
  rw [runnable, decide_eq_false_iff_not, not_and_or, not_lt, Bool.not_eq_true]

theorem not_skipped {defaultRuntime : Int → Int} {zone : Int}
    (runs : runnable cfg defaultRuntime zone = true) :
    ¬ (defaultRuntime zone ≤ 0 ∨ validGPIO (cfg.zonecfg zone).pin = false) := by
  rw [← runnable_eq_false, runs]
  decide

/-- What `start_next_zone` leaves when no runnable zone remains. -/
def cycleEnded (cfg : SprinklerdCfg) (st : SprinklerdState) : SprinklerdState :=
  zcMaster cfg .zcOff { st with currentZone := { st.currentZone with
    type := .zcNone, zone := -1, timeleft := 0 } }

/-- What `start_next_zone` leaves when it has turned `zone` on. -/
def cycleStarted (cfg : SprinklerdCfg) (now zone : Int) (st : SprinklerdState) :
    SprinklerdState :=
  let started := (zcStart cfg zone st).1
  let watered := zcMaster cfg .zcOn { started with currentZone := { started.currentZone with
    zone := zone } }
  calcTimeleft now { watered with currentZone := { watered.currentZone with
    startedTime := now, duration := watered.defaultRuntime zone } }

theorem start_next_zone_from_eq (now : Int) {left : Nat} {zone : Int} (st : SprinklerdState)
    (remaining : 0 < left) (bound : zone + left = cfg.zones + 1)
    (off : ∀ later ∈ zonesFrom left zone, zoneReadsOn cfg st.gpio later = false) :
    startNextZoneFrom cfg now left zone st =
      match (zonesFrom left zone).find? (runnable cfg st.defaultRuntime) with
      | none => (cycleEnded cfg st, -1)
      | some next => (cycleStarted cfg now next st, next) := by
  induction left generalizing zone with
  | zero => omega
  | succ left ih =>
      rw [startNextZoneFrom, zonesFrom, List.find?_cons]
      cases runs : runnable cfg st.defaultRuntime zone with
      | false =>
          rw [if_pos (runnable_eq_false.mp runs)]
          cases left with
          | zero =>
              rw [if_pos (by push_cast at bound; omega)]
              rfl
          | succ left =>
              rw [if_neg (by push_cast at bound; omega)]
              exact ih (by omega) (by push_cast at bound ⊢; omega)
                fun later member => off later (List.mem_cons_of_mem _ member)
      | true =>
          have opened : (zcStart cfg zone st).2 = true :=
            (zc_start_result zone st).mpr
              ⟨off zone (by simp [zonesFrom]), (of_decide_eq_true runs).2⟩
          rw [if_neg (not_skipped runs)]
          simp only [opened, if_true]
          rfl

/-- The zones after `startz` in the order of the table. -/
def zonesAfter (cfg : SprinklerdCfg) (startz : Int) : List Int :=
  zonesFrom (cfg.zones - startz).toNat (startz + 1)

theorem mem_zones_after {startz zone : Int} :
    zone ∈ zonesAfter cfg startz ↔ startz < zone ∧ zone ≤ cfg.zones := by
  rw [zonesAfter, mem_zones_from]
  omega

theorem start_next_zone_eq (now : Int) {startz : Int} (st : SprinklerdState)
    (inside : startz < cfg.zones)
    (off : ∀ later ∈ zonesAfter cfg startz, zoneReadsOn cfg st.gpio later = false) :
    startNextZone cfg now startz st =
      match (zonesAfter cfg startz).find? (runnable cfg st.defaultRuntime) with
      | none => (cycleEnded cfg st.setEventZones, -1)
      | some next => (cycleStarted cfg now next st.setEventZones, next) :=
  start_next_zone_from_eq now st.setEventZones (by omega) (by omega) off

/-- Everything a call of `start_next_zone` can do while all zones read off. -/
inductive NextOutcome (cfg : SprinklerdCfg) (now startz : Int) (st : SprinklerdState) :
    SprinklerdState × Int → Prop where
  | ended (found : (zonesAfter cfg startz).find? (runnable cfg st.defaultRuntime) = none) :
      NextOutcome cfg now startz st (cycleEnded cfg st.setEventZones, -1)
  | started {next : Int}
      (found : (zonesAfter cfg startz).find? (runnable cfg st.defaultRuntime) = some next)
      (later : startz < next) (listed : next ∈ zoneList cfg) :
      NextOutcome cfg now startz st (cycleStarted cfg now next st.setEventZones, next)

theorem start_next_zone_outcome (now : Int) {startz : Int} (st : SprinklerdState)
    (inside : 0 ≤ startz ∧ startz < cfg.zones)
    (off : ∀ zone ∈ zoneList cfg, zoneReadsOn cfg st.gpio zone = false) :
    NextOutcome cfg now startz st (startNextZone cfg now startz st) := by
  have laterOff : ∀ later ∈ zonesAfter cfg startz, zoneReadsOn cfg st.gpio later = false := by
    intro later member
    have bounds := mem_zones_after.mp member
    exact off later (mem_zone_list.mpr ⟨by omega, bounds.2⟩)
  rw [start_next_zone_eq now st inside.2 laterOff]
  cases found : (zonesAfter cfg startz).find? (runnable cfg st.defaultRuntime) with
  | none => exact .ended found
  | some next =>
      have bounds := mem_zones_after.mp (List.mem_of_find?_eq_some found)
      exact .started found bounds.1 (mem_zone_list.mpr ⟨by omega, bounds.2⟩)

@[simp]
theorem cycle_started_record (now zone : Int) (st : SprinklerdState) :
    (cycleStarted cfg now zone st).currentZone =
      (calcTimeleft now { st with currentZone := { st.currentZone with
        zone := zone, startedTime := now, duration := st.defaultRuntime zone } }).currentZone := by
  simp [cycleStarted, calcTimeleft]

@[simp]
theorem cycle_ended_record (st : SprinklerdState) :
    (cycleEnded cfg st).currentZone = { st.currentZone with
      type := .zcNone, zone := -1, timeleft := 0 } := by
  simp [cycleEnded]

theorem reads_on_cycle_started (wired : WellWired cfg) (now : Int) {zone other : Int}
    (st : SprinklerdState) (listed : zone ∈ zoneList cfg) (member : InTable cfg other) :
    zoneReadsOn cfg (cycleStarted cfg now zone st).gpio other =
      if other = 0 then validGPIO (cfg.zonecfg 0).pin
      else if other = zone then validGPIO (cfg.zonecfg zone).pin
      else zoneReadsOn cfg st.gpio other := by
  simp only [cycleStarted, calcTimeleft]
  rw [zc_master_gpio, reads_on_drive_master wired _ _ member]
  simp only [decide_true, Bool.true_and]
  rw [zc_start_gpio, reads_on_drive_on wired _ (in_table_of_zone listed) member]

theorem reads_on_cycle_started_other (apart : Apart cfg) (now : Int) {zone other : Int}
    (st : SprinklerdState) (listed : zone ∈ zoneList cfg) (otherListed : other ∈ zoneList cfg)
    (different : other ≠ zone) :
    zoneReadsOn cfg (cycleStarted cfg now zone st).gpio other = zoneReadsOn cfg st.gpio other := by
  simp only [cycleStarted, calcTimeleft]
  rw [zc_master_gpio, master_keeps_zone apart _ _ otherListed]
  simp only [zc_start_gpio]
  exact reads_on_drive_on_other apart _ (in_table_of_zone listed) (in_table_of_zone otherListed)
    different

theorem reads_on_cycle_ended (apart : Apart cfg) {other : Int} (st : SprinklerdState)
    (member : InTable cfg other) :
    zoneReadsOn cfg (cycleEnded cfg st).gpio other =
      if other = 0 then false else zoneReadsOn cfg st.gpio other := by
  rw [cycleEnded, zc_master_gpio, reads_on_master_off apart _ member]

end NextZone

end SprinklerD.ZoneValves
