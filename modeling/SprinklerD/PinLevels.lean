import SprinklerD.RefusedRequest

/-!
# Pin levels

What each zone function leaves on a pin, for every wiring. A start leaves the on level
of its zone; a stop leaves the off level, unless the on state is no level at all and the
zone is never found on. Two states have the same pins when every pin reads alike.
Without shared pins the zone that is requested is not disturbed by stopping the others.
-/

namespace SprinklerD.PinLevels

open SprinklerD.Config SprinklerD.GpioPi SprinklerD.ZoneCtrl SprinklerD.ZoneValves
open SprinklerD.Operations SprinklerD.RefusedRequest

set_option autoImplicit false

def SamePins (first second : Gpio) : Prop := ∀ pin, digitalRead first pin = digitalRead second pin

variable {cfg : SprinklerdCfg}

section Readings

theorem same_pins_iff {first second : Gpio} :
    SamePins first second ↔ ∀ pin, validGPIO pin = true → first.level pin = second.level pin := by
  constructor
  · intro same pin valid
    have reads := same pin
    simp only [digitalRead, valid, if_true] at reads
    cases old : first.level pin <;> cases new : second.level pin <;> simp [old, new] at reads ⊢
  · intro levels pin
    unfold digitalRead
    by_cases valid : validGPIO pin = true
    · rw [if_pos valid, if_pos valid, levels pin valid]
    · rw [if_neg valid, if_neg valid]

theorem same_pins_refl (gpio : Gpio) : SamePins gpio gpio := fun _ => rfl

theorem reads_on_same_pins {first second : Gpio} (same : SamePins first second) (zone : Int) :
    zoneReadsOn cfg first zone = zoneReadsOn cfg second zone := by
  rw [zoneReadsOn, zoneReadsOn, same]

end Readings

section Functions

theorem drive_on_level (gpio : Gpio) (zone : Int) {pin : Int} (valid : validGPIO pin = true) :
    (driveOn cfg gpio zone).level pin =
      if (cfg.zonecfg zone).pin = pin then decide ((cfg.zonecfg zone).onState ≠ 0)
      else gpio.level pin := by
  unfold driveOn
  split_ifs with reads same
  · subst same
    rw [reads_on_valid valid, decide_eq_true_eq] at reads
    rw [reads]
    cases gpio.level (cfg.zonecfg zone).pin <;> rfl
  · rfl
  · rw [level_written _ _ _ valid, if_pos ‹_›]
  · rw [level_written _ _ _ valid, if_neg ‹_›]

theorem zc_start_level (zone : Int) (st : SprinklerdState) {pin : Int}
    (valid : validGPIO pin = true) :
    (zcStart cfg zone st).1.gpio.level pin =
      if (cfg.zonecfg zone).pin = pin then decide ((cfg.zonecfg zone).onState ≠ 0)
      else st.gpio.level pin := by
  rw [zc_start_gpio, drive_on_level _ _ valid]

theorem zc_master_on_level (st : SprinklerdState) {pin : Int} (valid : validGPIO pin = true) :
    (zcMaster cfg .zcOn st).gpio.level pin =
      if cfg.masterValve = true ∧ (cfg.zonecfg 0).pin = pin then
        decide ((cfg.zonecfg 0).onState ≠ 0)
      else st.gpio.level pin := by
  rw [zc_master_gpio, driveMaster]
  cases cfg.masterValve with
  | false => simp
  | true => simp [drive_on_level _ _ valid]

theorem zc_master_off_level (st : SprinklerdState) {pin : Int} (valid : validGPIO pin = true) :
    (zcMaster cfg .zcOff st).gpio.level pin =
      if cfg.masterValve = true ∧ (cfg.zonecfg 0).pin = pin ∧ levelled cfg 0 = true then
        decide ((cfg.zonecfg 0).onState = 0)
      else st.gpio.level pin := by
  have stopped := @zc_stop_level cfg 0 st pin valid
  rw [zc_stop_gpio] at stopped
  rw [zc_master_gpio, driveMaster]
  cases cfg.masterValve with
  | false => simp
  | true => simpa using stopped

end Functions

section DistinctPins

/-- What a zone reads depends on the level of its own pin alone. -/
theorem reads_on_same_level {first second : Gpio} {zone : Int}
    (same : validGPIO (cfg.zonecfg zone).pin = true →
      first.level (cfg.zonecfg zone).pin = second.level (cfg.zonecfg zone).pin) :
    zoneReadsOn cfg first zone = zoneReadsOn cfg second zone := by
  by_cases valid : validGPIO (cfg.zonecfg zone).pin = true
  · rw [reads_on_valid valid, reads_on_valid valid, same valid]
  · have invalid := Bool.eq_false_iff.mpr valid
    rw [zoneReadsOn, zoneReadsOn, digital_read_invalid _ invalid, digital_read_invalid _ invalid]

theorem last_on_pin_absent (distinct : DistinctPins cfg) {zones : List Int} {zone : Int}
    (listed : ∀ other ∈ zones, InTable cfg other) (member : InTable cfg zone)
    (valid : validGPIO (cfg.zonecfg zone).pin = true) (absent : zone ∉ zones) :
    lastOnPin cfg zones (cfg.zonecfg zone).pin = none := by
  cases last : lastOnPin cfg zones (cfg.zonecfg zone).pin with
  | none => rfl
  | some other =>
      obtain ⟨inside, shared, -⟩ := last_on_pin_spec last
      rw [distinct zone other member (listed other inside) valid shared.symm] at absent
      exact absurd inside absent

theorem other_zones_listed {zone other : Int} (listed : zone ∈ zoneList cfg) :
    other ∈ otherZones cfg zone ↔ other ∈ zoneList cfg ∧ other ≠ zone := by
  rw [zone_list_split listed, otherZones, List.mem_append, List.mem_append, List.mem_cons]
  constructor
  · intro inside
    refine ⟨inside.imp_right Or.inr, fun same => ?_⟩
    rw [same, ← List.mem_append] at inside
    exact not_mem_other_zones cfg zone inside
  · rintro ⟨before | same | after, different⟩
    · exact Or.inl before
    · exact absurd same different
    · exact Or.inr after

/-- Stopping other zones does not move the pin of the requested one. -/
theorem stop_other_keeps (distinct : DistinctPins cfg) {zone : Int} {zones : List Int}
    (st : SprinklerdState) (listed : ∀ other ∈ zones, InTable cfg other)
    (member : InTable cfg zone) (absent : zone ∉ zones) :
    zoneReadsOn cfg (stopOtherZones cfg zone zones st).1.gpio zone =
      zoneReadsOn cfg st.gpio zone := by
  apply reads_on_same_level
  intro valid
  rw [stop_other_level cfg st absent valid, last_on_pin_absent distinct listed member valid absent]

theorem stop_loop_distinct (distinct : DistinctPins cfg) {zone : Int} (st : SprinklerdState)
    (listed : zone ∈ zoneList cfg) (off : zoneReadsOn cfg st.gpio zone = false) :
    stopOtherZones cfg zone (zoneList cfg) st =
      stopOtherZones cfg zone (otherZones cfg zone) st := by
  have before : ∀ other ∈ zonesBefore zone, InTable cfg other := fun other inside =>
    in_table_of_zone ((other_zones_listed listed).mp (List.mem_append_left _ inside)).1
  have kept := stop_other_keeps distinct st before (in_table_of_zone listed)
    (not_mem_zones_before zone)
  rw [stop_other_requested st listed, if_neg]
  rw [kept, off]
  decide

def othersStopped (cfg : SprinklerdCfg) (zone : Int) (st : SprinklerdState) : SprinklerdState :=
  (stopOtherZones cfg zone (otherZones cfg zone) st).1

theorem others_stopped_level (zone : Int) (st : SprinklerdState) {pin : Int}
    (valid : validGPIO pin = true) :
    (othersStopped cfg zone st).gpio.level pin =
      match lastOnPin cfg (otherZones cfg zone) pin with
      | none => st.gpio.level pin
      | some other => decide ((cfg.zonecfg other).onState = 0) :=
  stop_other_level cfg st (not_mem_other_zones cfg zone) valid

theorem others_stopped_off (distinct : DistinctPins cfg) {zone : Int} {st : SprinklerdState}
    (listed : zone ∈ zoneList cfg) (off : zoneReadsOn cfg st.gpio zone = false) :
    zoneReadsOn cfg (othersStopped cfg zone st).gpio zone = false := by
  have others : ∀ other ∈ otherZones cfg zone, InTable cfg other := fun other inside =>
    in_table_of_zone ((other_zones_listed listed).mp inside).1
  rw [othersStopped, stop_other_keeps distinct st others (in_table_of_zone listed)
    (not_mem_other_zones cfg zone), off]

/-- A start that a pin refuses leaves the zones stopped and the record as it was. -/
theorem refused_start {zone : Int} (st : SprinklerdState)
    (invalid : validGPIO (cfg.zonecfg zone).pin = false) :
    (zcStart cfg zone (othersStopped cfg zone st)).1.gpio = (othersStopped cfg zone st).gpio ∧
      (zcStart cfg zone (othersStopped cfg zone st)).1.currentZone = st.currentZone := by
  constructor
  · rw [zc_start_gpio, driveOn, digital_write_refused _ _ invalid, ite_self]
  · rw [zc_start_record, othersStopped, stop_other_record]

def zoneStarted (cfg : SprinklerdCfg) (now : Int) (type : ZcRunType) (zone length : Int)
    (st : SprinklerdState) : SprinklerdState :=
  calcTimeleft now { zcMaster cfg .zcOn (zcStart cfg zone (othersStopped cfg zone st)).1 with
    currentZone := { st.currentZone with
      type := type, zone := zone, duration := length, startedTime := now } }

theorem zone_started_level (now : Int) (type : ZcRunType) (zone length : Int)
    (st : SprinklerdState) {pin : Int} (valid : validGPIO pin = true) :
    (zoneStarted cfg now type zone length st).gpio.level pin =
      if cfg.masterValve = true ∧ (cfg.zonecfg 0).pin = pin then
        decide ((cfg.zonecfg 0).onState ≠ 0)
      else if (cfg.zonecfg zone).pin = pin then decide ((cfg.zonecfg zone).onState ≠ 0)
      else (othersStopped cfg zone st).gpio.level pin := by
  change (zcMaster cfg .zcOn (zcStart cfg zone (othersStopped cfg zone st)).1).gpio.level pin = _
  rw [zc_master_on_level _ valid, zc_start_level _ _ valid]

/-- A start that gets through: the other zones are stopped, and the zone is turned on
unless its pin cannot be driven. -/
theorem turn_zone_on_distinct (distinct : DistinctPins cfg) (now : Int) (type : ZcRunType)
    {zone : Int} (length : Int) {st : SprinklerdState} (listed : zone ∈ zoneList cfg)
    (off : zoneReadsOn cfg st.gpio zone = false) :
    turnZoneOn cfg now type zone length st =
      if validGPIO (cfg.zonecfg zone).pin then (zoneStarted cfg now type zone length st, true)
      else ((zcStart cfg zone (othersStopped cfg zone st)).1, false) := by
  have stopped := others_stopped_off distinct listed off
  have opened := @zc_start_result cfg zone (othersStopped cfg zone st)
  rw [stopped, eq_self, true_and] at opened
  have loop : stopOtherZones cfg zone (zoneList cfg) st = (othersStopped cfg zone st, false) := by
    rw [stop_loop_distinct distinct st listed off, othersStopped,
      ← stop_other_absent cfg st (not_mem_other_zones cfg zone)]
  simp only [turnZoneOn, loop, opened, Bool.false_eq_true, if_false]
  have record : (zcMaster cfg .zcOn (zcStart cfg zone (othersStopped cfg zone st)).1).currentZone =
      st.currentZone := by
    rw [zc_master_record, zc_start_record, othersStopped, stop_other_record]
  rw [record, zoneStarted]

end DistinctPins

section StartRequests

theorem duplicate_start {type : ZcRunType} {zone : Int} {st : SprinklerdState}
    (listed : zone ∈ zoneList cfg) :
    duplicateRequest cfg type zone .zcOn st = zoneReadsOn cfg st.gpio zone := by
  have bounds := mem_zone_list.mp listed
  have inside : 0 < zone ∧ zone ≤ cfg.zones := ⟨by omega, bounds.2⟩
  rw [duplicateRequest, if_pos inside]
  cases zoneReadsOn cfg st.gpio zone <;> rfl

/-- A start request for a listed zone is let through, or changes nothing. -/
theorem zc_zone_starts (now : Int) {type : ZcRunType} {zone length : Int} {st : SprinklerdState}
    (starts : StartsZone cfg type zone .zcOn length st) (listed : zone ∈ zoneList cfg) :
    zcZone cfg now type zone .zcOn length st =
      turnZoneOn cfg now type zone (requestLength zone length st) st := by
  have outcome := zc_zone_outcome cfg now type zone .zcOn length st
  generalize zcZone cfg now type zone .zcOn length st = result at outcome ⊢
  cases outcome with
  | ignored duplicate =>
      rw [duplicate_start listed, starts.off] at duplicate
      cases duplicate
  | blocked cron on held =>
      have free := starts.free cron
      rcases held with off | delayed
      · exact absurd (off.symm.trans free.1) (by decide)
      · exact absurd (delayed.symm.trans free.2) (by decide)
  | noRuntime on empty => exact absurd starts.lasting (not_lt.mpr empty)
  | cycled fresh all => exact absurd all starts.one
  | turnedOn => rfl
  | turnedOff fresh one off => cases off

theorem zc_zone_not_started (now : Int) {type : ZcRunType} {zone length : Int}
    {st : SprinklerdState} (one : type ≠ .zcAll) (listed : zone ∈ zoneList cfg)
    (refused : ¬ StartsZone cfg type zone .zcOn length st) :
    zcZone cfg now type zone .zcOn length st = (st, false) := by
  have outcome := zc_zone_outcome cfg now type zone .zcOn length st
  generalize zcZone cfg now type zone .zcOn length st = result at outcome ⊢
  cases outcome with
  | ignored => rfl
  | blocked => rfl
  | noRuntime => rfl
  | cycled fresh all => exact absurd all one
  | turnedOn fresh _ on lasting free =>
      rw [duplicate_start listed] at fresh
      exact absurd ⟨one, on, fresh, free, lasting⟩ refused
  | turnedOff fresh _ off => cases off

theorem zc_zone_all (now : Int) (state : ZcState) (st : SprinklerdState) :
    zcZone cfg now .zcAll 0 state 0 st =
      if duplicateRequest cfg .zcAll 0 state st then (st, false)
      else (cycleAllZones cfg now state st, true) := by
  have noCron : ¬ (ZcRunType.zcAll = .zcCron ∧ state = .zcOn ∧
      (st.calendar = false ∨ st.delay24h = true)) := fun held => by cases held.1
  unfold zcZone
  rw [if_neg noCron, if_pos rfl]

theorem duplicate_all_on (st : SprinklerdState) :
    duplicateRequest cfg .zcAll 0 .zcOn st = decide (st.currentZone.type = .zcAll) := by
  simp [duplicateRequest]

theorem duplicate_all_off (st : SprinklerdState) :
    duplicateRequest cfg .zcAll 0 .zcOff st = decide (st.currentZone.type ≠ .zcAll) := by
  simp [duplicateRequest]

end StartRequests

end SprinklerD.PinLevels
