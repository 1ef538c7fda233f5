import SprinklerD.UnknownWord

/-!
# The answer to a query tells what was done

An error object promises that nothing was changed. A query that flips a zone is answered
with an error although it is carried out, and the errors of a calendar change are
overwritten by the calendar. When a flip changes something is settled here for every
wiring, so the stopping of the other zones is followed by pin levels again.
-/

namespace SprinklerD.AnswerTruth

open Foundation.MachineInt Foundation.CString Foundation.Transitions
open SprinklerD.Config SprinklerD.GpioPi SprinklerD.ZoneCtrl SprinklerD.SdCron
open SprinklerD.ZoneValves SprinklerD.NetServices SprinklerD.Operations SprinklerD.Daemon
open SprinklerD.RefusedRequest SprinklerD.PinLevels SprinklerD.WebDispatch SprinklerD.UnknownWord

set_option autoImplicit false

/-- The pins and the data that an error must leave alone. -/
structure SameData (before after : SprinklerdState) : Prop where
  pins : SamePins before.gpio after.gpio
  record : after.currentZone = before.currentZone
  runtimes : after.defaultRuntime = before.defaultRuntime
  table : after.cron = before.cron
  tableTime : after.cronUpdate = before.cronUpdate
  calendar : after.calendar = before.calendar
  delay : delay after = delay before
  chance : after.precipChanceDelay = before.precipChanceDelay
  rain1 : after.precipInchDelay1day = before.precipInchDelay1day
  rain2 : after.precipInchDelay2day = before.precipInchDelay2day

def closedPins (cfg : SprinklerdCfg) (order : List Int) (gpio : Gpio) : Gpio :=
  { gpio with level := closedLevel cfg order gpio.level }

def startOrder (cfg : SprinklerdCfg) (zone : Int) : List Int := (zoneList cfg).filter (· ≠ zone)

/-- The loop over the other zones meets the requested one turned on, by a zone before it
that shares its pin. -/
def MetOn (cfg : SprinklerdCfg) (zone : Int) (gpio : Gpio) : Prop :=
  zone ∈ zoneList cfg ∧ zoneReadsOn cfg (closedPins cfg (zonesBefore zone) gpio) zone = true

/-- The level a pin has after a start: that of the master valve, or else of the zone. -/
def startedLevel (cfg : SprinklerdCfg) (zone : Int) (level : Int → Bool) (pin : Int) : Bool :=
  if cfg.masterValve = true ∧ (cfg.zonecfg 0).pin = pin then decide ((cfg.zonecfg 0).onState ≠ 0)
  else if (cfg.zonecfg zone).pin = pin then decide ((cfg.zonecfg zone).onState ≠ 0)
  else closedLevel cfg (startOrder cfg zone) level pin

def startedRecord (now : Int) (type : ZcRunType) (zone length : Int) : SzRunning where
  type := type
  startedTime := now
  duration := length
  timeleft := if zone ≠ -1 then wrap32 (length * sec2Min) else 0
  zone := zone

/-- The zone was started by the same request in the same second, and does not read on
because the master valve has its pin at the other level. -/
structure AlreadyStarted (cfg : SprinklerdCfg) (now : Int) (type : ZcRunType) (zone length : Int)
    (st : SprinklerdState) : Prop where
  record : st.currentZone = startedRecord now type zone length
  levels : ∀ pin, validGPIO pin = true →
    st.gpio.level pin = startedLevel cfg zone st.gpio.level pin

/-- A zone that reads on, and whose off level stays on its pin. -/
def StopsOther (cfg : SprinklerdCfg) (order : List Int) (gpio : Gpio) : Prop :=
  ∃ other, lastOnPin cfg order (cfg.zonecfg other).pin = some other ∧
    validGPIO (cfg.zonecfg other).pin = true ∧ zoneReadsOn cfg gpio other = true

inductive StartChanges (cfg : SprinklerdCfg) (now : Int) (type : ZcRunType) (zone length : Int)
    (st : SprinklerdState) : Prop where
  | metOn (met : MetOn cfg zone st.gpio)
  | refused (pin : ¬ ( validGPIO (cfg.zonecfg zone).pin = true ∧
        zoneReadsOn cfg (closedPins cfg (startOrder cfg zone) st.gpio) zone = false))
      (stops : StopsOther cfg (startOrder cfg zone) st.gpio)
  | started (valid : validGPIO (cfg.zonecfg zone).pin = true)
      (off : zoneReadsOn cfg (closedPins cfg (startOrder cfg zone) st.gpio) zone = false)
      (fresh : ¬ AlreadyStarted cfg now type zone length st)

/-- A zone that is on is turned off, and one that is off is turned on if nothing is against
it before the other zones are stopped. -/
inductive FlipChanges (cfg : SprinklerdCfg) (now : Int) (type : ZcRunType) (zone length : Int)
    (st : SprinklerdState) : Prop where
  | off (on : zcState cfg zone st = .zcOn)
  | on (off : zcState cfg zone st = .zcOff)
      (free : type = .zcCron → st.calendar = true ∧ st.delay24h = false)
      (lasting : 0 < requestLength zone length st)
      (changes : StartChanges cfg now type zone (requestLength zone length st) st)

variable {cfg : SprinklerdCfg}

section Data

theorem same_data_refl (st : SprinklerdState) : SameData st st :=
  ⟨same_pins_refl st.gpio, rfl, rfl, rfl, rfl, rfl, rfl, rfl, rfl, rfl⟩

theorem same_data_of_outside {before after : SprinklerdState}
    (same : outsideControl after = outsideControl before) :
    SameData before after ↔
      SamePins before.gpio after.gpio ∧ after.currentZone = before.currentZone := by
  constructor
  · intro data
    exact ⟨data.pins, data.record⟩
  · rintro ⟨pins, record⟩
    have field {value : Type} (read : SprinklerdState → value) :
        read (outsideControl after) = read (outsideControl before) := congrArg read same
    exact {
      pins := pins
      record := record
      runtimes := default_runtime_of_outside same
      table := field SprinklerdState.cron
      tableTime := field SprinklerdState.cronUpdate
      calendar := calendar_of_outside same
      delay := delay_of_outside same
      chance := field SprinklerdState.precipChanceDelay
      rain1 := field SprinklerdState.precipInchDelay1day
      rain2 := field SprinklerdState.precipInchDelay2day }

theorem same_pins_comm {first second : Gpio} : SamePins first second ↔ SamePins second first :=
  ⟨fun same pin => (same pin).symm, fun same pin => (same pin).symm⟩

theorem same_pins_off {gpio after : Gpio} {zone : Int} (on : zoneReadsOn cfg gpio zone = true)
    (off : zoneReadsOn cfg after zone = false) : ¬ SamePins gpio after := by
  intro same
  rw [reads_on_same_pins same, off] at on
  cases on

end Data

section Closing

theorem reads_on_closed_pins (order : List Int) {gpio after : Gpio} (zone : Int)
    (closes : ∀ pin, validGPIO pin = true → after.level pin = closedLevel cfg order gpio.level pin) :
    zoneReadsOn cfg after zone = zoneReadsOn cfg (closedPins cfg order gpio) zone :=
  reads_on_same_level fun valid => closes _ valid

theorem stops_other_iff {gpio after : Gpio} {order : List Int}
    (closes : ∀ pin, validGPIO pin = true → after.level pin = closedLevel cfg order gpio.level pin) :
    StopsOther cfg order gpio ↔ ¬ SamePins gpio after := by
  rw [same_pins_closed_iff closes]
  unfold StopsOther
  push Not
  simp only [ne_eq, Bool.not_eq_false]

theorem start_order_listed {zone : Int} (listed : zone ∈ zoneList cfg) :
    startOrder cfg zone = otherZones cfg zone := by
  have before : ∀ other ∈ zonesBefore zone, other ≠ zone := fun other inside same =>
    not_mem_zones_before zone (same ▸ inside)
  have after : ∀ other ∈ zonesAfter cfg zone, other ≠ zone := fun other inside same =>
    lt_irrefl zone (mem_zones_after.mp (same ▸ inside)).1
  rw [startOrder, zone_list_split listed, List.filter_append, List.filter_cons_of_neg (by simp),
    List.filter_eq_self.mpr (by simpa using before), List.filter_eq_self.mpr (by simpa using after),
    otherZones]

theorem start_order_unlisted {zone : Int} (unlisted : zone ∉ zoneList cfg) :
    startOrder cfg zone = zoneList cfg := by
  apply List.filter_eq_self.mpr
  intro other inside
  simpa using fun same : other = zone => unlisted (same ▸ inside)

theorem not_mem_start_order (cfg : SprinklerdCfg) (zone : Int) : zone ∉ startOrder cfg zone := by
  simp [startOrder]

theorem met_on_iff {zone : Int} (st : SprinklerdState) :
    MetOn cfg zone st.gpio ↔ zone ∈ zoneList cfg ∧
      zoneReadsOn cfg (stopOtherZones cfg zone (zonesBefore zone) st).1.gpio zone = true := by
  rw [MetOn, reads_on_closed_pins (zonesBefore zone) zone fun pin valid =>
    stop_other_level cfg st (not_mem_zones_before zone) valid]

/-- The loop of a start request ends at the zone that it meets on, or stops all others. -/
theorem start_loop (zone : Int) (st : SprinklerdState) :
    (MetOn cfg zone st.gpio ∧ (stopOtherZones cfg zone (zoneList cfg) st).2 = true ∧
      zoneReadsOn cfg (stopOtherZones cfg zone (zoneList cfg) st).1.gpio zone = true) ∨
    (¬ MetOn cfg zone st.gpio ∧ stopOtherZones cfg zone (zoneList cfg) st =
      ((stopOtherZones cfg zone (startOrder cfg zone) st).1, false)) := by
  have missed := stop_other_absent cfg st (not_mem_start_order cfg zone)
  by_cases listed : zone ∈ zoneList cfg
  · rw [met_on_iff, stop_other_requested st listed, start_order_listed listed]
    rw [start_order_listed listed] at missed
    by_cases met : zoneReadsOn cfg (stopOtherZones cfg zone (zonesBefore zone) st).1.gpio zone = true
    · exact Or.inl ⟨⟨listed, met⟩, by simp [met]⟩
    · refine Or.inr ⟨fun found => met found.2, ?_⟩
      rw [if_neg met, ← missed]
  · refine Or.inr ⟨fun found => listed found.1, ?_⟩
    rw [start_order_unlisted listed] at missed ⊢
    rw [← missed]

end Closing

section Start

variable {now : Int} {type : ZcRunType} {zone length : Int} {st : SprinklerdState}

theorem started_record (now : Int) (type : ZcRunType) (zone length : Int) (st : SprinklerdState) :
    (calcTimeleft now { st with currentZone := { st.currentZone with
      type := type, zone := zone, duration := length, startedTime := now } }).currentZone =
      startedRecord now type zone length := by
  have range := wrap32_range (length * sec2Min)
  have left : saturate32 (wrap32 (length * sec2Min) - (now - now)) =
      wrap32 (length * sec2Min) := by
    unfold saturate32
    omega
  simp only [calcTimeleft, startedRecord, left]

theorem started_gpio_level {stopped : SprinklerdState}
    (closes : ∀ pin, validGPIO pin = true →
      stopped.gpio.level pin = closedLevel cfg (startOrder cfg zone) st.gpio.level pin)
    {pin : Int} (valid : validGPIO pin = true) :
    (zcMaster cfg .zcOn (zcStart cfg zone stopped).1).gpio.level pin =
      startedLevel cfg zone st.gpio.level pin := by
  rw [zc_master_on_level _ valid, zc_start_level _ _ valid, closes pin valid, startedLevel]

theorem refused_start_gpio {stopped : SprinklerdState}
    (refused : ¬ ( validGPIO (cfg.zonecfg zone).pin = true ∧
      zoneReadsOn cfg stopped.gpio zone = false)) :
    (zcStart cfg zone stopped).1.gpio = stopped.gpio := by
  rw [zc_start_gpio, driveOn]
  by_cases valid : validGPIO (cfg.zonecfg zone).pin = true
  · rw [if_pos (by simpa [valid] using refused)]
  · rw [digital_write_refused _ _ (Bool.eq_false_iff.mpr valid), ite_self]

theorem opened_changes_iff {stopped : SprinklerdState}
    (closes : ∀ pin, validGPIO pin = true →
      stopped.gpio.level pin = closedLevel cfg (startOrder cfg zone) st.gpio.level pin) :
    SamePins st.gpio (zcMaster cfg .zcOn (zcStart cfg zone stopped).1).gpio ∧
        startedRecord now type zone length = st.currentZone ↔
      AlreadyStarted cfg now type zone length st := by
  have levels : SamePins st.gpio (zcMaster cfg .zcOn (zcStart cfg zone stopped).1).gpio ↔
      ∀ pin, validGPIO pin = true → st.gpio.level pin = startedLevel cfg zone st.gpio.level pin := by
    rw [same_pins_iff]
    apply forall_congr'
    intro pin
    apply forall_congr'
    intro valid
    rw [started_gpio_level closes valid]
  rw [levels]
  constructor
  · rintro ⟨same, record⟩
    exact ⟨record.symm, same⟩
  · intro already
    exact ⟨already.levels, already.record.symm⟩

/-- Which starts change pins or record, for a zone that reads off before if it is listed. -/
theorem turn_zone_on_changes_iff (off : zone ∈ zoneList cfg → zoneReadsOn cfg st.gpio zone = false) :
    ¬ SameData st (turnZoneOn cfg now type zone length st).1 ↔
      StartChanges cfg now type zone length st := by
  rw [same_data_of_outside (turn_zone_on_outside now type zone length st)]
  rcases @start_loop cfg zone st with ⟨met, found, on⟩ | ⟨missed, loop⟩
  · have result : turnZoneOn cfg now type zone length st =
        ((stopOtherZones cfg zone (zoneList cfg) st).1, false) := by
      simp only [turnZoneOn, found, if_true]
    apply iff_of_true _ (.metOn met)
    rintro ⟨pins, -⟩
    rw [result, same_pins_comm] at pins
    exact same_pins_off on (off met.1) pins
  · have closes := fun pin valid => @stop_other_level cfg zone (startOrder cfg zone) st
      (not_mem_start_order cfg zone) pin valid
    have record := @stop_other_record cfg zone (startOrder cfg zone) st
    generalize (stopOtherZones cfg zone (startOrder cfg zone) st).1 = stopped
      at closes loop record
    have reads := reads_on_closed_pins (startOrder cfg zone) zone closes
    have opened := @zc_start_result cfg zone stopped
    by_cases starts : validGPIO (cfg.zonecfg zone).pin = true ∧
        zoneReadsOn cfg (closedPins cfg (startOrder cfg zone) st.gpio) zone = false
    · rw [reads] at opened
      simp only [turnZoneOn, loop, opened.mpr starts.symm, Bool.false_eq_true, if_false, if_true]
      rw [started_record, calc_timeleft_gpio, opened_changes_iff closes]
      constructor
      · exact .started starts.1 starts.2
      · rintro (met | ⟨pin, -⟩ | ⟨-, -, fresh⟩)
        · exact absurd met missed
        · exact absurd starts pin
        · exact fresh
    · have failed : (zcStart cfg zone stopped).2 = false := by
        rw [← Bool.not_eq_true, opened, reads]
        exact fun both => starts both.symm
      simp only [turnZoneOn, loop, failed, Bool.false_eq_true, if_false]
      rw [zc_start_record, record, refused_start_gpio (by rwa [reads]), eq_self, and_true,
        ← stops_other_iff closes]
      constructor
      · exact .refused starts
      · rintro (met | ⟨-, stops⟩ | ⟨valid, reading, -⟩)
        · exact absurd met missed
        · exact stops
        · exact absurd ⟨valid, reading⟩ starts

end Start

section Stop

variable {now : Int} {zone : Int} {st : SprinklerdState}

/-- The search for the next zone sets the record to a later zone or clears it, unless it
leaves the table. -/
theorem next_zone_from_record (now : Int) (left : Nat) (zone : Int) (st : SprinklerdState) :
    (startNextZoneFrom cfg now left zone st).1.currentZone = st.currentZone ∨
      (startNextZoneFrom cfg now left zone st).1.currentZone.type = .zcNone ∨
      zone ≤ (startNextZoneFrom cfg now left zone st).1.currentZone.zone := by
  induction left generalizing zone st with
  | zero => exact Or.inl rfl
  | succ left ih =>
      rw [startNextZoneFrom]
      by_cases skipped : st.defaultRuntime zone ≤ 0 ∨ validGPIO (cfg.zonecfg zone).pin = false
      · rw [if_pos skipped]
        by_cases last : zone + 1 > cfg.zones
        · rw [if_pos last]
          exact Or.inr (Or.inl (by rw [zc_master_record]))
        · rw [if_neg last]
          exact (ih (zone + 1) st).imp_right (Or.imp_right (by omega))
      · rw [if_neg skipped]
        by_cases started : (zcStart cfg zone st).2 = true
        · simp only [if_pos started]
          refine Or.inr (Or.inr ?_)
          rw [calc_timeleft_zone, zc_master_record]
        · simp only [if_neg started]
          have next := ih (zone + 1) (zcStart cfg zone st).1.setEventZones
          rw [show (zcStart cfg zone st).1.setEventZones.currentZone = st.currentZone from
            zc_start_record zone st] at next
          exact next.imp_right (Or.imp_right (by omega))

/-- A check keeps the start of the running zone, or goes on to a later zone, or ends. -/
theorem check_record (cfg : SprinklerdCfg) (now : Int) (st : SprinklerdState) :
    (zcCheck cfg now st).1.currentZone.startedTime = st.currentZone.startedTime ∨
      (zcCheck cfg now st).1.currentZone.type = .zcNone ∨
      st.currentZone.zone < (zcCheck cfg now st).1.currentZone.zone := by
  have outcome := zc_check_outcome cfg now st
  generalize zcCheck cfg now st = result at outcome ⊢
  cases outcome with
  | idle => exact Or.inl rfl
  | waiting => exact Or.inl rfl
  | finished => exact Or.inr (Or.inl rfl)
  | advanced =>
      have stopped : (zcStop cfg st.currentZone.zone (calcTimeleft now st)).1.setEventZones.currentZone =
          (calcTimeleft now st).currentZone := zc_stop_record _ _
      rcases @next_zone_from_record cfg now (cfg.zones - st.currentZone.zone).toNat
        (st.currentZone.zone + 1)
        (zcStop cfg st.currentZone.zone (calcTimeleft now st)).1.setEventZones with
        kept | ended | later
      · exact Or.inl (by rw [startNextZone, kept, stopped]; rfl)
      · exact Or.inr (Or.inl ended)
      · exact Or.inr (Or.inr later)

/-- Making the zone of a cycle expire moves its start, which the check does not move back. -/
theorem expired_cycle_changes (all : st.currentZone.type = .zcAll) :
    (turnZoneOff cfg now zone st).currentZone ≠ st.currentZone := by
  have moved : st.currentZone.startedTime - wrap32 (st.currentZone.duration * sec2Min) - 1 ≠
      st.currentZone.startedTime := by
    unfold wrap32 wrapSigned sec2Min
    omega
  intro same
  rw [turnZoneOff, if_pos all] at same
  have record := check_record cfg now { st with currentZone := { st.currentZone with
    startedTime := st.currentZone.startedTime -
      wrap32 (st.currentZone.duration * sec2Min) - 1 } }
  rw [same, all] at record
  rcases record with start | ended | later
  · exact moved start.symm
  · cases ended
  · exact absurd later (lt_irrefl _)

theorem listed_of_on (on : zcState cfg zone st = .zcOn) :
    zone ∈ zoneList cfg ∧ zoneReadsOn cfg st.gpio zone = true := by
  unfold zcState at on
  split_ifs at on with inside reads
  exact ⟨mem_zone_list.mpr ⟨inside.1, inside.2⟩, reads⟩

theorem off_of_off (off : zcState cfg zone st = .zcOff) (listed : zone ∈ zoneList cfg) :
    zoneReadsOn cfg st.gpio zone = false := by
  have bounds := mem_zone_list.mp listed
  rw [zcState, if_pos ⟨by omega, bounds.2⟩] at off
  by_contra reads
  rw [if_pos (by simpa using reads)] at off
  cases off

theorem stopped_zone_off {given : SprinklerdState} (valid : validGPIO (cfg.zonecfg zone).pin = true)
    (on : zoneReadsOn cfg st.gpio zone = true) :
    zoneReadsOn cfg (zcStop cfg zone given).1.gpio zone = false := by
  have level : levelled cfg zone = true := by
    rw [reads_on_valid valid, decide_eq_true_eq] at on
    rw [levelled, on]
    split_ifs <;> decide
  rw [reads_off_level valid level, stop_level_closed zone given valid, closed_level_one,
    if_pos ⟨rfl, level⟩]

theorem turn_zone_off_changes (on : zcState cfg zone st = .zcOn)
    (unread : zone ∈ zoneList cfg → validGPIO (cfg.zonecfg zone).pin = false →
      zoneReadsOn cfg st.gpio zone = false) :
    ¬ SameData st (turnZoneOff cfg now zone st) := by
  obtain ⟨listed, reads⟩ := listed_of_on on
  have valid : validGPIO (cfg.zonecfg zone).pin = true := by
    by_contra invalid
    rw [unread listed (Bool.eq_false_iff.mpr invalid)] at reads
    cases reads
  intro kept
  by_cases all : st.currentZone.type = .zcAll
  · exact expired_cycle_changes all kept.record
  · have pins := kept.pins
    rw [turnZoneOff, if_neg all] at pins
    exact same_pins_off reads (stopped_zone_off valid reads) pins

end Stop

section Flip

variable {now : Int} {type : ZcRunType} {zone length : Int} {st : SprinklerdState}

/-- A flip as `serve_web_request` asks for it. -/
def flipZone (cfg : SprinklerdCfg) (now : Int) (type : ZcRunType) (zone length : Int)
    (st : SprinklerdState) : SprinklerdState :=
  (zcZone cfg now type zone (if zcState cfg zone st = .zcOn then .zcOff else .zcOn) length st).1

theorem flip_off (one : type ≠ .zcAll) (on : zcState cfg zone st = .zcOn) :
    flipZone cfg now type zone length st = turnZoneOff cfg now zone st := by
  obtain ⟨listed, reads⟩ := listed_of_on on
  have bounds := mem_zone_list.mp listed
  have outcome := zc_zone_outcome cfg now type zone .zcOff length st
  rw [flipZone, if_pos on]
  generalize zcZone cfg now type zone .zcOff length st = result at outcome ⊢
  cases outcome with
  | ignored duplicate =>
      rw [duplicateRequest, if_pos ⟨by omega, bounds.2⟩, if_pos reads] at duplicate
      cases duplicate
  | cycled _ all => exact absurd all one
  | turnedOff => rfl
  | blocked _ asked => cases asked
  | noRuntime asked => cases asked
  | turnedOn _ _ asked => cases asked

theorem flip_on_fresh (one : type ≠ .zcAll) (off : zcState cfg zone st = .zcOff) :
    duplicateRequest cfg type zone .zcOn st = false := by
  unfold duplicateRequest zcState at *
  split_ifs at off ⊢ with inside reads
  · rfl
  · simp [one]

theorem flip_on (one : type ≠ .zcAll) (off : zcState cfg zone st = .zcOff) :
    flipZone cfg now type zone length st =
      if (type = .zcCron → st.calendar = true ∧ st.delay24h = false) ∧
          0 < requestLength zone length st then
        (turnZoneOn cfg now type zone (requestLength zone length st) st).1
      else st := by
  have outcome := zc_zone_outcome cfg now type zone .zcOn length st
  rw [flipZone, if_neg (by simp [off])]
  generalize zcZone cfg now type zone .zcOn length st = result at outcome ⊢
  cases outcome with
  | ignored duplicate =>
      rw [flip_on_fresh one off] at duplicate
      cases duplicate
  | cycled _ all => exact absurd all one
  | turnedOff _ _ asked => cases asked
  | blocked cron _ held =>
      rw [if_neg]
      rintro ⟨free, -⟩
      rcases held with disabled | delayed
      · exact absurd (disabled.symm.trans (free cron).1) (by decide)
      · exact absurd (delayed.symm.trans (free cron).2) (by decide)
  | noRuntime _ empty => rw [if_neg fun both => absurd both.2 (not_lt.mpr empty)]
  | turnedOn _ _ _ lasting free => rw [if_pos ⟨free, lasting⟩]

theorem flip_changes_iff (one : type ≠ .zcAll)
    (unread : zone ∈ zoneList cfg → validGPIO (cfg.zonecfg zone).pin = false →
      zoneReadsOn cfg st.gpio zone = false) :
    ¬ SameData st (flipZone cfg now type zone length st) ↔
      FlipChanges cfg now type zone length st := by
  cases state : zcState cfg zone st with
  | zcOn =>
      rw [flip_off one state]
      exact iff_of_true (turn_zone_off_changes state unread) (.off state)
  | zcOff =>
      rw [flip_on one state]
      by_cases through : (type = .zcCron → st.calendar = true ∧ st.delay24h = false) ∧
          0 < requestLength zone length st
      · rw [if_pos through, turn_zone_on_changes_iff (off_of_off state)]
        constructor
        · exact .on state through.1 through.2
        · rintro (on | ⟨-, -, -, changes⟩)
          · exact absurd (state.symm.trans on) (by decide)
          · exact changes
      · rw [if_neg through]
        apply iff_of_false fun changed => changed (same_data_refl st)
        rintro (on | ⟨-, free, lasting, -⟩)
        · exact absurd (state.symm.trans on) (by decide)
        · exact through ⟨free, lasting⟩

end Flip

section Answers

def asksZone (query stack : Text) : Bool :=
  strcmpEqual (mgGetHttpVar query "type".toList stack) "zone".toList ∨
    strcmpEqual (mgGetHttpVar query "type".toList stack) "cron".toList

def asksZrtcfg (query stack : Text) : Bool :=
  strcmpEqual (mgGetHttpVar query "type".toList stack) "zrtcfg".toList

def asksCalcfg (query stack : Text) : Bool :=
  strcmpEqual (mgGetHttpVar query "type".toList stack) "calcfg".toList

def zoneType (query stack : Text) : ZcRunType :=
  if strcmpEqual (mgGetHttpVar query "type".toList stack) "cron".toList then .zcCron else .zcSingle

def zoneText (query stack : Text) : Text :=
  mgGetHttpVar query "zone".toList (mgGetHttpVar query "type".toList stack)

def namedZone (query stack : Text) : Int := atoi (zoneText query stack)

def namedRuntime (query stack : Text) : Int :=
  atoi (mgGetHttpVar query "runtime".toList (zoneText query stack))

def dayText (query stack : Text) : Text :=
  mgGetHttpVar query "day".toList (mgGetHttpVar query "type".toList stack)

def calendarDay (query stack : Text) : Int := atoi (dayText query stack)

def calendarZone (query stack : Text) : Int :=
  atoi (mgGetHttpVar query "zone".toList (dayText query stack))

/-- A calendar change for a zone or a day that does not exist. -/
structure UnknownEntry (cfg : SprinklerdCfg) (query stack : Text) : Prop where
  given : query ≠ []
  type : asksCalcfg query stack = true
  outside : cfg.zones < calendarZone query stack ∨
    calendarDay query stack < 0 ∨ 6 < calendarDay query stack

inductive NamesUnknown (cfg : SprinklerdCfg) (query stack : Text) : Prop where
  | zone (given : query ≠ []) (type : asksZone query stack = true ∨ asksZrtcfg query stack = true)
      (above : cfg.zones < namedZone query stack)
  | entry (unknown : UnknownEntry cfg query stack)

structure AsksFlip (cfg : SprinklerdCfg) (query stack : Text) : Prop where
  given : query ≠ []
  type : asksZone query stack = true
  notOn : isValueON (zoneState query stack) ≠ 1
  notOff : isValueON (zoneState query stack) ≠ 0
  flips : isValueFlip (zoneState query stack) = true
  inside : namedZone query stack ≤ cfg.zones

/-- The answer agrees with what was done: an error tells that nothing was, and what does
not exist is refused with one. -/
structure TellsTruth (cfg : SprinklerdCfg) (query stack : Text) (st : SprinklerdState)
    (served : SprinklerdState × Option WebReply) : Prop where
  errors : ∀ text, served.2 = some (.error text) → SameData st served.1
  refuses : NamesUnknown cfg query stack →
    SameData st served.1 ∧ ∃ text, served.2 = some (.error text)

variable {now : Int} {query stack : Text} {st : SprinklerdState}

/-- An empty answer becomes an error on its way out. -/
theorem tells_truth_iff (given : query ≠ []) :
    TellsTruth cfg query stack st (actionWebRequest cfg now query stack st) ↔
      ((∀ kind, (serveWebRequest cfg now query stack st).2 ≠ .document kind) →
        SameData st (serveWebRequest cfg now query stack st).1) ∧
      (NamesUnknown cfg query stack → SameData st (serveWebRequest cfg now query stack st).1 ∧
        ∀ kind, (serveWebRequest cfg now query stack st).2 ≠ .document kind) := by
  have sent : (∃ text, (actionWebRequest cfg now query stack st).2 = some (.error text)) ↔
      ∀ kind, (serveWebRequest cfg now query stack st).2 ≠ .document kind := by
    rw [actionWebRequest, if_neg given]
    dsimp only
    cases (serveWebRequest cfg now query stack st).2 with
    | document kind => simp
    | error text => simp
    | empty => simp [unknownRequest]
  have state : (actionWebRequest cfg now query stack st).1 =
      (serveWebRequest cfg now query stack st).1 := by rw [actionWebRequest, if_neg given]
  rw [← sent, ← state]
  constructor
  · intro truth
    constructor
    · rintro ⟨text, answer⟩
      exact truth.errors text answer
    · exact truth.refuses
  · rintro ⟨errors, refuses⟩
    exact ⟨fun text answer => errors ⟨text, answer⟩, refuses⟩

theorem same_data_event_zones (st : SprinklerdState) : SameData st st.setEventZones :=
  ⟨same_pins_refl st.gpio, rfl, rfl, rfl, rfl, rfl, rfl, rfl, rfl, rfl⟩

theorem same_data_event_status (st : SprinklerdState) : SameData st st.setEventStatus :=
  ⟨same_pins_refl st.gpio, rfl, rfl, rfl, rfl, rfl, rfl, rfl, rfl, rfl⟩

theorem serve_zone_flip (asks : AsksFlip cfg query stack) :
    serveZone cfg now query (mgGetHttpVar query "type".toList stack) st =
      (flipZone cfg now (zoneType query stack) (namedZone query stack) (namedRuntime query stack) st,
        .empty) := by
  obtain ⟨-, -, notOn, notOff, flips, inside⟩ := asks
  unfold zoneState at notOn notOff flips
  unfold namedZone zoneText at inside
  unfold serveZone
  simp only
  rw [if_neg fun on => notOn on.1, if_neg fun off => notOff off.1, if_pos ⟨flips, inside⟩]
  rfl

/-- A zone request that is no flip is answered with the state, or changes nothing. -/
theorem serve_zone_steady (given : query ≠ []) (type : asksZone query stack = true)
    (steady : ¬ AsksFlip cfg query stack) :
    (∃ kind, (serveZone cfg now query (mgGetHttpVar query "type".toList stack) st).2 =
        .document kind) ∨
      (serveZone cfg now query (mgGetHttpVar query "type".toList stack) st).1 =
        st.setEventZones := by
  by_cases on : isValueON (zoneState query stack) = 1 ∧ namedZone query stack ≤ cfg.zones
  · refine Or.inl ⟨.sprinkler, ?_⟩
    unfold zoneState namedZone zoneText at on
    simp only [serveZone, if_pos on]
  by_cases off : isValueON (zoneState query stack) = 0 ∧ namedZone query stack ≤ cfg.zones
  · refine Or.inl ⟨.sprinkler, ?_⟩
    unfold zoneState namedZone zoneText at on off
    simp only [serveZone, if_neg on, if_pos off]
  have noFlip : ¬ (isValueFlip (zoneState query stack) = true ∧ namedZone query stack ≤ cfg.zones) :=
    fun flip => steady ⟨given, type, fun turned => on ⟨turned, flip.2⟩,
      fun turned => off ⟨turned, flip.2⟩, flip.1, flip.2⟩
  refine Or.inr ?_
  unfold zoneState namedZone zoneText at on off noFlip
  simp only [serveZone, if_neg on, if_neg off, if_neg noFlip]
  split_ifs
  · rfl
  · rfl

theorem serve_zone_above (above : cfg.zones < namedZone query stack) :
    (serveZone cfg now query (mgGetHttpVar query "type".toList stack) st).1 = st.setEventZones ∧
      ∀ kind, (serveZone cfg now query (mgGetHttpVar query "type".toList stack) st).2 ≠
        .document kind := by
  unfold namedZone zoneText at above
  unfold serveZone
  simp only
  rw [if_neg fun on => not_lt.mpr on.2 above, if_neg fun off => not_lt.mpr off.2 above,
    if_neg fun flip => not_lt.mpr flip.2 above, if_pos above]
  exact ⟨rfl, fun _ same => by cases same⟩

theorem serve_zrtcfg_error
    (error : ∀ kind, (serveZrtcfg cfg query (mgGetHttpVar query "type".toList stack) st).2 ≠
      .document kind) :
    (serveZrtcfg cfg query (mgGetHttpVar query "type".toList stack) st).1 = st := by
  unfold serveZrtcfg at error ⊢
  simp only at error ⊢
  split_ifs at error ⊢
  · exact absurd rfl (error .sprinkler)
  · rfl

theorem serve_zrtcfg_above (above : cfg.zones < namedZone query stack) :
    (serveZrtcfg cfg query (mgGetHttpVar query "type".toList stack) st).1 = st ∧
      ∀ kind, (serveZrtcfg cfg query (mgGetHttpVar query "type".toList stack) st).2 ≠
        .document kind := by
  unfold namedZone zoneText at above
  unfold serveZrtcfg
  simp only
  rw [if_neg fun inside => not_lt.mpr inside.2.1 above]
  exact ⟨rfl, fun _ same => by cases same⟩

theorem serve_option_error
    (error : ∀ kind, (serveOption cfg now query (mgGetHttpVar query "type".toList stack) st).2 ≠
      .document kind) :
    (serveOption cfg now query (mgGetHttpVar query "type".toList stack) st).1 =
      st.setEventStatus := by
  unfold serveOption at error ⊢
  simp only at error ⊢
  split_ifs at error ⊢
  all_goals first
    | rfl
    | exact absurd rfl (error .sprinkler)

/-- Outside the requests for zones and the calendar an error leaves everything alone. -/
theorem serve_other_error (noZone : asksZone query stack = false)
    (noEntry : asksCalcfg query stack = false)
    (error : ∀ kind, (serveWebRequest cfg now query stack st).2 ≠ .document kind) :
    SameData st (serveWebRequest cfg now query stack st).1 := by
  have zone : ¬ (strcmpEqual (mgGetHttpVar query "type".toList stack) "zone".toList ∨
      strcmpEqual (mgGetHttpVar query "type".toList stack) "cron".toList) :=
    of_decide_eq_false noZone
  unfold asksCalcfg at noEntry
  unfold serveWebRequest at error ⊢
  simp only [if_neg zone, noEntry, Bool.false_eq_true, if_false] at error ⊢
  split_ifs at error ⊢
  · exact same_data_refl st
  · exact same_data_refl st
  · exact same_data_refl st
  · exact same_data_refl st
  · rw [serve_option_error error]
    exact same_data_event_status st
  · exact absurd rfl (error .sprinkler)
  · exact absurd rfl (error .sprinkler)
  · rw [serve_zrtcfg_error error]
    exact same_data_refl st
  · exact same_data_refl st

/-- What reads off at startup without a pin never reads on. -/
theorem reachable_unread
    (reached : Reachable (daemonStep cfg) (Startup cfg) (fun _ _ => True) st) {zone : Int}
    (listed : zone ∈ zoneList cfg) (invalid : validGPIO (cfg.zonecfg zone).pin = false) :
    zoneReadsOn cfg st.gpio zone = false := by
  apply reachable_invariant (fun st => zoneReadsOn cfg st.gpio zone = false) _ _ reached
  · intro start startup
    exact startup.pinsOff zone (in_table_of_zone listed)
  · intro before event off _
    rw [zoneReadsOn, digital_read_invalid _ invalid] at off ⊢
    exact off

theorem zone_type_one (query stack : Text) : zoneType query stack ≠ .zcAll := by
  unfold zoneType
  split_ifs <;> decide

theorem asks_zone_alone (zone : asksZone query stack = true) :
    asksZrtcfg query stack = false ∧ asksCalcfg query stack = false := by
  unfold asksZrtcfg asksCalcfg
  rcases of_decide_eq_true zone with named | named
  · rw [strcmp_of_same named, strcmp_of_same named]
    decide
  · rw [strcmp_of_same named, strcmp_of_same named]
    decide

theorem asks_calcfg_alone (entry : asksCalcfg query stack = true) :
    asksZone query stack = false ∧ asksZrtcfg query stack = false := by
  unfold asksZone asksZrtcfg
  rw [strcmp_of_same entry, strcmp_of_same entry, strcmp_of_same entry]
  decide

theorem no_entry_of_zone (zone : asksZone query stack = true) : ¬ UnknownEntry cfg query stack := by
  intro unknown
  have entry := unknown.type
  rw [(asks_zone_alone zone).2] at entry
  cases entry

/-- Zone requests tell the truth unless they flip and thereby change something. -/
theorem zone_answer_iff (given : query ≠ []) (type : asksZone query stack = true)
    (unread : ∀ zone ∈ zoneList cfg, validGPIO (cfg.zonecfg zone).pin = false →
      zoneReadsOn cfg st.gpio zone = false) :
    TellsTruth cfg query stack st (actionWebRequest cfg now query stack st) ↔
      ¬ (AsksFlip cfg query stack ∧ FlipChanges cfg now (zoneType query stack)
        (namedZone query stack) (namedRuntime query stack) st) := by
  rw [tells_truth_iff given, serve_web_request_zone now st (of_decide_eq_true type)]
  by_cases flip : AsksFlip cfg query stack
  · have exists_ : ¬ NamesUnknown cfg query stack := by
      rintro (⟨-, -, above⟩ | entry)
      · exact absurd flip.inside (not_le.mpr above)
      · exact no_entry_of_zone type entry
    have changes := @flip_changes_iff cfg now (zoneType query stack) (namedZone query stack)
      (namedRuntime query stack) st (zone_type_one query stack) (unread _)
    rw [serve_zone_flip flip, ← changes]
    simp [flip, exists_]
  · apply iff_of_true _ fun both => flip both.1
    constructor
    · intro error
      rcases serve_zone_steady given type flip with ⟨kind, document⟩ | kept
      · exact absurd document (error kind)
      · rw [kept]
        exact same_data_event_zones st
    · rintro (⟨-, -, above⟩ | entry)
      · obtain ⟨kept, error⟩ := @serve_zone_above cfg now query stack st above
        rw [kept]
        exact ⟨same_data_event_zones st, error⟩
      · exact absurd entry (no_entry_of_zone type)

theorem calendar_answer_iff (given : query ≠ []) (type : asksCalcfg query stack = true) :
    TellsTruth cfg query stack st (actionWebRequest cfg now query stack st) ↔
      ¬ UnknownEntry cfg query stack := by
  have document : (serveCalcfg cfg now query (mgGetHttpVar query "type".toList stack) st).2 =
      .document .sprinklerCal := rfl
  rw [tells_truth_iff given, serve_web_request_calcfg now st type, document]
  constructor
  · rintro ⟨-, refuses⟩ unknown
    exact (refuses (.entry unknown)).2 .sprinklerCal rfl
  · intro known
    refine ⟨fun error => absurd rfl (error .sprinklerCal), ?_⟩
    rintro (⟨-, zone | runtime, -⟩ | unknown)
    · rw [(asks_calcfg_alone type).1] at zone
      cases zone
    · rw [(asks_calcfg_alone type).2] at runtime
      cases runtime
    · exact absurd unknown known

theorem other_answer (given : query ≠ []) (noZone : asksZone query stack = false)
    (noEntry : asksCalcfg query stack = false) :
    TellsTruth cfg query stack st (actionWebRequest cfg now query stack st) := by
  rw [tells_truth_iff given]
  refine ⟨serve_other_error noZone noEntry, ?_⟩
  rintro (⟨-, zone | runtime, above⟩ | unknown)
  · rw [noZone] at zone
    cases zone
  · obtain ⟨kept, error⟩ := @serve_zrtcfg_above cfg query stack st above
    rw [serve_web_request_zrtcfg now st runtime, kept]
    exact ⟨same_data_refl st, error⟩
  · exact absurd (noEntry.symm.trans unknown.type) (by decide)

/-- The answer to a query tells what was done, except for a calendar change that names
what does not exist and for a flip that changes something. -/
theorem answer_tells_truth_iff (now : Int) (query stack : Text)
    (reached : Reachable (daemonStep cfg) (Startup cfg) (fun _ _ => True) st) :
    TellsTruth cfg query stack st (actionWebRequest cfg now query stack st) ↔
      ¬ UnknownEntry cfg query stack ∧
      ¬ (AsksFlip cfg query stack ∧ FlipChanges cfg now (zoneType query stack)
        (namedZone query stack) (namedRuntime query stack) st) := by
  by_cases given : query = []
  · have file : actionWebRequest cfg now query stack st = (st, none) := by
      rw [actionWebRequest, if_pos given]
    rw [file]
    apply iff_of_true
    · constructor
      · intro text answer
        cases answer
      · rintro (⟨query, -, -⟩ | unknown)
        · exact absurd given query
        · exact absurd given unknown.given
    · exact ⟨fun unknown => unknown.given given, fun flip => flip.1.given given⟩
  · cases zone : asksZone query stack with
    | true =>
        rw [zone_answer_iff given zone fun _ listed => reachable_unread reached listed]
        exact (and_iff_right (no_entry_of_zone zone)).symm
    | false =>
        have steady : ¬ AsksFlip cfg query stack := fun flip =>
          absurd (zone.symm.trans flip.type) (by decide)
        cases entry : asksCalcfg query stack with
        | true =>
            rw [calendar_answer_iff given entry]
            exact (and_iff_left fun flip => steady flip.1).symm
        | false =>
            apply iff_of_true (other_answer given zone entry)
            exact ⟨fun unknown => absurd (entry.symm.trans unknown.type) (by decide),
              fun flip => steady flip.1⟩

theorem answer_tells_truth_unknown_zone :
    TellsTruth (benchCfg benchWiring) "type=zone&zone=9&state=flip".toList [] benchState
      (actionWebRequest (benchCfg benchWiring) 1000 "type=zone&zone=9&state=flip".toList []
        benchState) := by
  apply (answer_tells_truth_iff 1000 _ [] (.start bench_startup)).mpr
  refine ⟨fun unknown => ?_, fun flip => ?_⟩
  · have type := unknown.type
    revert type
    decide +kernel
  · have inside := flip.1.inside
    revert inside
    decide +kernel

/-- A flip turns the zone on and is answered with an error. A calendar change for a day
and a zone that do not exist is answered with the calendar. -/
theorem answer_misleads :
    Startup (benchCfg benchWiring) benchState ∧
      ¬ TellsTruth (benchCfg benchWiring) "type=zone&zone=1&state=flip".toList [] benchState
        (actionWebRequest (benchCfg benchWiring) 1000 "type=zone&zone=1&state=flip".toList []
          benchState) ∧
      ¬ TellsTruth (benchCfg benchWiring) "type=calcfg&day=9&zone=9&time=".toList [] benchState
        (actionWebRequest (benchCfg benchWiring) 1000 "type=calcfg&day=9&zone=9&time=".toList []
          benchState) := by
  refine ⟨bench_startup, fun truth => ?_, fun truth => ?_⟩
  · have record := (truth.errors "\x7b \"error\": \"unknown request\"\x7d".toList
      (by decide +kernel)).record
    revert record
    decide +kernel
  · have unknown : UnknownEntry (benchCfg benchWiring) "type=calcfg&day=9&zone=9&time=".toList [] :=
      ⟨by decide +kernel, by decide +kernel, Or.inr (Or.inr (by decide +kernel))⟩
    have time := (truth.refuses (.entry unknown)).1.tableTime
    revert time
    decide +kernel

end Answers

end SprinklerD.AnswerTruth
