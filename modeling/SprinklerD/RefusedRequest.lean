import SprinklerD.ValveAgreement

/-!
# When a refused zone request leaves no trace

A start request stops the other zones before it tries its own. When its own pin
turns out to be unusable the request is refused, and the other zones stay off.
The results hold for every wiring, shared pins and odd on states included, so the
loop is followed here by pin levels instead of by zones.
-/

namespace SprinklerD.RefusedRequest

open Foundation.Transitions
open SprinklerD.Config SprinklerD.GpioPi SprinklerD.ZoneCtrl SprinklerD.ZoneValves
open SprinklerD.Operations SprinklerD.ValveAgreement

set_option autoImplicit false

def levelled (cfg : SprinklerdCfg) (zone : Int) : Bool :=
  (cfg.zonecfg zone).onState = 0 ∨ (cfg.zonecfg zone).onState = 1

/-- The last of some zones that drives a pin by a level. -/
def lastOnPin (cfg : SprinklerdCfg) (zones : List Int) (pin : Int) : Option Int :=
  zones.reverse.find? fun zone => (cfg.zonecfg zone).pin = pin ∧ levelled cfg zone = true

def zonesBefore (zone : Int) : List Int := zonesFrom (zone - 1).toNat 1

def otherZones (cfg : SprinklerdCfg) (zone : Int) : List Int :=
  zonesBefore zone ++ zonesAfter cfg zone

/-- A start request that passes every check made before other zones are stopped. -/
structure StartsZone (cfg : SprinklerdCfg) (type : ZcRunType) (zone : Int) (state : ZcState)
    (length : Int) (st : SprinklerdState) : Prop where
  one : type ≠ .zcAll
  on : state = .zcOn
  off : zoneReadsOn cfg st.gpio zone = false
  free : type = .zcCron → st.calendar = true ∧ st.delay24h = false
  lasting : 0 < requestLength zone length st

/-- A pin that cannot be driven, while a zone that is on would be stopped. -/
def UndrivablePin (cfg : SprinklerdCfg) (zone : Int) (gpio : Gpio) : Prop :=
  validGPIO (cfg.zonecfg zone).pin = false ∧
    ∃ other ∈ zoneList cfg, zoneReadsOn cfg gpio other = true ∧
      validGPIO (cfg.zonecfg other).pin = true ∧
      lastOnPin cfg (otherZones cfg zone) (cfg.zonecfg other).pin = some other

/-- A pin shared with a zone of the opposite on state: stopping that one turns the
requested zone on, and it is then found on. -/
def OppositeSharer (cfg : SprinklerdCfg) (zone : Int) : Prop :=
  validGPIO (cfg.zonecfg zone).pin = true ∧ levelled cfg zone = true ∧
    ∃ other, (cfg.zonecfg other).onState ≠ (cfg.zonecfg zone).onState ∧
      (lastOnPin cfg (zonesBefore zone) (cfg.zonecfg zone).pin = some other ∨
        lastOnPin cfg (otherZones cfg zone) (cfg.zonecfg zone).pin = some other)

variable {cfg : SprinklerdCfg}

section Lists

theorem zone_list_split {zone : Int} (listed : zone ∈ zoneList cfg) :
    zoneList cfg = zonesBefore zone ++ zone :: zonesAfter cfg zone := by
  have bounds := mem_zone_list.mp listed
  have count : cfg.zones = (zone - 1).toNat + ((cfg.zones - zone).toNat + 1) := by omega
  have first : (1 : Int) + (zone - 1).toNat = zone := by omega
  unfold zoneList zonesBefore zonesAfter
  conv_lhs => rw [count, zones_from_append, first, zonesFrom]

theorem not_mem_zones_before (zone : Int) : zone ∉ zonesBefore zone := by
  intro member
  have bounds := mem_zones_from.mp member
  omega

theorem not_mem_other_zones (cfg : SprinklerdCfg) (zone : Int) : zone ∉ otherZones cfg zone := by
  intro member
  rcases List.mem_append.mp member with before | after
  · exact not_mem_zones_before zone before
  · exact lt_irrefl zone (mem_zones_after.mp after).1

theorem last_on_pin_append (front back : List Int) (pin : Int) :
    lastOnPin cfg (front ++ back) pin = (lastOnPin cfg back pin).or (lastOnPin cfg front pin) := by
  rw [lastOnPin, List.reverse_append, List.find?_append]
  rfl

theorem last_on_pin_spec {zones : List Int} {pin zone : Int}
    (last : lastOnPin cfg zones pin = some zone) :
    zone ∈ zones ∧ (cfg.zonecfg zone).pin = pin ∧ levelled cfg zone = true := by
  have member := List.mem_reverse.mp (List.mem_of_find?_eq_some last)
  have found := List.find?_some last
  rw [decide_eq_true_eq] at found
  exact ⟨member, found⟩

end Lists

section Levels

theorem reads_on_valid {gpio : Gpio} {zone : Int}
    (valid : validGPIO (cfg.zonecfg zone).pin = true) :
    zoneReadsOn cfg gpio zone =
      decide ((cfg.zonecfg zone).onState = if gpio.level (cfg.zonecfg zone).pin then 1 else 0) := by
  simp only [zoneReadsOn, digitalRead, valid, if_true]

theorem reads_off_level {gpio : Gpio} {zone : Int}
    (valid : validGPIO (cfg.zonecfg zone).pin = true) (level : levelled cfg zone = true) :
    zoneReadsOn cfg gpio zone = false ↔
      gpio.level (cfg.zonecfg zone).pin = decide ((cfg.zonecfg zone).onState = 0) := by
  rw [reads_on_valid valid]
  simp only [levelled, decide_eq_true_eq] at level
  rcases level with low | high
  · cases gpio.level (cfg.zonecfg zone).pin <;> simp [low]
  · cases gpio.level (cfg.zonecfg zone).pin <;> simp [high]

theorem level_written (gpio : Gpio) (target level : Int) {pin : Int}
    (valid : validGPIO pin = true) :
    (digitalWrite gpio target level).1.level pin =
      if target = pin then decide (level ≠ 0) else gpio.level pin := by
  unfold digitalWrite
  by_cases same : target = pin
  · subst same
    simp [valid]
  · rw [if_neg same]
    split_ifs
    · exact Function.update_of_ne (Ne.symm same) _ _
    · rfl

theorem zc_stop_level (zone : Int) (st : SprinklerdState) {pin : Int}
    (valid : validGPIO pin = true) :
    (zcStop cfg zone st).1.gpio.level pin =
      if (cfg.zonecfg zone).pin = pin ∧ levelled cfg zone = true then
        decide ((cfg.zonecfg zone).onState = 0)
      else st.gpio.level pin := by
  rw [zc_stop_gpio]
  by_cases off : zoneReadsOn cfg st.gpio zone = false
  · rw [driveOff, if_pos off]
    by_cases drives : (cfg.zonecfg zone).pin = pin ∧ levelled cfg zone = true
    · rw [if_pos drives]
      obtain ⟨rfl, level⟩ := drives
      exact (reads_off_level valid level).mp off
    · rw [if_neg drives]
  · rw [driveOff, if_neg off, level_written _ _ _ valid]
    by_cases same : (cfg.zonecfg zone).pin = pin
    · subst same
      have level : levelled cfg zone = true := by
        rw [Bool.not_eq_false, reads_on_valid valid, decide_eq_true_eq] at off
        apply decide_eq_true
        cases high : st.gpio.level (cfg.zonecfg zone).pin
        · exact Or.inl (by simpa [high] using off)
        · exact Or.inr (by simpa [high] using off)
      by_cases low : (cfg.zonecfg zone).onState = 0 <;> simp [level, low]
    · simp [same]

theorem stop_other_append (requested : Int) (front back : List Int) (st : SprinklerdState) :
    stopOtherZones cfg requested (front ++ back) st =
      if (stopOtherZones cfg requested front st).2 then stopOtherZones cfg requested front st
      else stopOtherZones cfg requested back (stopOtherZones cfg requested front st).1 := by
  induction front generalizing st with
  | nil => simp [stopOtherZones]
  | cons zone rest ih =>
      simp only [List.cons_append, stopOtherZones]
      by_cases reads : zoneReadsOn cfg st.gpio zone = true
      · by_cases same : requested = zone
        · simp only [if_pos reads, if_pos same, if_true]
        · simp only [if_pos reads, if_neg same]
          exact ih _
      · simp only [if_neg reads]
        exact ih st

/-- After the loop a pin has the off level of the last zone on it. -/
theorem stop_other_level (cfg : SprinklerdCfg) {requested : Int} {zones : List Int} (st : SprinklerdState)
    (absent : requested ∉ zones) {pin : Int} (valid : validGPIO pin = true) :
    (stopOtherZones cfg requested zones st).1.gpio.level pin =
      match lastOnPin cfg zones pin with
      | none => st.gpio.level pin
      | some zone => decide ((cfg.zonecfg zone).onState = 0) := by
  induction zones generalizing st with
  | nil => rfl
  | cons zone rest ih =>
      have other : requested = zone → zoneReadsOn cfg st.gpio zone = false :=
        fun same => absurd (by simp [same]) absent
      rw [stop_other_cons rest st other,
        ih _ fun tail => absent (List.mem_cons_of_mem _ tail), zc_stop_level zone st valid,
        show zone :: rest = [zone] ++ rest from rfl, last_on_pin_append]
      cases lastOnPin cfg rest pin with
      | some later => rfl
      | none =>
          by_cases drives : (cfg.zonecfg zone).pin = pin ∧ levelled cfg zone = true
          · simp [lastOnPin, drives]
          · simp only [lastOnPin, List.reverse_singleton, List.find?_singleton,
              decide_eq_true_eq, if_neg drives, Option.or_none]

/-- The loop as a start request runs it: up to the requested zone, which may be
found on there, and then over the rest. -/
theorem stop_other_requested {zone : Int} (st : SprinklerdState) (listed : zone ∈ zoneList cfg) :
    stopOtherZones cfg zone (zoneList cfg) st =
      if zoneReadsOn cfg (stopOtherZones cfg zone (zonesBefore zone) st).1.gpio zone then
        ((stopOtherZones cfg zone (zonesBefore zone) st).1, true)
      else stopOtherZones cfg zone (otherZones cfg zone) st := by
  have missed := stop_other_absent cfg st (not_mem_zones_before zone)
  rw [zone_list_split listed, otherZones, stop_other_append, stop_other_append, missed]
  simp only [Bool.false_eq_true, if_false, stopOtherZones, if_true]

end Levels

section Requests

/-- The readings of every pin of the table and the running record are kept. -/
def NoTrace (cfg : SprinklerdCfg) (before after : SprinklerdState) : Prop :=
  (∀ zone, InTable cfg zone →
    digitalRead after.gpio (cfg.zonecfg zone).pin =
      digitalRead before.gpio (cfg.zonecfg zone).pin) ∧
  after.currentZone = before.currentZone

theorem no_trace_level {before after : SprinklerdState} {zone : Int}
    (trace : NoTrace cfg before after) (member : InTable cfg zone)
    (valid : validGPIO (cfg.zonecfg zone).pin = true) :
    after.gpio.level (cfg.zonecfg zone).pin = before.gpio.level (cfg.zonecfg zone).pin := by
  have kept := trace.1 zone member
  simp only [digitalRead, valid, if_true] at kept
  by_contra changed
  cases new : after.gpio.level (cfg.zonecfg zone).pin <;>
    cases old : before.gpio.level (cfg.zonecfg zone).pin <;> simp [new, old] at kept changed

theorem turn_zone_on_refused {now : Int} {type : ZcRunType} {zone length : Int}
    {st : SprinklerdState} (refused : (turnZoneOn cfg now type zone length st).2 = false) :
    ((stopOtherZones cfg zone (zoneList cfg) st).2 = true ∨
      zoneReadsOn cfg (stopOtherZones cfg zone (zoneList cfg) st).1.gpio zone = true ∨
      validGPIO (cfg.zonecfg zone).pin = false) ∧
    (turnZoneOn cfg now type zone length st).1.currentZone = st.currentZone ∧
    (turnZoneOn cfg now type zone length st).1.gpio =
      (stopOtherZones cfg zone (zoneList cfg) st).1.gpio := by
  unfold turnZoneOn at refused ⊢
  by_cases found : (stopOtherZones cfg zone (zoneList cfg) st).2 = true
  · simp [found]
  · have started : (zcStart cfg zone (stopOtherZones cfg zone (zoneList cfg) st).1).2 = false := by
      by_contra opened
      rw [Bool.not_eq_false] at opened
      simp [found, opened] at refused
    have reason : zoneReadsOn cfg (stopOtherZones cfg zone (zoneList cfg) st).1.gpio zone = true ∨
        validGPIO (cfg.zonecfg zone).pin = false := by
      by_contra neither
      rw [not_or, Bool.not_eq_true, Bool.not_eq_false] at neither
      simp [(zc_start_result zone _).mpr neither] at started
    have still : driveOn cfg (stopOtherZones cfg zone (zoneList cfg) st).1.gpio zone =
        (stopOtherZones cfg zone (zoneList cfg) st).1.gpio := by
      unfold driveOn
      rcases reason with reads | invalid
      · rw [if_pos reads]
      · rw [digital_write_refused _ _ invalid, ite_self]
    simp only [found, started, Bool.false_eq_true, if_false, zc_start_record, stop_other_record,
      zc_start_gpio, still, and_true]
    exact Or.inr reason

theorem stop_loop_passes {zone : Int} (st : SprinklerdState) (listed : zone ∈ zoneList cfg)
    (unread : ∀ gpio, zoneReadsOn cfg gpio zone = false) :
    stopOtherZones cfg zone (zoneList cfg) st =
      stopOtherZones cfg zone (otherZones cfg zone) st := by
  rw [stop_other_requested st listed, if_neg (by simp [unread])]

theorem undrivable_pin_refused (now : Int) (type : ZcRunType) {zone : Int} (length : Int)
    (st : SprinklerdState) (listed : zone ∈ zoneList cfg)
    (unread : ∀ gpio, zoneReadsOn cfg gpio zone = false)
    (invalid : validGPIO (cfg.zonecfg zone).pin = false) :
    (turnZoneOn cfg now type zone length st).2 = false := by
  have failed : (zcStart cfg zone (stopOtherZones cfg zone (otherZones cfg zone) st).1).2 =
      false := by
    rw [← Bool.not_eq_true, zc_start_result]
    simp [invalid]
  simp [turnZoneOn, stop_loop_passes st listed unread,
    stop_other_absent cfg st (not_mem_other_zones cfg zone), failed]

theorem undrivable_pin_trace {now : Int} {type : ZcRunType} {zone length : Int}
    {st : SprinklerdState} (listed : zone ∈ zoneList cfg)
    (off : zoneReadsOn cfg st.gpio zone = false)
    (invalid : validGPIO (cfg.zonecfg zone).pin = false) :
    ((turnZoneOn cfg now type zone length st).2 = false →
        NoTrace cfg st (turnZoneOn cfg now type zone length st).1) ↔
      ¬ UndrivablePin cfg zone st.gpio := by
  have unread : ∀ gpio, zoneReadsOn cfg gpio zone = false := fun gpio => by
    rw [zoneReadsOn, digital_read_invalid _ invalid] at off ⊢
    exact off
  have refused := undrivable_pin_refused now type length st listed unread invalid
  obtain ⟨-, record, pins⟩ := turn_zone_on_refused refused
  rw [stop_loop_passes st listed unread] at pins
  have levels := fun (pin : Int) => @stop_other_level cfg zone (otherZones cfg zone) st
    (not_mem_other_zones cfg zone) pin
  constructor
  · rintro kept ⟨-, other, member, reads, valid, last⟩
    have level := no_trace_level (kept refused) (in_table_of_zone member) valid
    have driven := (last_on_pin_spec last).2.2
    rw [pins, levels _ valid, last] at level
    rw [(reads_off_level valid driven).mpr level.symm] at reads
    exact absurd reads (by simp)
  · intro untouched _
    refine ⟨fun entry _ => ?_, record⟩
    rw [pins]
    unfold digitalRead
    by_cases valid : validGPIO (cfg.zonecfg entry).pin = true
    · rw [if_pos valid, if_pos valid, levels _ valid]
      cases last : lastOnPin cfg (otherZones cfg zone) (cfg.zonecfg entry).pin with
      | none => rfl
      | some other =>
          obtain ⟨member, shared, driven⟩ := last_on_pin_spec last
          have listedOther : other ∈ zoneList cfg := by
            rw [zone_list_split listed]
            rcases List.mem_append.mp member with before | after
            · exact List.mem_append_left _ before
            · exact List.mem_append_right _ (List.mem_cons_of_mem _ after)
          rw [← shared] at valid last ⊢
          have readsOff : zoneReadsOn cfg st.gpio other = false := by
            by_contra reads
            exact untouched ⟨invalid, other, listedOther, by simpa using reads, valid, last⟩
          simp only [(reads_off_level valid driven).mp readsOff]
    · rw [if_neg valid, if_neg valid]

/-- A zone reads on at the off level of the last entry on its pin, if and only if the two have
opposite on states. -/
theorem reads_on_last_iff {zone : Int} {zones : List Int} {gpio : Gpio} {before : Bool}
    (valid : validGPIO (cfg.zonecfg zone).pin = true)
    (left : gpio.level (cfg.zonecfg zone).pin =
      match lastOnPin cfg zones (cfg.zonecfg zone).pin with
      | none => before
      | some other => decide ((cfg.zonecfg other).onState = 0))
    (untouched : lastOnPin cfg zones (cfg.zonecfg zone).pin = none → levelled cfg zone = true →
      before = decide ((cfg.zonecfg zone).onState = 0)) :
    zoneReadsOn cfg gpio zone = true ↔
      levelled cfg zone = true ∧ ∃ other, (cfg.zonecfg other).onState ≠ (cfg.zonecfg zone).onState ∧
        lastOnPin cfg zones (cfg.zonecfg zone).pin = some other := by
  by_cases level : levelled cfg zone = true
  · rw [← Bool.not_eq_false, reads_off_level valid level, left]
    cases last : lastOnPin cfg zones (cfg.zonecfg zone).pin with
    | none => simp [untouched last level]
    | some other =>
        have driven := (last_on_pin_spec last).2.2
        simp only [levelled, decide_eq_true_eq] at level driven
        simp only [levelled, level, decide_true, true_and, Option.some.injEq, exists_eq_right']
        rcases level with low | high <;> rcases driven with low' | high' <;> simp [*]
  · refine iff_of_false (fun reads => ?_) fun found => level found.1
    rw [reads_on_valid valid, decide_eq_true_eq] at reads
    refine level (decide_eq_true ?_)
    rw [reads]
    split_ifs
    · exact Or.inr rfl
    · exact Or.inl rfl

/-- The loop turns the requested zone on by stopping a sharer of the opposite on state. -/
theorem reads_on_after_loop {zone : Int} {zones : List Int} {st : SprinklerdState}
    (absent : zone ∉ zones) (off : zoneReadsOn cfg st.gpio zone = false)
    (valid : validGPIO (cfg.zonecfg zone).pin = true) :
    zoneReadsOn cfg (stopOtherZones cfg zone zones st).1.gpio zone = true ↔
      levelled cfg zone = true ∧ ∃ other, (cfg.zonecfg other).onState ≠ (cfg.zonecfg zone).onState ∧
        lastOnPin cfg zones (cfg.zonecfg zone).pin = some other :=
  reads_on_last_iff valid (stop_other_level cfg st absent valid)
    fun _ level => (reads_off_level valid level).mp off

/-- A sharer counts when it is the last one before the requested zone, or of all others. -/
theorem opposite_sharer_iff {zone : Int} {st : SprinklerdState}
    (off : zoneReadsOn cfg st.gpio zone = false)
    (valid : validGPIO (cfg.zonecfg zone).pin = true) :
    OppositeSharer cfg zone ↔
      zoneReadsOn cfg (stopOtherZones cfg zone (zonesBefore zone) st).1.gpio zone = true ∨
        zoneReadsOn cfg (stopOtherZones cfg zone (otherZones cfg zone) st).1.gpio zone = true := by
  rw [reads_on_after_loop (not_mem_zones_before zone) off valid,
    reads_on_after_loop (not_mem_other_zones cfg zone) off valid, OppositeSharer]
  constructor
  · rintro ⟨-, level, other, opposite, last | last⟩
    · exact Or.inl ⟨level, other, opposite, last⟩
    · exact Or.inr ⟨level, other, opposite, last⟩
  · rintro (⟨level, other, opposite, last⟩ | ⟨level, other, opposite, last⟩)
    · exact ⟨valid, level, other, opposite, Or.inl last⟩
    · exact ⟨valid, level, other, opposite, Or.inr last⟩

/-- A zone that reads on afterwards and read off before has had its level changed. -/
theorem trace_of_reads_on {zone : Int} {st after : SprinklerdState}
    (listed : zone ∈ zoneList cfg) (off : zoneReadsOn cfg st.gpio zone = false)
    (valid : validGPIO (cfg.zonecfg zone).pin = true)
    (reads : zoneReadsOn cfg after.gpio zone = true) : ¬ NoTrace cfg st after := by
  intro kept
  have level := no_trace_level kept (in_table_of_zone listed) valid
  rw [reads_on_valid valid, level, ← reads_on_valid valid, off] at reads
  cases reads

/-- With a pin that can be driven, a request is refused only when the loop itself
has turned the requested zone on. -/
theorem drivable_pin_trace {now : Int} {type : ZcRunType} {zone length : Int}
    {st : SprinklerdState} (listed : zone ∈ zoneList cfg)
    (off : zoneReadsOn cfg st.gpio zone = false)
    (valid : validGPIO (cfg.zonecfg zone).pin = true) :
    ((turnZoneOn cfg now type zone length st).2 = false →
        NoTrace cfg st (turnZoneOn cfg now type zone length st).1) ↔
      ¬ OppositeSharer cfg zone := by
  have loop := stop_other_requested st listed
  rw [opposite_sharer_iff off valid]
  by_cases foundBefore :
      zoneReadsOn cfg (stopOtherZones cfg zone (zonesBefore zone) st).1.gpio zone = true
  · rw [if_pos foundBefore] at loop
    have result : turnZoneOn cfg now type zone length st =
        ((stopOtherZones cfg zone (zonesBefore zone) st).1, false) := by
      simp [turnZoneOn, loop]
    rw [result]
    apply iff_of_false
    · intro kept
      exact trace_of_reads_on listed off valid foundBefore (kept rfl)
    · intro none
      exact none (Or.inl foundBefore)
  · rw [if_neg foundBefore] at loop
    have missed := stop_other_absent cfg st (not_mem_other_zones cfg zone)
    by_cases foundAfter :
        zoneReadsOn cfg (stopOtherZones cfg zone (otherZones cfg zone) st).1.gpio zone = true
    · have result : turnZoneOn cfg now type zone length st =
          ((stopOtherZones cfg zone (otherZones cfg zone) st).1, false) := by
        simp [turnZoneOn, loop, missed, zcStart, foundAfter]
      rw [result]
      apply iff_of_false
      · intro kept
        exact trace_of_reads_on listed off valid foundAfter (kept rfl)
      · intro none
        exact none (Or.inr foundAfter)
    · apply iff_of_true
      · intro refused
        rcases (turn_zone_on_refused refused).1 with found | found | invalid
        · simp [loop, missed] at found
        · exact absurd (loop ▸ found) foundAfter
        · simp [valid] at invalid
      · intro found
        exact found.elim foundBefore foundAfter

/-- A refused request leaves the pins and the record alone, except for a start that
was let through to a pin it cannot drive while another zone was on, or to a pin it
shares with a zone of the opposite on state. -/
theorem refused_request_changes_nothing (now : Int) (type : ZcRunType) (zone : Int)
    (state : ZcState) (length : Int) (st : SprinklerdState)
    (requested : zone ∈ zoneList cfg ∨ (type = .zcAll ∧ zone = 0)) :
    ((zcZone cfg now type zone state length st).2 = false →
        NoTrace cfg st (zcZone cfg now type zone state length st).1) ↔
      ¬ (StartsZone cfg type zone state length st ∧
          (UndrivablePin cfg zone st.gpio ∨ OppositeSharer cfg zone)) := by
  have kept : NoTrace cfg st st := ⟨fun _ _ => rfl, rfl⟩
  have outcome := zc_zone_outcome cfg now type zone state length st
  generalize zcZone cfg now type zone state length st = result at outcome ⊢
  cases outcome with
  | ignored duplicate =>
      apply iff_of_true (fun _ => kept)
      intro failed
      have listed := requested.resolve_right fun all => failed.1.one all.1
      have bounds := mem_zone_list.mp listed
      simp [duplicateRequest, show 0 < zone by omega, bounds.2, failed.1.off, failed.1.on]
        at duplicate
  | blocked cron on held =>
      apply iff_of_true (fun _ => kept)
      intro failed
      have free := failed.1.free cron
      rcases held with off | delayed
      · simp [off] at free
      · simp [delayed] at free
  | noRuntime on empty =>
      exact iff_of_true (fun _ => kept) fun failed => absurd failed.1.lasting (not_lt.mpr empty)
  | cycled fresh all =>
      exact iff_of_true (fun refused => absurd refused (by simp)) fun failed => failed.1.one all
  | turnedOff fresh one off =>
      apply iff_of_true (fun refused => absurd refused (by simp))
      intro failed
      rw [failed.1.on] at off
      cases off
  | turnedOn fresh one on lasting free =>
      have listed := requested.resolve_right fun all => one all.1
      have bounds := mem_zone_list.mp listed
      have off : zoneReadsOn cfg st.gpio zone = false := by
        simpa [duplicateRequest, on, show 0 < zone by omega, bounds.2] using fresh
      have starts : StartsZone cfg type zone state length st := ⟨one, on, off, free, lasting⟩
      by_cases valid : validGPIO (cfg.zonecfg zone).pin = true
      · rw [drivable_pin_trace listed off valid]
        have drivable : ¬ UndrivablePin cfg zone st.gpio := fun pin =>
          absurd pin.1 (by simp [valid])
        simp [starts, drivable]
      · have invalid := Bool.eq_false_iff.mpr valid
        rw [undrivable_pin_trace listed off invalid]
        have unshared : ¬ OppositeSharer cfg zone := fun shared => valid shared.1
        simp [starts, unshared]

theorem refused_request_changes_nothing_repeated :
    NoTrace (benchCfg benchWiring) (benchRunning .zcSingle)
      (zcZone (benchCfg benchWiring) 1060 .zcSingle 2 .zcOn 5 (benchRunning .zcSingle)).1 :=
  (refused_request_changes_nothing 1060 .zcSingle 2 .zcOn 5 (benchRunning .zcSingle)
    (Or.inl (by decide))).mpr (fun failed => absurd failed.1.off (by decide)) (by decide)

def brokenWiring (zone : Int) : GPIOcfg :=
  if zone = 2 then { pin := 99, onState := 1 } else benchWiring zone

/-- The first zone is running when a start of the second is refused: it is off
afterwards, and the record still says that it runs. -/
theorem refused_request_stops_running_zone :
    ∃ st, CheckedRun (benchCfg brokenWiring) st ∧
      (zcZone (benchCfg brokenWiring) 1060 .zcSingle 2 .zcOn 5 st).2 = false ∧
      zoneReadsOn (benchCfg brokenWiring) st.gpio 1 = true ∧
      zoneReadsOn (benchCfg brokenWiring)
        (zcZone (benchCfg brokenWiring) 1060 .zcSingle 2 .zcOn 5 st).1.gpio 1 = false ∧
      (zcZone (benchCfg brokenWiring) 1060 .zcSingle 2 .zcOn 5 st).1.currentZone.zone = 1 := by
  have startup : Startup (benchCfg brokenWiring) benchState := by
    refine ⟨rfl, fun zone member => ?_, rfl⟩
    rcases mem_bench_table.mp member with rfl | rfl | rfl <;> decide
  have listed : (1 : Int) ∈ zoneList (benchCfg brokenWiring) := by decide
  have watering : CheckedRun (benchCfg brokenWiring) _ :=
    .next (.start startup) (1000, .zone .zcSingle 1 .zcOn 5)
      (by exact Or.inl ⟨Or.inl rfl, listed⟩)
  exact ⟨_, watering, by decide, by decide, by decide, by decide⟩

end Requests

end SprinklerD.RefusedRequest
