import SprinklerD.PinLevels
import SprinklerD.TableBounds

/-!
# The hand-over between two runs

The crontab starts a zone in the minute in which the one before it ends, so the tick that
ends a run and the request that starts the next come in either order. Both orders leave
the same pins and the same record, whatever becomes of the request, unless the new run
is itself over at once because its seconds do not fit an int.
-/

namespace SprinklerD.HandOver

open Foundation.MachineInt Foundation.Transitions
open SprinklerD.Config SprinklerD.GpioPi SprinklerD.ZoneCtrl SprinklerD.ZoneValves
open SprinklerD.Operations SprinklerD.Daemon SprinklerD.TableBounds
open SprinklerD.RefusedRequest SprinklerD.PinLevels

set_option autoImplicit false

def SameControl (first second : SprinklerdState) : Prop :=
  SamePins first.gpio second.gpio ∧ first.currentZone = second.currentZone

structure Expired (now : Int) (st : SprinklerdState) : Prop where
  one : st.currentZone.type = .zcSingle ∨ st.currentZone.type = .zcCron
  late : (calcTimeleft now st).currentZone.timeleft ≤ 0

def tickFirst (cfg : SprinklerdCfg) (now : Int) (type : ZcRunType) (zone length : Int)
    (st : SprinklerdState) : SprinklerdState :=
  (zcZone cfg now type zone .zcOn length (zcCheck cfg now st).1).1

def requestFirst (cfg : SprinklerdCfg) (now : Int) (type : ZcRunType) (zone length : Int)
    (st : SprinklerdState) : SprinklerdState :=
  (zcCheck cfg now (zcZone cfg now type zone .zcOn length st).1).1

variable {cfg : SprinklerdCfg}

section EndingTick

theorem expired_of_record {now : Int} {st other : SprinklerdState}
    (record : other.currentZone = st.currentZone) (expired : Expired now st) :
    Expired now other := by
  have late := expired.late
  constructor
  · rw [record]
    exact expired.one
  · unfold calcTimeleft at late ⊢
    rw [record]
    exact late

theorem expired_check {now : Int} {st : SprinklerdState} (expired : Expired now st) :
    (zcCheck cfg now st).1 =
      { (zcStop cfg st.currentZone.zone (zcMaster cfg .zcOff (calcTimeleft now st))).1 with
        currentZone := { (calcTimeleft now st).currentZone with
          type := .zcNone, zone := -1, timeleft := 0 } } := by
  have outcome := zc_check_outcome cfg now st
  generalize zcCheck cfg now st = result at outcome ⊢
  cases outcome with
  | idle none => rcases expired.one with one | one <;> rw [none] at one <;> cases one
  | waiting _ left => exact absurd expired.late (not_le.mpr left)
  | advanced all => rcases expired.one with one | one <;> rw [all] at one <;> cases one
  | finished => rfl

theorem expired_check_record {now : Int} {st : SprinklerdState} (expired : Expired now st) :
    (zcCheck cfg now st).1.currentZone =
      { st.currentZone with type := .zcNone, zone := -1, timeleft := 0 } := by
  rw [expired_check expired]
  rfl

theorem expired_check_level {now : Int} {st : SprinklerdState} (expired : Expired now st)
    {pin : Int} (valid : validGPIO pin = true) :
    (zcCheck cfg now st).1.gpio.level pin =
      if (cfg.zonecfg st.currentZone.zone).pin = pin ∧ levelled cfg st.currentZone.zone = true then
        decide ((cfg.zonecfg st.currentZone.zone).onState = 0)
      else if cfg.masterValve = true ∧ (cfg.zonecfg 0).pin = pin ∧ levelled cfg 0 = true then
        decide ((cfg.zonecfg 0).onState = 0)
      else st.gpio.level pin := by
  rw [expired_check expired]
  simp only [zc_stop_level _ _ valid, zc_master_off_level _ valid, calc_timeleft_gpio]

/-- A tick that ends a run moves no pin of another zone. -/
theorem expired_check_keeps (distinct : DistinctPins cfg) {now : Int} {st : SprinklerdState}
    (expired : Expired now st) (member : InTable cfg st.currentZone.zone) {zone : Int}
    (listed : zone ∈ zoneList cfg) (other : zone ≠ st.currentZone.zone) :
    zoneReadsOn cfg (zcCheck cfg now st).1.gpio zone = zoneReadsOn cfg st.gpio zone := by
  apply reads_on_same_level
  intro valid
  have inTable := in_table_of_zone listed
  rw [expired_check_level expired valid, if_neg, if_neg]
  · rintro ⟨master, shared, -⟩
    exact zone_ne_zero listed
      (distinct zone 0 inTable (in_table_zero.mpr master) valid shared.symm)
  · rintro ⟨shared, -⟩
    exact other (distinct zone _ inTable member valid shared.symm)

theorem starts_after_check (distinct : DistinctPins cfg) {now : Int} {st : SprinklerdState}
    (expired : Expired now st) (member : InTable cfg st.currentZone.zone) {type : ZcRunType}
    {zone length : Int} (listed : zone ∈ zoneList cfg) (other : zone ≠ st.currentZone.zone) :
    StartsZone cfg type zone .zcOn length (zcCheck cfg now st).1 ↔
      StartsZone cfg type zone .zcOn length st := by
  have outside := @zc_check_outside cfg now st
  have runtime : requestLength zone length (zcCheck cfg now st).1 =
      requestLength zone length st := by
    rw [requestLength, requestLength, default_runtime_of_outside outside]
  have calendar := calendar_of_outside outside
  have delayed : (zcCheck cfg now st).1.delay24h = st.delay24h :=
    congrArg Prod.fst (delay_of_outside outside)
  have reads := expired_check_keeps distinct expired member listed other
  constructor
  · rintro ⟨one, on, off, free, lasting⟩
    rw [reads] at off
    rw [calendar, delayed] at free
    rw [runtime] at lasting
    exact ⟨one, on, off, free, lasting⟩
  · rintro ⟨one, on, off, free, lasting⟩
    rw [← reads] at off
    rw [← calendar, ← delayed] at free
    rw [← runtime] at lasting
    exact ⟨one, on, off, free, lasting⟩

end EndingTick

section BothOrders

variable {now : Int} {type : ZcRunType} {zone length : Int} {st : SprinklerdState}

/-- Stopping the other zones does the ending tick's work, but for the master valve. -/
theorem others_after_check (expired : Expired now st)
    (member : InTable cfg st.currentZone.zone) (listed : zone ∈ zoneList cfg)
    (other : zone ≠ st.currentZone.zone) {pin : Int} (valid : validGPIO pin = true)
    (noMaster : ¬ (cfg.masterValve = true ∧ (cfg.zonecfg 0).pin = pin)) :
    (othersStopped cfg zone (zcCheck cfg now st).1).gpio.level pin =
      (othersStopped cfg zone st).gpio.level pin := by
  rw [others_stopped_level _ _ valid, others_stopped_level _ _ valid]
  cases last : lastOnPin cfg (otherZones cfg zone) pin with
  | some stopped => rfl
  | none =>
      simp only
      rw [expired_check_level expired valid, if_neg, if_neg fun closed =>
        noMaster ⟨closed.1, closed.2.1⟩]
      rintro ⟨shared, level⟩
      rcases member with recorded | ⟨zero, master⟩
      · have inside := (other_zones_listed listed).mpr ⟨recorded, other.symm⟩
        have missed := List.find?_eq_none.mp last _ (List.mem_reverse.mpr inside)
        exact missed (decide_eq_true ⟨shared, level⟩)
      · rw [zero] at shared
        exact noMaster ⟨master, shared⟩

theorem started_pins (expired : Expired now st) (member : InTable cfg st.currentZone.zone)
    (listed : zone ∈ zoneList cfg) (other : zone ≠ st.currentZone.zone) :
    SamePins (zoneStarted cfg now type zone length (zcCheck cfg now st).1).gpio
      (zoneStarted cfg now type zone length st).gpio := by
  apply same_pins_iff.mpr
  intro pin valid
  rw [zone_started_level _ _ _ _ _ valid, zone_started_level _ _ _ _ _ valid]
  by_cases master : cfg.masterValve = true ∧ (cfg.zonecfg 0).pin = pin
  · rw [if_pos master, if_pos master]
  · rw [if_neg master, if_neg master, others_after_check expired member listed other valid master]

/-- After a start that failed the tick finds the pins of the stopped zones, and adds the
master valve. -/
theorem failed_pins (distinct : DistinctPins cfg) (expired : Expired now st)
    (member : InTable cfg st.currentZone.zone) (listed : zone ∈ zoneList cfg)
    {failed : SprinklerdState} (pins : failed.gpio = (othersStopped cfg zone st).gpio)
    (record : failed.currentZone = st.currentZone) :
    SamePins (othersStopped cfg zone (zcCheck cfg now st).1).gpio
      (zcCheck cfg now failed).1.gpio := by
  have expiredToo := expired_of_record record expired
  apply same_pins_iff.mpr
  intro pin valid
  rw [others_stopped_level _ _ valid, expired_check_level expiredToo valid, pins, record,
    others_stopped_level _ _ valid]
  cases last : lastOnPin cfg (otherZones cfg zone) pin with
  | none =>
      simp only
      rw [expired_check_level expired valid]
  | some stopped =>
      obtain ⟨inside, rfl, -⟩ := last_on_pin_spec last
      have stoppedListed := ((other_zones_listed listed).mp inside).1
      have inTable := in_table_of_zone stoppedListed
      simp only
      split_ifs with ran master
      · rw [distinct stopped _ inTable member valid ran.1.symm]
      · exact absurd (distinct stopped 0 inTable (in_table_zero.mpr master.1) valid
          master.2.1.symm) (zone_ne_zero stoppedListed)
      · rfl

theorem timeleft_at_start {given : SprinklerdState} (named : given.currentZone.zone ≠ -1)
    (started : given.currentZone.startedTime = now) :
    (calcTimeleft now given).currentZone.timeleft ≤ 0 ↔
      wrap32 (given.currentZone.duration * sec2Min) ≤ 0 := by
  simp only [calcTimeleft, if_pos named, started, sub_self, sub_zero, saturate32_nonpos]

/-- A tick in the second of the start finds the run under way, or ends it. -/
theorem check_at_start {given : SprinklerdState} (kind : given.currentZone.type = .zcSingle ∨
      given.currentZone.type = .zcCron) (named : given.currentZone.zone ≠ -1)
    (started : given.currentZone.startedTime = now) :
    (0 < wrap32 (given.currentZone.duration * sec2Min) →
      (zcCheck cfg now given).1 = calcTimeleft now given) ∧
    (wrap32 (given.currentZone.duration * sec2Min) ≤ 0 →
      (zcCheck cfg now given).1.currentZone.type = .zcNone) := by
  have left := timeleft_at_start named started
  constructor
  · intro lasting
    have outcome := zc_check_outcome cfg now given
    generalize zcCheck cfg now given = result at outcome ⊢
    cases outcome with
    | idle none => rcases kind with one | one <;> rw [none] at one <;> cases one
    | waiting => rfl
    | advanced _ _ late => exact absurd (left.mp late) (not_le.mpr lasting)
    | finished _ _ late => exact absurd (left.mp late) (not_le.mpr lasting)
  · intro late
    rw [expired_check ⟨kind, left.mpr late⟩]

end BothOrders

section Reachable

variable {now : Int} {type : ZcRunType} {zone length : Int} {st : SprinklerdState}

/-- The start is let through, and the seconds of the new run wrap around to none. -/
def OverAtOnce (cfg : SprinklerdCfg) (type : ZcRunType) (zone length : Int)
    (st : SprinklerdState) : Prop :=
  StartsZone cfg type zone .zcOn length st ∧ validGPIO (cfg.zonecfg zone).pin = true ∧
    wrap32 (requestLength zone length st * sec2Min) ≤ 0

theorem hand_over_of_recorded (distinct : DistinctPins cfg) (expired : Expired now st)
    (member : InTable cfg st.currentZone.zone) (kind : type = .zcSingle ∨ type = .zcCron)
    (listed : zone ∈ zoneList cfg) (other : zone ≠ st.currentZone.zone) :
    SameControl (tickFirst cfg now type zone length st) (requestFirst cfg now type zone length st) ↔
      ¬ OverAtOnce cfg type zone length st := by
  have one : type ≠ .zcAll := by rcases kind with rfl | rfl <;> decide
  have sameStart := @starts_after_check cfg distinct now st expired member type zone length listed
    other
  unfold tickFirst requestFirst
  by_cases starts : StartsZone cfg type zone .zcOn length st
  · have reads := expired_check_keeps distinct expired member listed other
    rw [zc_zone_starts now (sameStart.mpr starts) listed, zc_zone_starts now starts listed,
      turn_zone_on_distinct distinct now type _ listed (reads.trans starts.off),
      turn_zone_on_distinct distinct now type _ listed starts.off]
    by_cases valid : validGPIO (cfg.zonecfg zone).pin = true
    · have bounds := mem_zone_list.mp listed
      have runtime : requestLength zone length (zcCheck cfg now st).1 =
          requestLength zone length st := by
        rw [requestLength, requestLength, default_runtime_of_outside (zc_check_outside now st)]
      have atStart := @check_at_start cfg now
        (zoneStarted cfg now type zone (requestLength zone length st) st)
        kind (by change zone ≠ -1; omega) rfl
      rw [if_pos valid, if_pos valid, runtime]
      by_cases late : wrap32 (requestLength zone length st * sec2Min) ≤ 0
      · apply iff_of_false _ fun lasting => lasting ⟨starts, valid, late⟩
        rintro ⟨-, same⟩
        have ended := atStart.2 late
        rw [← same] at ended
        rcases kind with rfl | rfl <;> cases ended
      · rw [atStart.1 (not_le.mp late)]
        exact iff_of_true ⟨started_pins expired member listed other, rfl⟩ fun lasting => late lasting.2.2
    · have invalid := Bool.eq_false_iff.mpr valid
      rw [if_neg valid, if_neg valid]
      have failed := refused_start (zcCheck cfg now st).1 invalid
      have failedFirst := refused_start st invalid
      apply iff_of_true _ fun late => valid late.2.1
      constructor
      · simp only [failed.1]
        exact failed_pins distinct expired member listed failedFirst.1 failedFirst.2
      · have expiredToo := expired_of_record failedFirst.2 expired
        dsimp only
        rw [failed.2, expired_check_record expired, expired_check_record expiredToo,
          failedFirst.2]
  · rw [zc_zone_not_started now one listed fun after => starts (sameStart.mp after),
      zc_zone_not_started now one listed starts]
    exact iff_of_true ⟨same_pins_refl _, rfl⟩ fun late => starts late.1

/-- An expired run and the start of another zone may come in either order, whether the
start is accepted, held back, without a runtime or without a pin, except when the run that
is started is itself over in the second in which it begins. -/
theorem expiry_and_start_commute_iff (distinct : DistinctPins cfg)
    (reached : Reachable (daemonStep cfg) (Startup cfg)
      (fun st event => ZoneNumbered cfg st event.2) st) (expired : Expired now st)
    (kind : type = .zcSingle ∨ type = .zcCron) (listed : zone ∈ zoneList cfg)
    (other : zone ≠ st.currentZone.zone) :
    SameControl (tickFirst cfg now type zone length st) (requestFirst cfg now type zone length st) ↔
      ¬ OverAtOnce cfg type zone length st := by
  apply hand_over_of_recorded distinct expired _ kind listed other
  apply reachable_recorded reached
  rcases expired.one with one | one <;> rw [one] <;> decide

/-- Zone 2 is given that default runtime, and zone 1 is started for five minutes. -/
def benchHandOver (runtime : String) : SprinklerdState :=
  daemonStep (benchCfg benchWiring) (daemonStep (benchCfg benchWiring) benchState
      (900, .webRequest ("type=zrtcfg&zone=2&time=" ++ runtime).toList []))
    (1000, .webRequest "type=zone&zone=1&runtime=5&state=on".toList [])

theorem bench_hand_over_reached {runtime : String}
    (other : (webOperation (benchCfg benchWiring) ("type=zrtcfg&zone=2&time=" ++ runtime).toList []
      benchState).bind zoneRequest = none)
    (watering : (webOperation (benchCfg benchWiring)
      "type=zone&zone=1&runtime=5&state=on".toList [] (daemonStep (benchCfg benchWiring) benchState
        (900, .webRequest ("type=zrtcfg&zone=2&time=" ++ runtime).toList []))).bind zoneRequest =
          some (.zcSingle, 1, .zcOn, 5)) :
    Reachable (daemonStep (benchCfg benchWiring)) (Startup (benchCfg benchWiring))
      (fun st event => ZoneNumbered (benchCfg benchWiring) st event.2) (benchHandOver runtime) :=
  .next (.next (.start bench_startup) (900, _) (numbered_of_other other)) (1000, _)
    (numbered_of_request watering (by decide) fun _ => rfl)

theorem expiry_and_start_commute_after_five_minutes :
    SameControl (tickFirst (benchCfg benchWiring) 1300 .zcCron 2 0 (benchHandOver "20"))
      (requestFirst (benchCfg benchWiring) 1300 .zcCron 2 0 (benchHandOver "20")) := by
  have distinct : DistinctPins (benchCfg benchWiring) := bench_wired.distinct
  have reached := @bench_hand_over_reached "20" (by decide +kernel) (by decide +kernel)
  have expired : Expired 1300 (benchHandOver "20") :=
    ⟨Or.inl (by decide +kernel), by decide +kernel⟩
  apply (expiry_and_start_commute_iff distinct reached expired (Or.inr rfl) (by decide)
    (by decide +kernel)).mpr
  intro late
  exact absurd late.2.2 (by decide +kernel)

/-- The default runtime of zone 2 is more seconds than the int holds. When the request
comes first, the tick ends the run it has just started. -/
theorem wrapped_start_does_not_commute :
    DistinctPins (benchCfg benchWiring) ∧
      Reachable (daemonStep (benchCfg benchWiring)) (Startup (benchCfg benchWiring))
        (fun st event => ZoneNumbered (benchCfg benchWiring) st event.2)
        (benchHandOver "35791395") ∧
      Expired 1300 (benchHandOver "35791395") ∧
      (benchHandOver "35791395").currentZone.zone = 1 ∧
      ¬ SameControl
        (tickFirst (benchCfg benchWiring) 1300 .zcCron 2 0 (benchHandOver "35791395"))
        (requestFirst (benchCfg benchWiring) 1300 .zcCron 2 0 (benchHandOver "35791395")) := by
  refine ⟨bench_wired.distinct, bench_hand_over_reached (by decide +kernel) (by decide +kernel),
    ⟨Or.inl (by decide +kernel), by decide +kernel⟩, by decide +kernel, fun same => ?_⟩
  have type := congrArg SzRunning.type same.2
  revert type
  decide +kernel

end Reachable

end SprinklerD.HandOver
