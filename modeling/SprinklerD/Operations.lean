import SprinklerD.SdCron
import SprinklerD.ZoneValves

/-!
# Operations on the controller

Every front end acts on the controller through the calls listed here. A timed
operation is one of them with the clock reading it gets. For each call one lemma
lists all it can do, so that invariants are proved from the list.
-/

namespace SprinklerD.Operations

open Foundation.MachineInt
open SprinklerD.Config SprinklerD.GpioPi SprinklerD.ZoneCtrl SprinklerD.SdCron
open SprinklerD.ZoneValves

set_option autoImplicit false

/-- `setDefaultRuntime` is the assignment both front ends make before they call
`zc_update_runtime`; the `precip` operations are the assignments of the `config`
request. -/
inductive Operation where
  | zone (type : ZcRunType) (zone : Int) (state : ZcState) (length : Int)
  | check
  | enableCalendar (state : Bool)
  | enableDelay24h (state : Bool)
  | resetDelay24hTime (dtime : Int)
  | setTodayChanceOfRain (percent : Int)
  | setTodayRainTotal (rain : CFloat)
  | checkDelay24h
  | setDefaultRuntime (zone runtime : Int)
  | precipChanceDelay (percent : Int)
  | precipInchDelay1day (rain : CFloat)
  | precipInchDelay2day (rain : CFloat)

def applyOperation (cfg : SprinklerdCfg) (now : Int) (st : SprinklerdState) :
    Operation → SprinklerdState
  | .zone type zone state length => (zcZone cfg now type zone state length st).1
  | .check => (zcCheck cfg now st).1
  | .enableCalendar state => SdCron.enableCalendar state st
  | .enableDelay24h state => SdCron.enableDelay24h cfg now state st
  | .resetDelay24hTime dtime => SdCron.resetDelay24hTime cfg now dtime st
  | .setTodayChanceOfRain percent => (SdCron.setTodayChanceOfRain cfg now percent st).1
  | .setTodayRainTotal rain => (SdCron.setTodayRainTotal cfg now rain st).1
  | .checkDelay24h => (SdCron.checkDelay24h cfg now st).1
  | .setDefaultRuntime zone runtime =>
      zcUpdateRuntime cfg zone
        { st with defaultRuntime := Function.update st.defaultRuntime zone runtime }
  | .precipChanceDelay percent => { st with precipChanceDelay := percent }
  | .precipInchDelay1day rain => { st with precipInchDelay1day := rain }
  | .precipInchDelay2day rain => { st with precipInchDelay2day := rain }

abbrev TimedOperation := Int × Operation

def timedStep (cfg : SprinklerdCfg) (st : SprinklerdState) (event : TimedOperation) :
    SprinklerdState :=
  applyOperation cfg event.1 st event.2

/-- The state `main_loop` starts from: every pin at its off level, nothing running.
The other fields are what the cache and the crontab held. -/
structure Startup (cfg : SprinklerdCfg) (st : SprinklerdState) : Prop where
  idle : st.currentZone.type = .zcNone
  pinsOff : ∀ zone, InTable cfg zone → zoneReadsOn cfg st.gpio zone = false
  noWrites : st.gpio.writes = []

variable {cfg : SprinklerdCfg}

section ZoneRequests

/-- Everything a call of `zc_zone` can do, with the guards that lead there. -/
inductive ZoneOutcome (cfg : SprinklerdCfg) (now : Int) (type : ZcRunType) (zone : Int)
    (state : ZcState) (length : Int) (st : SprinklerdState) : SprinklerdState × Bool → Prop where
  | ignored (duplicate : duplicateRequest cfg type zone state st = true) :
      ZoneOutcome cfg now type zone state length st (st, false)
  | blocked (cron : type = .zcCron) (on : state = .zcOn)
      (held : st.calendar = false ∨ st.delay24h = true) :
      ZoneOutcome cfg now type zone state length st (st, false)
  | noRuntime (on : state = .zcOn) (empty : requestLength zone length st ≤ 0) :
      ZoneOutcome cfg now type zone state length st (st, false)
  | cycled (fresh : duplicateRequest cfg type zone state st = false) (all : type = .zcAll) :
      ZoneOutcome cfg now type zone state length st (cycleAllZones cfg now state st, true)
  | turnedOn (fresh : duplicateRequest cfg type zone state st = false) (one : type ≠ .zcAll)
      (on : state = .zcOn) (lasting : 0 < requestLength zone length st)
      (free : type = .zcCron → st.calendar = true ∧ st.delay24h = false) :
      ZoneOutcome cfg now type zone state length st
        (turnZoneOn cfg now type zone (requestLength zone length st) st)
  | turnedOff (fresh : duplicateRequest cfg type zone state st = false) (one : type ≠ .zcAll)
      (off : state = .zcOff) :
      ZoneOutcome cfg now type zone state length st (turnZoneOff cfg now zone st, true)

theorem zc_zone_outcome (cfg : SprinklerdCfg) (now : Int) (type : ZcRunType) (zone : Int) (state : ZcState)
    (length : Int) (st : SprinklerdState) :
    ZoneOutcome cfg now type zone state length st
      (zcZone cfg now type zone state length st) := by
  unfold zcZone
  by_cases duplicate : duplicateRequest cfg type zone state st = true
  · rw [if_pos duplicate]
    exact .ignored duplicate
  rw [if_neg duplicate]
  have fresh := Bool.eq_false_iff.mpr duplicate
  by_cases held : type = .zcCron ∧ state = .zcOn ∧ (st.calendar = false ∨ st.delay24h = true)
  · rw [if_pos held]
    exact .blocked held.1 held.2.1 held.2.2
  rw [if_neg held]
  by_cases all : type = .zcAll
  · rw [if_pos all]
    exact .cycled fresh all
  rw [if_neg all]
  cases state with
  | zcOff => exact .turnedOff fresh all rfl
  | zcOn =>
      have free : type = .zcCron → st.calendar = true ∧ st.delay24h = false := fun cron => by
        have unheld := fun reason => held ⟨cron, rfl, reason⟩
        simpa [not_or] using unheld
      by_cases lasting : 0 < requestLength zone length st
      · simp only [if_pos lasting]
        exact .turnedOn fresh all rfl lasting free
      · simp only [if_neg lasting]
        exact .noRuntime rfl (not_lt.mp lasting)

/-- Everything a call of `zc_check` can do. -/
inductive CheckOutcome (cfg : SprinklerdCfg) (now : Int) (st : SprinklerdState) :
    SprinklerdState × Bool → Prop where
  | idle (none : st.currentZone.type = .zcNone) : CheckOutcome cfg now st (st, false)
  | waiting (running : st.currentZone.type ≠ .zcNone)
      (left : 0 < (calcTimeleft now st).currentZone.timeleft) :
      CheckOutcome cfg now st (calcTimeleft now st, false)
  | advanced (all : st.currentZone.type = .zcAll) (more : st.currentZone.zone < cfg.zones)
      (expired : (calcTimeleft now st).currentZone.timeleft ≤ 0) :
      CheckOutcome cfg now st
        ((startNextZone cfg now st.currentZone.zone
          (zcStop cfg st.currentZone.zone (calcTimeleft now st)).1).1, true)
  | finished (running : st.currentZone.type ≠ .zcNone)
      (last : st.currentZone.type = .zcAll → (cfg.zones : Int) ≤ st.currentZone.zone)
      (expired : (calcTimeleft now st).currentZone.timeleft ≤ 0) :
      CheckOutcome cfg now st
        ({ (zcStop cfg st.currentZone.zone (zcMaster cfg .zcOff (calcTimeleft now st))).1 with
          currentZone := { (calcTimeleft now st).currentZone with
            type := .zcNone, zone := -1, timeleft := 0 } }, true)

@[simp]
theorem calc_timeleft_type (now : Int) (st : SprinklerdState) :
    (calcTimeleft now st).currentZone.type = st.currentZone.type := rfl

@[simp]
theorem calc_timeleft_zone (now : Int) (st : SprinklerdState) :
    (calcTimeleft now st).currentZone.zone = st.currentZone.zone := rfl

@[simp]
theorem calc_timeleft_gpio (now : Int) (st : SprinklerdState) :
    (calcTimeleft now st).gpio = st.gpio := rfl

@[simp]
theorem calc_timeleft_outside (now : Int) (st : SprinklerdState) :
    outsideControl (calcTimeleft now st) = outsideControl st := rfl

/-- While the running zone has time left a check only counts it down. -/
theorem zc_check_waits (cfg : SprinklerdCfg) {now : Int} {st : SprinklerdState}
    (running : st.currentZone.type ≠ .zcNone)
    (lasting : 0 < (calcTimeleft now st).currentZone.timeleft) :
    zcCheck cfg now st = (calcTimeleft now st, false) := by
  rw [zcCheck, if_neg running]
  simp only [if_neg (not_le.mpr lasting)]

theorem zc_check_outcome (cfg : SprinklerdCfg) (now : Int) (st : SprinklerdState) :
    CheckOutcome cfg now st (zcCheck cfg now st) := by
  by_cases none : st.currentZone.type = .zcNone
  · rw [zcCheck, if_pos none]
    exact .idle none
  by_cases expired : (calcTimeleft now st).currentZone.timeleft ≤ 0
  · rw [zcCheck, if_neg none]
    simp only [if_pos expired, calc_timeleft_type, calc_timeleft_zone, zc_stop_record,
      zc_master_record]
    split_ifs with cycle
    · exact .advanced cycle.1 cycle.2 expired
    · exact .finished none (fun all => not_lt.mp fun more => cycle ⟨all, more⟩) expired
  · have lasting := not_le.mp expired
    rw [zc_check_waits cfg none lasting]
    exact .waiting none lasting

end ZoneRequests

section ZoneFrame

@[simp]
theorem start_next_zone_from_outside (now : Int) (left : Nat) (zone : Int)
    (st : SprinklerdState) :
    outsideControl (startNextZoneFrom cfg now left zone st).1 = outsideControl st := by
  induction left generalizing zone st with
  | zero => rfl
  | succ left ih =>
      rw [startNextZoneFrom]
      split_ifs with skipped last
      · rw [zc_master_outside]
        rfl
      · exact ih (zone + 1) st
      · simp only
        split_ifs
        · rw [calc_timeleft_outside]
          exact (zc_master_outside .zcOn _).trans (zc_start_outside zone st)
        · rw [ih]
          exact zc_start_outside zone st

@[simp]
theorem start_next_zone_outside (now startz : Int) (st : SprinklerdState) :
    outsideControl (startNextZone cfg now startz st).1 = outsideControl st :=
  start_next_zone_from_outside now _ _ st.setEventZones

@[simp]
theorem zc_check_outside (now : Int) (st : SprinklerdState) :
    outsideControl (zcCheck cfg now st).1 = outsideControl st := by
  have outcome := zc_check_outcome cfg now st
  generalize zcCheck cfg now st = result at outcome ⊢
  cases outcome with
  | idle => rfl
  | waiting => exact calc_timeleft_outside now st
  | advanced =>
      rw [start_next_zone_outside, zc_stop_outside, calc_timeleft_outside]
  | finished =>
      refine Eq.trans (b := outsideControl (zcStop cfg st.currentZone.zone
        (zcMaster cfg .zcOff (calcTimeleft now st))).1) rfl ?_
      rw [zc_stop_outside, zc_master_outside, calc_timeleft_outside]

theorem cycle_all_zones_outside (now : Int) (state : ZcState) (st : SprinklerdState) :
    outsideControl (cycleAllZones cfg now state st) = outsideControl st := by
  have idle : outsideControl { stopEveryZone cfg (zoneList cfg) st with
      currentZone := { (stopEveryZone cfg (zoneList cfg) st).currentZone with
        type := .zcNone } } = outsideControl st :=
    stop_every_outside (zoneList cfg) st
  unfold cycleAllZones
  simp only
  split_ifs
  · exact (start_next_zone_outside now 0 _).trans idle
  · exact (start_next_zone_outside now 0 _).trans idle
  · exact idle

theorem turn_zone_on_outside (now : Int) (type : ZcRunType) (zone length : Int)
    (st : SprinklerdState) :
    outsideControl (turnZoneOn cfg now type zone length st).1 = outsideControl st := by
  unfold turnZoneOn
  simp only
  split_ifs
  · exact stop_other_outside zone (zoneList cfg) st
  · apply (zc_master_outside .zcOn _).trans
    rw [zc_start_outside, stop_other_outside]
  · simp only [zc_start_outside, stop_other_outside]

theorem turn_zone_off_outside (now zone : Int) (st : SprinklerdState) :
    outsideControl (turnZoneOff cfg now zone st) = outsideControl st := by
  unfold turnZoneOff
  split_ifs
  · exact zc_check_outside now _
  · apply (zc_stop_outside zone _).trans
    rw [zc_master_outside]

@[simp]
theorem zc_zone_outside (now : Int) (type : ZcRunType) (zone : Int) (state : ZcState)
    (length : Int) (st : SprinklerdState) :
    outsideControl (zcZone cfg now type zone state length st).1 = outsideControl st := by
  have outcome := zc_zone_outcome cfg now type zone state length st
  generalize zcZone cfg now type zone state length st = result at outcome ⊢
  cases outcome with
  | ignored => rfl
  | blocked => rfl
  | noRuntime => rfl
  | cycled => exact cycle_all_zones_outside now state st
  | turnedOn => exact turn_zone_on_outside now type zone _ st
  | turnedOff => exact turn_zone_off_outside now zone st

@[simp]
theorem zc_rain_delay_outside (now : Int) (st : SprinklerdState) :
    outsideControl (zcRainDelayEnabeled cfg now st) = outsideControl st := by
  unfold zcRainDelayEnabeled
  split_ifs
  · exact zc_zone_outside now .zcSingle st.currentZone.zone .zcOff 0 st
  · rfl

end ZoneFrame

section DelayOperations

def control (st : SprinklerdState) : Gpio × SzRunning := (st.gpio, st.currentZone)

def delay (st : SprinklerdState) : Bool × Int := (st.delay24h, st.delay24hTime)

theorem delay_of_outside {st st' : SprinklerdState}
    (same : outsideControl st' = outsideControl st) : delay st' = delay st := by
  change delay (outsideControl st') = delay (outsideControl st)
  rw [same]

theorem calendar_of_outside {st st' : SprinklerdState}
    (same : outsideControl st' = outsideControl st) : st'.calendar = st.calendar := by
  change (outsideControl st').calendar = (outsideControl st).calendar
  rw [same]

theorem write_cache_frame (cfg : SprinklerdCfg) (st : SprinklerdState) :
    ∃ disk, writeCache cfg st = { st with disk := disk } := by
  simp only [writeCache, remount_eq]
  split_ifs <;> exact ⟨_, rfl⟩

@[simp]
theorem write_cache_control (st : SprinklerdState) :
    control (writeCache cfg st) = control st := by
  obtain ⟨disk, written⟩ := write_cache_frame cfg st
  rw [written]
  rfl

@[simp]
theorem write_cache_delay (st : SprinklerdState) : delay (writeCache cfg st) = delay st := by
  obtain ⟨disk, written⟩ := write_cache_frame cfg st
  rw [written]
  rfl

/-- The effect of a starting rain delay: a run started by cron ends, unless its
valve already reads off; any other run is left alone. -/
def rainStopped (cfg : SprinklerdCfg) : Gpio × SzRunning → Gpio × SzRunning
  | (gpio, record) =>
      if record.type = .zcCron ∧ 0 < record.zone ∧
          (record.zone ≤ cfg.zones → zoneReadsOn cfg gpio record.zone = true) then
        (driveOff cfg (driveMaster cfg .zcOff gpio) record.zone,
          { record with type := .zcNone, zone := -1 })
      else (gpio, record)

theorem zc_rain_delay_control (now : Int) (st : SprinklerdState) :
    control (zcRainDelayEnabeled cfg now st) = rainStopped cfg (control st) := by
  unfold zcRainDelayEnabeled rainStopped control
  simp only
  by_cases cron : st.currentZone.type = .zcCron ∧ 0 < st.currentZone.zone
  · rw [if_pos cron]
    have outcome := zc_zone_outcome cfg now .zcSingle st.currentZone.zone .zcOff 0 st
    generalize zcZone cfg now .zcSingle st.currentZone.zone .zcOff 0 st = result at outcome ⊢
    cases outcome with
    | ignored duplicate =>
        rw [if_neg]
        rintro ⟨-, -, reads⟩
        simp only [duplicateRequest, cron.2, true_and] at duplicate
        split_ifs at duplicate with inside <;> simp_all
    | blocked cron => cases cron
    | noRuntime on => cases on
    | cycled _ all => cases all
    | turnedOn _ _ on => cases on
    | turnedOff fresh =>
        rw [if_pos]
        · simp only [turnZoneOff, cron.1, reduceCtorEq, if_false, zc_stop_gpio, zc_master_gpio,
            zc_stop_record, zc_master_record]
        · refine ⟨cron.1, cron.2, fun inside => ?_⟩
          simpa [duplicateRequest, cron.2, inside] using fresh
  · rw [if_neg cron, if_neg fun stops => cron ⟨stops.1, stops.2.1⟩]

@[simp]
theorem zc_rain_delay_delay (now : Int) (st : SprinklerdState) :
    delay (zcRainDelayEnabeled cfg now st) = delay st :=
  delay_of_outside (zc_rain_delay_outside now st)

theorem enable_delay_control (now : Int) (state : Bool) (st : SprinklerdState) :
    control (SdCron.enableDelay24h cfg now state st) =
      if st.delay24h = false ∧ state = true then rainStopped cfg (control st)
      else control st := by
  unfold SdCron.enableDelay24h
  cases state <;> cases delayed : st.delay24h <;> simp only [ne_eq, reduceCtorEq,
    not_true_eq_false, not_false_eq_true, if_true, if_false, and_true, and_false, and_self,
    write_cache_control, zc_rain_delay_control] <;> rfl

theorem enable_delay_delay (now : Int) (state : Bool) (st : SprinklerdState) :
    delay (SdCron.enableDelay24h cfg now state st) =
      if st.delay24h = state then delay st
      else (state, if state then now + delay24hSec else 0) := by
  unfold SdCron.enableDelay24h
  by_cases same : st.delay24h = state
  · rw [if_neg (not_not.mpr same), if_pos same]
  · rw [if_pos same, if_neg same, write_cache_delay]
    cases state
    · rfl
    · simp only [if_true]
      exact zc_rain_delay_delay now _

theorem reset_delay_control (now dtime : Int) (st : SprinklerdState) :
    control (SdCron.resetDelay24hTime cfg now dtime st) = rainStopped cfg (control st) := by
  unfold SdCron.resetDelay24hTime
  rw [write_cache_control, zc_rain_delay_control]
  split_ifs <;> rfl

/-- The flag and end time a request to re-arm the delay leaves. -/
def armed (now dtime : Int) : Bool × Int :=
  (true, if dtime > wrapUnsigned 64 now then wrapSigned 64 dtime else now + delay24hSec)

theorem reset_delay_delay (now dtime : Int) (st : SprinklerdState) :
    delay (SdCron.resetDelay24hTime cfg now dtime st) = armed now dtime := by
  unfold SdCron.resetDelay24hTime armed
  rw [write_cache_delay, zc_rain_delay_delay]
  split_ifs <;> rfl

/-- A chance-of-rain report at or above a positive threshold. -/
def chanceCrosses (percent : Int) (st : SprinklerdState) : Prop :=
  0 < st.precipChanceDelay ∧ st.precipChanceDelay ≤ percent

instance (percent : Int) (st : SprinklerdState) : Decidable (chanceCrosses percent st) :=
  inferInstanceAs (Decidable (_ ∧ _))

/-- The delay a rain total asks for, in seconds, if it asks for one. A repeated
total other than zero is not looked at again. -/
def rainDelaySeconds (rain : CFloat) (st : SprinklerdState) : Option Int :=
  if st.todayRainTotal.same rain ∧ rain.same .zero = false then none
  else if CFloat.zero.lt st.precipInchDelay2day ∧ st.precipInchDelay2day.le rain then
    some (delay24hSec * 2)
  else if CFloat.zero.lt st.precipInchDelay1day ∧ st.precipInchDelay1day.le rain then
    some delay24hSec
  else none

/-- The operations that turn the rain delay on or re-arm it. Switching it on when
it is on already is ignored. -/
def startsDelay (st : SprinklerdState) : Operation → Bool
  | .enableDelay24h state => st.delay24h = false ∧ state = true
  | .resetDelay24hTime _ => true
  | .setTodayChanceOfRain percent => (percent ≤ 100 ∧ 0 ≤ percent) ∧ chanceCrosses percent st
  | .setTodayRainTotal rain => (rainDelaySeconds rain st).isSome
  | _ => false

/-- The operations that may drive a valve or edit the running record on their own
account: requests, the tick and a changed runtime. -/
def runsZones : Operation → Prop
  | .zone _ _ _ _ => True
  | .check => True
  | .setDefaultRuntime _ _ => True
  | _ => False

theorem chance_of_rain_eq (now percent : Int) (st : SprinklerdState) :
    (SdCron.setTodayChanceOfRain cfg now percent st).1 =
      if percent ≤ 100 ∧ 0 ≤ percent then
        if chanceCrosses percent st then
          SdCron.resetDelay24hTime cfg now 0
            { st.setEventRainProbability with todayRainChance := percent }
        else SdCron.enableDelay24h cfg now false
          { st.setEventRainProbability with todayRainChance := percent }
      else st := by
  unfold SdCron.setTodayChanceOfRain chanceCrosses
  by_cases range : percent ≤ 100 ∧ 0 ≤ percent
  · rw [if_pos range, if_pos range]
    exact apply_ite Prod.fst _ _ _
  · rw [if_neg range, if_neg range]

theorem rain_total_eq (now : Int) (rain : CFloat) (st : SprinklerdState) :
    (SdCron.setTodayRainTotal cfg now rain st).1 =
      match rainDelaySeconds rain st with
      | some seconds => SdCron.resetDelay24hTime cfg now (wrapUnsigned 64 (now + seconds))
          { st with todayRainTotal := rain }.setEventRainTotal
      | none =>
          if st.todayRainTotal.same rain ∧ rain.same .zero = false then st
          else { st with todayRainTotal := rain }.setEventRainTotal := by
  unfold SdCron.setTodayRainTotal rainDelaySeconds
  by_cases repeated : st.todayRainTotal.same rain ∧ rain.same .zero = false
  · simp only [if_pos repeated]
  simp only [if_neg repeated]
  by_cases two : CFloat.zero.lt st.precipInchDelay2day ∧ st.precipInchDelay2day.le rain
  · rw [if_pos two, if_pos (by exact two)]
  rw [if_neg two, if_neg (by exact two)]
  by_cases one : CFloat.zero.lt st.precipInchDelay1day ∧ st.precipInchDelay1day.le rain
  · rw [if_pos one, if_pos (by exact one)]
  · rw [if_neg one, if_neg (by exact one)]

theorem chance_of_rain_control (now percent : Int) (st : SprinklerdState) :
    control (SdCron.setTodayChanceOfRain cfg now percent st).1 =
      if startsDelay st (.setTodayChanceOfRain percent) then rainStopped cfg (control st)
      else control st := by
  rw [chance_of_rain_eq]
  by_cases range : percent ≤ 100 ∧ 0 ≤ percent
  · by_cases crosses : chanceCrosses percent st
    · rw [if_pos range, if_pos crosses, reset_delay_control, if_pos]
      · rfl
      · exact decide_eq_true ⟨range, crosses⟩
    · rw [if_pos range, if_neg crosses, enable_delay_control, if_neg (by simp), if_neg]
      · rfl
      · intro starts
        exact crosses (of_decide_eq_true starts).2
  · rw [if_neg range, if_neg]
    intro starts
    exact range (of_decide_eq_true starts).1

theorem rain_total_control (now : Int) (rain : CFloat) (st : SprinklerdState) :
    control (SdCron.setTodayRainTotal cfg now rain st).1 =
      if startsDelay st (.setTodayRainTotal rain) then rainStopped cfg (control st)
      else control st := by
  rw [rain_total_eq, startsDelay]
  cases rainDelaySeconds rain st with
  | some seconds => exact reset_delay_control now _ _
  | none =>
      simp only [Option.isSome_none, Bool.false_eq_true, if_false]
      split_ifs <;> rfl

/-- What an operation that runs no zone does to the pins and the running record. -/
theorem apply_operation_control (cfg : SprinklerdCfg) (now : Int) (st : SprinklerdState) (operation : Operation)
    (quiet : ¬ runsZones operation) :
    control (applyOperation cfg now st operation) =
      if startsDelay st operation then rainStopped cfg (control st) else control st := by
  cases operation with
  | zone => exact absurd trivial quiet
  | check => exact absurd trivial quiet
  | setDefaultRuntime => exact absurd trivial quiet
  | enableCalendar state =>
      simp only [applyOperation, SdCron.enableCalendar]
      split_ifs <;> first | rfl | contradiction
  | enableDelay24h state =>
      rw [applyOperation, enable_delay_control]
      simp only [startsDelay, decide_eq_true_eq]
  | resetDelay24hTime dtime => exact reset_delay_control now dtime st
  | setTodayChanceOfRain percent => exact chance_of_rain_control now percent st
  | setTodayRainTotal rain => exact rain_total_control now rain st
  | checkDelay24h =>
      have off : control (SdCron.enableDelay24h cfg now false st) = control st := by
        rw [enable_delay_control, if_neg (by simp)]
      simp only [applyOperation, SdCron.checkDelay24h]
      split_ifs <;> first | exact off | rfl | contradiction
  | precipChanceDelay => rfl
  | precipInchDelay1day => rfl
  | precipInchDelay2day => rfl

/-- What holds of the record with any duration, of an idle record, and after a zone request and
a check, holds after any operation. -/
theorem operation_record {cfg : SprinklerdCfg} {P : SzRunning → Prop} (now : Int)
    {st : SprinklerdState} (operation : Operation)
    (holds : ∀ duration, P { st.currentZone with duration := duration })
    (idle : ∀ record : SzRunning, record.type = .zcNone → P record)
    (requested : ∀ type zone state length, operation = .zone type zone state length →
      P (zcZone cfg now type zone state length st).1.currentZone)
    (checked : P (zcCheck cfg now st).1.currentZone) :
    P (applyOperation cfg now st operation).currentZone := by
  by_cases runs : runsZones operation
  · cases operation with
    | zone type zone state length => exact requested type zone state length rfl
    | check => exact checked
    | setDefaultRuntime zone runtime =>
        simp only [applyOperation, zcUpdateRuntime]
        split_ifs
        · exact holds _
        · exact holds st.currentZone.duration
    | _ => exact absurd runs id
  · have same : (applyOperation cfg now st operation).currentZone =
        (if startsDelay st operation then rainStopped cfg (control st) else control st).2 :=
      congrArg Prod.snd (apply_operation_control cfg now st operation runs)
    rw [same]
    unfold rainStopped control
    simp only
    split_ifs
    · exact idle _ rfl
    · exact holds st.currentZone.duration
    · exact holds st.currentZone.duration

/-- What each operation makes of the rain-delay flag and its end time. -/
def delayAfter (now : Int) (st : SprinklerdState) : Operation → Bool × Int
  | .enableDelay24h state =>
      if st.delay24h = state then delay st
      else (state, if state then now + delay24hSec else 0)
  | .resetDelay24hTime dtime => armed now dtime
  | .setTodayChanceOfRain percent =>
      if percent ≤ 100 ∧ 0 ≤ percent then
        if chanceCrosses percent st then armed now 0
        else if st.delay24h = false then delay st else (false, 0)
      else delay st
  | .setTodayRainTotal rain =>
      match rainDelaySeconds rain st with
      | none => delay st
      | some seconds => armed now (wrapUnsigned 64 (now + seconds))
  | .checkDelay24h =>
      if 0 < st.delay24hTime ∧ st.delay24hTime < now ∧ st.delay24h = true then (false, 0)
      else delay st
  | _ => delay st

theorem apply_operation_delay (cfg : SprinklerdCfg) (now : Int) (st : SprinklerdState) (operation : Operation) :
    delay (applyOperation cfg now st operation) = delayAfter now st operation := by
  cases operation with
  | zone type zone state length =>
      exact delay_of_outside (zc_zone_outside now type zone state length st)
  | check => exact delay_of_outside (zc_check_outside now st)
  | enableCalendar state =>
      simp only [applyOperation, SdCron.enableCalendar]
      split_ifs <;> rfl
  | enableDelay24h state => exact enable_delay_delay now state st
  | resetDelay24hTime dtime => exact reset_delay_delay now dtime st
  | setTodayChanceOfRain percent =>
      rw [applyOperation, chance_of_rain_eq, delayAfter]
      by_cases range : percent ≤ 100 ∧ 0 ≤ percent
      · rw [if_pos range, if_pos range]
        by_cases crosses : chanceCrosses percent st
        · rw [if_pos crosses, if_pos crosses, reset_delay_delay]
        · rw [if_neg crosses, if_neg crosses, enable_delay_delay]
          rfl
      · rw [if_neg range, if_neg range]
  | setTodayRainTotal rain =>
      rw [applyOperation, rain_total_eq, delayAfter]
      cases rainDelaySeconds rain st with
      | some seconds => exact reset_delay_delay now _ _
      | none =>
          simp only
          split_ifs <;> rfl
  | checkDelay24h =>
      simp only [applyOperation, SdCron.checkDelay24h, delayAfter, sub_pos]
      by_cases positive : 0 < st.delay24hTime
      · by_cases late : st.delay24hTime < now
        · rw [if_pos positive, if_pos late, enable_delay_delay]
          cases delayed : st.delay24h <;> simp [positive, late]
        · rw [if_pos positive, if_neg late, if_neg fun expired => late expired.2.1]
      · rw [if_neg positive, if_neg fun expired => positive expired.1]
  | setDefaultRuntime zone runtime =>
      simp only [applyOperation, zcUpdateRuntime]
      split_ifs <;> rfl
  | precipChanceDelay => rfl
  | precipInchDelay1day => rfl
  | precipInchDelay2day => rfl

end DelayOperations

section RunType

theorem start_next_zone_from_type (now : Int) (left : Nat) (zone : Int) (st : SprinklerdState) :
    (startNextZoneFrom cfg now left zone st).1.currentZone.type = st.currentZone.type ∨
      (startNextZoneFrom cfg now left zone st).1.currentZone.type = .zcNone := by
  induction left generalizing zone st with
  | zero => exact Or.inl rfl
  | succ left ih =>
      rw [startNextZoneFrom]
      split_ifs with skipped last
      · exact Or.inr (by simp)
      · exact ih (zone + 1) st
      · simp only
        split_ifs
        · exact Or.inl (by simp)
        · rcases ih (zone + 1) (zcStart cfg zone st).1.setEventZones with kept | ended
          · exact Or.inl (kept.trans (congrArg SzRunning.type (zc_start_record zone st)))
          · exact Or.inr ended

theorem zc_check_type (cfg : SprinklerdCfg) (now : Int) (st : SprinklerdState) :
    (zcCheck cfg now st).1.currentZone.type = st.currentZone.type ∨
      (zcCheck cfg now st).1.currentZone.type = .zcNone := by
  have outcome := zc_check_outcome cfg now st
  generalize zcCheck cfg now st = result at outcome ⊢
  cases outcome with
  | idle => exact Or.inl rfl
  | waiting => exact Or.inl rfl
  | advanced =>
      have stopped : (zcStop cfg st.currentZone.zone (calcTimeleft now st)).1.currentZone.type =
          st.currentZone.type := by rw [zc_stop_record, calc_timeleft_type]
      exact (start_next_zone_from_type now _ _ _).imp (fun kept => kept.trans stopped) id
  | finished => exact Or.inr rfl

theorem cycle_all_zones_type (cfg : SprinklerdCfg) (now : Int) (state : ZcState) (st : SprinklerdState) :
    (cycleAllZones cfg now state st).currentZone.type = .zcAll ∨
      (cycleAllZones cfg now state st).currentZone.type = .zcNone := by
  unfold cycleAllZones
  simp only
  split_ifs
  · exact Or.inl rfl
  · exact Or.inr ((start_next_zone_from_type now _ _ _).elim id id)
  · exact Or.inr rfl

/-- A run becomes a cron run only through a cron request that nothing holds back. -/
theorem apply_operation_cron (now : Int) (st : SprinklerdState) (operation : Operation)
    (runs : runsZones operation)
    (cron : (applyOperation cfg now st operation).currentZone.type = .zcCron) :
    st.currentZone.type = .zcCron ∨ (st.calendar = true ∧ st.delay24h = false) := by
  cases operation with
  | check =>
      refine (zc_check_type cfg now st).elim (fun kept => ?_) fun ended => ?_
      · exact Or.inl (kept.symm.trans cron)
      · simp [applyOperation, ended] at cron
  | setDefaultRuntime zone runtime =>
      simp only [applyOperation, zcUpdateRuntime] at cron
      split_ifs at cron <;> exact Or.inl cron
  | zone type zone state length =>
      have outcome := zc_zone_outcome cfg now type zone state length st
      simp only [applyOperation] at cron
      generalize zcZone cfg now type zone state length st = result at outcome cron
      cases outcome with
      | ignored => exact Or.inl cron
      | blocked => exact Or.inl cron
      | noRuntime => exact Or.inl cron
      | cycled =>
          rcases cycle_all_zones_type cfg now state st with all | none
          · simp [all] at cron
          · simp [none] at cron
      | turnedOn fresh one on lasting free =>
          by_cases same : type = .zcCron
          · exact Or.inr (free same)
          · simp only [turnZoneOn] at cron
            split_ifs at cron
            · exact Or.inl (by simpa using cron)
            · exact absurd cron same
            · exact Or.inl (by simpa using cron)
      | turnedOff =>
          simp only [turnZoneOff] at cron
          split_ifs at cron with all
          · rcases zc_check_type cfg now { st with currentZone :=
              { st.currentZone with startedTime := st.currentZone.startedTime -
                Foundation.MachineInt.wrap32 (st.currentZone.duration * sec2Min) - 1 } } with
              kept | none
            · exact Or.inl (kept.symm.trans cron)
            · simp [none] at cron
  | _ => exact absurd runs id

end RunType

section Bench

/-- A two-zone controller with a master valve, wired as `zonecfg` says. -/
def benchCfg (zonecfg : Int → GPIOcfg) : SprinklerdCfg where
  zones := 2
  zonesPositive := by decide
  zonesBounded := by decide
  masterValve := true
  zonecfg := zonecfg

def benchWiring (zone : Int) : GPIOcfg := { pin := zone + 4, onState := 1 }

/-- A wiring whose on state is no level, so that no zone ever reads on. -/
def unreadableWiring (zone : Int) : GPIOcfg := { pin := zone + 4, onState := 5 }

def benchState : SprinklerdState where
  gpio := { level := fun _ => false, writes := [] }
  defaultRuntime _ := 10
  currentZone := { type := .zcNone, startedTime := 0, duration := 0, timeleft := 0, zone := -1 }
  calendar := true
  delay24h := false
  delay24hTime := 0
  precipChanceDelay := 50
  precipInchDelay1day := .finite (1 / 2)
  precipInchDelay2day := .finite 1
  dzCache := []
  cron _ := { hour := -1, minute := 0, zruntimes := fun _ => 0 }
  cronUpdate := 0
  updateEventMask := ⟨false, false, false, false⟩
  todayRainChance := 0
  todayRainTotal := .zero
  disk := { rootReadOnly := false, cacheOpens := true, cronOpens := true,
            cacheFile := none, cronFile := none }
  outOfTable := false

theorem mem_bench_table {zonecfg : Int → GPIOcfg} {zone : Int} :
    InTable (benchCfg zonecfg) zone ↔ zone = 0 ∨ zone = 1 ∨ zone = 2 := by
  have bounds : zone ∈ zoneList (benchCfg zonecfg) ↔ 1 ≤ zone ∧ zone ≤ 2 := mem_zone_list
  rw [InTable, bounds]
  simp only [benchCfg, and_true]
  omega

theorem bench_startup : Startup (benchCfg benchWiring) benchState where
  idle := rfl
  pinsOff zone member := by
    rcases mem_bench_table.mp member with rfl | rfl | rfl <;> decide
  noWrites := rfl

theorem bench_wired : WellWired (benchCfg benchWiring) where
  binary _ _ := Or.inr rfl
  distinct zone other _ _ _ shared := by
    simp only [benchCfg, benchWiring] at shared
    omega

end Bench

end SprinklerD.Operations
