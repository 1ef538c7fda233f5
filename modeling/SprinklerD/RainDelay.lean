import SprinklerD.ValveAgreement

/-!
# What the rain delay guarantees

The rain delay keeps scheduled watering out and leaves other runs alone. What it
does not do is last: a chance-of-rain report below the threshold ends it whoever
set it, and a report above the threshold moves its end to a day from now.
-/

namespace SprinklerD.RainDelay

open Foundation.MachineInt Foundation.Transitions
open SprinklerD.Config SprinklerD.GpioPi SprinklerD.ZoneCtrl SprinklerD.SdCron
open SprinklerD.ZoneValves SprinklerD.Operations SprinklerD.ValveAgreement

set_option autoImplicit false

variable {cfg : SprinklerdCfg}

section Exclusion

/-- While the delay is on, no run is one that cron started. -/
def CronHeldBack (st : SprinklerdState) : Prop :=
  st.delay24h = true → st.currentZone.type ≠ .zcCron

/-- The operations that ask for the delay, the one that is ignored because the
delay is on included. -/
def AsksForDelay (st : SprinklerdState) (operation : Operation) : Prop :=
  operation = .enableDelay24h true ∨ startsDelay st operation = true

/-- An operation that starts no delay leaves the flag off or as it was. -/
theorem delay_after_quiet (now : Int) (st : SprinklerdState) (operation : Operation)
    (quiet : startsDelay st operation = false)
    (delayed : (delayAfter now st operation).1 = true) : st.delay24h = true := by
  cases operation with
  | enableDelay24h state =>
      simp only [startsDelay, decide_eq_false_iff_not, not_and] at quiet
      simp only [delayAfter] at delayed
      split_ifs at delayed with same on
      · exact delayed
      · exact Bool.of_not_eq_false fun off => quiet off on
      · exact absurd delayed on
  | resetDelay24hTime dtime => simp [startsDelay] at quiet
  | setTodayChanceOfRain percent =>
      simp only [startsDelay, decide_eq_false_iff_not, not_and] at quiet
      simp only [delayAfter] at delayed
      split_ifs at delayed with range crosses off
      · exact absurd crosses (quiet range)
      · exact delayed
      · exact delayed
  | setTodayRainTotal rain =>
      simp only [startsDelay, Option.isSome_eq_false_iff, Option.isNone_iff_eq_none] at quiet
      simp only [delayAfter, quiet] at delayed
      exact delayed
  | checkDelay24h =>
      simp only [delayAfter] at delayed
      split_ifs at delayed
      exact delayed
  | _ => exact delayed

/-- A starting delay closes a cron run and touches nothing else. -/
theorem asked_delay_effect (sound : SoundWiring cfg) (now : Int) (st : SprinklerdState)
    (agrees : Agrees cfg st.gpio st.currentZone) (held : CronHeldBack st)
    {operation : Operation} (asks : AsksForDelay st operation) :
    (st.currentZone.type = .zcCron →
      (applyOperation cfg now st operation).currentZone.type = .zcNone ∧
        ∀ zone, InTable cfg zone →
          zoneReadsOn cfg (applyOperation cfg now st operation).gpio zone = false) ∧
    (st.currentZone.type ≠ .zcCron →
      (applyOperation cfg now st operation).gpio = st.gpio ∧
        (applyOperation cfg now st operation).currentZone = st.currentZone) := by
  have quiet : ¬ runsZones operation := by
    rcases asks with rfl | starts
    · exact id
    · cases operation <;> first | exact id | simp [startsDelay] at starts
  have effect := apply_operation_control cfg now st operation quiet
  have stopped := rain_stopped_agrees sound agrees
  by_cases starts : startsDelay st operation = true
  · rw [if_pos starts] at effect
    constructor
    · intro cron
      have closed := stopped.1 cron
      rw [← show control st = (st.gpio, st.currentZone) from rfl, ← effect] at closed
      exact closed
    · intro other
      rw [show control st = (st.gpio, st.currentZone) from rfl, stopped.2 other] at effect
      exact ⟨congrArg Prod.fst effect, congrArg Prod.snd effect⟩
  · rw [if_neg starts] at effect
    refine ⟨fun cron => ?_, fun _ => ⟨congrArg Prod.fst effect, congrArg Prod.snd effect⟩⟩
    have ignored : operation = .enableDelay24h true := asks.resolve_right starts
    subst ignored
    have delayed : st.delay24h = true := by simpa [startsDelay] using starts
    exact absurd cron (held delayed)

theorem apply_operation_holds_cron_back (sound : SoundWiring cfg) (now : Int)
    (st : SprinklerdState) (operation : Operation)
    (agrees : Agrees cfg st.gpio st.currentZone) (held : CronHeldBack st) :
    CronHeldBack (applyOperation cfg now st operation) := by
  intro delayed
  have flag : (delayAfter now st operation).1 = true := by
    rw [← apply_operation_delay cfg]
    exact delayed
  by_cases starts : startsDelay st operation = true
  · have effect := asked_delay_effect sound now st agrees held (Or.inr starts)
    by_cases cron : st.currentZone.type = .zcCron
    · rw [(effect.1 cron).1]
      simp
    · rw [(effect.2 cron).2]
      exact cron
  · have before := delay_after_quiet now st operation (Bool.eq_false_iff.mpr starts) flag
    by_cases runs : runsZones operation
    · intro cron
      rcases apply_operation_cron now st operation runs cron with kept | ⟨-, free⟩
      · exact held before kept
      · simp [before] at free
    · have effect := apply_operation_control cfg now st operation runs
      rw [if_neg starts] at effect
      rw [show (applyOperation cfg now st operation).currentZone = st.currentZone from
        congrArg Prod.snd effect]
      exact held before

theorem checked_run_holds_cron_back (sound : SoundWiring cfg) {st : SprinklerdState}
    (reached : CheckedRun cfg st) :
    Agrees cfg st.gpio st.currentZone ∧ CronHeldBack st :=
  reachable_invariant
    (fun st => Agrees cfg st.gpio st.currentZone ∧ CronHeldBack st)
    (fun _ startup => ⟨agrees_all_off startup.idle startup.pinsOff,
      fun _ => by simp [startup.idle]⟩)
    (fun st event ⟨agrees, held⟩ checked =>
      ⟨apply_operation_agrees sound event.1 st event.2 agrees checked,
        apply_operation_holds_cron_back sound event.1 st event.2 agrees held⟩) reached

theorem cron_request_held_back (now zone length : Int) (st : SprinklerdState)
    (held : st.delay24h = true ∨ st.calendar = false) :
    zcZone cfg now .zcCron zone .zcOn length st = (st, false) := by
  unfold zcZone
  by_cases duplicate : duplicateRequest cfg .zcCron zone .zcOn st = true
  · rw [if_pos duplicate]
  · rw [if_neg duplicate, if_pos ⟨rfl, rfl, held.symm⟩]

theorem rain_delay_excludes_scheduled_watering (sound : SoundWiring cfg) {st : SprinklerdState}
    (reached : CheckedRun cfg st) :
    (st.delay24h = true → st.currentZone.type ≠ .zcCron) ∧
    (∀ now zone length, st.delay24h = true ∨ st.calendar = false →
      (zcZone cfg now .zcCron zone .zcOn length st).1.gpio = st.gpio) ∧
    (∀ now operation, AsksForDelay st operation →
      (st.currentZone.type = .zcCron →
        ∀ zone, InTable cfg zone →
          zoneReadsOn cfg (applyOperation cfg now st operation).gpio zone = false) ∧
      (st.currentZone.type ≠ .zcCron →
        (applyOperation cfg now st operation).gpio = st.gpio ∧
          (applyOperation cfg now st operation).currentZone = st.currentZone)) := by
  obtain ⟨agrees, held⟩ := checked_run_holds_cron_back sound reached
  refine ⟨held, fun now zone length kept => ?_, fun now operation asks => ?_⟩
  · rw [cron_request_held_back now zone length st kept]
  · have effect := asked_delay_effect sound now st agrees held asks
    exact ⟨fun cron => (effect.1 cron).2, effect.2⟩

theorem rain_delay_excludes_scheduled_watering_running :
    zoneReadsOn (benchCfg benchWiring) (benchRunning .zcCron).gpio 2 = true ∧
      zoneReadsOn (benchCfg benchWiring) (applyOperation (benchCfg benchWiring) 1060
        (benchRunning .zcCron) (.enableDelay24h true)).gpio 2 = false :=
  ⟨by decide, ((rain_delay_excludes_scheduled_watering bench_sound
    (bench_running_reached (Or.inr rfl))).2.2 1060 _ (Or.inl rfl)).1 (by decide) 2
    (mem_bench_table.mpr (by decide))⟩

/-- With an on state that is no level, the delay finds the cron run's valve already
off, ignores the request to stop it and leaves the run in progress. -/
theorem unreadable_wiring_keeps_cron_run :
    ∃ st, (∀ zone, InTable (benchCfg unreadableWiring) zone →
        validGPIO ((benchCfg unreadableWiring).zonecfg zone).pin = true) ∧
      (∀ zone other, ((benchCfg unreadableWiring).zonecfg zone).pin =
        ((benchCfg unreadableWiring).zonecfg other).pin → zone = other) ∧
      CheckedRun (benchCfg unreadableWiring) st ∧
      st.delay24h = true ∧ st.currentZone.type = .zcCron := by
  have startup : Startup (benchCfg unreadableWiring) benchState := by
    refine ⟨rfl, fun zone member => ?_, rfl⟩
    rcases mem_bench_table.mp member with rfl | rfl | rfl <;> decide
  have listed : (1 : Int) ∈ zoneList (benchCfg unreadableWiring) := by decide
  have watering : CheckedRun (benchCfg unreadableWiring) _ :=
    .next (.start startup) (1000, .zone .zcCron 1 .zcOn 5)
      (by exact Or.inl ⟨Or.inr rfl, listed⟩)
  have delayed : CheckedRun (benchCfg unreadableWiring) _ :=
    .next watering (1060, .enableDelay24h true) (by exact trivial)
  refine ⟨_, fun zone member => ?_, fun zone other shared => ?_, delayed, ?_, ?_⟩
  · rcases mem_bench_table.mp member with rfl | rfl | rfl <;> decide
  · simp only [benchCfg, unreadableWiring] at shared
    omega
  · decide
  · decide

end Exclusion

section Persistence

/-- The readings of `time` for which the sums of the rain delay stay in a `time_t`. -/
def ClockReading (now : Int) : Prop := 0 ≤ now ∧ now + delay24hSec * 2 < 2 ^ 63

def SensorUpdate : Operation → Prop
  | .setTodayChanceOfRain percent => 0 ≤ percent ∧ percent ≤ 100
  | .setTodayRainTotal rain => CFloat.zero.le rain = true
  | .checkDelay24h => True
  | _ => False

/-- An update that does not cut a delay until `finish` short: a chance report reaches
its threshold less than a day before the end, and a rain report that re-arms the
delay re-arms it for long enough. -/
def KeepsDelay (finish : Int) (st : SprinklerdState) (event : TimedOperation) : Prop :=
  match event.2 with
  | .setTodayChanceOfRain percent =>
      chanceCrosses percent st ∧ finish ≤ event.1 + delay24hSec
  | .setTodayRainTotal rain =>
      ∀ seconds, rainDelaySeconds rain st = some seconds → finish ≤ event.1 + seconds
  | _ => True

def Outlasts (finish : Int) (st : SprinklerdState) : Prop :=
  st.delay24h = true ∧ finish ≤ st.delay24hTime

theorem armed_time {now seconds : Int} (clock : ClockReading now)
    (bounds : 0 ≤ seconds ∧ seconds ≤ delay24hSec * 2) (positive : 0 < seconds) :
    armed now (wrapUnsigned 64 (now + seconds)) = (true, now + seconds) := by
  simp only [ClockReading, delay24hSec] at clock bounds
  have reading : wrapUnsigned 64 now = now := Int.emod_eq_of_lt (by omega) (by omega)
  have sum : wrapUnsigned 64 (now + seconds) = now + seconds :=
    Int.emod_eq_of_lt (by omega) (by omega)
  rw [armed, sum, reading, if_pos (by omega),
    wrap_signed_of_fits (by decide) (by omega) (by omega)]

theorem rain_delay_seconds_cases {rain : CFloat} {st : SprinklerdState} {seconds : Int}
    (asked : rainDelaySeconds rain st = some seconds) :
    seconds = delay24hSec ∨ seconds = delay24hSec * 2 := by
  unfold rainDelaySeconds at asked
  split_ifs at asked
  · exact Or.inr (Option.some.inj asked).symm
  · exact Or.inl (Option.some.inj asked).symm

/-- One update at a moment before the end keeps the delay exactly under the condition. -/
theorem sensor_update_keeps_delay (cfg : SprinklerdCfg) {finish now : Int} {st : SprinklerdState}
    {operation : Operation} (update : SensorUpdate operation) (clock : ClockReading now)
    (early : now ≤ finish) (on : st.delay24h = true) (lasting : finish ≤ st.delay24hTime) :
    ((timedStep cfg st (now, operation)).delay24h = true ∧
        finish ≤ (timedStep cfg st (now, operation)).delay24hTime) ↔
      KeepsDelay finish st (now, operation) := by
  have effect : delay (timedStep cfg st (now, operation)) = delayAfter now st operation :=
    apply_operation_delay cfg now st operation
  rw [show (timedStep cfg st (now, operation)).delay24h = (delayAfter now st operation).1 from
      congrArg Prod.fst effect,
    show (timedStep cfg st (now, operation)).delay24hTime = (delayAfter now st operation).2 from
      congrArg Prod.snd effect]
  cases operation with
  | setTodayChanceOfRain percent =>
      have notLess : ¬ (0 : Int) > wrapUnsigned 64 now :=
        not_lt.mpr (Int.emod_nonneg now (by decide))
      simp only [delayAfter, KeepsDelay, if_pos (And.intro update.2 update.1)]
      by_cases crosses : chanceCrosses percent st
      · rw [if_pos crosses, armed, if_neg notLess]
        simp [crosses]
      · rw [if_neg crosses]
        simp [crosses, on]
  | setTodayRainTotal rain =>
      simp only [delayAfter, KeepsDelay]
      cases asked : rainDelaySeconds rain st with
      | none => simp [delay, on, lasting]
      | some seconds =>
          have bounds : 0 < seconds ∧ seconds ≤ delay24hSec * 2 := by
            rcases rain_delay_seconds_cases asked with rfl | rfl <;> decide
          simp [armed_time clock ⟨bounds.1.le, bounds.2⟩ bounds.1]
  | checkDelay24h =>
      have unexpired : ¬ (0 < st.delay24hTime ∧ st.delay24hTime < now ∧ st.delay24h = true) :=
        fun expired => by omega
      rw [delayAfter, if_neg unexpired]
      simp [KeepsDelay, delay, on, lasting]
  | _ => exact absurd update id

theorem sensor_updates_keep_rain_delay (st : SprinklerdState) (on : st.delay24h = true)
    (events : List TimedOperation)
    (updates : ∀ event ∈ events, SensorUpdate event.2)
    (clock : ∀ event ∈ events, ClockReading event.1 ∧ event.1 ≤ st.delay24hTime) :
    (∀ done, done <+: events →
      (run (timedStep cfg) st done).delay24h = true ∧
        st.delay24hTime ≤ (run (timedStep cfg) st done).delay24hTime) ↔
      Admitted (timedStep cfg) (KeepsDelay st.delay24hTime) st events := by
  have lasting : Outlasts st.delay24hTime st := ⟨on, le_refl _⟩
  have every : Admitted (timedStep cfg) (fun _ event => SensorUpdate event.2 ∧
      ClockReading event.1 ∧ event.1 ≤ st.delay24hTime) st events :=
    admitted_of_forall fun event member => ⟨updates event member, clock event member⟩
  apply (prefixes_iff_admitted (Outlasts st.delay24hTime)).trans
  rw [and_iff_right lasting]
  apply admitted_congr (Outlasts st.delay24hTime) _ _ lasting every
  · rintro later event ⟨on, lasting⟩ ⟨update, clock, early⟩
    exact sensor_update_keeps_delay cfg update clock early on lasting
  · rintro later event ⟨on, lasting⟩ ⟨update, clock, early⟩ keeps
    exact (sensor_update_keeps_delay cfg update clock early on lasting).mpr keeps

/-- The bench controller after two inches of rain, which ask for two days. -/
def benchDelayed : SprinklerdState :=
  timedStep (benchCfg benchWiring) benchState (1000, .setTodayRainTotal (.finite 2))

theorem sensor_updates_keep_rain_delay_repeated :
    (run (timedStep (benchCfg benchWiring)) benchDelayed
      [(2000, .setTodayRainTotal (.finite 2)), (3000, .checkDelay24h)]).delay24h = true ∧
    benchDelayed.delay24hTime ≤ (run (timedStep (benchCfg benchWiring)) benchDelayed
      [(2000, .setTodayRainTotal (.finite 2)), (3000, .checkDelay24h)]).delay24hTime := by
  refine (sensor_updates_keep_rain_delay benchDelayed (by decide) _ ?_ ?_).mpr ?_ _
    (List.prefix_refl _)
  · simp [SensorUpdate, CFloat.le, CFloat.zero, CFloat.number]
  · simp only [List.mem_cons, List.not_mem_nil, or_false, forall_eq_or_imp, forall_eq,
      ClockReading]
    decide
  · have repeated : rainDelaySeconds (.finite 2) benchDelayed = none := by decide
    exact ⟨fun seconds asked => absurd (repeated.symm.trans asked) (by simp), trivial, trivial⟩

/-- The nightly report of no chance of rain ends the two days that the rain gauge
asked for, long before they are over. -/
theorem nightly_chance_report_cuts_rain_delay :
    CheckedRun (benchCfg benchWiring) benchDelayed ∧ benchDelayed.delay24h = true ∧
      86400 ≤ benchDelayed.delay24hTime ∧
      (timedStep (benchCfg benchWiring) benchDelayed
        (86400, .setTodayChanceOfRain 0)).delay24h = false :=
  ⟨.next (.start bench_startup) _ (by exact trivial), by decide, by decide, by decide⟩

end Persistence

end SprinklerD.RainDelay
