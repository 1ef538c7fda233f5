import SprinklerD.CycleAll
import SprinklerD.PinLevels

/-!
# How long a run lasts

A run of one zone ends at the first tick at which its length has passed. The length is
compared in seconds, and the seconds are an int: a length whose seconds do not fit wraps
around, and the run ends early. The results hold for every wiring and every state.
-/

namespace SprinklerD.RunLength

open Foundation.MachineInt Foundation.Transitions
open SprinklerD.Config SprinklerD.GpioPi SprinklerD.ZoneCtrl SprinklerD.ZoneValves
open SprinklerD.Operations SprinklerD.CycleAll SprinklerD.RefusedRequest SprinklerD.PinLevels

set_option autoImplicit false

/-- A zone that reads on once it and then the master valve have been turned on. -/
def HoldsOn (cfg : SprinklerdCfg) (zone : Int) : Prop :=
  levelled cfg zone = true ∧
    (cfg.masterValve = true ∧ (cfg.zonecfg 0).pin = (cfg.zonecfg zone).pin →
      ((cfg.zonecfg 0).onState = 0 ↔ (cfg.zonecfg zone).onState = 0))

instance (cfg : SprinklerdCfg) (zone : Int) : Decidable (HoldsOn cfg zone) :=
  inferInstanceAs (Decidable (_ ∧ (_ → _)))

/-- Through any ticks, the zone is on after one exactly when the minutes have not passed
at that tick. -/
def LastsMinutes (cfg : SprinklerdCfg) (start zone minutes : Int) (st : SprinklerdState) : Prop :=
  ∀ (ticks : List Int) (last : Int), (start :: (ticks ++ [last])).Pairwise (· ≤ ·) →
    zoneReadsOn cfg (run (tickStep cfg) st (ticks ++ [last])).gpio zone =
      decide (last - start < 60 * minutes)

structure RunsAlone (start zone length : Int) (record : SzRunning) : Prop where
  one : record.type = .zcSingle ∨ record.type = .zcCron
  current : record.zone = zone
  started : record.startedTime = start
  lasting : record.duration = length

variable {cfg : SprinklerdCfg}

section Start

/-- What an accepted start leaves: the record set, and the zone turned on with the master. -/
theorem accepted_start {start : Int} {type : ZcRunType} {zone length : Int} {st : SprinklerdState}
    (one : type ≠ .zcAll) (accepted : (zcZone cfg start type zone .zcOn length st).2 = true) :
    validGPIO (cfg.zonecfg zone).pin = true ∧
      ∃ stopped : SprinklerdState, zoneReadsOn cfg stopped.gpio zone = false ∧
        (zcZone cfg start type zone .zcOn length st).1 =
          calcTimeleft start { zcMaster cfg .zcOn (zcStart cfg zone stopped).1 with
            currentZone := { stopped.currentZone with
              type := type, zone := zone, duration := requestLength zone length st,
              startedTime := start } } := by
  have outcome := zc_zone_outcome cfg start type zone .zcOn length st
  generalize zcZone cfg start type zone .zcOn length st = result at outcome accepted ⊢
  cases outcome with
  | ignored => cases accepted
  | blocked => cases accepted
  | noRuntime => cases accepted
  | cycled fresh all => exact absurd all one
  | turnedOff fresh one off => cases off
  | turnedOn fresh one on lasting free =>
      unfold turnZoneOn at accepted ⊢
      simp only at accepted ⊢
      split_ifs at accepted ⊢ with found opened
      obtain ⟨off, valid⟩ := (zc_start_result _ _).mp opened
      refine ⟨valid, _, off, ?_⟩
      rw [zc_master_record, zc_start_record]

theorem reads_on_started {zone : Int} (valid : validGPIO (cfg.zonecfg zone).pin = true)
    (st : SprinklerdState) :
    zoneReadsOn cfg (zcMaster cfg .zcOn (zcStart cfg zone st).1).gpio zone =
      decide (HoldsOn cfg zone) := by
  rw [reads_on_valid valid, zc_master_on_level _ valid, zc_start_level _ _ valid, if_pos rfl]
  apply decide_eq_decide.mpr
  unfold HoldsOn levelled
  by_cases shared : cfg.masterValve = true ∧ (cfg.zonecfg 0).pin = (cfg.zonecfg zone).pin
  · by_cases low : (cfg.zonecfg 0).onState = 0
    · simp [shared, low]
      omega
    · simp [shared, low]
      omega
  · by_cases low : (cfg.zonecfg zone).onState = 0
    · simp [shared, low]
    · simp [shared, low]

end Start

section Ticks

theorem runs_alone_timeleft {start zone length : Int} {st : SprinklerdState}
    (running : RunsAlone start zone length st.currentZone) (named : zone ≠ -1) (now : Int) :
    (calcTimeleft now st).currentZone.timeleft ≤ 0 ↔ wrap32 (length * 60) ≤ now - start := by
  simp only [calcTimeleft, running.current, running.started, running.lasting, sec2Min]
  rw [if_pos named, saturate32_nonpos]
  omega

/-- Before the end a tick only counts the time down. -/
theorem early_tick {start zone length : Int} {st : SprinklerdState}
    (running : RunsAlone start zone length st.currentZone) (named : zone ≠ -1) {now : Int}
    (early : now - start < wrap32 (length * 60)) : tickStep cfg st now = calcTimeleft now st := by
  have runs : st.currentZone.type ≠ .zcNone := by
    rcases running.one with one | one <;> simp [one]
  have lasting := not_le.mp fun expired =>
    not_le.mpr early ((runs_alone_timeleft running named now).mp expired)
  rw [tickStep, zc_check_waits cfg runs lasting]

/-- At the end a tick clears the record and turns the zone off, whatever the master did. -/
theorem late_tick {start zone length : Int} {st : SprinklerdState}
    (running : RunsAlone start zone length st.currentZone) (named : zone ≠ -1)
    (valid : validGPIO (cfg.zonecfg zone).pin = true) {now : Int}
    (late : wrap32 (length * 60) ≤ now - start) :
    (tickStep cfg st now).currentZone.type = .zcNone ∧
      zoneReadsOn cfg (tickStep cfg st now).gpio zone = false := by
  have left := runs_alone_timeleft running named now
  unfold tickStep
  have outcome := zc_check_outcome cfg now st
  generalize zcCheck cfg now st = result at outcome ⊢
  cases outcome with
  | idle none => exact absurd none (by rcases running.one with one | one <;> simp [one])
  | waiting _ lasting => exact absurd (left.mpr late) (not_le.mpr lasting)
  | advanced all => exact absurd all (by rcases running.one with one | one <;> simp [one])
  | finished =>
      refine ⟨rfl, ?_⟩
      simp only [zc_stop_gpio, running.current]
      exact reads_off_closed _ valid

theorem idle_ticks {st : SprinklerdState} (none : st.currentZone.type = .zcNone)
    (ticks : List Int) : run (tickStep cfg) st ticks = st := by
  induction ticks with
  | nil => rfl
  | cons now rest ih => rw [run_cons, tickStep, zcCheck, if_pos none, ih]

theorem runs_alone_tick {start zone length : Int} {st : SprinklerdState}
    (running : RunsAlone start zone length st.currentZone) (now : Int) :
    RunsAlone start zone length (calcTimeleft now st).currentZone :=
  ⟨running.one, running.current, running.started, running.lasting⟩

/-- The ticks before the end leave the pins alone, and the first one after it, at the
latest the last tick of all, turns the zone off for good. -/
theorem reads_on_after_ticks {start zone length : Int} {st : SprinklerdState}
    (running : RunsAlone start zone length st.currentZone) (named : zone ≠ -1)
    (valid : validGPIO (cfg.zonecfg zone).pin = true) {ticks : List Int} {last : Int}
    (ordered : (ticks ++ [last]).Pairwise (· ≤ ·)) :
    zoneReadsOn cfg (run (tickStep cfg) st (ticks ++ [last])).gpio zone =
      if last - start < wrap32 (length * 60) then zoneReadsOn cfg st.gpio zone else false := by
  induction ticks generalizing st with
  | nil =>
      rw [List.nil_append, run_cons, run_nil]
      split_ifs with early
      · rw [early_tick running named early]
        rfl
      · exact (late_tick running named valid (not_lt.mp early)).2
  | cons now rest ih =>
      obtain ⟨first, later⟩ := List.pairwise_cons.mp ordered
      have bound : now ≤ last := first last (by simp)
      rw [List.cons_append, run_cons]
      by_cases early : now - start < wrap32 (length * 60)
      · rw [early_tick running named early, ih (runs_alone_tick running now) later]
        rfl
      · have ended := late_tick running named valid (not_lt.mp early)
        rw [idle_ticks ended.1, ended.2, if_neg (by omega)]

end Ticks

section Lengths

theorem minutes_fit_or_wrap_short {minutes : Int} (positive : 0 < minutes) :
    if 60 * minutes < 2 ^ 31 then wrap32 (minutes * 60) = 60 * minutes
    else wrap32 (minutes * 60) < 60 * minutes := by
  split_ifs with fits
  · rw [wrap32_of_fits (by omega) (by omega), mul_comm]
  · have range := wrap32_range (minutes * 60)
    omega

/-- A run started for some minutes lasts exactly those minutes, through all ticks at
non-decreasing times, if and only if their seconds fit the int and the zone can hold
its on level at all. -/
theorem run_lasts_its_length_iff (start : Int) {type : ZcRunType} (zone length : Int)
    (st : SprinklerdState) (one : type = .zcSingle ∨ type = .zcCron) (member : InTable cfg zone)
    (positive : 0 < length) (accepted : (zcZone cfg start type zone .zcOn length st).2 = true) :
    LastsMinutes cfg start zone length (zcZone cfg start type zone .zcOn length st).1 ↔
      60 * length < 2 ^ 31 ∧ HoldsOn cfg zone := by
  have notAll : type ≠ .zcAll := by rcases one with rfl | rfl <;> decide
  have named : zone ≠ -1 := by
    rcases member with listed | ⟨rfl, -⟩
    · have bounds := mem_zone_list.mp listed
      omega
    · decide
  obtain ⟨valid, stopped, -, result⟩ := accepted_start notAll accepted
  have running : RunsAlone start zone length
      (zcZone cfg start type zone .zcOn length st).1.currentZone := by
    rw [result]
    exact ⟨one, rfl, rfl, if_neg positive.ne'⟩
  have opened : zoneReadsOn cfg (zcZone cfg start type zone .zcOn length st).1.gpio zone =
      decide (HoldsOn cfg zone) := by
    rw [result, calc_timeleft_gpio]
    exact reads_on_started valid stopped
  have after := fun ticks last ordered =>
    @reads_on_after_ticks cfg start zone length _ running named valid ticks last ordered
  rw [opened] at after
  have seconds := minutes_fit_or_wrap_short positive
  constructor
  · intro lasts
    have atOnce := lasts [] start (by simp)
    rw [after [] start (by simp)] at atOnce
    have onAtOnce : start - start < 60 * length := by omega
    rw [decide_eq_true onAtOnce] at atOnce
    split_ifs at atOnce with early
    refine ⟨?_, of_decide_eq_true atOnce⟩
    by_contra wraps
    rw [if_neg wraps] at seconds
    -- the tick at which the wrapped length is over comes before the end
    have inside := lasts [] (start + wrap32 (length * 60)) (by simp; omega)
    rw [after [] _ (by simp), if_neg (by omega)] at inside
    exact absurd (of_decide_eq_false inside.symm) (by simp; omega)
  · rintro ⟨fits, holds⟩ ticks last ordered
    rw [if_pos fits] at seconds
    rw [after ticks last (List.pairwise_cons.mp ordered).2, seconds, decide_eq_true holds]
    split_ifs with early
    · exact (decide_eq_true early).symm
    · exact (decide_eq_false early).symm

theorem run_lasts_its_length_ten_minutes :
    LastsMinutes (benchCfg benchWiring) 1000 1 10
      (zcZone (benchCfg benchWiring) 1000 .zcSingle 1 .zcOn 10 benchState).1 :=
  (run_lasts_its_length_iff 1000 1 10 benchState (Or.inl rfl) (mem_bench_table.mpr (by decide))
    (by decide) (by decide)).mpr (by decide)

/-- 35791395 minutes are more seconds than the int holds: the run is over at the next
tick, in the second in which it began. -/
theorem long_run_ends_at_once :
    (zcZone (benchCfg benchWiring) 1000 .zcSingle 1 .zcOn 35791395 benchState).2 = true ∧
      ¬ LastsMinutes (benchCfg benchWiring) 1000 1 35791395
        (zcZone (benchCfg benchWiring) 1000 .zcSingle 1 .zcOn 35791395 benchState).1 := by
  refine ⟨by decide, fun lasts => ?_⟩
  have off : zoneReadsOn (benchCfg benchWiring) (run (tickStep (benchCfg benchWiring))
      (zcZone (benchCfg benchWiring) 1000 .zcSingle 1 .zcOn 35791395 benchState).1
        [1000]).gpio 1 = false := by decide
  have on := lasts [] 1000 (by decide)
  rw [List.nil_append, off] at on
  exact absurd on (by decide)

end Lengths

end SprinklerD.RunLength
