import SprinklerD.GuardedValves
import SprinklerD.Foundation.WriteLog

/-!
# At most one zone on, at every single write

The pins log the writes they take. Replaying the log gives the levels after each of
them, in the middle of an operation as well, and at none of these levels do two zones
read on.
-/

namespace SprinklerD.ExclusiveWrites

open Foundation.Transitions Foundation.WriteLog
open SprinklerD.Config SprinklerD.GpioPi SprinklerD.ZoneCtrl SprinklerD.ZoneValves
open SprinklerD.Operations SprinklerD.Daemon SprinklerD.GuardedValves

set_option autoImplicit false

def Exclusive (cfg : SprinklerdCfg) (level : Int → Bool) : Prop :=
  ∀ zone ∈ zoneList cfg, ∀ other ∈ zoneList cfg,
    zoneReadsOn cfg ⟨level, []⟩ zone = true → zoneReadsOn cfg ⟨level, []⟩ other = true →
    zone = other

/-- The log accounts for the levels, and every single write of it left zones exclusive. -/
structure SafeWrites (cfg : SprinklerdCfg) (start : Int → Bool) (gpio : Gpio) : Prop where
  accounted : gpio.level = replay start gpio.writes
  exclusive : Throughout (Exclusive cfg) start gpio.writes

/-- What a call of `digitalWrite` may do to the pins. -/
inductive Logged (gpio : Gpio) : Gpio → Prop where
  | refused : Logged gpio gpio
  | written (pin : Int) (high : Bool) :
      Logged gpio ⟨Function.update gpio.level pin high, (pin, high) :: gpio.writes⟩

variable {cfg : SprinklerdCfg}

section Writes

theorem digital_write_logged (gpio : Gpio) (pin level : Int) :
    Logged gpio (digitalWrite gpio pin level).1 := by
  unfold digitalWrite
  split_ifs
  · exact .written pin _
  · exact .refused

theorem drive_on_logged (gpio : Gpio) (zone : Int) : Logged gpio (driveOn cfg gpio zone) := by
  unfold driveOn
  split_ifs
  · exact .refused
  · exact digital_write_logged gpio _ _

theorem drive_off_logged (gpio : Gpio) (zone : Int) : Logged gpio (driveOff cfg gpio zone) := by
  unfold driveOff
  by_cases off : zoneReadsOn cfg gpio zone = false
  · rw [if_pos off]
    exact .refused
  · rw [if_neg off]
    exact digital_write_logged gpio _ _

/-- One write keeps the log safe when it leaves zones exclusive. -/
theorem safe_writes_logged {start : Int → Bool} {gpio gpio' : Gpio}
    (safe : SafeWrites cfg start gpio) (logged : Logged gpio gpio')
    (exclusive : Exclusive cfg gpio'.level) : SafeWrites cfg start gpio' := by
  cases logged with
  | refused => exact safe
  | written pin high =>
      have accounted : Function.update gpio.level pin high =
          replay start ((pin, high) :: gpio.writes) := by
        rw [replay_cons, ← safe.accounted]
      refine ⟨accounted, throughout_cons.mpr ⟨?_, safe.exclusive⟩⟩
      rw [← accounted]
      exact exclusive

theorem safe_writes_exclusive {start : Int → Bool} {gpio : Gpio}
    (safe : SafeWrites cfg start gpio) : Exclusive cfg gpio.level := by
  rw [safe.accounted]
  exact throughout_last safe.exclusive

end Writes

section Moves

theorem exclusive_of_none_opened {gpio gpio' : Gpio} (exclusive : Exclusive cfg gpio.level)
    (still : ∀ zone ∈ zoneList cfg,
      zoneReadsOn cfg gpio' zone = true → zoneReadsOn cfg gpio zone = true) :
    Exclusive cfg gpio'.level := by
  intro first firstListed second secondListed firstOn secondOn
  exact exclusive first firstListed second secondListed
    (still first firstListed firstOn) (still second secondListed secondOn)

theorem exclusive_drive_off (wired : WellWired cfg) {gpio : Gpio} {zone : Int}
    (member : InTable cfg zone) (exclusive : Exclusive cfg gpio.level) :
    Exclusive cfg (driveOff cfg gpio zone).level := by
  apply exclusive_of_none_opened exclusive
  intro other listed on
  rw [reads_on_drive_off wired.apart gpio member (in_table_of_zone listed)] at on
  split_ifs at on
  exact on

theorem exclusive_drive_on_master (wired : WellWired cfg) {gpio : Gpio} (member : InTable cfg 0)
    (exclusive : Exclusive cfg gpio.level) : Exclusive cfg (driveOn cfg gpio 0).level := by
  apply exclusive_of_none_opened exclusive
  intro other listed on
  rw [reads_on_drive_on wired gpio member (in_table_of_zone listed),
    if_neg (zone_ne_zero listed)] at on
  exact on

/-- The only zone on is the one that was opened while all others were off. -/
theorem exclusive_drive_on_zone (wired : WellWired cfg) {gpio : Gpio} {zone : Int}
    (member : InTable cfg zone) (off : ∀ other ∈ zoneList cfg, zoneReadsOn cfg gpio other = false) :
    Exclusive cfg (driveOn cfg gpio zone).level := by
  have opened : ∀ other ∈ zoneList cfg,
      zoneReadsOn cfg (driveOn cfg gpio zone) other = true → other = zone := by
    intro other listed on
    rw [reads_on_drive_on wired gpio member (in_table_of_zone listed)] at on
    by_contra different
    rw [if_neg different, off other listed] at on
    cases on
  intro first firstListed second secondListed firstOn secondOn
  exact (opened first firstListed firstOn).trans (opened second secondListed secondOn).symm

theorem drives_safe (wired : WellWired cfg) {start : Int → Bool} {gpio gpio' : Gpio}
    (safe : SafeWrites cfg start gpio) (drives : Drives cfg gpio gpio') :
    SafeWrites cfg start gpio' := by
  induction drives with
  | rest => exact safe
  | close _ member ih =>
      exact safe_writes_logged ih (drive_off_logged _ _)
        (exclusive_drive_off wired member (safe_writes_exclusive ih))
  | openMaster _ member ih =>
      exact safe_writes_logged ih (drive_on_logged _ _)
        (exclusive_drive_on_master wired member (safe_writes_exclusive ih))
  | openZone _ member off ih =>
      exact safe_writes_logged ih (drive_on_logged _ _) (exclusive_drive_on_zone wired member off)

end Moves

section Runs

/-- What a run keeps: every write so far was safe, and the record allows the next tick
to hand a cycle over. -/
structure Safe (cfg : SprinklerdCfg) (start : Int → Bool) (st : SprinklerdState) : Prop where
  cycling : Cycling cfg st.gpio st.currentZone
  writes : SafeWrites cfg start st.gpio

theorem apply_operation_safe (wired : WellWired cfg) (now : Int) {start : Int → Bool}
    (st : SprinklerdState) (operation : Operation) (safe : Safe cfg start st)
    (request : TableRequest cfg operation) :
    Safe cfg start (applyOperation cfg now st operation) := by
  obtain ⟨drives, cycling⟩ := valve_outcome_drives safe.cycling
    (apply_operation_valves wired.apart now st operation safe.cycling request)
  exact ⟨cycling, drives_safe wired safe.writes drives⟩

theorem daemon_step_safe (wired : WellWired cfg) {start : Int → Bool} {st : SprinklerdState}
    {event : TimedEvent} (safe : Safe cfg start st) (numbered : ZoneNumbered cfg st event.2) :
    Safe cfg start (daemonStep cfg st event) := by
  have kept : Safe cfg start (controller (daemonStep cfg st (event.1, event.2))) := by
    rw [daemon_step_controller]
    have performed : Safe cfg start (perform cfg event.1 st (operations cfg st event.2)) :=
      perform_invariant (Safe cfg start) (TableRequest cfg)
        (fun st operation safe request =>
          apply_operation_safe wired event.1 st operation safe request)
        (fun operation asked => operations_in_table safe.cycling.listed numbered asked) safe
    exact ⟨performed.cycling, performed.writes⟩
  exact ⟨kept.cycling, kept.writes⟩

theorem startup_safe {st : SprinklerdState} (startup : Startup cfg st) :
    Safe cfg st.gpio.level st where
  cycling := cycling_idle startup.idle
  writes := by
    have off : Exclusive cfg st.gpio.level := fun zone listed _ _ on =>
      absurd on (Bool.eq_false_iff.mp (startup.pinsOff zone (in_table_of_zone listed)))
    constructor
    · rw [startup.noWrites, replay_nil]
    · rw [startup.noWrites]
      exact throughout_nil.mpr off

/-- In a run from startup, at most one zone reads on after every single write that a
pin has taken. -/
theorem zones_exclusive_at_every_write (wired : WellWired cfg) {st : SprinklerdState}
    (startup : Startup cfg st) (events : List TimedEvent)
    (numbered : Admitted (daemonStep cfg) (fun st event => ZoneNumbered cfg st event.2) st events) :
    (run (daemonStep cfg) st events).gpio.level =
        replay st.gpio.level (run (daemonStep cfg) st events).gpio.writes ∧
      ∀ done, done <:+ (run (daemonStep cfg) st events).gpio.writes →
        Exclusive cfg (replay st.gpio.level done) := by
  have safe : Safe cfg st.gpio.level (run (daemonStep cfg) st events) :=
    run_invariant (fun now _ => Safe cfg st.gpio.level now)
      (fun _ _ _ safe numbered => daemon_step_safe wired safe numbered)
      (startup_safe startup) numbered
  exact ⟨safe.writes.accounted, safe.writes.exclusive⟩

def benchSecondZone : List TimedEvent :=
  benchWatering ++ [(1060, .mqttMessage
    { topic := "/zone2/set".toList, afterTopic := [], payload := "on".toList, afterPayload := [] })]

theorem bench_second_zone_numbered : Admitted (daemonStep (benchCfg benchWiring))
    (fun st event => ZoneNumbered (benchCfg benchWiring) st event.2) benchState benchSecondZone :=
  admitted_append.mpr ⟨bench_watering_numbered, trivial, trivial⟩

theorem zones_exclusive_at_every_write_watering :
    (run (daemonStep (benchCfg benchWiring)) benchState benchSecondZone).gpio.writes =
        [(6, true), (5, false), (4, true), (5, true)] ∧
      ∀ done, done <:+ (run (daemonStep (benchCfg benchWiring)) benchState
          benchSecondZone).gpio.writes →
        Exclusive (benchCfg benchWiring) (replay benchState.gpio.level done) :=
  ⟨by decide +kernel, (zones_exclusive_at_every_write bench_wired bench_startup benchSecondZone
    bench_second_zone_numbered).2⟩

end Runs

end SprinklerD.ExclusiveWrites
