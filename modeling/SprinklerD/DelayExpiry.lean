import SprinklerD.Daemon
import SprinklerD.RainDelay

/-!
# Every rain delay can expire

The flag of the rain delay and its end time are written together, and the expiry test
looks at the end time alone. They agree as long as every end time is positive, and one
request can break this: a reset to a number below zero becomes, as an unsigned number,
a moment far in the future, and is stored as a time that never comes.
-/

namespace SprinklerD.DelayExpiry

open Foundation.MachineInt Foundation.CString Foundation.Transitions
open SprinklerD.Config SprinklerD.ZoneCtrl SprinklerD.SdCron SprinklerD.NetServices
open SprinklerD.Operations SprinklerD.Daemon SprinklerD.RainDelay

set_option autoImplicit false

def DelayPaired (st : SprinklerdState) : Prop := st.delay24h = true ↔ 0 < st.delay24hTime

def ArmsDelay (cfg : SprinklerdCfg) (st : SprinklerdState) (event : Event) : Prop :=
  ∃ operation ∈ operations cfg st event, startsDelay st operation = true

/-- The flag and the end time agree after the event, a delay it arms ends later than
now, and the expiry check will turn a delay off exactly when its end has passed. -/
structure DelayKept (cfg : SprinklerdCfg) (st : SprinklerdState) (event : TimedEvent) : Prop where
  paired : DelayPaired (daemonStep cfg st event)
  armed : ArmsDelay cfg st event.2 → event.1 < (daemonStep cfg st event).delay24hTime
  expires : (daemonStep cfg st event).delay24h = true → ∀ later,
    (SdCron.checkDelay24h cfg later (daemonStep cfg st event)).1.delay24h = false ↔
      (daemonStep cfg st event).delay24hTime < later

/-- A reset to a time that `atoi` reads as a number below zero. -/
def ResetsToNegative (cfg : SprinklerdCfg) (st : SprinklerdState) (event : Event) : Prop :=
  ∃ number : Int, -2 ^ 31 ≤ number ∧ number < 0 ∧
    .resetDelay24hTime (wrapUnsigned 64 number) ∈ operations cfg st event

/-- Only the query handler resets the delay to a custom time. -/
def NoDirectReset : Event → Prop
  | .call (.resetDelay24hTime _) => False
  | _ => True

variable {cfg : SprinklerdCfg}

section Operations

theorem check_delay_expires {st : SprinklerdState} (paired : DelayPaired st)
    (on : st.delay24h = true) (later : Int) :
    (SdCron.checkDelay24h cfg later st).1.delay24h = false ↔ st.delay24hTime < later := by
  have effect := apply_operation_delay cfg later st .checkDelay24h
  have positive : 0 < st.delay24hTime := paired.mp on
  rw [show (SdCron.checkDelay24h cfg later st).1.delay24h = (delayAfter later st .checkDelay24h).1
    from congrArg Prod.fst effect, delayAfter]
  by_cases late : st.delay24hTime < later
  · rw [if_pos ⟨positive, late, on⟩]
    exact iff_of_true rfl late
  · rw [if_neg fun expired => late expired.2.1]
    simp [delay, on, late]

theorem armed_later {now dtime : Int} (clock : ClockReading now)
    (fits : 0 ≤ dtime ∧ dtime < 2 ^ 63) : now < (armed now dtime).2 := by
  simp only [ClockReading, delay24hSec] at clock
  have reading : wrapUnsigned 64 now = now := Int.emod_eq_of_lt (by omega) (by omega)
  rw [armed, reading]
  split_ifs with custom
  · rw [wrap_signed_of_fits (by decide) (by omega) (by omega)]
    exact custom
  · simp only [delay24hSec]
    omega

/-- A custom time below zero passes the test for a time to come and is stored as it was. -/
theorem armed_negative {now number : Int} (clock : ClockReading now)
    (negative : -2 ^ 31 ≤ number ∧ number < 0) :
    armed now (wrapUnsigned 64 number) = (true, number) := by
  simp only [ClockReading, delay24hSec] at clock
  have reading : wrapUnsigned 64 now = now := Int.emod_eq_of_lt (by omega) (by omega)
  have far : wrapUnsigned 64 number = number + 2 ^ 64 := by
    unfold wrapUnsigned
    omega
  have stored : wrapSigned 64 (number + 2 ^ 64) = number := by
    unfold wrapSigned
    omega
  rw [armed, reading, far, if_pos (by omega), stored]

/-- Whatever turns the delay on or re-arms it sets an end later than now. -/
theorem delay_after_armed {now : Int} {st : SprinklerdState} {operation : Operation}
    (clock : ClockReading now)
    (fits : ∀ dtime, operation = .resetDelay24hTime dtime → 0 ≤ dtime ∧ dtime < 2 ^ 63)
    (starts : startsDelay st operation = true) :
    (delayAfter now st operation).1 = true ∧ now < (delayAfter now st operation).2 := by
  cases operation with
  | enableDelay24h state =>
      simp only [startsDelay, decide_eq_true_eq] at starts
      simp [delayAfter, starts, delay24hSec]
  | resetDelay24hTime dtime => exact ⟨rfl, armed_later clock (fits dtime rfl)⟩
  | setTodayChanceOfRain percent =>
      simp only [startsDelay, decide_eq_true_eq] at starts
      rw [delayAfter, if_pos starts.1, if_pos starts.2]
      exact ⟨rfl, armed_later clock (by decide)⟩
  | setTodayRainTotal rain =>
      simp only [startsDelay] at starts
      obtain ⟨seconds, asked⟩ := Option.isSome_iff_exists.mp starts
      have bounds : 0 < seconds ∧ seconds ≤ delay24hSec * 2 := by
        rcases rain_delay_seconds_cases asked with rfl | rfl <;> decide
      simp only [delayAfter, asked, armed_time clock ⟨bounds.1.le, bounds.2⟩ bounds.1, true_and]
      omega
  | _ => simp [startsDelay] at starts

/-- Whatever starts no delay leaves the flag and the end time, or clears both. -/
theorem delay_after_other (now : Int) (st : SprinklerdState) {operation : Operation}
    (quiet : startsDelay st operation = false) :
    delayAfter now st operation = delay st ∨ delayAfter now st operation = (false, 0) := by
  cases operation with
  | enableDelay24h state =>
      simp only [startsDelay, decide_eq_false_iff_not, not_and] at quiet
      simp only [delayAfter]
      split_ifs with same on
      · exact Or.inl rfl
      · exact absurd on (quiet (Bool.of_not_eq_true fun delayed => same (delayed.trans on.symm)))
      · rw [Bool.of_not_eq_true on]
        exact Or.inr rfl
  | resetDelay24hTime dtime => simp [startsDelay] at quiet
  | setTodayChanceOfRain percent =>
      simp only [startsDelay, decide_eq_false_iff_not, not_and] at quiet
      simp only [delayAfter]
      split_ifs with range crosses
      · exact absurd crosses (quiet range)
      · exact Or.inl rfl
      · exact Or.inr rfl
      · exact Or.inl rfl
  | setTodayRainTotal rain =>
      simp only [startsDelay, Option.isSome_eq_false_iff, Option.isNone_iff_eq_none] at quiet
      simp [delayAfter, quiet]
  | checkDelay24h =>
      simp only [delayAfter]
      split_ifs
      · exact Or.inr rfl
      · exact Or.inl rfl
  | _ => exact Or.inl rfl

theorem apply_operation_paired {now : Int} {st : SprinklerdState} {operation : Operation}
    (clock : ClockReading now) (paired : DelayPaired st)
    (fits : ∀ dtime, operation = .resetDelay24hTime dtime → 0 ≤ dtime ∧ dtime < 2 ^ 63) :
    DelayPaired (applyOperation cfg now st operation) := by
  have effect := apply_operation_delay cfg now st operation
  change (delay (applyOperation cfg now st operation)).1 = true ↔
    0 < (delay (applyOperation cfg now st operation)).2
  rw [effect]
  cases starts : startsDelay st operation with
  | true =>
      have armed := delay_after_armed clock fits starts
      have positive : 0 < (delayAfter now st operation).2 := lt_of_le_of_lt clock.1 armed.2
      exact iff_of_true armed.1 positive
  | false =>
      rcases delay_after_other now st starts with kept | cleared
      · rw [kept]
        exact paired
      · rw [cleared]
        simp

end Operations

section Requests

theorem web_operation_reset {query stack : Text} {st : SprinklerdState} {dtime : Int}
    (asked : webOperation cfg query stack st = some (.resetDelay24hTime dtime)) :
    ∃ memory, dtime = wrapUnsigned 64 (atoi memory) := by
  unfold webOperation at asked
  generalize mgGetHttpVar query "type".toList stack = buf at asked
  simp only at asked
  split_ifs at asked
  · unfold optionOperation at asked
    simp only at asked
    split_ifs at asked <;> cases asked
    exact ⟨_, rfl⟩
  · unfold configOperation at asked
    simp only at asked
    split_ifs at asked <;> cases asked
  · unfold sensorOperation at asked
    simp only at asked
    split_ifs at asked <;> cases asked
  · obtain ⟨type, zone, state, length, other, -⟩ := zone_operation_checked asked
    cases other
  · unfold zrtcfgOperation at asked
    simp only at asked
    split_ifs at asked
    cases asked

theorem mqtt_operation_no_reset {message : MqttMessage} {st : SprinklerdState} {dtime : Int} :
    mqttOperation cfg message st ≠ some (.resetDelay24hTime dtime) := by
  intro asked
  unfold mqttOperation at asked
  simp only at asked
  generalize mqttTopicOf _ _ _ = topic at asked
  cases topic with
  | duration =>
      simp only [mqttTopicOperation] at asked
      split_ifs at asked
      cases asked
  | zone =>
      simp only [mqttTopicOperation] at asked
      split_ifs at asked <;> cases asked
  | _ => cases asked

theorem domoticz_operations_no_reset {idx nvalue : Int} {svalue : Text} {st : SprinklerdState}
    {dtime : Int} : .resetDelay24hTime dtime ∉ domoticzOperations cfg idx nvalue svalue st := by
  intro asked
  unfold domoticzOperations at asked
  split_ifs at asked <;> simp at asked

/-- Every custom time comes from a query, as the number `atoi` has made of its text. -/
theorem operations_reset {st : SprinklerdState} {event : Event} {dtime : Int}
    (direct : NoDirectReset event) (asked : .resetDelay24hTime dtime ∈ operations cfg st event) :
    ∃ memory, dtime = wrapUnsigned 64 (atoi memory) := by
  cases event with
  | webRequest query stack =>
      rw [operations] at asked
      split_ifs at asked
      · cases asked
      · exact web_operation_reset (Option.mem_toList.mp asked)
  | mqttMessage message =>
      exact absurd (Option.mem_toList.mp asked) mqtt_operation_no_reset
  | domoticzMessage idx nvalue svalue => exact absurd asked domoticz_operations_no_reset
  | call operation =>
      rw [← List.mem_singleton.mp asked] at direct
      exact absurd direct id
  | checkCron => cases asked
  | broadcast dzCache mask => cases asked
  | filesOpen cacheOpens cronOpens => cases asked

theorem custom_time_fits {st : SprinklerdState} {event : Event} {dtime : Int}
    (direct : NoDirectReset event) (positive : ¬ ResetsToNegative cfg st event)
    (asked : .resetDelay24hTime dtime ∈ operations cfg st event) :
    0 ≤ dtime ∧ dtime < 2 ^ 63 := by
  obtain ⟨memory, rfl⟩ := operations_reset direct asked
  have range := atoi_range memory
  by_cases negative : atoi memory < 0
  · exact absurd ⟨_, range.1, negative, asked⟩ positive
  · unfold wrapUnsigned
    omega

end Requests

section Runs

theorem daemon_step_delay (st : SprinklerdState) (event : TimedEvent) :
    delay (daemonStep cfg st event) =
      delay (perform cfg event.1 st (operations cfg st event.2)) := by
  have effect := congrArg delay (@daemon_step_controller cfg st event.1 event.2)
  exact effect

theorem daemon_step_delay_kept {st : SprinklerdState} {event : TimedEvent}
    (clock : ClockReading event.1) (direct : NoDirectReset event.2) (paired : DelayPaired st)
    (positive : ¬ ResetsToNegative cfg st event.2) : DelayKept cfg st event := by
  have effect := @daemon_step_delay cfg st event
  have fits : ∀ operation ∈ operations cfg st event.2, ∀ dtime,
      operation = .resetDelay24hTime dtime → 0 ≤ dtime ∧ dtime < 2 ^ 63 := by
    rintro operation asked dtime rfl
    exact custom_time_fits direct positive asked
  have kept : DelayPaired (daemonStep cfg st event) := by
    change (delay (daemonStep cfg st event)).1 = true ↔ 0 < (delay (daemonStep cfg st event)).2
    rw [effect]
    exact perform_invariant DelayPaired _
      (fun st operation paired fits => apply_operation_paired clock paired fits) fits paired
  refine ⟨kept, ?_, fun on => check_delay_expires kept on⟩
  rintro ⟨operation, asked, starts⟩
  rcases operations_alone asked with alone | ⟨zone, state, rfl, -⟩
  · rw [alone, perform_one, apply_operation_delay] at effect
    rw [show (daemonStep cfg st event).delay24hTime = (delayAfter event.1 st operation).2 from
      congrArg Prod.snd effect]
    exact (delay_after_armed clock (fits operation asked) starts).2
  · simp [startsDelay] at starts

theorem negative_reset_unpairs {st : SprinklerdState} {event : TimedEvent}
    (clock : ClockReading event.1) (negative : ResetsToNegative cfg st event.2) :
    ¬ DelayPaired (daemonStep cfg st event) := by
  obtain ⟨number, lower, below, asked⟩ := negative
  have effect := @daemon_step_delay cfg st event
  rcases operations_alone asked with alone | ⟨zone, state, other, -⟩
  · rw [alone, perform_one, apply_operation_delay, delayAfter,
      armed_negative clock ⟨lower, below⟩] at effect
    intro paired
    have time : (daemonStep cfg st event).delay24hTime = number := congrArg Prod.snd effect
    have positive := paired.mp (congrArg Prod.fst effect)
    omega
  · cases other

theorem daemon_step_delay_iff {st : SprinklerdState} {event : TimedEvent}
    (clock : ClockReading event.1) (direct : NoDirectReset event.2) (paired : DelayPaired st) :
    DelayKept cfg st event ↔ ¬ ResetsToNegative cfg st event.2 := by
  constructor
  · intro kept negative
    exact negative_reset_unpairs clock negative kept.paired
  · intro positive
    exact daemon_step_delay_kept clock direct paired positive

/-- From a state without a delay, every event of a run keeps the flag, the end time and
the expiry check consistent exactly when no query resets the delay to a time below zero. -/
theorem rain_delay_can_expire {st : SprinklerdState} (off : st.delay24h = false)
    (zero : st.delay24hTime = 0) (events : List TimedEvent)
    (clock : ∀ event ∈ events, ClockReading event.1)
    (direct : ∀ event ∈ events, NoDirectReset event.2) :
    Admitted (daemonStep cfg) (DelayKept cfg) st events ↔
      Admitted (daemonStep cfg) (fun st event => ¬ ResetsToNegative cfg st event.2) st events := by
  have paired : DelayPaired st := by
    rw [DelayPaired, off, zero]
    simp
  have every : Admitted (daemonStep cfg)
      (fun _ event => ClockReading event.1 ∧ NoDirectReset event.2) st events :=
    admitted_of_forall fun event member => ⟨clock event member, direct event member⟩
  apply admitted_congr DelayPaired _ _ paired every
  · rintro st event paired ⟨clock, direct⟩
    exact daemon_step_delay_iff clock direct paired
  · rintro st event paired ⟨clock, direct⟩ positive
    exact (daemon_step_delay_kept clock direct paired positive).paired

def benchReset : List TimedEvent :=
  [(1000, .webRequest "type=option&option=24hdelay&state=reset&time=5000".toList []),
    (5001, .call .checkDelay24h)]

def customTime : Operation → Option Int
  | .resetDelay24hTime dtime => some dtime
  | _ => none

theorem bench_reset_positive : Admitted (daemonStep (benchCfg benchWiring))
    (fun st event => ¬ ResetsToNegative (benchCfg benchWiring) st event.2) benchState
    benchReset := by
  have request : (webOperation (benchCfg benchWiring)
      "type=option&option=24hdelay&state=reset&time=5000".toList [] benchState).bind customTime =
      some 5000 := by decide +kernel
  refine ⟨?_, ?_, trivial⟩
  · rintro ⟨number, lower, negative, asked⟩
    rw [operations, if_neg (by decide)] at asked
    rw [Option.mem_toList.mp asked] at request
    have same : wrapUnsigned 64 number = 5000 := Option.some.inj request
    unfold wrapUnsigned at same
    omega
  · rintro ⟨number, lower, negative, asked⟩
    cases List.mem_singleton.mp asked

theorem rain_delay_can_expire_reset : Admitted (daemonStep (benchCfg benchWiring))
    (DelayKept (benchCfg benchWiring)) benchState benchReset :=
  (rain_delay_can_expire rfl rfl benchReset (by simp [benchReset, ClockReading, delay24hSec])
    (by simp [benchReset, NoDirectReset])).mpr bench_reset_positive

def benchStuck : SprinklerdState :=
  run (daemonStep (benchCfg benchWiring)) benchState
    [(1000, .webRequest "type=option&option=24hdelay&state=reset&time=-5".toList [])]

theorem check_delay_without_end {st : SprinklerdState} (past : st.delay24hTime ≤ 0)
    (later : Int) : (SdCron.checkDelay24h cfg later st).1 = st := by
  rw [SdCron.checkDelay24h, if_neg (not_lt.mpr past)]

/-- The delay is on, its end time is below zero, and no check will ever turn it off. -/
theorem negative_reset_never_expires :
    benchState.delay24h = false ∧ benchState.delay24hTime = 0 ∧
      benchStuck.delay24h = true ∧ benchStuck.delay24hTime = -5 ∧
      ∀ later, (SdCron.checkDelay24h (benchCfg benchWiring) later benchStuck).1.delay24h =
        true := by
  have on : benchStuck.delay24h = true := by decide +kernel
  have past : benchStuck.delay24hTime = -5 := by decide +kernel
  refine ⟨rfl, rfl, on, past, fun later => ?_⟩
  rw [check_delay_without_end (by omega)]
  exact on

end Runs

end SprinklerD.DelayExpiry
