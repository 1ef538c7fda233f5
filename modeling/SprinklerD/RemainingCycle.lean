import SprinklerD.CycleAll
import SprinklerD.RefusedRequest
import SprinklerD.StatusTopics
import SprinklerD.TableBounds

/-!
# The remaining time of a cycle

The publisher adds up all zones after the running one. The controller passes over those
without a runtime or a valid pin, and over those that read on when their turn comes,
which only shared pins can make them do; after the last zone it then leaves the table.
The turns a cycle still has are found here from the pins alone, for every wiring.
-/

namespace SprinklerD.RemainingCycle

open Foundation.MachineInt Foundation.Decimal Foundation.Transitions
open SprinklerD.Config SprinklerD.GpioPi SprinklerD.ZoneCtrl SprinklerD.ZoneValves
open SprinklerD.Operations SprinklerD.Daemon SprinklerD.CycleAll SprinklerD.TableBounds
open SprinklerD.Broadcast SprinklerD.StatusTopics

set_option autoImplicit false

def everySecond : Nat → Int → List Int
  | 0, _ => []
  | count + 1, now => (now + 1) :: everySecond count (now + 1)

variable (cfg : SprinklerdCfg)

/-- Checked once every second and left alone, the run ends after this many seconds, in a
process that has not read past its table. -/
def EndsAfter (now : Int) (st : SprinklerdState) (seconds : Nat) : Prop :=
  (∀ earlier < seconds,
    (run (tickStep cfg) st (everySecond earlier now)).currentZone.type ≠ .zcNone) ∧
  (run (tickStep cfg) st (everySecond seconds now)).currentZone.type = .zcNone ∧
  (run (tickStep cfg) st (everySecond seconds now)).outOfTable = false

def afterTurn (gpio : Gpio) (zone : Int) : Gpio :=
  driveOff cfg (driveMaster cfg .zcOn (driveOn cfg gpio zone)) zone

/-- The zones of a list that get a turn. There is no answer when the last one is found on. -/
def turns (defaultRuntime : Int → Int) : Gpio → List Int → Option (List Int)
  | _, [] => some []
  | gpio, zone :: rest =>
      if runnable cfg defaultRuntime zone then
        if zoneReadsOn cfg gpio zone then
          if rest = [] then none else turns defaultRuntime gpio rest
        else (turns defaultRuntime (afterTurn cfg gpio zone) rest).map (zone :: ·)
      else turns defaultRuntime gpio rest

def laterTurns (st : SprinklerdState) : Option (List Int) :=
  turns cfg st.defaultRuntime (driveOff cfg st.gpio st.currentZone.zone)
    (zonesAfter cfg st.currentZone.zone)

/-- The seconds that the running zone still has, before they are stored in an int. -/
def runLeft (now : Int) (record : SzRunning) : Int :=
  wrap32 (record.duration * sec2Min) - (now - record.startedTime)

variable {cfg} {now : Int} {st : SprinklerdState}

section Seconds

theorem ends_after_zero :
    EndsAfter cfg now st 0 ↔ st.currentZone.type = .zcNone ∧ st.outOfTable = false := by
  simp [EndsAfter, everySecond]

theorem ends_after_succ (seconds : Nat) :
    EndsAfter cfg now st (seconds + 1) ↔ st.currentZone.type ≠ .zcNone ∧
      EndsAfter cfg (now + 1) (tickStep cfg st (now + 1)) seconds := by
  unfold EndsAfter
  rw [Nat.forall_lt_succ_left]
  simp only [everySecond, run_nil, run_cons, and_assoc]

theorem ends_after_none (none : st.currentZone.type = .zcNone) (seconds : Nat) :
    EndsAfter cfg now st seconds ↔ seconds = 0 ∧ st.outOfTable = false := by
  cases seconds with
  | zero => simp [ends_after_zero, none]
  | succ seconds => simp [ends_after_succ, none]

end Seconds

section Table

theorem zc_start_table (zone : Int) (st : SprinklerdState) :
    (zcStart cfg zone st).1.outOfTable = st.outOfTable := by
  unfold zcStart
  split_ifs <;> rfl

theorem zc_stop_table (zone : Int) (st : SprinklerdState) :
    (zcStop cfg zone st).1.outOfTable = st.outOfTable := by
  unfold zcStop
  split_ifs <;> rfl

theorem zc_master_table (state : ZcState) (st : SprinklerdState) :
    (zcMaster cfg state st).outOfTable = st.outOfTable := by
  unfold zcMaster
  split_ifs
  · rfl
  · exact zc_start_table 0 st
  · exact zc_stop_table 0 st
  · rfl

theorem walk_table (now : Int) (left : Nat) (zone : Int) {st : SprinklerdState}
    (lost : st.outOfTable = true) :
    (startNextZoneFrom cfg now left zone st).1.outOfTable = true := by
  induction left generalizing zone st with
  | zero => rfl
  | succ left ih =>
      rw [startNextZoneFrom]
      split_ifs with skipped last
      · rw [zc_master_table]
        exact lost
      · exact ih (zone + 1) lost
      · simp only
        split_ifs
        · exact (zc_master_table .zcOn _).trans ((zc_start_table zone st).trans lost)
        · exact ih (zone + 1) ((zc_start_table zone st).trans lost)

theorem tick_table (now : Int) (lost : st.outOfTable = true) :
    (tickStep cfg st now).outOfTable = true := by
  unfold tickStep
  have outcome := zc_check_outcome cfg now st
  generalize zcCheck cfg now st = result at outcome ⊢
  cases outcome with
  | idle => exact lost
  | waiting => exact lost
  | advanced => exact walk_table now _ _ ((zc_stop_table _ _).trans lost)
  | finished => exact (zc_stop_table _ _).trans ((zc_master_table _ _).trans lost)

theorem lost_never_ends (lost : st.outOfTable = true) (seconds : Nat) :
    ¬ EndsAfter cfg now st seconds := by
  induction seconds generalizing now st with
  | zero => simp [ends_after_zero, lost]
  | succ seconds ih =>
      rw [ends_after_succ]
      intro ends
      exact ih (tick_table (now + 1) lost) ends.2

end Table

section Waiting

theorem check_again (now earlier : Int) (running : st.currentZone.type ≠ .zcNone) :
    tickStep cfg (calcTimeleft earlier st) now = tickStep cfg st now := by
  unfold tickStep zcCheck
  rw [calc_timeleft_type, if_neg running, if_neg running]
  rfl

theorem run_left_next (now : Int) (st : SprinklerdState) :
    runLeft (now + 1) (calcTimeleft (now + 1) st).currentZone = runLeft now st.currentZone - 1 := by
  simp only [runLeft, calcTimeleft]
  omega

theorem timeleft_nonpos (named : st.currentZone.zone ≠ -1) :
    (calcTimeleft now st).currentZone.timeleft ≤ 0 ↔ runLeft now st.currentZone ≤ 0 := by
  simp only [calcTimeleft, runLeft, if_pos named, saturate32_nonpos]

theorem early_check (running : st.currentZone.type ≠ .zcNone) (named : st.currentZone.zone ≠ -1)
    (lasting : 0 < runLeft now st.currentZone) : tickStep cfg st now = calcTimeleft now st := by
  have more : ¬ (calcTimeleft now st).currentZone.timeleft ≤ 0 := by
    rw [timeleft_nonpos named]
    exact not_le.mpr lasting
  rw [tickStep, zc_check_waits cfg running (not_le.mp more)]

/-- While the running zone has time left the checks only count it down. -/
theorem ends_after_wait {left : Nat} (running : st.currentZone.type ≠ .zcNone)
    (named : st.currentZone.zone ≠ -1) (lasting : runLeft now st.currentZone = left + 1)
    (seconds : Nat) :
    EndsAfter cfg now st seconds ↔ ∃ later, seconds = (left + 1) + later ∧
      EndsAfter cfg (now + (left + 1)) (tickStep cfg st (now + (left + 1))) later := by
  induction left generalizing now st seconds with
  | zero =>
      cases seconds with
      | zero =>
          rw [ends_after_zero]
          constructor
          · intro ends
            exact absurd ends.1 running
          · rintro ⟨later, same, -⟩
            omega
      | succ seconds =>
          rw [ends_after_succ, and_iff_right running]
          simp only [Nat.cast_zero, zero_add]
          constructor
          · intro ends
            exact ⟨seconds, Nat.add_comm _ _, ends⟩
          · rintro ⟨later, same, ends⟩
            rwa [show seconds = later by omega]
  | succ left ih =>
      cases seconds with
      | zero =>
          rw [ends_after_zero]
          constructor
          · intro ends
            exact absurd ends.1 running
          · rintro ⟨later, same, -⟩
            omega
      | succ seconds =>
          have counted := run_left_next now st
          have waits : tickStep cfg st (now + 1) = calcTimeleft (now + 1) st := by
            apply early_check running named
            simp only [runLeft] at lasting ⊢
            push_cast at lasting
            omega
          have rest := @ih (now + 1) (calcTimeleft (now + 1) st) running named
            (by rw [counted, lasting]; push_cast; omega) seconds
          rw [check_again _ _ running, show now + 1 + ((left : Int) + 1) =
            now + (((left + 1 : Nat) : Int) + 1) by push_cast; omega] at rest
          rw [ends_after_succ, and_iff_right running, waits]
          apply rest.trans
          apply exists_congr
          intro later
          rw [show seconds + 1 = left + 1 + 1 + later ↔ seconds = left + 1 + later by omega]

end Waiting

section Walk

/-- What the controller leaves when a zone gets its turn. -/
structure TurnBegins (cfg : SprinklerdCfg) (now zone : Int) (st st' : SprinklerdState) : Prop where
  type : st'.currentZone.type = st.currentZone.type
  current : st'.currentZone.zone = zone
  started : st'.currentZone.startedTime = now
  duration : st'.currentZone.duration = st.defaultRuntime zone
  fresh : st' = calcTimeleft now st'
  runtimes : st'.defaultRuntime = st.defaultRuntime
  pins : st'.gpio = driveMaster cfg .zcOn (driveOn cfg st.gpio zone)
  table : st'.outOfTable = st.outOfTable

/-- Everything a search for the next zone can do, with the turns that are left then. -/
inductive WalkOutcome (cfg : SprinklerdCfg) (now first : Int) (zones : List Int)
    (st : SprinklerdState) : SprinklerdState × Int → Prop where
  | ended {st' : SprinklerdState} (nobody : turns cfg st.defaultRuntime st.gpio zones = some [])
      (done : st'.currentZone.type = .zcNone) (table : st'.outOfTable = st.outOfTable) :
      WalkOutcome cfg now first zones st (st', -1)
  | lost {st' : SprinklerdState} (unknown : turns cfg st.defaultRuntime st.gpio zones = none)
      (table : st'.outOfTable = true) : WalkOutcome cfg now first zones st (st', -1)
  | begins {st' : SprinklerdState} {next : Int} (inside : first ≤ next ∧ next ≤ cfg.zones)
      (runs : runnable cfg st.defaultRuntime next = true)
      (later : turns cfg st.defaultRuntime st.gpio zones =
        (turns cfg st.defaultRuntime (afterTurn cfg st.gpio next) (zonesAfter cfg next)).map
          (next :: ·))
      (turn : TurnBegins cfg now next st st') : WalkOutcome cfg now first zones st (st', next)

theorem turn_begins (cfg : SprinklerdCfg) (now zone : Int) (st : SprinklerdState) :
    TurnBegins cfg now zone st (cycleStarted cfg now zone st) where
  type := by simp
  current := by simp
  started := by simp [calcTimeleft]
  duration := by simp [calcTimeleft]
  fresh := rfl
  runtimes := default_runtime_of_outside (by
    rw [cycleStarted, calc_timeleft_outside]
    exact (zc_master_outside .zcOn _).trans (zc_start_outside zone st))
  pins := by simp [cycleStarted]
  table := (zc_master_table .zcOn _).trans (zc_start_table zone st)

/-- The search finds the first zone that gets a turn, or the end of the table. -/
theorem walk_outcome (now : Int) {left : Nat} {zone : Int} (st : SprinklerdState)
    (remaining : 0 < left) (bound : zone + left = cfg.zones + 1) :
    WalkOutcome cfg now zone (zonesFrom left zone) st
      (startNextZoneFrom cfg now left zone st) := by
  induction left generalizing zone st with
  | zero => omega
  | succ left ih =>
      rw [startNextZoneFrom, zonesFrom]
      push_cast at bound
      cases runs : runnable cfg st.defaultRuntime zone with
      | false =>
          rw [if_pos (runnable_eq_false.mp runs)]
          have passed : turns cfg st.defaultRuntime st.gpio (zone :: zonesFrom left (zone + 1)) =
              turns cfg st.defaultRuntime st.gpio (zonesFrom left (zone + 1)) := by
            simp [turns, runs]
          by_cases last : zone + 1 > cfg.zones
          · have none : left = 0 := by omega
            subst none
            rw [if_pos last]
            exact .ended passed (by simp) (zc_master_table .zcOff _)
          · rw [if_neg last]
            have outcome := @ih (zone + 1) st (by omega) (by omega)
            generalize startNextZoneFrom cfg now left (zone + 1) st = result at outcome ⊢
            cases outcome with
            | ended nobody done table => exact .ended (passed.trans nobody) done table
            | lost unknown table => exact .lost (passed.trans unknown) table
            | begins inside starts later turn =>
                exact .begins ⟨by omega, inside.2⟩ starts (passed.trans later) turn
      | true =>
          rw [if_neg (not_skipped runs)]
          have opened := @zc_start_result cfg zone st
          rw [and_iff_left (of_decide_eq_true runs).2] at opened
          cases reads : zoneReadsOn cfg st.gpio zone with
          | false =>
              have later : turns cfg st.defaultRuntime st.gpio (zone :: zonesFrom left (zone + 1)) =
                  (turns cfg st.defaultRuntime (afterTurn cfg st.gpio zone)
                    (zonesAfter cfg zone)).map (zone :: ·) := by
                rw [zonesAfter, show (cfg.zones - zone).toNat = left by omega]
                simp [turns, runs, reads]
              simp only [opened.mpr reads, if_true]
              exact .begins ⟨le_refl zone, by omega⟩ runs later (turn_begins cfg now zone st)
          | true =>
              simp only [zc_start_refused reads, Bool.false_eq_true, if_false]
              cases left with
              | zero =>
                  apply WalkOutcome.lost _ rfl
                  simp [turns, zonesFrom, runs, reads]
              | succ left =>
                  have passed : turns cfg st.defaultRuntime st.gpio
                      (zone :: zonesFrom (left + 1) (zone + 1)) =
                        turns cfg st.defaultRuntime st.gpio (zonesFrom (left + 1) (zone + 1)) := by
                    simp [turns, zonesFrom, runs, reads]
                  have outcome := @ih (zone + 1) st.setEventZones (by omega) (by push_cast; omega)
                  generalize startNextZoneFrom cfg now (left + 1) (zone + 1) st.setEventZones =
                    result at outcome ⊢
                  cases outcome with
                  | ended nobody done table => exact .ended (passed.trans nobody) done table
                  | lost unknown table => exact .lost (passed.trans unknown) table
                  | begins inside starts later turn =>
                      exact .begins ⟨by omega, inside.2⟩ starts (passed.trans later)
                        ⟨turn.type, turn.current, turn.started, turn.duration, turn.fresh,
                          turn.runtimes, turn.pins, turn.table⟩

end Walk

section Cycle

/-- The tick at which the running zone of a cycle has no time left: the run is over with
the last zone, and the search for the next one begins after any other. -/
theorem last_tick (all : st.currentZone.type = .zcAll) (named : st.currentZone.zone ≠ -1)
    (late : runLeft now st.currentZone ≤ 0) :
    (cfg.zones ≤ st.currentZone.zone ∧ (tickStep cfg st now).currentZone.type = .zcNone ∧
      (tickStep cfg st now).outOfTable = st.outOfTable) ∨
    (st.currentZone.zone < cfg.zones ∧ ∃ (stopped : SprinklerdState) (next : Int),
      stopped.gpio = driveOff cfg st.gpio st.currentZone.zone ∧
      stopped.currentZone.type = .zcAll ∧ stopped.defaultRuntime = st.defaultRuntime ∧
      stopped.outOfTable = st.outOfTable ∧
      WalkOutcome cfg now (st.currentZone.zone + 1) (zonesAfter cfg st.currentZone.zone) stopped
        (tickStep cfg st now, next)) := by
  have expired := (@timeleft_nonpos now st named).mpr late
  unfold tickStep
  have outcome := zc_check_outcome cfg now st
  generalize zcCheck cfg now st = result at outcome ⊢
  cases outcome with
  | idle none => exact absurd (all.symm.trans none) (by decide)
  | waiting _ left => exact absurd expired (not_le.mpr left)
  | finished _ last =>
      exact Or.inl ⟨last all, rfl, (zc_stop_table _ _).trans (zc_master_table .zcOff _)⟩
  | advanced _ more =>
      have walked : WalkOutcome cfg now (st.currentZone.zone + 1)
          (zonesAfter cfg st.currentZone.zone)
          (zcStop cfg st.currentZone.zone (calcTimeleft now st)).1.setEventZones
          (startNextZone cfg now st.currentZone.zone
            (zcStop cfg st.currentZone.zone (calcTimeleft now st)).1) :=
        walk_outcome now _ (by omega) (by omega)
      exact Or.inr ⟨more, (zcStop cfg st.currentZone.zone (calcTimeleft now st)).1.setEventZones,
        (startNextZone cfg now st.currentZone.zone
          (zcStop cfg st.currentZone.zone (calcTimeleft now st)).1).2,
        zc_stop_gpio _ _, (congrArg SzRunning.type (zc_stop_record _ _)).trans all,
        default_runtime_of_outside (zc_stop_outside _ _), zc_stop_table _ _, walked⟩

theorem later_turns_begun {zone : Int} {stopped st' : SprinklerdState}
    (turn : TurnBegins cfg now zone stopped st') :
    laterTurns cfg st' = turns cfg stopped.defaultRuntime (afterTurn cfg stopped.gpio zone)
      (zonesAfter cfg zone) := by
  rw [laterTurns, turn.pins, turn.current, turn.runtimes, afterTurn]

theorem run_left_begun {zone : Int} {stopped st' : SprinklerdState}
    (turn : TurnBegins cfg now zone stopped st') (lasting : 0 < stopped.defaultRuntime zone)
    (fits : 60 * stopped.defaultRuntime zone < 2 ^ 31) :
    runLeft now st'.currentZone = stopped.defaultRuntime zone * 60 := by
  rw [runLeft, turn.duration, turn.started, sec2Min, wrap32_of_fits (by omega) (by omega)]
  omega

theorem runtime_sum_cons (defaultRuntime : Int → Int) (zone : Int) (zones : List Int) :
    runtimeSum defaultRuntime (zone :: zones) =
      defaultRuntime zone * 60 + runtimeSum defaultRuntime zones := by
  rw [runtimeSum, List.map_cons, List.sum_cons, runtimeSum]

theorem turns_sum_nonneg {defaultRuntime : Int → Int} {gpio : Gpio} {zones later : List Int}
    (found : turns cfg defaultRuntime gpio zones = some later) :
    0 ≤ runtimeSum defaultRuntime later := by
  induction zones generalizing gpio later with
  | nil =>
      cases found
      exact le_refl 0
  | cons zone rest ih =>
      rw [turns] at found
      split_ifs at found with runs reads last
      · exact ih found
      · obtain ⟨others, given, rfl⟩ := Option.map_eq_some_iff.mp found
        have lasts : 0 < defaultRuntime zone := (of_decide_eq_true runs).1
        have positive := ih given
        rw [runtime_sum_cons]
        omega
      · exact ih found

/-- The cycle ends when the running zone and all later turns have had their time. The
induction is on the zones left in the table. -/
theorem ends_after_iff {bound : Nat} (near : (cfg.zones - st.currentZone.zone).toNat < bound)
    (all : st.currentZone.type = .zcAll) (named : 0 ≤ st.currentZone.zone)
    (lasting : 0 < runLeft now st.currentZone) (sound : st.outOfTable = false)
    (fits : ∀ zone ∈ zoneList cfg, 60 * st.defaultRuntime zone < 2 ^ 31) (seconds : Nat) :
    EndsAfter cfg now st seconds ↔ ∃ zones, laterTurns cfg st = some zones ∧
      (seconds : Int) = runLeft now st.currentZone + runtimeSum st.defaultRuntime zones := by
  induction bound generalizing now st seconds with
  | zero => omega
  | succ bound ih =>
      obtain ⟨left, counted⟩ : ∃ left : Nat, runLeft now st.currentZone = left + 1 :=
        ⟨(runLeft now st.currentZone - 1).toNat, by omega⟩
      have running : st.currentZone.type ≠ .zcNone := by rw [all]; decide
      have late : runLeft (now + (left + 1)) st.currentZone ≤ 0 := by
        simp only [runLeft] at counted ⊢
        omega
      rw [ends_after_wait running (by omega) counted]
      have whenDone : ∀ {ended : SprinklerdState}, ended.currentZone.type = .zcNone →
          ended.outOfTable = st.outOfTable → laterTurns cfg st = some [] →
          ((∃ later, seconds = left + 1 + later ∧
            EndsAfter cfg (now + (left + 1)) ended later) ↔
          ∃ zones, laterTurns cfg st = some zones ∧
            (seconds : Int) = runLeft now st.currentZone + runtimeSum st.defaultRuntime zones) := by
        intro ended none table nobody
        rw [nobody]
        simp only [ends_after_none none, table, sound, and_true, Option.some.injEq, exists_eq_left',
          exists_eq_right, counted, runtimeSum, List.map_nil, List.sum_nil]
        omega
      rcases @last_tick cfg (now + (left + 1)) st all (by omega) late with
        ⟨last, none, table⟩ | ⟨more, stopped, next, pins, kind, runtimes, table, walked⟩
      · apply whenDone none table
        rw [laterTurns, zonesAfter, show (cfg.zones - st.currentZone.zone).toNat = 0 by omega]
        rfl
      · have here : laterTurns cfg st = turns cfg stopped.defaultRuntime stopped.gpio
            (zonesAfter cfg st.currentZone.zone) := by rw [laterTurns, pins, runtimes]
        cases walked with
        | ended nobody none kept => exact whenDone none (kept.trans table) (here.trans nobody)
        | lost unknown lost =>
            rw [here, unknown]
            apply iff_of_false
            · rintro ⟨later, -, ends⟩
              exact lost_never_ends lost later ends
            · rintro ⟨zones, same, -⟩
              cases same
        | begins inside runs later turn =>
            have lasts : 0 < stopped.defaultRuntime next := (of_decide_eq_true runs).1
            have short : 60 * stopped.defaultRuntime next < 2 ^ 31 := by
              rw [runtimes]
              exact fits next (mem_zone_list.mpr ⟨by omega, inside.2⟩)
            have start := run_left_begun turn lasts short
            have rest := fun later => @ih (now + (left + 1)) (tickStep cfg st (now + (left + 1)))
              (by rw [turn.current]; omega) (turn.type.trans kind) (by rw [turn.current]; omega)
              (by rw [start]; omega) (turn.table.trans (table.trans sound))
              (by rw [turn.runtimes, runtimes]; exact fits) later
            rw [runtimes] at later start
            simp only [rest, later_turns_begun turn, here, later, start, turn.runtimes, runtimes]
            have lower := @turns_sum_nonneg cfg st.defaultRuntime (afterTurn cfg stopped.gpio next)
              (zonesAfter cfg next)
            cases given : turns cfg st.defaultRuntime (afterTurn cfg stopped.gpio next)
                (zonesAfter cfg next) with
            | none => simp
            | some zones =>
                have positive := lower given
                rw [runtimes] at lasts
                simp only [Option.some.injEq, exists_eq_left', Option.map_some, runtime_sum_cons,
                  counted]
                constructor
                · rintro ⟨later, same, time⟩
                  omega
                · intro time
                  exact ⟨seconds - (left + 1), by omega, by omega⟩

end Cycle

section Fresh

/-- A cycle that runs names an entry of the table, whatever has been asked of the daemon. -/
def CycleNamed (cfg : SprinklerdCfg) (record : SzRunning) : Prop :=
  record.type = .zcAll → InTable cfg record.zone

theorem cycle_named_check (now : Int) (named : CycleNamed cfg st.currentZone) :
    CycleNamed cfg (zcCheck cfg now st).1.currentZone := by
  intro all
  rcases zc_check_type cfg now st with kept | ended
  · have recorded : Recorded cfg st.currentZone := fun _ => named (kept.symm.trans all)
    exact check_recorded now recorded (by rw [all]; decide)
  · exact absurd (all.symm.trans ended) (by decide)

theorem cycle_named_zone (now : Int) (type : ZcRunType) (zone : Int) (state : ZcState)
    (length : Int) (named : CycleNamed cfg st.currentZone) :
    CycleNamed cfg (zcZone cfg now type zone state length st).1.currentZone := by
  have outcome := zc_zone_outcome cfg now type zone state length st
  generalize zcZone cfg now type zone state length st = result at outcome ⊢
  cases outcome with
  | ignored => exact named
  | blocked => exact named
  | noRuntime => exact named
  | cycled => exact fun all => cycle_recorded now state st (by rw [all]; decide)
  | turnedOn _ one =>
      unfold turnZoneOn
      simp only
      split_ifs
      · rw [stop_other_record]
        exact named
      · exact fun all => absurd all one
      · rw [zc_start_record, stop_other_record]
        exact named
  | turnedOff =>
      unfold turnZoneOff
      split_ifs
      · exact cycle_named_check now named
      · intro all
        cases all

theorem cycle_named_operation (now : Int) (operation : Operation)
    (named : CycleNamed cfg st.currentZone) :
    CycleNamed cfg (applyOperation cfg now st operation).currentZone := by
  apply operation_record now operation fun _ => named
  · intro record none all
    exact absurd (all.symm.trans none) (by decide)
  · rintro type zone state length rfl
    exact cycle_named_zone now type zone state length named
  · exact cycle_named_check now named

theorem reachable_cycle_named
    (reached : Reachable (daemonStep cfg) (Startup cfg) (fun _ _ => True) st) :
    CycleNamed cfg st.currentZone := by
  apply reachable_invariant (fun st => CycleNamed cfg st.currentZone) _ _ reached
  · intro st startup all
    exact absurd (all.symm.trans startup.idle) (by decide)
  · intro st event named _
    rw [daemon_step_record]
    exact perform_invariant (fun st => CycleNamed cfg st.currentZone) (fun _ => True)
      (fun _ operation named _ => cycle_named_operation event.1 operation named)
      (fun _ _ => trivial) named

/-- A state right after a check, or after a cycle has been started. -/
inductive JustTimed (cfg : SprinklerdCfg) (now : Int) : SprinklerdState → Prop where
  | check {before : SprinklerdState}
      (reached : Reachable (daemonStep cfg) (Startup cfg) (fun _ _ => True) before) :
      JustTimed cfg now (zcCheck cfg now before).1
  | start {before : SprinklerdState}
      (reached : Reachable (daemonStep cfg) (Startup cfg) (fun _ _ => True) before)
      (accepted : (zcZone cfg now .zcAll 0 .zcOn 0 before).2 = true) :
      JustTimed cfg now (zcZone cfg now .zcAll 0 .zcOn 0 before).1

/-- A cycle whose record is up to date, with time left for a zone of the table. -/
structure CycleTimed (cfg : SprinklerdCfg) (now : Int) (st : SprinklerdState) : Prop where
  member : InTable cfg st.currentZone.zone
  timeleft : st.currentZone.timeleft = saturate32 (runLeft now st.currentZone)
  lasting : 0 < runLeft now st.currentZone

theorem cycle_timed_calc (member : InTable cfg st.currentZone.zone)
    (lasting : 0 < runLeft now st.currentZone) : CycleTimed cfg now (calcTimeleft now st) where
  member := member
  timeleft := by
    have bounds := in_table_bounds member
    simp only [calcTimeleft, runLeft]
    rw [if_pos (by omega)]
  lasting := lasting

theorem cycle_timed_begun {zone : Int} {stopped : SprinklerdState}
    (turn : TurnBegins cfg now zone stopped st) (listed : zone ∈ zoneList cfg)
    (lasting : 0 < stopped.defaultRuntime zone)
    (fits : 60 * stopped.defaultRuntime zone < 2 ^ 31) : CycleTimed cfg now st := by
  have left := run_left_begun turn lasting fits
  rw [turn.fresh]
  apply cycle_timed_calc
  · rw [turn.current]
    exact in_table_of_zone listed
  · rw [left]
    omega

/-- After an accepted start the record is that of the first turn, unless there is none. -/
theorem started_cycle_timed {before : SprinklerdState}
    (all : (cycleAllZones cfg now .zcOn before).currentZone.type = .zcAll)
    (sound : (cycleAllZones cfg now .zcOn before).outOfTable = false)
    (fits : ∀ zone ∈ zoneList cfg, 60 * before.defaultRuntime zone < 2 ^ 31) :
    CycleTimed cfg now (cycleAllZones cfg now .zcOn before) := by
  have runtimes : (stopEveryZone cfg (zoneList cfg) before).defaultRuntime =
      before.defaultRuntime := default_runtime_of_outside (stop_every_outside (zoneList cfg) before)
  unfold cycleAllZones startNextZone at all sound ⊢
  simp only [if_true, sub_zero, zero_add, Int.toNat_natCast] at all sound ⊢
  generalize idled : SprinklerdState.setEventZones _ = idle at all sound ⊢
  have type : idle.currentZone.type = .zcNone := by rw [← idled]; rfl
  have kept : idle.defaultRuntime = before.defaultRuntime := by rw [← idled]; exact runtimes
  have walked := walk_outcome now idle cfg.zonesPositive (Int.add_comm 1 cfg.zones)
  generalize startNextZoneFrom cfg now cfg.zones 1 idle = result at walked all sound ⊢
  cases walked with
  | ended _ done => exact absurd (done.symm.trans all) (by decide)
  | lost _ table => exact absurd (table.symm.trans sound) (by decide)
  | @begins st' next inside runs _ turn =>
      have listed : next ∈ zoneList cfg := mem_zone_list.mpr inside
      have timed := cycle_timed_begun turn listed (of_decide_eq_true runs).1
        (by rw [kept]; exact fits next listed)
      rw [if_pos (show next ≠ -1 by omega)]
      exact ⟨timed.member, timed.timeleft, timed.lasting⟩

theorem just_timed (timed : JustTimed cfg now st) (all : st.currentZone.type = .zcAll)
    (sound : st.outOfTable = false)
    (fits : ∀ zone ∈ zoneList cfg, 60 * st.defaultRuntime zone < 2 ^ 31) :
    CycleTimed cfg now st := by
  cases timed with
  | @start before reached accepted =>
      have result : (zcZone cfg now .zcAll 0 .zcOn 0 before).1 = cycleAllZones cfg now .zcOn before := by
        have outcome := zc_zone_outcome cfg now .zcAll 0 .zcOn 0 before
        generalize zcZone cfg now .zcAll 0 .zcOn 0 before = result at outcome accepted ⊢
        cases outcome with
        | ignored => cases accepted
        | blocked => cases accepted
        | noRuntime => cases accepted
        | cycled => rfl
        | turnedOn _ one => exact absurd rfl one
        | turnedOff _ one => exact absurd rfl one
      rw [default_runtime_of_outside (zc_zone_outside now _ _ _ _ before)] at fits
      rw [result] at all sound ⊢
      exact started_cycle_timed all sound fits
  | @check before reached =>
      have running : before.currentZone.type = .zcAll := by
        rcases zc_check_type cfg now before with kept | ended
        · exact kept.symm.trans all
        · exact absurd (all.symm.trans ended) (by decide)
      have member := reachable_cycle_named reached running
      have bounds := in_table_bounds member
      rw [default_runtime_of_outside (zc_check_outside now before)] at fits
      change (tickStep cfg before now).currentZone.type = .zcAll at all
      change (tickStep cfg before now).outOfTable = false at sound
      change CycleTimed cfg now (tickStep cfg before now)
      by_cases lasting : 0 < runLeft now before.currentZone
      · rw [early_check (by rw [running]; decide) (by omega) lasting]
        exact cycle_timed_calc member lasting
      · rcases @last_tick cfg now before running (by omega) (not_lt.mp lasting) with
          ⟨-, none, -⟩ | ⟨more, stopped, next, -, -, runtimes, -, walked⟩
        · exact absurd (none.symm.trans all) (by decide)
        · cases walked with
          | ended _ none => exact absurd (none.symm.trans all) (by decide)
          | lost _ table => exact absurd (table.symm.trans sound) (by decide)
          | begins inside runs _ turn =>
              have listed : next ∈ zoneList cfg := mem_zone_list.mpr ⟨by omega, inside.2⟩
              exact cycle_timed_begun turn listed (of_decide_eq_true runs).1
                (by rw [runtimes]; exact fits next listed)

end Fresh

section Announcement

variable (cfg) in
/-- The published remaining time is the number of seconds after which the run ends. -/
def AnnouncesEnd (lib : CLibrary) (now : Int) (st : SprinklerdState) : Prop :=
  ∃ seconds : Nat, EndsAfter cfg now st seconds ∧ ∀ payload,
    Publication.status .cycleRemaining payload ∈
        (broadcastSprinklerdactivestate cfg lib true st).2 ↔ payload = printInt seconds

variable (cfg) in
/-- What the zones after the running one add up to without those that get a turn. -/
def passedTime (st : SprinklerdState) (later : List Int) : Int :=
  runtimeSum st.defaultRuntime (zonesAfter cfg st.currentZone.zone) -
    runtimeSum st.defaultRuntime later

/-- The sum of the publisher fits an int and leaves out nothing that counts: the zones that
will be passed over add nothing to it, and the search for the next zone ends in the table. -/
structure TotalRight (cfg : SprinklerdCfg) (now : Int) (st : SprinklerdState) : Prop where
  sound : st.outOfTable = false
  stored : runLeft now st.currentZone < 2 ^ 31
  total : ∃ later, laterTurns cfg st = some later ∧ (zonesAfter cfg st.currentZone.zone ≠ [] →
    runLeft now st.currentZone + runtimeSum st.defaultRuntime later < 2 ^ 31 ∧
      wrap32 (passedTime cfg st later) = 0)

theorem announces_end_iff (lib : CLibrary) (all : st.currentZone.type = .zcAll) :
    AnnouncesEnd cfg lib now st ↔
      ∃ seconds : Nat, EndsAfter cfg now st seconds ∧ cycleTotal cfg st = seconds := by
  have sent : ∀ payload, Publication.status .cycleRemaining payload ∈
      (broadcastSprinklerdactivestate cfg lib true st).2 ↔
        payload = printInt (cycleTotal cfg st) := by
    intro payload
    simp [broadcastSprinklerdactivestate, publishActive, all]
  unfold AnnouncesEnd
  simp only [sent]
  apply exists_congr
  intro seconds
  apply and_congr_right
  intro _
  constructor
  · intro same
    exact print_int_injective ((same _).mp rfl)
  · intro same payload
    rw [same]

/-- The published sum is the time left and the later turns, if the passed zones add nothing. -/
theorem cycle_total_iff {left : Int} {later : List Int} :
    cycleTotal cfg st = left + runtimeSum st.defaultRuntime later ↔
      if zonesAfter cfg st.currentZone.zone = [] then
        st.currentZone.timeleft = left + runtimeSum st.defaultRuntime later
      else wrap32 (st.currentZone.timeleft + (passedTime cfg st later +
        runtimeSum st.defaultRuntime later)) = left + runtimeSum st.defaultRuntime later := by
  have total : cycleTotal cfg st = (zonesAfter cfg st.currentZone.zone).foldl
      (fun total zone => wrap32 (total + wrap32 (st.defaultRuntime zone * 60)))
      st.currentZone.timeleft := rfl
  rw [total, passedTime, sub_add_cancel]
  cases zonesAfter cfg st.currentZone.zone with
  | nil => simp
  | cons zone zones => rw [cycle_total_fold, if_neg (List.cons_ne_nil zone zones)]

theorem total_right_of_sum {later : List Int} (timed : CycleTimed cfg now st)
    (found : laterTurns cfg st = some later) :
    cycleTotal cfg st = runLeft now st.currentZone + runtimeSum st.defaultRuntime later ↔
      runLeft now st.currentZone < 2 ^ 31 ∧ (zonesAfter cfg st.currentZone.zone ≠ [] →
        runLeft now st.currentZone + runtimeSum st.defaultRuntime later < 2 ^ 31 ∧
          wrap32 (passedTime cfg st later) = 0) := by
  have positive := turns_sum_nonneg found
  have lasting := timed.lasting
  rw [cycle_total_iff, timed.timeleft]
  by_cases last : zonesAfter cfg st.currentZone.zone = []
  · have none : later = [] := by
      rw [laterTurns, last] at found
      exact (Option.some.inj found).symm
    subst none
    have empty : runtimeSum st.defaultRuntime [] = 0 := rfl
    simp only [last, if_true, ne_eq, not_true, false_implies, and_true, empty, saturate32]
    omega
  · simp only [last, if_false, ne_eq, not_false_eq_true, true_implies]
    generalize runtimeSum st.defaultRuntime later = rest at *
    generalize passedTime cfg st later = passed
    generalize runLeft now st.currentZone = left at *
    unfold saturate32 wrap32 wrapSigned
    omega

/-- The announced time is the real one exactly when the total is right. -/
theorem announced_time_is_real_iff (lib : CLibrary) (timed : JustTimed cfg now st)
    (all : st.currentZone.type = .zcAll)
    (fits : ∀ zone ∈ zoneList cfg, 60 * st.defaultRuntime zone < 2 ^ 31) :
    AnnouncesEnd cfg lib now st ↔ TotalRight cfg now st := by
  rw [announces_end_iff lib all]
  cases sound : st.outOfTable with
  | true =>
      apply iff_of_false
      · rintro ⟨seconds, ends, -⟩
        exact lost_never_ends sound seconds ends
      · intro right
        exact absurd (right.sound.symm.trans sound) (by decide)
  | false =>
      have fresh := just_timed timed all sound fits
      have bounds := in_table_bounds fresh.member
      have lasting := fresh.lasting
      simp only [ends_after_iff (Nat.lt_succ_self _) all bounds.1 lasting sound fits]
      constructor
      · rintro ⟨seconds, ⟨later, found, time⟩, same⟩
        have sum := (total_right_of_sum fresh found).mp (same.trans time)
        exact ⟨sound, sum.1, later, found, sum.2⟩
      · intro right
        obtain ⟨later, found, sum⟩ := right.total
        have positive := turns_sum_nonneg found
        have same := (total_right_of_sum fresh found).mpr ⟨right.stored, sum⟩
        refine ⟨(runLeft now st.currentZone + runtimeSum st.defaultRuntime later).toNat,
          ⟨later, found, by omega⟩, by omega⟩

def cycleBegun (zonecfg : Int → GPIOcfg) : SprinklerdState :=
  (zcZone (benchCfg zonecfg) 1000 .zcAll 0 .zcOn 0 benchState).1

theorem announced_time_is_real_both_zones :
    AnnouncesEnd (benchCfg benchWiring) benchLibrary 1000 (cycleBegun benchWiring) := by
  apply (announced_time_is_real_iff benchLibrary (.start (.start bench_startup) (by decide))
    (by decide) (by decide)).mpr
  exact ⟨by decide, by decide, [2], by decide, fun _ => ⟨by decide, by decide⟩⟩

/-- The second zone has no valid pin and is passed over, so the cycle ends after ten
minutes. Twenty are announced. -/
theorem announced_time_counts_passed_zone :
    JustTimed (benchCfg RefusedRequest.brokenWiring) 1000
        (cycleBegun RefusedRequest.brokenWiring) ∧
      (cycleBegun RefusedRequest.brokenWiring).currentZone.type = .zcAll ∧
      EndsAfter (benchCfg RefusedRequest.brokenWiring) 1000
        (cycleBegun RefusedRequest.brokenWiring) 600 ∧
      ¬ AnnouncesEnd (benchCfg RefusedRequest.brokenWiring) benchLibrary 1000
        (cycleBegun RefusedRequest.brokenWiring) := by
  have startup : Startup (benchCfg RefusedRequest.brokenWiring) benchState := by
    refine ⟨rfl, fun zone member => ?_, rfl⟩
    rcases mem_bench_table.mp member with rfl | rfl | rfl <;> decide
  have ends := @ends_after_iff (benchCfg RefusedRequest.brokenWiring) 1000
    (cycleBegun RefusedRequest.brokenWiring) 3 (by decide) (by decide) (by decide) (by decide)
    (by decide) (by decide)
  have turnless : laterTurns (benchCfg RefusedRequest.brokenWiring)
      (cycleBegun RefusedRequest.brokenWiring) = some [] := by decide
  have left : runLeft 1000 (cycleBegun RefusedRequest.brokenWiring).currentZone = 600 := by decide
  have total : cycleTotal (benchCfg RefusedRequest.brokenWiring)
      (cycleBegun RefusedRequest.brokenWiring) = 1200 := by decide
  simp only [turnless, left, Option.some.injEq, exists_eq_left', runtimeSum, List.map_nil,
    List.sum_nil] at ends
  refine ⟨.start (.start startup) (by decide), by decide, (ends 600).mpr (by omega), ?_⟩
  rw [announces_end_iff _ (by decide), total]
  rintro ⟨seconds, after, same⟩
  have time := (ends seconds).mp after
  omega

end Announcement

section DistinctPins

theorem reads_on_after_turn (apart : Apart cfg) (gpio : Gpio) {zone other : Int}
    (listed : zone ∈ zoneList cfg) (otherListed : other ∈ zoneList cfg) (different : other ≠ zone) :
    zoneReadsOn cfg (afterTurn cfg gpio zone) other = zoneReadsOn cfg gpio other := by
  have member := in_table_of_zone listed
  have otherMember := in_table_of_zone otherListed
  rw [afterTurn, reads_on_drive_off apart _ member otherMember, if_neg different,
    master_keeps_zone apart _ _ otherListed,
    reads_on_drive_on_other apart _ member otherMember different]

/-- Without shared pins nothing but its runtime and its pin keeps a zone from its turn. -/
theorem turns_apart (apart : Apart cfg) (defaultRuntime : Int → Int) {gpio : Gpio}
    {zones : List Int} (increasing : zones.Pairwise (· < ·))
    (listed : ∀ zone ∈ zones, zone ∈ zoneList cfg)
    (off : ∀ zone ∈ zones, zoneReadsOn cfg gpio zone = false) :
    turns cfg defaultRuntime gpio zones = some (zones.filter (runnable cfg defaultRuntime)) := by
  induction zones generalizing gpio with
  | nil => rfl
  | cons zone rest ih =>
      obtain ⟨first, later⟩ := List.pairwise_cons.mp increasing
      obtain ⟨here, tail⟩ := List.forall_mem_cons.mp listed
      obtain ⟨closed, restOff⟩ := List.forall_mem_cons.mp off
      rw [turns]
      cases runs : runnable cfg defaultRuntime zone with
      | false =>
          rw [if_neg (by decide), List.filter_cons_of_neg (by simp [runs])]
          exact ih later tail restOff
      | true =>
          have keeps : ∀ next ∈ rest, zoneReadsOn cfg (afterTurn cfg gpio zone) next = false := by
            intro next inside
            rw [reads_on_after_turn apart gpio here (tail next inside) (first next inside).ne']
            exact restOff next inside
          rw [if_pos rfl, closed, if_neg (by decide), ih later tail keeps,
            List.filter_cons_of_pos runs, Option.map_some]

theorem later_turns_apart (apart : Apart cfg) (listed : st.currentZone.zone ∈ zoneList cfg)
    (alone : ∀ zone ∈ zoneList cfg, zone ≠ st.currentZone.zone →
      zoneReadsOn cfg st.gpio zone = false) :
    laterTurns cfg st = some (cyclePlan cfg st.defaultRuntime st.currentZone.zone) := by
  have bounds := mem_zone_list.mp listed
  have later : ∀ zone ∈ zonesAfter cfg st.currentZone.zone, zone ∈ zoneList cfg := by
    intro zone inside
    have after := mem_zones_after.mp inside
    exact mem_zone_list.mpr ⟨by omega, after.2⟩
  apply turns_apart apart _ (zones_from_increasing _ _) later
  intro zone inside
  have different : zone ≠ st.currentZone.zone := (mem_zones_after.mp inside).1.ne'
  rw [reads_on_drive_off apart _ (in_table_of_zone listed) (in_table_of_zone (later zone inside)),
    if_neg different]
  exact alone zone (later zone inside) different

end DistinctPins

end SprinklerD.RemainingCycle
