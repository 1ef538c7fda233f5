import SprinklerD.PinLevels
import SprinklerD.TableBounds
import SprinklerD.WebDispatch

/-!
# A state that is neither on nor off

`is_value_ON` answers -1 for a word it does not know. Two branches of the query handler
take its answer for a truth value: the calendar is turned on, and a cycle is started. The
results hold for every wiring, so the closing of all zones is followed by pin levels.
-/

namespace SprinklerD.UnknownWord

open Foundation.CString
open SprinklerD.Config SprinklerD.GpioPi SprinklerD.ZoneCtrl SprinklerD.SdCron
open SprinklerD.ZoneValves SprinklerD.NetServices SprinklerD.Operations SprinklerD.TableBounds
open SprinklerD.RefusedRequest SprinklerD.PinLevels SprinklerD.WebDispatch

set_option autoImplicit false

def closingOrder (cfg : SprinklerdCfg) (zones : List Int) : List Int :=
  zones.flatMap fun zone => if cfg.masterValve then [0, zone] else [zone]

/-- The same when the cycle then ends at once, which closes the master again. -/
def endingOrder (cfg : SprinklerdCfg) : List Int :=
  closingOrder cfg (zoneList cfg) ++ if cfg.masterValve then [0] else []

/-- A zone that closing all entries leaves on, by an entry of the opposite on state on
the same pin that is closed after it. -/
def LeftOpen (cfg : SprinklerdCfg) (zone : Int) : Prop :=
  levelled cfg zone = true ∧ ∃ other, (cfg.zonecfg other).onState ≠ (cfg.zonecfg zone).onState ∧
    lastOnPin cfg (closingOrder cfg (zoneList cfg)) (cfg.zonecfg zone).pin = some other

/-- A cycle request would change nothing: no zone could be started, the record is empty
already, and every pin has the level of the last entry closed on it. -/
structure NothingToCycle (cfg : SprinklerdCfg) (st : SprinklerdState) : Prop where
  noZone : ∀ zone ∈ zoneList cfg, runnable cfg st.defaultRuntime zone = true → LeftOpen cfg zone
  cleared : st.currentZone.type = .zcNone ∧ st.currentZone.zone = -1 ∧ st.currentZone.timeleft = 0
  closed : ∀ entry, lastOnPin cfg (endingOrder cfg) (cfg.zonecfg entry).pin = some entry →
    validGPIO (cfg.zonecfg entry).pin = true → zoneReadsOn cfg st.gpio entry = false

variable {cfg : SprinklerdCfg}

section Closing

theorem last_on_pin_cons (entry : Int) (rest : List Int) (pin : Int) :
    lastOnPin cfg (entry :: rest) pin =
      (lastOnPin cfg rest pin).or
        (if (cfg.zonecfg entry).pin = pin ∧ levelled cfg entry = true then some entry else none) := by
  rw [show entry :: rest = [entry] ++ rest from rfl, last_on_pin_append]
  congr 1
  by_cases drives : (cfg.zonecfg entry).pin = pin ∧ levelled cfg entry = true
  · simp [lastOnPin, drives]
  · simp only [lastOnPin, List.reverse_singleton, List.find?_singleton, decide_eq_true_eq,
      if_neg drives]

def closedLevel (cfg : SprinklerdCfg) (order : List Int) (level : Int → Bool) (pin : Int) : Bool :=
  match lastOnPin cfg order pin with
  | none => level pin
  | some entry => decide ((cfg.zonecfg entry).onState = 0)

theorem closed_level_append (front back : List Int) (level : Int → Bool) (pin : Int) :
    closedLevel cfg (front ++ back) level pin =
      closedLevel cfg back (closedLevel cfg front level) pin := by
  unfold closedLevel
  rw [last_on_pin_append]
  cases lastOnPin cfg back pin <;> rfl

theorem closed_level_one (entry : Int) (level : Int → Bool) (pin : Int) :
    closedLevel cfg [entry] level pin =
      if (cfg.zonecfg entry).pin = pin ∧ levelled cfg entry = true then
        decide ((cfg.zonecfg entry).onState = 0)
      else level pin := by
  rw [closedLevel, last_on_pin_cons]
  by_cases drives : (cfg.zonecfg entry).pin = pin ∧ levelled cfg entry = true
  · simp [lastOnPin, drives]
  · simp only [lastOnPin, List.reverse_nil, List.find?_nil, if_neg drives, Option.or_none]

theorem stop_level_closed (zone : Int) (st : SprinklerdState) {pin : Int}
    (valid : validGPIO pin = true) :
    (zcStop cfg zone st).1.gpio.level pin = closedLevel cfg [zone] st.gpio.level pin := by
  rw [zc_stop_level _ _ valid, closed_level_one]

theorem master_off_closed (st : SprinklerdState) {pin : Int} (valid : validGPIO pin = true) :
    (zcMaster cfg .zcOff st).gpio.level pin =
      closedLevel cfg (if cfg.masterValve then [0] else []) st.gpio.level pin := by
  rw [zc_master_off_level _ valid]
  cases cfg.masterValve with
  | false => simp [closedLevel, lastOnPin]
  | true => simp [closed_level_one]

theorem closed_level_same {order : List Int} {first second : Int → Bool} {pin : Int}
    (same : first pin = second pin) :
    closedLevel cfg order first pin = closedLevel cfg order second pin := by
  unfold closedLevel
  rw [same]

theorem stop_every_closed {pin : Int} (valid : validGPIO pin = true) (zones : List Int)
    (st : SprinklerdState) :
    (stopEveryZone cfg zones st).gpio.level pin =
      closedLevel cfg (closingOrder cfg zones) st.gpio.level pin := by
  induction zones generalizing st with
  | nil => rfl
  | cons zone rest ih =>
      have step : (zcStop cfg zone (zcMaster cfg .zcOff st)).1.gpio.level pin =
          closedLevel cfg (if cfg.masterValve then [0, zone] else [zone]) st.gpio.level pin := by
        rw [stop_level_closed _ _ valid, closed_level_same (master_off_closed st valid),
          ← closed_level_append]
        cases cfg.masterValve <;> rfl
      rw [stop_every_cons, ih, closed_level_same step, ← closed_level_append, closingOrder,
        closingOrder, List.flatMap_cons]

theorem mem_closing_order {zone : Int} {zones : List Int} (inside : zone ∈ zones) :
    zone ∈ closingOrder cfg zones := by
  apply List.mem_flatMap.mpr
  refine ⟨zone, inside, ?_⟩
  cases cfg.masterValve <;> simp

theorem reads_on_closed_iff {zone : Int} (st : SprinklerdState) (listed : zone ∈ zoneList cfg)
    (valid : validGPIO (cfg.zonecfg zone).pin = true) :
    zoneReadsOn cfg (stopEveryZone cfg (zoneList cfg) st).gpio zone = true ↔
      LeftOpen cfg zone := by
  apply reads_on_last_iff valid (stop_every_closed valid (zoneList cfg) st)
  intro nothing
  have missed := List.find?_eq_none.mp nothing zone
    (List.mem_reverse.mpr (mem_closing_order listed))
  exact fun level => absurd (decide_eq_true ⟨rfl, level⟩) missed

end Closing

section Walk

/-- The search for the next zone fails when each runnable zone reads on already. -/
theorem walk_misses (now : Int) {left : Nat} {zone : Int} (st : SprinklerdState)
    (named : 0 ≤ zone) (bound : zone + left = cfg.zones + 1) :
    (startNextZoneFrom cfg now left zone st).2 = -1 ↔
      ∀ later ∈ zonesFrom left zone, runnable cfg st.defaultRuntime later = true →
        zoneReadsOn cfg st.gpio later = true := by
  induction left generalizing zone st with
  | zero => simp [startNextZoneFrom, zonesFrom]
  | succ left ih =>
      rw [startNextZoneFrom, zonesFrom]
      cases runs : runnable cfg st.defaultRuntime zone with
      | false =>
          rw [if_pos (runnable_eq_false.mp runs)]
          split_ifs with last
          · have none : left = 0 := by push_cast at bound; omega
            simp [none, zonesFrom, runs]
          · rw [ih st (by omega) (by push_cast at bound ⊢; omega)]
            simp [runs]
      | true =>
          rw [if_neg (not_skipped runs)]
          have valid : validGPIO (cfg.zonecfg zone).pin = true := (of_decide_eq_true runs).2
          have opened := @zc_start_result cfg zone st
          simp only [opened, valid, and_true]
          cases reads : zoneReadsOn cfg st.gpio zone with
          | false =>
              simp only [if_true, List.forall_mem_cons, runs, reads]
              apply iff_of_false
              · omega
              · exact fun all => absurd (all.1 trivial) (by decide)
          | true =>
              rw [if_neg (by decide), zc_start_refused reads,
                ih st.setEventZones (by omega) (by push_cast at bound ⊢; omega)]
              simp [SprinklerdState.setEventZones, runs, reads]

/-- A search that fails ends the cycle, as long as it does not leave the table. -/
theorem walk_ends (now : Int) {left : Nat} {zone : Int} (st : SprinklerdState)
    (remaining : 0 < left) (bound : zone + left = cfg.zones + 1)
    (missed : ∀ later ∈ zonesFrom left zone, runnable cfg st.defaultRuntime later = true →
      zoneReadsOn cfg st.gpio later = true)
    (lastOff : runnable cfg st.defaultRuntime cfg.zones = true →
      zoneReadsOn cfg st.gpio cfg.zones = false) :
    control (startNextZoneFrom cfg now left zone st).1 =
      (driveMaster cfg .zcOff st.gpio,
        { st.currentZone with type := .zcNone, zone := -1, timeleft := 0 }) := by
  induction left generalizing zone st with
  | zero => omega
  | succ left ih =>
      rw [startNextZoneFrom]
      have later : ∀ next ∈ zonesFrom left (zone + 1), next ∈ zonesFrom (left + 1) zone :=
        fun next inside => List.mem_cons_of_mem zone inside
      cases runs : runnable cfg st.defaultRuntime zone with
      | false =>
          rw [if_pos (runnable_eq_false.mp runs)]
          split_ifs with last
          · simp [Operations.control]
          · exact ih st (by push_cast at bound last; omega) (by push_cast at bound ⊢; omega)
              (fun next inside => missed next (later next inside)) lastOff
      | true =>
          have reads := missed zone List.mem_cons_self runs
          have more : left ≠ 0 := by
            rintro rfl
            rw [show zone = cfg.zones by push_cast at bound; omega] at runs reads
            rw [lastOff runs] at reads
            cases reads
          rw [if_neg (not_skipped runs)]
          simp only [zc_start_refused reads, Bool.false_eq_true, if_false]
          exact ih st.setEventZones (by omega) (by push_cast at bound ⊢; omega)
            (fun next inside => missed next (later next inside)) lastOff

end Walk

section CycleRequest

theorem same_pins_closed_iff {gpio : Gpio} {order : List Int} {after : Gpio}
    (closes : ∀ pin, validGPIO pin = true → after.level pin = closedLevel cfg order gpio.level pin) :
    SamePins gpio after ↔
      ∀ entry, lastOnPin cfg order (cfg.zonecfg entry).pin = some entry →
        validGPIO (cfg.zonecfg entry).pin = true → zoneReadsOn cfg gpio entry = false := by
  rw [same_pins_iff]
  constructor
  · intro same entry last valid
    have level := same _ valid
    rw [closes _ valid, closedLevel, last] at level
    exact (reads_off_level valid (last_on_pin_spec last).2.2).mpr level
  · intro off pin valid
    rw [closes pin valid, closedLevel]
    cases last : lastOnPin cfg order pin with
    | none => rfl
    | some entry =>
        obtain ⟨-, rfl, level⟩ := last_on_pin_spec last
        exact (reads_off_level valid level).mp (off entry last valid)

theorem cleared_iff (record : SzRunning) :
    { record with type := .zcNone, zone := -1, timeleft := 0 } = record ↔
      record.type = .zcNone ∧ record.zone = -1 ∧ record.timeleft = 0 := by
  cases record
  simp only [SzRunning.mk.injEq, true_and]
  constructor
  · rintro ⟨type, left, zone⟩
    exact ⟨type.symm, zone.symm, left.symm⟩
  · rintro ⟨type, zone, left⟩
    exact ⟨type.symm, left.symm, zone.symm⟩

def beforeCycle (cfg : SprinklerdCfg) (st : SprinklerdState) : SprinklerdState :=
  SprinklerdState.setEventZones { stopEveryZone cfg (zoneList cfg) st with
    currentZone := { (stopEveryZone cfg (zoneList cfg) st).currentZone with type := .zcNone } }

theorem before_cycle_runtime (st : SprinklerdState) :
    (beforeCycle cfg st).defaultRuntime = st.defaultRuntime :=
  default_runtime_of_outside (stop_every_outside (zoneList cfg) st)

theorem first_zone_missed_iff (now : Int) (st : SprinklerdState) :
    (startNextZoneFrom cfg now cfg.zones 1 (beforeCycle cfg st)).2 = -1 ↔
      ∀ zone ∈ zoneList cfg, runnable cfg st.defaultRuntime zone = true → LeftOpen cfg zone := by
  rw [walk_misses now (beforeCycle cfg st) (by decide) (by omega), before_cycle_runtime]
  apply forall_congr'
  intro zone
  apply forall_congr'
  intro listed
  apply forall_congr'
  intro runs
  exact reads_on_closed_iff st listed (of_decide_eq_true runs).2

theorem cycle_search (now : Int) (st : SprinklerdState) :
    cycleAllZones cfg now .zcOn st =
      if (startNextZoneFrom cfg now cfg.zones 1 (beforeCycle cfg st)).2 = -1 then
        (startNextZoneFrom cfg now cfg.zones 1 (beforeCycle cfg st)).1
      else { (startNextZoneFrom cfg now cfg.zones 1 (beforeCycle cfg st)).1 with currentZone :=
        { (startNextZoneFrom cfg now cfg.zones 1 (beforeCycle cfg st)).1.currentZone with
          type := .zcAll } } := by
  have search : startNextZone cfg now 0 { stopEveryZone cfg (zoneList cfg) st with
      currentZone := { (stopEveryZone cfg (zoneList cfg) st).currentZone with type := .zcNone } } =
      startNextZoneFrom cfg now cfg.zones 1 (beforeCycle cfg st) := by
    rw [startNextZone, beforeCycle]
    simp
  simp only [cycleAllZones, if_true, search, ne_eq, ite_not]

theorem cycle_without_zone {now : Int} {st : SprinklerdState}
    (noZone : ∀ zone ∈ zoneList cfg, runnable cfg st.defaultRuntime zone = true →
      LeftOpen cfg zone) :
    control (cycleAllZones cfg now .zcOn st) =
      (driveMaster cfg .zcOff (stopEveryZone cfg (zoneList cfg) st).gpio,
        { st.currentZone with type := .zcNone, zone := -1, timeleft := 0 }) := by
  have missed := (first_zone_missed_iff now st).mpr noZone
  have reads := (walk_misses now (beforeCycle cfg st) (by decide) (by omega)).mp missed
  have lastOff : runnable cfg (beforeCycle cfg st).defaultRuntime cfg.zones = true →
      zoneReadsOn cfg (beforeCycle cfg st).gpio cfg.zones = false :=
    fun runs => last_zone_closed st (of_decide_eq_true runs).2
  have ends := walk_ends now (beforeCycle cfg st) cfg.zonesPositive (by omega) reads lastOff
  have record : (beforeCycle cfg st).currentZone = { st.currentZone with type := .zcNone } := by
    rw [← stop_every_record (zoneList cfg) st]
    rfl
  rw [record] at ends
  rw [cycle_search, if_pos missed]
  exact ends

/-- A cycle request outside a cycle leaves pins and record alone exactly when there is
nothing to cycle. -/
theorem cycle_kept_iff (now : Int) (st : SprinklerdState) (outside : st.currentZone.type ≠ .zcAll) :
    (SamePins st.gpio (cycleAllZones cfg now .zcOn st).gpio ∧
        (cycleAllZones cfg now .zcOn st).currentZone = st.currentZone) ↔
      NothingToCycle cfg st := by
  by_cases noZone : ∀ zone ∈ zoneList cfg, runnable cfg st.defaultRuntime zone = true →
      LeftOpen cfg zone
  · have ends := @cycle_without_zone cfg now st noZone
    have pins : SamePins st.gpio (cycleAllZones cfg now .zcOn st).gpio ↔ _ :=
      same_pins_closed_iff fun pin valid => by
        rw [show (cycleAllZones cfg now .zcOn st).gpio = _ from congrArg Prod.fst ends,
          ← zc_master_gpio, master_off_closed _ valid,
          closed_level_same (stop_every_closed valid (zoneList cfg) st), ← closed_level_append]
    rw [pins, show (cycleAllZones cfg now .zcOn st).currentZone = _ from congrArg Prod.snd ends,
      cleared_iff]
    constructor
    · rintro ⟨closed, cleared⟩
      exact ⟨noZone, cleared, closed⟩
    · intro nothing
      exact ⟨nothing.closed, nothing.cleared⟩
  · apply iff_of_false _ fun nothing => noZone nothing.noZone
    rintro ⟨-, record⟩
    rw [cycle_search, if_neg fun missed => noZone ((first_zone_missed_iff now st).mp missed)]
      at record
    exact outside (congrArg SzRunning.type record).symm

end CycleRequest

section Queries

def optionText (query stack : Text) : Text :=
  mgGetHttpVar query "option".toList (mgGetHttpVar query "type".toList stack)

/-- The state text of an `option` query, and that of a `zone` or `cron` query. -/
def optionState (query stack : Text) : Text :=
  mgGetHttpVar query "state".toList (optionText query stack)

def zoneState (query stack : Text) : Text :=
  mgGetHttpVar query "state".toList (mgGetHttpVar query "runtime".toList
    (mgGetHttpVar query "zone".toList (mgGetHttpVar query "type".toList stack)))

/-- A query whose state text is none of the words its type knows. -/
inductive UnknownState (query stack : Text) : Prop where
  | option (given : query ≠ [])
      (type : strcmpEqual (mgGetHttpVar query "type".toList stack) "option".toList = true)
      (word : isValueON (optionState query stack) = -1)
      (noReset : strncasecmpEqual (optionText query stack) "24hdelay".toList 8 = true →
        strncasecmpEqual (optionState query stack) "reset".toList 5 = false)
  | zone (given : query ≠ [])
      (type : strcmpEqual (mgGetHttpVar query "type".toList stack) "zone".toList = true ∨
        strcmpEqual (mgGetHttpVar query "type".toList stack) "cron".toList = true)
      (word : isValueON (zoneState query stack) = -1)
      (noFlip : isValueFlip (zoneState query stack) = false)

def asksOption (query stack : Text) : Bool :=
  strcmpEqual (mgGetHttpVar query "type".toList stack) "option".toList

def asksCalendar (query stack : Text) : Bool :=
  asksOption query stack ∧ strncasecmpEqual (optionText query stack) "calendar".toList 6

def asksCycle (query stack : Text) : Bool :=
  asksOption query stack ∧ asksCalendar query stack = false ∧
    strncasecmpEqual (optionText query stack) "24hdelay".toList 8 = false ∧
    strncasecmpEqual (optionText query stack) "allz".toList 4

/-- The calendar, the rain delay, the pins and the running record. -/
structure Kept (before after : SprinklerdState) : Prop where
  pins : SamePins before.gpio after.gpio
  record : after.currentZone = before.currentZone
  calendar : after.calendar = before.calendar
  delay : delay after = delay before

/-- The word is taken for an on that the state does not have yet. -/
def TakenForOn (cfg : SprinklerdCfg) (query stack : Text) (st : SprinklerdState) : Prop :=
  asksCalendar query stack = true ∧ st.calendar = false ∨
    asksCycle query stack = true ∧ st.currentZone.type ≠ .zcAll ∧ ¬ NothingToCycle cfg st

theorem kept_refl (st : SprinklerdState) : Kept st st :=
  ⟨same_pins_refl st.gpio, rfl, rfl, rfl⟩

theorem kept_event_status {before after : SprinklerdState} :
    Kept before after.setEventStatus ↔ Kept before after :=
  ⟨fun kept => ⟨kept.pins, kept.record, kept.calendar, kept.delay⟩,
    fun kept => ⟨kept.pins, kept.record, kept.calendar, kept.delay⟩⟩

theorem kept_calendar_iff (st : SprinklerdState) :
    Kept st (enableCalendar true st).setEventStatus ↔ ¬ st.calendar = false := by
  unfold enableCalendar
  cases on : st.calendar with
  | false =>
      apply iff_of_false _ fun never => never rfl
      intro kept
      exact absurd (kept.calendar.trans on) (by simp [SprinklerdState.setEventStatus])
  | true =>
      apply iff_of_true _ (by decide)
      rw [if_neg (by decide), kept_event_status]
      exact kept_refl st

theorem kept_cycle_iff (now : Int) (st : SprinklerdState) :
    Kept st (zcZone cfg now .zcAll 0 .zcOn 0 st).1.setEventStatus ↔
      ¬ (st.currentZone.type ≠ .zcAll ∧ ¬ NothingToCycle cfg st) := by
  have outside := @zc_zone_outside cfg now .zcAll 0 .zcOn 0 st
  have same : Kept st (zcZone cfg now .zcAll 0 .zcOn 0 st).1 ↔
      SamePins st.gpio (zcZone cfg now .zcAll 0 .zcOn 0 st).1.gpio ∧
        (zcZone cfg now .zcAll 0 .zcOn 0 st).1.currentZone = st.currentZone :=
    ⟨fun kept => ⟨kept.pins, kept.record⟩, fun kept =>
      ⟨kept.1, kept.2, calendar_of_outside outside, delay_of_outside outside⟩⟩
  rw [kept_event_status, same, zc_zone_all, duplicate_all_on]
  by_cases all : st.currentZone.type = .zcAll
  · rw [if_pos (decide_eq_true all)]
    exact iff_of_true ⟨same_pins_refl st.gpio, rfl⟩ fun both => both.1 all
  · rw [if_neg (by simpa using all), cycle_kept_iff now st all]
    simp [all]

/-- The `option` handler for a word that is neither on nor off nor a reset. -/
theorem serve_option_unknown (now : Int) {query stack : Text} (st : SprinklerdState)
    (word : isValueON (optionState query stack) = -1)
    (noReset : strncasecmpEqual (optionText query stack) "24hdelay".toList 8 = true →
      strncasecmpEqual (optionState query stack) "reset".toList 5 = false) :
    (serveOption cfg now query (mgGetHttpVar query "type".toList stack) st).1 =
      SprinklerdState.setEventStatus
        (if strncasecmpEqual (optionText query stack) "calendar".toList 6 then
          enableCalendar true st
        else if strncasecmpEqual (optionText query stack) "24hdelay".toList 8 then st
        else if strncasecmpEqual (optionText query stack) "allz".toList 4 then
          (zcZone cfg now .zcAll 0 .zcOn 0 st).1
        else st) := by
  unfold optionState optionText at *
  unfold serveOption
  simp only [word]
  split_ifs with calendar delayed known reset cycle zero
  · rfl
  · exact absurd known (by decide)
  · rw [noReset delayed] at reset
    cases reset
  · rfl
  · rfl
  · exact absurd (by decide) zero
  · rfl

theorem serve_zone_unknown (now : Int) {query stack : Text} (st : SprinklerdState)
    (word : isValueON (zoneState query stack) = -1)
    (noFlip : isValueFlip (zoneState query stack) = false) :
    (serveZone cfg now query (mgGetHttpVar query "type".toList stack) st).1 = st.setEventZones := by
  unfold zoneState at word noFlip
  unfold serveZone
  simp only [word, noFlip]
  rw [if_neg fun on => absurd on.1 (by decide), if_neg fun off => absurd off.1 (by decide),
    if_neg fun flips => absurd flips.1 (by decide)]
  split_ifs
  · rfl
  · rfl

/-- A query with an unknown word leaves pins, record, calendar and rain delay alone, except
where the word is taken for an on. -/
theorem unknown_word_keeps_iff (now : Int) {query stack : Text} (st : SprinklerdState)
    (unknown : UnknownState query stack) :
    Kept st (actionWebRequest cfg now query stack st).1 ↔ ¬ TakenForOn cfg query stack st := by
  unfold TakenForOn asksCycle asksCalendar asksOption
  cases unknown with
  | option given type word noReset =>
      have turned := kept_calendar_iff st
      have cycled := @kept_cycle_iff cfg now st
      rw [actionWebRequest, if_neg given, serve_web_request_option now st type]
      dsimp only
      rw [serve_option_unknown now st word noReset, type]
      generalize strncasecmpEqual (optionText query stack) "calendar".toList 6 = calendar
      generalize strncasecmpEqual (optionText query stack) "24hdelay".toList 8 = delayed
      generalize strncasecmpEqual (optionText query stack) "allz".toList 4 = cycle
      rw [kept_event_status] at turned cycled ⊢
      cases calendar with
      | true => simp [turned]
      | false =>
          cases delayed with
          | true => simp [kept_refl]
          | false =>
              cases cycle with
              | true => simp [cycled]
              | false => simp [kept_refl]
  | zone given type word noFlip =>
      have noOption : strcmpEqual (mgGetHttpVar query "type".toList stack) "option".toList =
          false := by
        rcases type with zone | cron
        · rw [strcmp_of_same zone]
          decide
        · rw [strcmp_of_same cron]
          decide
      have kept : Kept st st.setEventZones := ⟨same_pins_refl st.gpio, rfl, rfl, rfl⟩
      rw [actionWebRequest, if_neg given, serve_web_request_zone now st type]
      dsimp only
      rw [serve_zone_unknown now st word noFlip, noOption]
      simp [kept]

theorem unknown_word_keeps_cron :
    Kept benchState (actionWebRequest (benchCfg benchWiring) 1000
      "type=cron&zone=1&runtime=5&state=maybe".toList [] benchState).1 := by
  apply (unknown_word_keeps_iff 1000 benchState (.zone (by decide +kernel)
    (Or.inr (by decide +kernel)) (by decide +kernel) (by decide +kernel))).mpr
  rintro (⟨calendar, -⟩ | ⟨cycle, -⟩)
  · revert calendar
    decide +kernel
  · revert cycle
    decide +kernel

/-- Without any state text a cycle is started, and a word that means nothing turns the
calendar on. -/
theorem unknown_word_counts_as_on :
    Startup (benchCfg benchWiring) { benchState with calendar := false } ∧
      UnknownState "type=option&option=allz".toList [] ∧
      ¬ Kept { benchState with calendar := false } (actionWebRequest (benchCfg benchWiring) 1000
        "type=option&option=allz".toList [] { benchState with calendar := false }).1 ∧
      UnknownState "type=option&option=calendar&state=maybe".toList [] ∧
      ¬ Kept { benchState with calendar := false } (actionWebRequest (benchCfg benchWiring) 1000
        "type=option&option=calendar&state=maybe".toList []
          { benchState with calendar := false }).1 := by
  refine ⟨⟨rfl, bench_startup.pinsOff, rfl⟩, .option (by decide +kernel) (by decide +kernel)
    (by decide +kernel) (by decide +kernel), fun kept => ?_, .option (by decide +kernel)
    (by decide +kernel) (by decide +kernel) (by decide +kernel), fun kept => ?_⟩
  · have type := congrArg SzRunning.type kept.record
    revert type
    decide +kernel
  · have calendar := kept.calendar
    revert calendar
    decide +kernel

end Queries

end SprinklerD.UnknownWord
