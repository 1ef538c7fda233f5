import SprinklerD.CronTable
import SprinklerD.Operations
import Mathlib.Data.List.Chain

/-!
# Which calendars the crontab encodes

The start of each zone is the start of the day plus the runtimes before it. The
writer carries minutes into hours by hand, and carries one hour at a time. The
lines of a day are right exactly when one hour is always enough, or the zones
still to come would start after midnight anyway.
-/

namespace SprinklerD.CronCalendar

open Foundation.MachineInt
open SprinklerD.Config SprinklerD.CronTable SprinklerD.Operations

set_option autoImplicit false

def minutesPerDay : Int := 1440

def startInstant (entry : CalendarDay) (zone : Int) : Int :=
  60 * entry.hour + entry.minute +
    ((zonesFrom zone.toNat 0).map fun earlier => max (entry.zruntimes earlier) 0).sum

def startsToday (entry : CalendarDay) (zone : Int) : Bool :=
  0 < entry.zruntimes zone ∧ startInstant entry zone < minutesPerDay

def lineOf (entry : CalendarDay) (day zone : Int) : CronLine :=
  { minute := startInstant entry zone % 60, hour := startInstant entry zone / 60, day := day,
    zone := zone + 1, runtime := entry.zruntimes zone }

/-- One line for each zone that runs and starts before midnight, in zone order. -/
def expectedLines (cfg : SprinklerdCfg) (entry : CalendarDay) (day : Int) : List CronLine :=
  ((zoneIndexes cfg).filter (startsToday entry)).map (lineOf entry day)

/-- The numbers of a scheduled day as they come from the calendar request. -/
structure ValidDay (cfg : SprinklerdCfg) (entry : CalendarDay) : Prop where
  hour : 0 ≤ entry.hour ∧ entry.hour ≤ 23
  minute : 0 ≤ entry.minute ∧ entry.minute ≤ 59
  runtimes : ∀ zone ∈ zoneIndexes cfg, 0 ≤ entry.zruntimes zone ∧ entry.zruntimes zone < 2 ^ 31

def instant (line : CronLine) : Int := 60 * line.hour + line.minute

/-- The zone lines of a day are the expected ones. Each then has a minute and an
hour that cron accepts and starts when the one before it ends. -/
structure Encodes (cfg : SprinklerdCfg) (table : Int → CalendarDay) (day : Int) : Prop where
  lines : cronLines cfg table day = expectedLines cfg (table day) day
  inRange : ∀ line ∈ cronLines cfg table day,
    (0 ≤ line.minute ∧ line.minute ≤ 59) ∧ 0 ≤ line.hour ∧ line.hour ≤ 23
  consecutive : (cronLines cfg table day).IsChain fun line next =>
    instant next = instant line + line.runtime

def RunsLater (zones : List Int) (entry : CalendarDay) (zone : Int) : Prop :=
  ∃ later ∈ zones, zone < later ∧ 0 < entry.zruntimes later

/-- A zone that ends in the hour after the one it starts in at the latest, or that
starts in the last hour of the day and whose sum of minutes is still an int. -/
def OneCarry (entry : CalendarDay) (zone : Int) : Prop :=
  startInstant entry zone % 60 + entry.zruntimes zone < 120 ∨
    (1380 ≤ startInstant entry zone ∧
      startInstant entry zone % 60 + entry.zruntimes zone < 2 ^ 31)

/-- One carry is enough for every zone that another one follows. -/
def CarriesOnce (zones : List Int) (entry : CalendarDay) : Prop :=
  ∀ zone ∈ zones, startsToday entry zone = true → RunsLater zones entry zone →
    OneCarry entry zone

variable {cfg : SprinklerdCfg} {entry : CalendarDay}

section Instants

theorem start_instant_next (entry : CalendarDay) {zone : Int} (index : 0 ≤ zone) :
    startInstant entry (zone + 1) = startInstant entry zone + max (entry.zruntimes zone) 0 := by
  have last : ∀ (count : Nat) (first : Int),
      zonesFrom (count + 1) first = zonesFrom count first ++ [first + count] := by
    intro count
    induction count with
    | zero => intro first; simp [zonesFrom]
    | succ count ih =>
        intro first
        rw [zonesFrom, ih, zonesFrom, List.cons_append]
        push_cast
        rw [show first + 1 + (count : Int) = first + (count + 1) by omega]
  rw [startInstant, startInstant, show (zone + 1).toNat = zone.toNat + 1 by omega, last,
    List.map_append, List.sum_append, show (0 : Int) + zone.toNat = zone by omega]
  simp only [List.map_cons, List.map_nil, List.sum_cons, List.sum_nil, add_zero]
  omega

theorem start_instant_mono (entry : CalendarDay) {first zone : Int} (index : 0 ≤ first)
    (later : first ≤ zone) :
    startInstant entry first ≤ startInstant entry zone := by
  obtain ⟨steps, rfl⟩ : ∃ steps : Nat, zone = first + steps := ⟨(zone - first).toNat, by omega⟩
  clear later
  induction steps with
  | zero => simp
  | succ steps ih =>
      have next := start_instant_next entry (show 0 ≤ first + (steps : Int) by omega)
      push_cast
      rw [← add_assoc, next]
      omega

theorem start_instant_zero : startInstant entry 0 = 60 * entry.hour + entry.minute := by
  simp [startInstant, zonesFrom]

end Instants

section Lists

variable {left : Nat} {first : Int}

def linesFrom (entry : CalendarDay) (day : Int) (zones : List Int) : List CronLine :=
  (zones.filter (startsToday entry)).map (lineOf entry day)

theorem none_after_midnight (index : 0 ≤ first)
    (late : minutesPerDay ≤ startInstant entry first) {zone : Int}
    (member : zone ∈ zonesFrom left first) : startsToday entry zone = false := by
  have bounds := mem_zones_from.mp member
  have later := start_instant_mono entry index bounds.1
  rw [startsToday, decide_eq_false_iff_not]
  omega

theorem no_lines_after_midnight (day : Int) (index : 0 ≤ first)
    (late : minutesPerDay ≤ startInstant entry first) :
    linesFrom entry day (zonesFrom left first) = [] := by
  rw [linesFrom, List.map_eq_nil_iff, List.filter_eq_nil_iff]
  intro zone member
  exact Bool.eq_false_iff.mp (none_after_midnight index late member)

theorem zone_lines_nil {day : Int} {zones : List Int} (min hour : Int)
    (idle : ∀ zone ∈ zones, ¬ 0 < entry.zruntimes zone) :
    zoneLines day entry.zruntimes zones min hour = [] := by
  induction zones with
  | nil => rfl
  | cons zone rest ih =>
      rw [zoneLines, if_neg (idle zone (by simp))]
      exact ih fun later member => idle later (List.mem_cons_of_mem _ member)

theorem lines_from_nil {day : Int} {zones : List Int}
    (idle : ∀ zone ∈ zones, ¬ 0 < entry.zruntimes zone) : linesFrom entry day zones = [] := by
  rw [linesFrom, List.map_eq_nil_iff, List.filter_eq_nil_iff]
  intro zone member today
  simp only [startsToday, decide_eq_true_eq] at today
  exact idle zone member today.1

/-- A minute that is none shows in the next line. -/
theorem zone_lines_ne {day min hour : Int} {zones : List Int}
    (runs : ∃ zone ∈ zones, 0 < entry.zruntimes zone) (wrong : min < 0 ∨ 60 ≤ min) :
    zoneLines day entry.zruntimes zones min hour ≠ linesFrom entry day zones := by
  have head : ∃ line rest, zoneLines day entry.zruntimes zones min hour = line :: rest ∧
      line.minute = min := by
    induction zones with
    | nil => simp at runs
    | cons zone rest ih =>
        rw [zoneLines]
        split_ifs with positive
        · exact ⟨_, _, rfl, rfl⟩
        · apply ih
          obtain ⟨later, member, lasting⟩ := runs
          rcases List.mem_cons.mp member with rfl | tail
          · exact absurd lasting positive
          · exact ⟨later, tail, lasting⟩
  intro same
  obtain ⟨line, rest, lines, minute⟩ := head
  have member : line ∈ linesFrom entry day zones := by
    rw [← same, lines]
    exact List.mem_cons_self
  obtain ⟨zone, -, rfl⟩ := List.mem_map.mp member
  simp only [lineOf] at minute
  omega

end Lists

section Carry

variable {left : Nat} {first : Int}

theorem carries_once_cons :
    CarriesOnce (first :: zonesFrom left (first + 1)) entry ↔
      (startsToday entry first = true →
        (∃ later ∈ zonesFrom left (first + 1), 0 < entry.zruntimes later) →
          OneCarry entry first) ∧
      CarriesOnce (zonesFrom left (first + 1)) entry := by
  constructor
  · intro carries
    constructor
    · intro today runs
      obtain ⟨later, member, lasting⟩ := runs
      have bound := (mem_zones_from.mp member).1
      exact carries first (by simp) today
        ⟨later, List.mem_cons_of_mem _ member, by omega, lasting⟩
    · intro zone member today runs
      obtain ⟨later, laterMember, after, lasting⟩ := runs
      exact carries zone (List.mem_cons_of_mem _ member) today
        ⟨later, List.mem_cons_of_mem _ laterMember, after, lasting⟩
  · rintro ⟨head, tail⟩ zone member today ⟨later, laterMember, after, lasting⟩
    rcases List.mem_cons.mp member with rfl | inTail
    · refine head today ⟨later, (List.mem_cons.mp laterMember).resolve_left ?_, lasting⟩
      rintro rfl
      exact lt_irrefl _ after
    · refine tail zone inTail today
        ⟨later, (List.mem_cons.mp laterMember).resolve_left ?_, after, lasting⟩
      rintro rfl
      have bound := (mem_zones_from.mp inTail).1
      omega

theorem carries_once_of_late (index : 0 ≤ first)
    (late : minutesPerDay ≤ startInstant entry first) :
    CarriesOnce (zonesFrom left first) entry := by
  intro zone member today
  exact absurd today (Bool.eq_false_iff.mp (none_after_midnight index late member))

/-- The step of the loop when another zone follows: the carried time is right, or
the next line is wrong. -/
theorem carried_lines_iff {day min hour : Int} (index : 0 ≤ first)
    (clock : (0 ≤ min ∧ min < 60) ∧ 0 ≤ hour ∧ hour < 24)
    (start : startInstant entry first = 60 * hour + min)
    (runtime : entry.zruntimes first < 2 ^ 31) (positive : 0 < entry.zruntimes first)
    (runs : ∃ zone ∈ zonesFrom left (first + 1), 0 < entry.zruntimes zone)
    (rest : ∀ min' hour', ((0 ≤ min' ∧ min' < 60) ∧ 0 ≤ hour' ∧ hour' < 24) →
      startInstant entry (first + 1) = 60 * hour' + min' →
        (zoneLines day entry.zruntimes (zonesFrom left (first + 1)) min' hour' =
            linesFrom entry day (zonesFrom left (first + 1)) ↔
          CarriesOnce (zonesFrom left (first + 1)) entry)) :
    (let summed := wrap32 (min + entry.zruntimes first)
      let nextMin := if summed ≥ 60 then summed - 60 else summed
      let nextHour := if summed ≥ 60 then hour + 1 else hour
      if nextHour ≥ 24 then []
      else zoneLines day entry.zruntimes (zonesFrom left (first + 1)) nextMin nextHour) =
        linesFrom entry day (zonesFrom left (first + 1)) ↔
      OneCarry entry first ∧ CarriesOnce (zonesFrom left (first + 1)) entry := by
  have next : startInstant entry (first + 1) = 60 * hour + min + entry.zruntimes first := by
    rw [start_instant_next entry index, start]
    omega
  have once : OneCarry entry first ↔ min + entry.zruntimes first < 120 ∨
      (hour = 23 ∧ min + entry.zruntimes first < 2 ^ 31) := by
    rw [OneCarry, start]
    omega
  have late : minutesPerDay ≤ 60 * hour + min + entry.zruntimes first →
      linesFrom entry day (zonesFrom left (first + 1)) = [] ∧
        CarriesOnce (zonesFrom left (first + 1)) entry := fun past =>
    ⟨no_lines_after_midnight day (by omega) (next ▸ past),
      carries_once_of_late (by omega) (next ▸ past)⟩
  simp only
  by_cases fits : min + entry.zruntimes first < 2 ^ 31
  · rw [wrap32_of_fits (by omega) fits]
    by_cases carries : min + entry.zruntimes first ≥ 60
    · rw [if_pos carries, if_pos carries]
      by_cases lastHour : hour + 1 ≥ 24
      · have past := late (by rw [minutesPerDay]; omega)
        rw [if_pos lastHour, past.1]
        exact iff_of_true rfl ⟨once.mpr (Or.inr ⟨by omega, fits⟩), past.2⟩
      · rw [if_neg lastHour]
        by_cases single : min + entry.zruntimes first < 120
        · rw [rest _ _ ⟨by omega, by omega⟩ (by rw [next]; omega)]
          exact ⟨fun tail => ⟨once.mpr (Or.inl single), tail⟩, fun both => both.2⟩
        · apply iff_of_false (zone_lines_ne runs (Or.inr (by omega)))
          intro both
          have condition := once.mp both.1
          omega
    · rw [if_neg carries, if_neg carries, if_neg (by omega),
        rest _ _ ⟨by omega, by omega⟩ (by rw [next]; omega)]
      exact ⟨fun tail => ⟨once.mpr (Or.inl (by omega)), tail⟩, fun both => both.2⟩
  · have wrapped : wrap32 (min + entry.zruntimes first) =
        min + entry.zruntimes first - 2 ^ 32 := by
      unfold wrap32 wrapSigned
      omega
    rw [wrapped, if_neg (by omega), if_neg (by omega), if_neg (by omega)]
    apply iff_of_false (zone_lines_ne runs (Or.inl (by omega)))
    intro both
    have condition := once.mp both.1
    omega

/-- From a right time on, the loop writes the expected lines exactly when it carries
once for each zone. The induction is on the zones left. -/
theorem zone_lines_iff {day min hour : Int} (index : 0 ≤ first)
    (runtimes : ∀ zone ∈ zonesFrom left first,
      0 ≤ entry.zruntimes zone ∧ entry.zruntimes zone < 2 ^ 31)
    (clock : (0 ≤ min ∧ min < 60) ∧ 0 ≤ hour ∧ hour < 24)
    (start : startInstant entry first = 60 * hour + min) :
    zoneLines day entry.zruntimes (zonesFrom left first) min hour =
        linesFrom entry day (zonesFrom left first) ↔
      CarriesOnce (zonesFrom left first) entry := by
  induction left generalizing first min hour with
  | zero => simp [zonesFrom, zoneLines, linesFrom, CarriesOnce]
  | succ left ih =>
      have next := start_instant_next entry index
      have runtime := runtimes first (by simp [zonesFrom])
      have later : ∀ zone ∈ zonesFrom left (first + 1),
          0 ≤ entry.zruntimes zone ∧ entry.zruntimes zone < 2 ^ 31 := fun zone member =>
        runtimes zone (List.mem_cons_of_mem _ member)
      rw [zonesFrom, carries_once_cons, zoneLines]
      by_cases positive : 0 < entry.zruntimes first
      · have today : startsToday entry first = true :=
          decide_eq_true ⟨positive, by rw [start, minutesPerDay]; omega⟩
        have line : lineOf entry day first =
            ⟨min, hour, day, first + 1, entry.zruntimes first⟩ := by
          simp only [lineOf, start, CronLine.mk.injEq, and_true]
          omega
        have expected : linesFrom entry day (first :: zonesFrom left (first + 1)) =
            lineOf entry day first :: linesFrom entry day (zonesFrom left (first + 1)) := by
          rw [linesFrom, List.filter_cons_of_pos today, List.map_cons]
          rfl
        rw [if_pos positive, expected, line]
        simp only [List.cons.injEq, true_and, today, true_implies]
        by_cases runs : ∃ zone ∈ zonesFrom left (first + 1), 0 < entry.zruntimes zone
        · rw [carried_lines_iff index clock start runtime.2 positive runs
            fun min' hour' clock' start' => ih (by omega) later clock' start']
          simp only [runs, true_implies]
        · have idle : ∀ zone ∈ zonesFrom left (first + 1), ¬ 0 < entry.zruntimes zone :=
            fun zone member lasting => runs ⟨zone, member, lasting⟩
          rw [lines_from_nil idle, zone_lines_nil _ _ idle, ite_self]
          refine iff_of_true rfl ⟨fun some => absurd some runs, fun zone member today => ?_⟩
          simp only [startsToday, decide_eq_true_eq] at today
          exact absurd today.1 (idle zone member)
      · have skipped : ¬ startsToday entry first = true := fun today =>
          positive (of_decide_eq_true today).1
        have same : startInstant entry (first + 1) = 60 * hour + min := by
          rw [next, start]
          omega
        have expected : linesFrom entry day (first :: zonesFrom left (first + 1)) =
            linesFrom entry day (zonesFrom left (first + 1)) := by
          rw [linesFrom, List.filter_cons_of_neg skipped]
          rfl
        rw [if_neg positive, expected, ih (by omega) later clock same]
        exact ⟨fun carries => ⟨fun today => absurd today skipped, carries⟩, fun both => both.2⟩

theorem lines_from_consecutive {day : Int} (index : 0 ≤ first) :
    (linesFrom entry day (zonesFrom left first)).IsChain
        (fun line next => instant next = instant line + line.runtime) ∧
      ∀ line ∈ (linesFrom entry day (zonesFrom left first)).head?,
        instant line = startInstant entry first := by
  induction left generalizing first with
  | zero => simp [zonesFrom, linesFrom]
  | succ left ih =>
      have tail := @ih (first + 1) (by omega)
      rw [zonesFrom, linesFrom]
      by_cases today : startsToday entry first = true
      · have runtime := (of_decide_eq_true today).1
        rw [List.filter_cons_of_pos today, List.map_cons]
        refine ⟨List.isChain_cons.mpr ⟨fun line head => ?_, tail.1⟩, fun line head => ?_⟩
        · rw [tail.2 line head, start_instant_next entry index]
          simp only [instant, lineOf]
          omega
        · obtain rfl := Option.some.inj head
          simp only [instant, lineOf]
          omega
      · rw [List.filter_cons_of_neg today]
        by_cases runs : 0 < entry.zruntimes first
        · have late : minutesPerDay ≤ startInstant entry first := by
            by_contra early
            exact today (decide_eq_true ⟨runs, not_le.mp early⟩)
          have past := start_instant_mono entry index (show first ≤ first + 1 by omega)
          have none : linesFrom entry day (zonesFrom left (first + 1)) = [] :=
            no_lines_after_midnight day (by omega) (late.trans past)
          rw [linesFrom] at none
          simp [none]
        · have same : startInstant entry (first + 1) = startInstant entry first := by
            rw [start_instant_next entry index]
            omega
          rw [← same]
          exact tail

theorem encodes_iff_lines {table : Int → CalendarDay} {day : Int}
    (valid : ValidDay cfg (table day)) :
    Encodes cfg table day ↔ cronLines cfg table day = expectedLines cfg (table day) day := by
  refine ⟨Encodes.lines, fun lines => ⟨lines, fun line member => ?_, ?_⟩⟩
  · rw [lines] at member
    obtain ⟨zone, listed, rfl⟩ := List.mem_map.mp member
    obtain ⟨index, today⟩ := List.mem_filter.mp listed
    have bounds := mem_zones_from.mp index
    have start := start_instant_mono (table day) (le_refl 0) bounds.1
    rw [start_instant_zero] at start
    have hours := valid.hour
    have minutes := valid.minute
    have early : startInstant (table day) zone < 1440 := (of_decide_eq_true today).2
    simp only [lineOf]
    omega
  · rw [lines]
    exact (lines_from_consecutive (le_refl 0)).1

/-- The crontab encodes every scheduled day of a calendar exactly when one carry is
enough in each of them. -/
theorem crontab_encodes_calendar (table : Int → CalendarDay)
    (valid : ∀ day ∈ weekDays, scheduled (table day) = true → ValidDay cfg (table day)) :
    (∀ day ∈ weekDays, scheduled (table day) = true → Encodes cfg table day) ↔
      ∀ day ∈ weekDays, scheduled (table day) = true →
        CarriesOnce (zoneIndexes cfg) (table day) := by
  apply forall₃_congr
  intro day member on
  have entry := valid day member on
  have hours := entry.hour
  have minutes := entry.minute
  rw [encodes_iff_lines entry, cronLines, if_pos on]
  exact zone_lines_iff (le_refl 0) entry.runtimes ⟨⟨minutes.1, by omega⟩, hours.1, by omega⟩
    start_instant_zero

def mondayTable (zruntimes : Int → Int) (day : Int) : CalendarDay :=
  if day = 1 then { hour := 6, minute := 30, zruntimes := zruntimes }
  else { hour := -1, minute := -1, zruntimes := fun _ => 0 }

theorem monday_valid {zruntimes : Int → Int}
    (runtimes : ∀ zone ∈ zoneIndexes (benchCfg benchWiring),
      0 ≤ zruntimes zone ∧ zruntimes zone < 2 ^ 31) :
    ∀ day ∈ weekDays, scheduled (mondayTable zruntimes day) = true →
      ValidDay (benchCfg benchWiring) (mondayTable zruntimes day) := by
  intro day _ on
  by_cases monday : day = 1
  · subst monday
    exact ⟨by simp [mondayTable], by simp [mondayTable], runtimes⟩
  · simp [mondayTable, monday, scheduled] at on

theorem crontab_encodes_calendar_monday :
    Encodes (benchCfg benchWiring) (mondayTable fun _ => 40) 1 := by
  refine (crontab_encodes_calendar (mondayTable fun _ => 40) (monday_valid (by decide))).mpr
    (fun day _ on => ?_) 1 (by decide) (by decide)
  by_cases monday : day = 1
  · subst monday
    intro zone member _ _
    have bounds := mem_zones_from.mp member
    apply Or.inl
    simp only [mondayTable, if_true]
    omega
  · simp [mondayTable, monday, scheduled] at on

/-- The first zone runs for close to two hours: the line of the second has the
minute 80. -/
theorem long_runtime_writes_bad_minute :
    (∀ day ∈ weekDays, scheduled (mondayTable (fun zone => 110 - 100 * zone) day) = true →
      ValidDay (benchCfg benchWiring) (mondayTable (fun zone => 110 - 100 * zone) day)) ∧
    cronLines (benchCfg benchWiring) (mondayTable fun zone => 110 - 100 * zone) 1 =
      [⟨30, 6, 1, 1, 110⟩, ⟨80, 7, 1, 2, 10⟩] ∧
    ¬ Encodes (benchCfg benchWiring) (mondayTable fun zone => 110 - 100 * zone) 1 := by
  have lines : cronLines (benchCfg benchWiring) (mondayTable fun zone => 110 - 100 * zone) 1 =
      [⟨30, 6, 1, 1, 110⟩, ⟨80, 7, 1, 2, 10⟩] := by decide
  refine ⟨monday_valid (by decide), lines, fun encodes => ?_⟩
  have range := encodes.inRange ⟨80, 7, 1, 2, 10⟩ (by rw [lines]; decide)
  exact absurd range.1.2 (by decide)

end Carry

end SprinklerD.CronCalendar
