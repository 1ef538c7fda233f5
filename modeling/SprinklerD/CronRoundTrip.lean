import SprinklerD.CronReader
import SprinklerD.CronCalendar

/-!
# Reading the crontab back

The file is read line by line into a cleared table. The zone lines of a day touch
that day only; the first of them brings its start time and each of them one
runtime, of which two digits survive. So a schedule is restored exactly when no
runtime has a third digit.
-/

namespace SprinklerD.CronRoundTrip

open Foundation.MachineInt Foundation.Decimal Foundation.CString Foundation.GreedyPattern
open SprinklerD.Config SprinklerD.SdCron SprinklerD.CronTable SprinklerD.CronReader
open SprinklerD.CronCalendar SprinklerD.Operations

set_option autoImplicit false

variable {cfg : SprinklerdCfg}

section Runtimes

def readRuntime (runtime : Int) : Int := str2int ((printInt runtime).take 2) 2

theorem str2int_print_nat {value : Nat} (small : value < 2 ^ 31) :
    str2int (printNat value) (printNat value).length = value := by
  rw [str2int, List.take_length, read_print_nat, wrap32_of_fits (by omega) (by omega)]

theorem read_runtime_eq (runtime : Nat) :
    readRuntime runtime =
      str2int ((printNat runtime).take 2) ((printNat runtime).take 2).length := by
  rw [readRuntime, print_int_nat, str2int, str2int, List.take_length, List.take_take]
  rfl

theorem read_runtime_digits (runtime : Nat) :
    readRuntime runtime = readDigits 0 ((printNat runtime).take 2) := by
  have bound := read_digits_lt 0 ((printNat runtime).take 2)
  have power : 10 ^ ((printNat runtime).take 2).length ≤ 10 ^ 2 :=
    Nat.pow_le_pow_right (by decide) (List.length_take_le 2 _)
  rw [read_runtime_eq, str2int, List.take_length, wrap32_of_fits (by omega) (by omega)]

theorem read_runtime_iff {runtime : Int} (lasting : 0 ≤ runtime) :
    readRuntime runtime = runtime ↔ runtime ≤ 99 := by
  obtain ⟨value, rfl⟩ := Int.eq_ofNat_of_zero_le lasting
  rw [read_runtime_digits]
  constructor
  · intro same
    have bound := read_digits_lt 0 ((printNat value).take 2)
    have short : ((printNat value).take 2).length ≤ 2 := List.length_take_le 2 _
    have power : 10 ^ ((printNat value).take 2).length ≤ 10 ^ 2 :=
      Nat.pow_le_pow_right (by decide) short
    omega
  · intro small
    rw [List.take_of_length_le (print_nat_bounds (by omega)).2, read_print_nat]

end Runtimes

section OneLine

structure ZoneLine (cfg : SprinklerdCfg) (line : CronLine) : Prop where
  minute : 0 ≤ line.minute
  hour : 0 ≤ line.hour ∧ line.hour < 24
  day : 0 ≤ line.day ∧ line.day < 7
  zone : 1 ≤ line.zone ∧ line.zone ≤ cfg.zones
  runtime : 0 < line.runtime

structure EntryRead (entry after : CalendarDay) (line : CronLine) : Prop where
  keepsStart : entry.hour ≠ -1 → after.hour = entry.hour ∧ after.minute = entry.minute
  setsStart : entry.hour = -1 → after.hour = line.hour ∧
    (line.minute < 100 → after.minute = line.minute)
  runtimes : after.zruntimes =
    Function.update entry.zruntimes (line.zone - 1) (readRuntime line.runtime)

theorem read_zone_line (plain : ∀ char ∈ cfg.socketPort, isSpace char = false)
    (table : Int → CalendarDay) {line : CronLine} (fits : ZoneLine cfg line) :
    ∃ after, readCronLine cfg table (zoneLineText cfg line) =
        Function.update table line.day after ∧
      EntryRead (table line.day) after line := by
  obtain ⟨minute, hour, day, zone, runtime⟩ := line
  obtain ⟨minute, rfl⟩ := Int.eq_ofNat_of_zero_le fits.minute
  obtain ⟨hour, rfl⟩ := Int.eq_ofNat_of_zero_le fits.hour.1
  obtain ⟨day, rfl⟩ := Int.eq_ofNat_of_zero_le fits.day.1
  obtain ⟨zone, rfl⟩ := Int.eq_ofNat_of_zero_le (le_trans (by decide) fits.zone.1)
  obtain ⟨runtime, rfl⟩ := Int.eq_ofNat_of_zero_le fits.runtime.le
  have hourBound := fits.hour.2
  have dayBound := fits.day.2
  have zoneBound := fits.zone.2
  have zones := cfg.zonesBounded
  simp only at hourBound dayBound zoneBound
  obtain ⟨minuteText, found, whole⟩ := search_zone_line plain minute runtime
    (show hour < 100 by omega) (show day < 100 by omega) (show zone < 100 by omega)
  have inside : (day : Int) < 7 ∧ (zone : Int) ≤ cfg.zones := ⟨dayBound, zoneBound⟩
  refine ⟨_, by
    simp only [readCronLine, found, str2int_print_nat (show hour < 2 ^ 31 by omega),
      str2int_print_nat (show day < 2 ^ 31 by omega),
      str2int_print_nat (show zone < 2 ^ 31 by omega), if_pos inside]
    rfl, ?_⟩
  refine ⟨fun other => ?_, fun unset => ?_, ?_⟩
  · simp only [if_neg other, and_self]
  · simp only [if_pos unset, true_and]
    intro small
    rw [whole (by omega), str2int_print_nat (by omega)]
  · simp only
    rw [← read_runtime_eq]
    split_ifs <;> rfl

end OneLine

section OneDay

/-- What reading the zone lines of a day does to its entry, when the runtimes of the
lines are those of `zruntimes`. -/
structure DayRead (entry after : CalendarDay) (lines : List CronLine)
    (zruntimes : Int → Int) : Prop where
  keepsStart : entry.hour ≠ -1 → after.hour = entry.hour ∧ after.minute = entry.minute
  setsStart : entry.hour = -1 → ∀ first ∈ lines.head?, after.hour = first.hour ∧
    (first.minute < 100 → after.minute = first.minute)
  unchanged : lines = [] → after = entry
  named : ∀ zone, (∃ line ∈ lines, line.zone - 1 = zone) →
    after.zruntimes zone = readRuntime (zruntimes zone)
  others : ∀ zone, (¬ ∃ line ∈ lines, line.zone - 1 = zone) →
    after.zruntimes zone = entry.zruntimes zone

theorem day_read_cons {entry middle after : CalendarDay} {line : CronLine}
    {lines : List CronLine} {zruntimes : Int → Int} (fits : ZoneLine cfg line)
    (runtime : line.runtime = zruntimes (line.zone - 1)) (first : EntryRead entry middle line)
    (rest : DayRead middle after lines zruntimes) :
    DayRead entry after (line :: lines) zruntimes := by
  have started : middle.hour ≠ -1 := by
    by_cases unset : entry.hour = -1
    · rw [(first.setsStart unset).1]
      have hours := fits.hour
      omega
    · rw [(first.keepsStart unset).1]
      exact unset
  have kept := rest.keepsStart started
  refine ⟨fun set => ?_, fun unset other head => ?_, by simp, fun zone lined => ?_,
    fun zone unlined => ?_⟩
  · rw [kept.1, kept.2]
    exact first.keepsStart set
  · obtain rfl := Option.some.inj head
    rw [kept.1, kept.2]
    exact first.setsStart unset
  · by_cases later : ∃ other ∈ lines, other.zone - 1 = zone
    · exact rest.named zone later
    · rw [rest.others zone later, first.runtimes]
      obtain ⟨other, member, same⟩ := lined
      rcases List.mem_cons.mp member with rfl | tail
      · rw [same, Function.update_self, runtime, same]
      · exact absurd ⟨other, tail, same⟩ later
  · have later : ¬ ∃ other ∈ lines, other.zone - 1 = zone := fun ⟨other, member, same⟩ =>
      unlined ⟨other, List.mem_cons_of_mem _ member, same⟩
    have here : line.zone - 1 ≠ zone := fun same => unlined ⟨line, by simp, same⟩
    rw [rest.others zone later, first.runtimes, Function.update_of_ne (Ne.symm here)]

theorem read_zone_lines (plain : ∀ char ∈ cfg.socketPort, isSpace char = false) {day : Int}
    {zruntimes : Int → Int} (lines : List CronLine) (table : Int → CalendarDay)
    (fits : ∀ line ∈ lines, ZoneLine cfg line ∧ line.day = day ∧
      line.runtime = zruntimes (line.zone - 1)) :
    ∃ after, (lines.map (zoneLineText cfg)).foldl (readCronLine cfg) table =
        Function.update table day after ∧
      DayRead (table day) after lines zruntimes := by
  induction lines generalizing table with
  | nil =>
      refine ⟨table day, (Function.update_eq_self day table).symm, ?_⟩
      exact ⟨fun _ => ⟨rfl, rfl⟩, by simp, fun _ => rfl, by simp, fun _ _ => rfl⟩
  | cons line lines ih =>
      obtain ⟨zoneLine, rfl, runtime⟩ := fits line (by simp)
      obtain ⟨middle, read, first⟩ := read_zone_line plain table zoneLine
      obtain ⟨after, rest, later⟩ := ih (Function.update table line.day middle)
        fun other member => fits other (List.mem_cons_of_mem _ member)
      rw [Function.update_self] at later
      refine ⟨after, ?_, day_read_cons zoneLine runtime first later⟩
      rw [List.map_cons, List.foldl_cons, read, rest, Function.update_idem]

end OneDay

section WrittenLines

/-- A scheduled day whose runs end before the day does. -/
structure FitsDay (cfg : SprinklerdCfg) (entry : CalendarDay) : Prop where
  hour : 0 ≤ entry.hour ∧ entry.hour ≤ 23
  minute : 0 ≤ entry.minute ∧ entry.minute ≤ 59
  runtimes : ∀ zone ∈ zoneIndexes cfg, 0 ≤ entry.zruntimes zone
  waters : ∃ zone ∈ zoneIndexes cfg, 0 < entry.zruntimes zone
  sameDay : 60 * entry.hour + entry.minute +
    ((zoneIndexes cfg).map entry.zruntimes).sum ≤ 1440

/-- The lines written for some zones: one for each zone that runs, in the right form,
the first at the given time. -/
structure WritesZones (cfg : SprinklerdCfg) (day : Int) (zruntimes : Int → Int)
    (zones : List Int) (min hour : Int) (lines : List CronLine) : Prop where
  fits : ∀ line ∈ lines, ZoneLine cfg line ∧ line.day = day ∧
    line.runtime = zruntimes (line.zone - 1)
  complete : ∀ zone ∈ zones, 0 < zruntimes zone → ∃ line ∈ lines, line.zone - 1 = zone
  listed : ∀ line ∈ lines, line.zone - 1 ∈ zones ∧ 0 < zruntimes (line.zone - 1)
  first : ∀ line ∈ lines.head?, line.hour = hour ∧ line.minute = min

theorem sum_nonneg_of {zones : List Int} {zruntimes : Int → Int}
    (runtimes : ∀ zone ∈ zones, 0 ≤ zruntimes zone) : 0 ≤ (zones.map zruntimes).sum := by
  induction zones with
  | nil => simp
  | cons zone zones ih =>
      have head := runtimes zone (by simp)
      have tail := ih fun later member => runtimes later (List.mem_cons_of_mem zone member)
      rw [List.map_cons, List.sum_cons]
      omega

theorem runtime_le_sum {zones : List Int} {zruntimes : Int → Int}
    (runtimes : ∀ zone ∈ zones, 0 ≤ zruntimes zone) {zone : Int} (member : zone ∈ zones) :
    zruntimes zone ≤ (zones.map zruntimes).sum := by
  induction zones with
  | nil => simp at member
  | cons first zones ih =>
      have head := runtimes first (by simp)
      have tail := fun later member => runtimes later (List.mem_cons_of_mem first member)
      have rest := sum_nonneg_of tail
      rw [List.map_cons, List.sum_cons]
      rcases List.mem_cons.mp member with rfl | later
      · omega
      · have bound := ih tail later
        omega

theorem writes_nothing {day min hour : Int} {zruntimes : Int → Int} {zones : List Int}
    (idle : ∀ zone ∈ zones, ¬ 0 < zruntimes zone) :
    WritesZones cfg day zruntimes zones min hour [] where
  fits := by simp
  complete zone member positive := absurd positive (idle zone member)
  listed := by simp
  first := by simp

theorem writes_zones_idle {day min hour zone : Int} {zruntimes : Int → Int} {zones : List Int}
    {lines : List CronLine} (idle : ¬ 0 < zruntimes zone)
    (tail : WritesZones cfg day zruntimes zones min hour lines) :
    WritesZones cfg day zruntimes (zone :: zones) min hour lines where
  fits := tail.fits
  complete later member positive := by
    rcases List.mem_cons.mp member with rfl | inTail
    · exact absurd positive idle
    · exact tail.complete later inTail positive
  listed line member :=
    ⟨List.mem_cons_of_mem _ (tail.listed line member).1, (tail.listed line member).2⟩
  first := tail.first

/-- A line for a zone that runs, before the lines of later zones. -/
theorem writes_zones_run {day min hour laterMin laterHour zone : Int} {zruntimes : Int → Int}
    {zones : List Int} {lines : List CronLine}
    (here : ZoneLine cfg ⟨min, hour, day, zone + 1, zruntimes zone⟩)
    (tail : WritesZones cfg day zruntimes zones laterMin laterHour lines) :
    WritesZones cfg day zruntimes (zone :: zones) min hour
      (⟨min, hour, day, zone + 1, zruntimes zone⟩ :: lines) where
  fits line member := by
    rcases List.mem_cons.mp member with rfl | later
    · exact ⟨here, rfl, by simp⟩
    · exact tail.fits line later
  complete later member positive := by
    rcases List.mem_cons.mp member with rfl | inTail
    · exact ⟨_, List.mem_cons_self, by simp⟩
    · obtain ⟨line, lineMember, same⟩ := tail.complete later inTail positive
      exact ⟨line, List.mem_cons_of_mem _ lineMember, same⟩
  listed line member := by
    rcases List.mem_cons.mp member with rfl | later
    · simpa using here.runtime
    · exact ⟨List.mem_cons_of_mem _ (tail.listed line later).1, (tail.listed line later).2⟩
  first line head := by
    obtain rfl := Option.some.inj head
    exact ⟨rfl, rfl⟩

/-- As long as the day is not over, the time only moves on by the runtimes, and the
hour stays below twenty-four while another zone runs. -/
theorem writes_zones {day min hour : Int} {zruntimes : Int → Int} {zones : List Int}
    (inside : ∀ zone ∈ zones, zone ∈ zoneIndexes cfg) (days : 0 ≤ day ∧ day < 7)
    (runtimes : ∀ zone ∈ zones, 0 ≤ zruntimes zone)
    (clock : 0 ≤ min ∧ 0 ≤ hour ∧ hour < 24)
    (sameDay : 60 * hour + min + (zones.map zruntimes).sum ≤ 1440) :
    WritesZones cfg day zruntimes zones min hour
      (zoneLines day zruntimes zones min hour) := by
  induction zones generalizing min hour with
  | nil => exact writes_nothing (by simp)
  | cons zone zones ih =>
      have tailInside := fun later member => inside later (List.mem_cons_of_mem zone member)
      have tailRuntimes := fun later member => runtimes later (List.mem_cons_of_mem zone member)
      have rest := sum_nonneg_of tailRuntimes
      have runtime := runtimes zone (by simp)
      rw [List.map_cons, List.sum_cons] at sameDay
      rw [zoneLines]
      by_cases positive : 0 < zruntimes zone
      · rw [if_pos positive, wrap32_of_fits (by omega) (by omega)]
        have bounds := mem_zones_from.mp (inside zone (by simp))
        apply writes_zones_run ⟨clock.1, clock.2, days, by simp only; omega, positive⟩
        by_cases midnight : (if min + zruntimes zone ≥ 60 then hour + 1 else hour) ≥ 24
        · rw [if_pos midnight]
          apply writes_nothing
          intro later member lasting
          have bound := runtime_le_sum tailRuntimes member
          split_ifs at midnight <;> omega
        · rw [if_neg midnight]
          apply ih tailInside tailRuntimes
          · split_ifs at midnight ⊢ <;> omega
          · split_ifs <;> omega
      · rw [if_neg positive]
        exact writes_zones_idle positive (ih tailInside tailRuntimes clock (by omega))

end WrittenLines

section Texts

def readText (cfg : SprinklerdCfg) (table : Int → CalendarDay) (text : Text) :
    Int → CalendarDay :=
  (getLines text).foldl (readCronLine cfg) table

theorem read_text_append {front : Text} (ends : EndsLine front) (back : Text)
    (table : Int → CalendarDay) :
    readText cfg table (front ++ back) = readText cfg (readText cfg table front) back := by
  rw [readText, get_lines_append ends, List.foldl_append]
  rfl

theorem ends_line_append {front back : Text} (first : EndsLine front) (last : EndsLine back) :
    EndsLine (front ++ back) := by
  rcases last with rfl | ⟨body, rfl⟩
  · rwa [List.append_nil]
  · exact Or.inr ⟨front ++ body, (List.append_assoc _ _ _).symm⟩

theorem ends_line_flat_map {α : Type} {items : List α} {text : α → Text}
    (ends : ∀ item ∈ items, EndsLine (text item)) : EndsLine (items.flatMap text) := by
  induction items with
  | nil => exact Or.inl rfl
  | cons item items ih =>
      rw [List.flatMap_cons]
      exact ends_line_append (ends item (by simp))
        (ih fun other member => ends other (List.mem_cons_of_mem _ member))

theorem not_in_number {char : Char} (value : Int) (letter : char.isDigit = false)
    (unsigned : char ≠ '-') : char ∉ printInt value := by
  unfold printInt
  split_ifs
  · rw [List.mem_cons, not_or]
    exact ⟨unsigned, not_mem_print_nat value.natAbs letter⟩
  · exact not_mem_print_nat value.toNat letter

theorem newline_not_in_plain {text : Text} (plain : ∀ char ∈ text, isSpace char = false) :
    '\n' ∉ text := fun member => absurd (plain '\n' member) (by decide)

theorem zone_line_body (plain : ∀ char ∈ cfg.socketPort, isSpace char = false)
    (line : CronLine) : ∃ body, zoneLineText cfg line = body ++ ['\n'] ∧ '\n' ∉ body := by
  refine ⟨printInt line.minute ++ " ".toList ++ printInt line.hour ++ " * * ".toList ++
    printInt line.day ++ " root /usr/bin/curl -s -o /dev/null 'localhost:".toList ++
    cfg.socketPort ++ "?type=cron&zone=".toList ++ printInt line.zone ++
    "&runtime=".toList ++ printInt line.runtime ++ "&state=on'".toList, ?_, ?_⟩
  · unfold zoneLineText
    simp
  · have number := fun value =>
      not_in_number value (show ('\n' : Char).isDigit = false by decide) (by decide)
    simp [number, newline_not_in_plain plain]

theorem nightly_body (plain : ∀ char ∈ cfg.socketPort, isSpace char = false) {sensor : Text}
    (solid : ∀ char ∈ sensor, isSpace char = false) :
    ∃ body, nightlyText cfg sensor = body ++ ['\n'] ∧ '\n' ∉ body := by
  refine ⟨"0 0 * * * root /usr/bin/curl -s -o /dev/null 'localhost:".toList ++ cfg.socketPort ++
    "?type=sensor&sensor=".toList ++ sensor ++ "&value=0'".toList, ?_, ?_⟩
  · unfold nightlyText
    simp
  · simp [newline_not_in_plain plain, newline_not_in_plain solid]

theorem get_zone_lines (plain : ∀ char ∈ cfg.socketPort, isSpace char = false)
    (lines : List CronLine) :
    getLines (lines.flatMap (zoneLineText cfg)) = lines.map (zoneLineText cfg) := by
  induction lines with
  | nil => rfl
  | cons line lines ih =>
      obtain ⟨body, text, inside⟩ := zone_line_body plain line
      rw [List.flatMap_cons, get_lines_append (Or.inr ⟨body, text⟩), ih, text,
        get_lines_one inside, List.map_cons, text]
      rfl

theorem unnamed_after {front text : Text} (free : 'z' ∉ front) (unnamed : ¬ NamesZone text) :
    ¬ NamesZone (front ++ text) := by
  induction front with
  | nil => exact unnamed
  | cons char front ih =>
      rintro ⟨before, between, after, whole⟩
      cases before with
      | nil =>
          have head : char = 'z' := (List.cons.inj whole).1
          exact free (by simp [head])
      | cons first before =>
          exact ih (fun member => free (List.mem_cons_of_mem _ member))
            ⟨before, between, after, (List.cons.inj whole).2⟩

theorem unnamed_line {text : Text} (unnamed : ¬ NamesZone text) :
    ¬ NamesZone (text ++ ['\n']) := by
  rintro ⟨before, between, after, whole⟩
  rcases List.eq_nil_or_concat after with rfl | ⟨rest, last, rfl⟩
  · have front : text ++ ['\n'] =
        (before ++ ("zone=".toList ++ (between ++ "runtime".toList))) ++ ['='] := by
      rw [whole]
      simp
    have last := List.append_inj_right' front rfl
    exact absurd last (by decide)
  · have front : text ++ ['\n'] =
        (before ++ ("zone=".toList ++ (between ++ ("runtime=".toList ++ rest)))) ++ [last] := by
      rw [whole]
      simp
    exact unnamed ⟨before, between, rest, List.append_inj_left' front rfl⟩

/-- The line of an external command names a zone only if the command does. -/
theorem run_before_unnamed {entry : CalendarDay} {day : Int} {before : RunB4CalStart}
    (unnamed : ¬ NamesZone before.command) : ¬ NamesZone (runBeforeText entry day before) := by
  have number := fun value =>
    not_in_number value (show ('z' : Char).isDigit = false by decide) (by decide)
  unfold runBeforeText
  rw [List.append_assoc]
  refine unnamed_after ?_ (unnamed_line unnamed)
  split_ifs <;> simp [number]

end Texts

section WholeFile

def readBack (cfg : SprinklerdCfg) (entry cleared : CalendarDay) : CalendarDay :=
  if scheduled entry then
    { hour := entry.hour, minute := entry.minute,
      zruntimes := fun zone =>
        if zone ∈ zoneIndexes cfg ∧ 0 < entry.zruntimes zone then
          readRuntime (entry.zruntimes zone)
        else cleared.zruntimes zone }
  else cleared

theorem read_day_lines {day : Int} {entry cleared after : CalendarDay} {lines : List CronLine}
    (fits : FitsDay cfg entry) (unset : cleared.hour = -1) (on : scheduled entry = true)
    (writes : WritesZones cfg day entry.zruntimes (zoneIndexes cfg) entry.minute entry.hour lines)
    (read : DayRead cleared after lines entry.zruntimes) : after = readBack cfg entry cleared := by
  have lined (zone : Int) : (∃ line ∈ lines, line.zone - 1 = zone) ↔
      zone ∈ zoneIndexes cfg ∧ 0 < entry.zruntimes zone := by
    constructor
    · rintro ⟨line, member, rfl⟩
      exact writes.listed line member
    · intro both
      exact writes.complete zone both.1 both.2
  have start : after.hour = entry.hour ∧ after.minute = entry.minute := by
    obtain ⟨zone, index, runs⟩ := fits.waters
    obtain ⟨line, member, -⟩ := writes.complete zone index runs
    cases lines with
    | nil => simp at member
    | cons first lines =>
        have time := writes.first first rfl
        have set := read.setsStart unset first rfl
        have minutes := fits.minute
        rw [← time.1, ← time.2]
        exact ⟨set.1, set.2 (by omega)⟩
  have runtimes : after.zruntimes = fun zone =>
      if zone ∈ zoneIndexes cfg ∧ 0 < entry.zruntimes zone then
        readRuntime (entry.zruntimes zone) else cleared.zruntimes zone := by
    funext zone
    by_cases written : zone ∈ zoneIndexes cfg ∧ 0 < entry.zruntimes zone
    · rw [if_pos written]
      exact read.named zone ((lined zone).mpr written)
    · rw [if_neg written]
      exact read.others zone fun line => written ((lined zone).mp line)
  rw [readBack, if_pos on, ← start.1, ← start.2, ← runtimes]

theorem read_day (plain : ∀ char ∈ cfg.socketPort, isSpace char = false)
    (commands : ∀ before ∈ cfg.runBeforeCmd, ¬ NamesZone before.command) {day : Int}
    (weekDay : day ∈ weekDays) (table calendar : Int → CalendarDay)
    (unset : (calendar day).hour = -1)
    (fits : scheduled (table day) = true → FitsDay cfg (table day)) :
    readText cfg calendar (dayText cfg table day) =
      Function.update calendar day (readBack cfg (table day) (calendar day)) := by
  have zoneEnds : EndsLine ((cronLines cfg table day).flatMap (zoneLineText cfg)) := by
    apply ends_line_flat_map
    intro line _
    obtain ⟨body, text, -⟩ := zone_line_body plain line
    exact Or.inr ⟨body, text⟩
  have others (read : Int → CalendarDay) :
      readText cfg read (cfg.runBeforeCmd.flatMap (runBeforeText (table day) day)) = read := by
    generalize cfg.runBeforeCmd = befores at commands
    induction befores with
    | nil => rfl
    | cons before befores ih =>
        have ends : EndsLine (runBeforeText (table day) day before) := Or.inr ⟨_, rfl⟩
        rw [List.flatMap_cons, read_text_append ends]
        have skipped : readText cfg read (runBeforeText (table day) day before) = read :=
          read_unnamed read (run_before_unnamed (commands before (by simp)))
        rw [skipped]
        exact ih fun other member => commands other (List.mem_cons_of_mem _ member)
  rw [dayText, read_text_append zoneEnds, others, readText, get_zone_lines plain]
  by_cases on : scheduled (table day) = true
  · have entry := fits on
    have hours := entry.hour
    have days : 0 ≤ day ∧ day < 7 := by
      revert weekDay
      simp only [weekDays, List.mem_cons, List.not_mem_nil, or_false]
      omega
    have writes : WritesZones cfg day (table day).zruntimes (zoneIndexes cfg) (table day).minute
        (table day).hour (zoneLines day (table day).zruntimes (zoneIndexes cfg)
          (table day).minute (table day).hour) :=
      writes_zones (fun _ member => member) days entry.runtimes
      ⟨entry.minute.1, hours.1, by omega⟩ entry.sameDay
    obtain ⟨after, read, dayRead⟩ := read_zone_lines plain _ calendar writes.fits
    rw [cronLines, if_pos on, read, read_day_lines entry unset on writes dayRead]
  · rw [cronLines, if_neg on, readBack, if_neg on, Function.update_eq_self]
    rfl

theorem read_days (plain : ∀ char ∈ cfg.socketPort, isSpace char = false)
    (commands : ∀ before ∈ cfg.runBeforeCmd, ¬ NamesZone before.command)
    (table : Int → CalendarDay) {days : List Int} (each : days.Nodup)
    (weekDay : ∀ day ∈ days, day ∈ weekDays)
    (fits : ∀ day ∈ days, scheduled (table day) = true → FitsDay cfg (table day))
    (calendar : Int → CalendarDay) (unset : ∀ day ∈ days, (calendar day).hour = -1) (day : Int) :
    readText cfg calendar (days.flatMap (dayText cfg table)) day =
      if day ∈ days then readBack cfg (table day) (calendar day) else calendar day := by
  induction days generalizing calendar with
  | nil => rfl
  | cons first days ih =>
      obtain ⟨fresh, each⟩ := List.nodup_cons.mp each
      have ends : EndsLine (dayText cfg table first) := by
        refine ends_line_append (ends_line_flat_map fun line _ => ?_)
          (ends_line_flat_map fun before _ => Or.inr ⟨_, rfl⟩)
        obtain ⟨body, text, -⟩ := zone_line_body plain line
        exact Or.inr ⟨body, text⟩
      have tail (later : Int) (member : later ∈ days) : later ∈ first :: days :=
        List.mem_cons_of_mem first member
      rw [List.flatMap_cons, read_text_append ends, read_day plain commands (weekDay first (by simp))
        table calendar (unset first (by simp)) (fits first (by simp)),
        ih each (fun later member => weekDay later (tail later member))
          (fun later member => fits later (tail later member)) _ fun later member => ?_]
      · by_cases here : day = first
        · subst here
          simp [fresh]
        · simp [here]
      · have other : later ≠ first := by
          rintro rfl
          exact fresh member
        rw [Function.update_of_ne other]
        exact unset later (tail later member)

theorem banner_unnamed : ¬ NamesZone bannerText := fun names =>
  absurd (names_zone_mem names) (by unfold bannerText; decide)

theorem banner_ends : EndsLine bannerText :=
  Or.inr ⟨"#***** AUTO GENERATED DO NOT EDIT *****".toList, by unfold bannerText; decide⟩

theorem read_nightly (plain : ∀ char ∈ cfg.socketPort, isSpace char = false) {sensor : Text}
    (solid : ∀ char ∈ sensor, isSpace char = false) (calendar : Int → CalendarDay) :
    readText cfg calendar (nightlyText cfg sensor) = calendar := by
  obtain ⟨body, text, inside⟩ := nightly_body plain solid
  have unmatched := search_nightly plain solid
  rw [text] at unmatched ⊢
  rw [readText, get_lines_one inside]
  exact read_unmatched calendar unmatched

theorem read_cron_text (plain : ∀ char ∈ cfg.socketPort, isSpace char = false)
    (commands : ∀ before ∈ cfg.runBeforeCmd, ¬ NamesZone before.command)
    {table : Int → CalendarDay}
    (fits : ∀ day ∈ weekDays, scheduled (table day) = true → FitsDay cfg (table day))
    (calendar : Int → CalendarDay) (unset : ∀ day ∈ weekDays, (calendar day).hour = -1) (day : Int)
    (weekDay : day ∈ weekDays) :
    readText cfg calendar (cronText cfg table) day =
      readBack cfg (table day) (calendar day) := by
  have ends (sensor : Text) (solid : ∀ char ∈ sensor, isSpace char = false) :
      EndsLine (nightlyText cfg sensor) := by
    obtain ⟨body, text, -⟩ := nightly_body plain solid
    exact Or.inr ⟨body, text⟩
  have daysEnd : EndsLine (weekDays.flatMap (dayText cfg table)) := by
    refine ends_line_flat_map fun day _ => ends_line_append (ends_line_flat_map fun line _ => ?_)
      (ends_line_flat_map fun before _ => Or.inr ⟨_, rfl⟩)
    obtain ⟨body, text, -⟩ := zone_line_body plain line
    exact Or.inr ⟨body, text⟩
  have chance : ∀ char ∈ "chanceofrain".toList, isSpace char = false := by simp [isSpace]
  have total : ∀ char ∈ "raintotal".toList, isSpace char = false := by simp [isSpace]
  have banner (read : Int → CalendarDay) : readText cfg read bannerText = read :=
    read_unnamed read banner_unnamed
  have first := ends_line_append banner_ends daysEnd
  have second := ends_line_append first (ends _ chance)
  have third := ends_line_append second (ends _ total)
  unfold cronText
  rw [read_text_append third, read_text_append second, read_text_append first,
    read_text_append banner_ends, banner, banner, read_nightly plain total,
    read_nightly plain chance,
    read_days plain commands table (by decide) (fun _ member => member) fits calendar unset,
    if_pos weekDay]

theorem write_cron_file {st : SprinklerdState} (opens : st.disk.cronOpens = true) :
    (writeCron cfg st).disk.cronFile = some (cronText cfg st.cron) := by
  simp only [writeCron, remount_eq, opens, Bool.true_eq_false, if_false]

end WholeFile

section Restored

/-- A scheduled day comes back with its start and its runtimes, another one stays
off. -/
structure Restored (cfg : SprinklerdCfg) (entry after : CalendarDay) : Prop where
  start : scheduled entry = true → after.hour = entry.hour ∧ after.minute = entry.minute
  runtimes : scheduled entry = true →
    ∀ zone ∈ zoneIndexes cfg, after.zruntimes zone = entry.zruntimes zone
  disabled : scheduled entry = false → scheduled after = false

theorem restored_iff {entry cleared : CalendarDay}
    (fits : scheduled entry = true → FitsDay cfg entry) (unset : cleared.hour = -1)
    (zero : ∀ zone ∈ zoneIndexes cfg, cleared.zruntimes zone = 0) :
    Restored cfg entry (readBack cfg entry cleared) ↔
      (scheduled entry = true → ∀ zone ∈ zoneIndexes cfg, entry.zruntimes zone ≤ 99) := by
  by_cases on : scheduled entry = true
  · have lasting := (fits on).runtimes
    have same (zone : Int) (index : zone ∈ zoneIndexes cfg) :
        (readBack cfg entry cleared).zruntimes zone = entry.zruntimes zone ↔
          entry.zruntimes zone ≤ 99 := by
      rw [readBack, if_pos on]
      by_cases runs : 0 < entry.zruntimes zone
      · simp only [index, runs, and_self, if_true]
        exact read_runtime_iff (lasting zone index)
      · have none : entry.zruntimes zone = 0 := le_antisymm (not_lt.mp runs) (lasting zone index)
        simp [zero zone index, none]
    constructor
    · intro restored _ zone index
      exact (same zone index).mp (restored.runtimes on zone index)
    · intro small
      refine ⟨fun _ => ?_, fun _ zone index => (same zone index).mpr (small on zone index),
        fun off => ?_⟩
      · rw [readBack, if_pos on]
        exact ⟨rfl, rfl⟩
      · rw [on] at off
        cases off
  · refine iff_of_true ⟨fun off => absurd off on, fun off => absurd off on, fun _ => ?_⟩
      fun off => absurd off on
    rw [readBack, if_neg on, scheduled, unset]
    rfl

theorem read_cron_eq (plain : ∀ char ∈ cfg.socketPort, isSpace char = false)
    (commands : ∀ before ∈ cfg.runBeforeCmd, ¬ NamesZone before.command)
    {table : Int → CalendarDay}
    (fits : ∀ day ∈ weekDays, scheduled (table day) = true → FitsDay cfg (table day))
    {reader : SprinklerdState} (file : reader.disk.cronFile = some (cronText cfg table))
    {day : Int} (weekDay : day ∈ weekDays) :
    (readCron cfg reader).cron day =
      readBack cfg (table day) (clearedTable cfg reader.cron day) := by
  have read : (readCron cfg reader).cron =
      readText cfg (clearedTable cfg reader.cron) (cronText cfg table) := by
    rw [readCron, file]
    rfl
  rw [read]
  refine read_cron_text plain commands fits _ (fun other member => ?_) day weekDay
  rw [clearedTable, if_pos member]

/-- Whatever the daemon reads the written file, the schedule is restored exactly
when no runtime of a scheduled day has a third digit. -/
theorem read_cron_restores_schedule (plain : ∀ char ∈ cfg.socketPort, isSpace char = false)
    (commands : ∀ before ∈ cfg.runBeforeCmd, ¬ NamesZone before.command)
    (writer reader : SprinklerdState) (opens : writer.disk.cronOpens = true)
    (file : reader.disk.cronFile = (writeCron cfg writer).disk.cronFile)
    (fits : ∀ day ∈ weekDays, scheduled (writer.cron day) = true →
      FitsDay cfg (writer.cron day)) :
    (∀ day ∈ weekDays, Restored cfg (writer.cron day) ((readCron cfg reader).cron day)) ↔
      ∀ day ∈ weekDays, scheduled (writer.cron day) = true →
        ∀ zone ∈ zoneIndexes cfg, (writer.cron day).zruntimes zone ≤ 99 := by
  rw [write_cron_file opens] at file
  apply forall₂_congr
  intro day weekDay
  rw [read_cron_eq plain commands fits file weekDay]
  refine restored_iff (fits day weekDay) ?_ fun zone index => ?_
  · rw [clearedTable, if_pos weekDay]
  · rw [clearedTable, if_pos weekDay]
    exact if_pos index

def commandCfg : SprinklerdCfg :=
  { benchCfg benchWiring with
    socketPort := "8888".toList,
    runBeforeCmd := [{ mins := 5, command := "/usr/bin/logger soon".toList }] }

def mondayState (zruntimes : Int → Int) : SprinklerdState :=
  { benchState with cron := mondayTable zruntimes }

theorem command_port_plain : ∀ char ∈ commandCfg.socketPort, isSpace char = false := by
  simp [commandCfg, isSpace]

theorem command_unnamed : ∀ before ∈ commandCfg.runBeforeCmd, ¬ NamesZone before.command := by
  intro before member names
  obtain rfl := List.mem_singleton.mp member
  have letter := names_zone_mem names
  simp at letter

theorem monday_fits {zruntimes : Int → Int}
    (runtimes : ∀ zone ∈ zoneIndexes commandCfg, 0 ≤ zruntimes zone)
    (waters : ∃ zone ∈ zoneIndexes commandCfg, 0 < zruntimes zone)
    (sameDay : 390 + ((zoneIndexes commandCfg).map zruntimes).sum ≤ 1440) :
    ∀ day ∈ weekDays, scheduled ((mondayState zruntimes).cron day) = true →
      FitsDay commandCfg ((mondayState zruntimes).cron day) := by
  intro day _ on
  by_cases monday : day = 1
  · subst monday
    exact ⟨by simp [mondayState, mondayTable], by simp [mondayState, mondayTable], runtimes,
      waters, sameDay⟩
  · simp [mondayState, mondayTable, monday, scheduled] at on

theorem read_cron_restores_schedule_monday :
    Restored commandCfg (mondayTable (fun _ => 40) 1)
      ((readCron commandCfg (writeCron commandCfg (mondayState fun _ => 40))).cron 1) := by
  refine (read_cron_restores_schedule command_port_plain command_unnamed (mondayState fun _ => 40)
    (writeCron commandCfg (mondayState fun _ => 40)) rfl rfl
    (monday_fits (by decide) (by decide) (by decide))).mpr (fun day _ on zone _ => ?_) 1 (by decide)
  by_cases monday : day = 1
  · simp [mondayState, mondayTable, monday]
  · simp [mondayState, mondayTable, monday, scheduled] at on

/-- A run of 110 minutes comes back as one of 11. -/
theorem long_runtime_read_back_short :
    (∀ day ∈ weekDays, scheduled (mondayTable (fun zone => 110 - 100 * zone) day) = true →
      FitsDay commandCfg (mondayTable (fun zone => 110 - 100 * zone) day)) ∧
    ((readCron commandCfg (writeCron commandCfg
      (mondayState fun zone => 110 - 100 * zone))).cron 1).zruntimes 0 = 11 ∧
    ¬ Restored commandCfg (mondayTable (fun zone => 110 - 100 * zone) 1)
      ((readCron commandCfg (writeCron commandCfg
        (mondayState fun zone => 110 - 100 * zone))).cron 1) := by
  have fits := @monday_fits (fun zone => 110 - 100 * zone) (by decide) (by decide) (by decide)
  have read : ((readCron commandCfg (writeCron commandCfg
      (mondayState fun zone => 110 - 100 * zone))).cron 1).zruntimes 0 = 11 := by
    have file : (writeCron commandCfg (mondayState fun zone => 110 - 100 * zone)).disk.cronFile =
        some (cronText commandCfg (mondayTable fun zone => 110 - 100 * zone)) :=
      write_cron_file rfl
    rw [read_cron_eq command_port_plain command_unnamed fits file (by decide)]
    decide
  refine ⟨fits, read, fun restored => ?_⟩
  have same := restored.runtimes (by decide) 0 (by decide)
  rw [read] at same
  exact absurd same (by decide)

end Restored

end SprinklerD.CronRoundTrip
