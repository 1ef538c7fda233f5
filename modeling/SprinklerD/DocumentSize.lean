import SprinklerD.StatusLine
import SprinklerD.CalendarForm

/-!
# How long the status documents are

The buffer of `action_web_request` has 200 bytes for each zone. A zone takes less in a document,
but each of its runtimes takes up to thirty bytes more, seven times in the week.
-/

namespace SprinklerD.DocumentSize

open Foundation.MachineInt Foundation.Decimal Foundation.SinglePrecision Foundation.Transitions
open SprinklerD.Config SprinklerD.ZoneCtrl SprinklerD.CronTable SprinklerD.Broadcast
open SprinklerD.JsonMessages SprinklerD.StatusLine SprinklerD.Operations SprinklerD.Daemon

set_option autoImplicit false

def labelSize : Nat := 40

def nameSize : Nat := 20

structure LabelsFit (cfg : SprinklerdCfg) (labels : Labels) : Prop where
  title : labels.title.length < nameSize
  names : ∀ zone ∈ tableZones cfg, (labels.names zone).length < labelSize

def bufsize (cfg : SprinklerdCfg) : Nat := 1024 + 200 * cfg.zones

section Numbers

def onOffSize (on : Bool) : Nat := if on then 2 else 3

theorem length_on_off (on : Bool) : (onOff on).length = onOffSize on := by
  cases on <;> decide +kernel

end Numbers

variable (cfg : SprinklerdCfg) (labels : Labels) (st : SprinklerdState)

section Parts

def switchesSize : Nat :=
  97 + labels.title.length + onOffSize st.calendar + onOffSize st.delay24h +
    onOffSize (st.currentZone.type = .zcAll) + decimalSize cfg.zones +
    decimalSize st.delay24hTime

def rainSize : Nat :=
  121 + decimalSize st.precipChanceDelay + fixedSize 1 st.precipInchDelay1day +
    fixedSize 1 st.precipInchDelay2day + decimalSize st.todayRainChance +
    fixedSize 2 st.todayRainTotal

/-- The entries of a day, of which only the runtimes that are not negative are printed. -/
def daySize (start : Nat) (entry : Int → Nat) (indexes : List Int) (day : CalendarDay) : Nat :=
  if scheduled day then
    start + clockSize day.hour day.minute +
      ((indexes.filter fun index => 0 ≤ day.zruntimes index).map fun index =>
        entry (index + 1) + decimalSize (day.zruntimes index)).sum
  else 0

theorem length_switches : (switchesText cfg labels st).length = switchesSize cfg labels st := by
  unfold switchesText switchesSize
  simp only [List.length_append, length_on_off, length_print_int]
  simp only [String.reduceToList]
  simp only [List.length_cons, List.length_nil]
  omega

theorem length_rain : (rainText st).length = rainSize st := by
  unfold rainText rainSize
  simp only [List.length_append, length_print_int, length_print_fixed Nat.one_pos,
    length_print_fixed Nat.two_pos]
  simp only [String.reduceToList]
  simp only [List.length_cons, List.length_nil]
  omega

theorem length_day_entries {text : CalendarEntry → Text} {start : Nat} {entry : Int → Nat}
    {indexes : List Int} {table : Int → CalendarDay} {day : Int}
    (startTime : ∀ hour minute,
      (text (.startTime day hour minute)).length = start + clockSize hour minute)
    (runtime : ∀ zone minutes,
      (text (.runtime day zone minutes)).length = entry zone + decimalSize minutes) :
    ((dayEntries indexes table day).flatMap text).length =
      daySize start entry indexes (table day) := by
  unfold dayEntries daySize
  split_ifs
  · rw [List.flatMap_cons, List.length_append, startTime, List.flatMap_map, List.length_flatMap]
    simp only [runtime]
  · rfl

end Parts

section WebPage

def calZoneSize (zone : Int) : Nat :=
  43 + 3 * decimalSize zone + onOffSize (zoneReadsOn cfg st.gpio zone) +
    decimalSize (st.defaultRuntime zone) + (labels.names zone).length

def calDaySize (day : Int) : Nat :=
  daySize (21 + decimalSize day) (fun zone => 17 + decimalSize day + decimalSize zone)
    (zonesFrom cfg.zones 0) (st.cron day)

def calSize : Nat :=
  switchesSize cfg labels st + 15 + statusSize st + rainSize st +
    ((zoneList cfg).map (calZoneSize cfg labels st)).sum +
    (weekDays.map (calDaySize cfg st)).sum + 1

theorem length_zone_state_default (zone : Int) :
    (zoneStateText cfg st zone).length + (zoneDefaultText labels st zone).length =
      calZoneSize cfg labels st zone := by
  unfold zoneStateText zoneDefaultText calZoneSize
  simp only [List.length_append, length_on_off, length_print_int]
  simp only [String.reduceToList]
  simp only [List.length_cons, List.length_nil]
  omega

theorem length_cal_day (day : Int) :
    ((dayEntries (zonesFrom cfg.zones 0) st.cron day).flatMap calEntryText).length =
      calDaySize cfg st day := by
  refine length_day_entries ?_ ?_
  · intro hour minute
    unfold calEntryText
    simp only [List.length_append, length_print_int, length_clock]
    simp only [String.reduceToList]
    simp only [List.length_cons, List.length_nil]
    omega
  · intro zone minutes
    unfold calEntryText
    simp only [List.length_append, length_print_int]
    simp only [String.reduceToList]
    simp only [List.length_cons, List.length_nil]
    omega

theorem length_cal :
    (sprinklerCalText cfg labels st (sprinklerText cfg labels st (statusText st))).length =
      calSize cfg labels st := by
  have zones : ((zoneList cfg).flatMap (zoneStateText cfg st)).length +
      ((zoneList cfg).flatMap (zoneDefaultText labels st)).length =
        ((zoneList cfg).map (calZoneSize cfg labels st)).sum := by
    rw [List.length_flatMap, List.length_flatMap, ← List.sum_map_add]
    exact congrArg List.sum (List.map_congr_left fun zone _ =>
      length_zone_state_default cfg labels st zone)
  have days : ((calEntries cfg st.cron).flatMap calEntryText).length =
      (weekDays.map (calDaySize cfg st)).sum := by
    rw [calEntries, List.flatMap_assoc, List.length_flatMap]
    exact congrArg List.sum (List.map_congr_left fun day _ => length_cal_day cfg st day)
  have page : (sprinklerText cfg labels st (statusText st)).dropLast.length =
      switchesSize cfg labels st + 15 + statusSize st + rainSize st +
        ((zoneList cfg).flatMap (zoneStateText cfg st)).length := by
    unfold sprinklerText
    rw [List.dropLast_concat]
    simp only [List.length_append, length_switches, length_status, length_rain]
    simp only [String.reduceToList]
    simp only [List.length_cons, List.length_nil]
    omega
  unfold sprinklerCalText calSize
  simp only [List.length_append, page, days, List.length_cons, List.length_nil]
  omega

end WebPage

section Advanced

def advancedZoneSize (zone : Int) : Nat :=
  61 + 2 * decimalSize zone + onOffSize (zoneReadsOn cfg st.gpio zone) +
    decimalSize (st.defaultRuntime zone) + (labels.names zone).length

def activeSize : Nat :=
  if st.currentZone.type ≠ .zcNone then
    33 + decimalSize st.currentZone.zone + (labels.names st.currentZone.zone).length
  else 0

/-- The runtimes of the first zone are not printed. -/
def advancedDaySize (day : Int) : Nat :=
  daySize (30 + decimalSize day) (fun zone => 11 + decimalSize zone)
    (zonesFrom (cfg.zones - 1) 1) (st.cron day)

/-- The comma behind the last zone and the one behind the last day are overwritten. -/
def advancedSize : Nat :=
  switchesSize cfg labels st + rainSize st + 30 +
    (((zoneList cfg).map (advancedZoneSize cfg labels st)).sum + activeSize labels st - 1) +
    (((scheduledDays st.cron).map fun day => advancedDaySize cfg st day + 1).sum - 1)

theorem length_advanced_zone (zone : Int) :
    (advancedZone cfg labels st zone ++ [',']).length = advancedZoneSize cfg labels st zone := by
  unfold advancedZone advancedZoneSize
  simp only [List.length_append, length_on_off, length_print_int]
  simp only [String.reduceToList]
  simp only [List.length_cons, List.length_nil]
  omega

theorem length_active :
    (if st.currentZone.type ≠ .zcNone then activeZone labels st ++ [','] else []).length =
      activeSize labels st := by
  unfold activeZone activeSize
  split_ifs
  · simp only [List.length_append, length_print_int]
    simp only [String.reduceToList]
    simp only [List.length_cons, List.length_nil]
    omega
  · rfl

theorem length_advanced_zones : (advancedZones cfg labels st).length =
    ((zoneList cfg).map (advancedZoneSize cfg labels st)).sum + activeSize labels st - 1 := by
  have zones :
      ((zoneList cfg).flatMap fun zone => advancedZone cfg labels st zone ++ [',']).length =
        ((zoneList cfg).map (advancedZoneSize cfg labels st)).sum := by
    rw [List.length_flatMap]
    exact congrArg List.sum (List.map_congr_left fun zone _ =>
      length_advanced_zone cfg labels st zone)
  rw [advancedZones, List.length_dropLast, List.length_append, zones, length_active]

theorem length_advanced_entries (day : Int) :
    ((advancedDayEntries cfg st.cron day).flatMap advancedEntryText).length =
      advancedDaySize cfg st day := by
  refine length_day_entries ?_ ?_
  · intro hour minute
    unfold advancedEntryText
    simp only [List.length_append, length_print_int, length_clock]
    simp only [String.reduceToList]
    simp only [List.length_cons, List.length_nil]
    omega
  · intro zone minutes
    unfold advancedEntryText
    simp only [List.length_append, length_print_int]
    simp only [String.reduceToList]
    simp only [List.length_cons, List.length_nil]
    omega

/-- The brace of a day takes the place of the character lost before it. -/
theorem length_advanced_day {day : Int} (enabled : scheduled (st.cron day) = true) :
    (advancedDay cfg st.cron day ++ [',']).length = advancedDaySize cfg st day + 1 := by
  have printed : 0 < advancedDaySize cfg st day := by
    rw [advancedDaySize, daySize, if_pos enabled]
    omega
  rw [advancedDay, List.length_append, List.length_append, List.length_dropLast,
    length_advanced_entries, List.length_singleton, List.length_singleton]
  omega

theorem length_advanced_calendar : (advancedCalendar cfg st.cron).length =
    ((scheduledDays st.cron).map fun day => advancedDaySize cfg st day + 1).sum - 1 := by
  rw [advancedCalendar, List.length_dropLast, List.length_flatMap]
  refine congrArg (· - 1) (congrArg List.sum (List.map_congr_left ?_))
  intro day listed
  exact length_advanced_day cfg st (List.mem_filter.mp listed).2

theorem length_advanced :
    (buildAdvancedSprinklerJSON cfg labels st).length = advancedSize cfg labels st := by
  unfold buildAdvancedSprinklerJSON advancedSize
  simp only [List.length_append, length_switches, length_rain, length_advanced_zones,
    length_advanced_calendar]
  simp only [String.reduceToList]
  simp only [List.length_cons, List.length_nil]
  omega

end Advanced

section Homebridge

theorem decimal_size_zone {zone : Int} (low : 0 ≤ zone) (high : zone < 100) :
    decimalSize zone ≤ 2 := by
  rw [← length_print_int, printInt, if_neg (by omega)]
  exact (length_print_nat_le (by decide)).mpr (by omega)

/-- The sign and ten digits. -/
theorem decimal_size_wrapped (value : Int) : decimalSize (wrap32 value) ≤ 11 := by
  have range := wrap32_range value
  rw [← length_print_int, printInt]
  split_ifs
  · rw [List.length_cons]
    exact Nat.succ_le_succ ((length_print_nat_le (by decide)).mpr (by omega))
  · exact le_trans ((length_print_nat_le (by decide)).mpr (by omega)) (by decide : 10 ≤ 11)

theorem on_off_size_le (on : Bool) : onOffSize on ≤ 3 := by
  cases on <;> decide

theorem table_zone_bounds {zone : Int} (listed : zone ∈ tableZones cfg) :
    0 ≤ zone ∧ zone ≤ cfg.zones := by
  rcases mem_table_zones.mp listed with member | ⟨rfl, -⟩
  · have bounds := mem_zone_list.mp member
    omega
  · omega

theorem length_table_zones : (tableZones cfg).length ≤ cfg.zones + 1 := by
  have zones : (zoneList cfg).length = cfg.zones := length_zones_from
  rw [tableZones]
  split_ifs
  · rw [List.length_cons, zones]
  · omega

theorem length_homebridge_zone (fit : LabelsFit cfg labels) {zone : Int}
    (listed : zone ∈ tableZones cfg) : (homebridgeZone cfg labels st zone).length ≤ 140 := by
  have inside := table_zone_bounds cfg listed
  have few := cfg.zonesBounded
  have number : decimalSize zone ≤ 2 := decimal_size_zone (by omega) (by omega)
  have state := on_off_size_le (zoneReadsOn cfg st.gpio zone)
  have duration := decimal_size_wrapped (st.defaultRuntime zone * 60)
  have name : (labels.names zone).length < 40 := fit.names zone listed
  unfold homebridgeZone
  simp only [List.length_append, length_on_off, length_print_int]
  simp only [String.reduceToList]
  simp only [List.length_cons, List.length_nil]
  omega

theorem homebridge_fits (fit : LabelsFit cfg labels) :
    (buildHomebridgeSprinklerJSON cfg labels st).length + 1 ≤ bufsize cfg := by
  have zones : ((tableZones cfg).flatMap (homebridgeZone cfg labels st)).length ≤
      (cfg.zones + 1) * 140 := by
    rw [List.length_flatMap]
    calc ((tableZones cfg).map fun zone => (homebridgeZone cfg labels st zone).length).sum
        ≤ ((tableZones cfg).map fun zone => (homebridgeZone cfg labels st zone).length).length *
            140 := List.sum_le_card_nsmul _ 140 fun size mapped => by
          obtain ⟨zone, listed, rfl⟩ := List.mem_map.mp mapped
          exact length_homebridge_zone cfg labels st fit listed
      _ ≤ (cfg.zones + 1) * 140 := by
          rw [List.length_map]
          exact Nat.mul_le_mul_right 140 (length_table_zones cfg)
  have title : labels.title.length < 20 := fit.title
  have few := cfg.zonesBounded
  have number : decimalSize (cfg.zones + 1) ≤ 2 := decimal_size_zone (by omega) (by omega)
  have cycle := on_off_size_le (st.currentZone.type = .zcAll)
  have delay := on_off_size_le st.delay24h
  have calendar := on_off_size_le st.calendar
  unfold buildHomebridgeSprinklerJSON bufsize
  simp only [List.length_append, length_on_off, length_print_int]
  simp only [String.reduceToList]
  simp only [List.length_cons, List.length_nil]
  omega

end Homebridge

structure DocumentsFit : Prop where
  sprinklerCal : ∃ text, buildSprinklerCalJSON cfg labels st = some text ∧
    text.length + 1 ≤ bufsize cfg
  advanced : (buildAdvancedSprinklerJSON cfg labels st).length + 1 ≤ bufsize cfg
  homebridge : (buildHomebridgeSprinklerJSON cfg labels st).length + 1 ≤ bufsize cfg

theorem cal_fits_iff : (∃ text, buildSprinklerCalJSON cfg labels st = some text ∧
    text.length + 1 ≤ bufsize cfg) ↔ StatusFits st ∧ calSize cfg labels st < bufsize cfg := by
  rw [build_sprinkler_cal_eq, ← length_cal]
  constructor
  · rintro ⟨text, printed, room⟩
    split_ifs at printed with line
    rw [← Option.some.inj printed] at room
    exact ⟨line, room⟩
  · rintro ⟨line, room⟩
    exact ⟨_, if_pos line, room⟩

/-- The document without a calendar always fits. The other two fit exactly where what they print
for names, runtimes and days adds up to less than the buffer, and the status line to less than
the array it goes through. -/
theorem documents_fit_iff (fit : LabelsFit cfg labels) :
    DocumentsFit cfg labels st ↔
      StatusFits st ∧ calSize cfg labels st < bufsize cfg ∧
        advancedSize cfg labels st < bufsize cfg := by
  rw [← and_assoc, ← cal_fits_iff, ← length_advanced]
  constructor
  · intro documents
    exact ⟨documents.sprinklerCal, documents.advanced⟩
  · rintro ⟨sprinklerCal, advanced⟩
    exact ⟨sprinklerCal, advanced, homebridge_fits cfg labels st fit⟩

section Bench

def sevenZones : SprinklerdCfg :=
  { benchCfg benchWiring with
    zones := 7
    zonesPositive := by decide
    zonesBounded := by decide }

def longLabels : Labels where
  title := List.replicate 19 'a'
  names _ := List.replicate 39 'b'

theorem long_labels_fit (cfg : SprinklerdCfg) : LabelsFit cfg longLabels where
  title := by decide
  names _ _ := by
    show (List.replicate 39 'b').length < 40
    decide

/-- Every day for half past six, with the longest runtime for every zone. -/
def longWeek : List TimedEvent :=
  weekDays.flatMap fun day =>
    (1000, .webRequest ("type=calcfg&day=".toList ++ printInt day ++
      "&zone=&time=06:30".toList) []) ::
    (zoneList sevenZones).map fun zone =>
      (1000, .webRequest ("type=calcfg&day=".toList ++ printInt day ++ "&zone=".toList ++
        printInt zone ++ "&time=2147483647".toList) [])

theorem documents_fit_bench :
    DocumentsFit (benchCfg benchWiring) longLabels benchState :=
  (documents_fit_iff _ _ benchState (long_labels_fit _)).mpr (by decide +kernel)

/-- Seven zones with long names, whose calendar is set over the web, are too many. -/
theorem document_overflows : ¬ ∀ cfg labels start requests,
    LabelsFit cfg labels → Startup cfg start →
    (∀ request ∈ requests, ∃ query stack, request.2 = .webRequest query stack) →
    DocumentsFit cfg labels (run (daemonStep cfg) start requests) := by
  intro fits
  have pinsOff : ∀ zone ∈ tableZones sevenZones,
      zoneReadsOn sevenZones benchState.gpio zone = false := by decide
  have startup : Startup sevenZones benchState := {
    idle := rfl
    pinsOff := fun zone member => pinsOff zone (mem_table_zones.mpr member)
    noWrites := rfl }
  have web : ∀ request ∈ longWeek, ∃ query stack, request.2 = .webRequest query stack := by
    intro request sent
    obtain ⟨day, -, sent⟩ := List.mem_flatMap.mp sent
    rcases List.mem_cons.mp sent with rfl | sent
    · exact ⟨_, _, rfl⟩
    · obtain ⟨zone, -, rfl⟩ := List.mem_map.mp sent
      exact ⟨_, _, rfl⟩
  have documents := fits sevenZones longLabels benchState longWeek (long_labels_fit _) startup web
  have document := ((cal_fits_iff _ _ _).mp documents.sprinklerCal).2
  revert document
  decide +kernel

end Bench

end SprinklerD.DocumentSize
