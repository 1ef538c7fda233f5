import SprinklerD.CronRoundTrip
import SprinklerD.QueryFields
import SprinklerD.WebDispatch

/-!
# What the crontab asks for

The crontab is how the daemon calls itself: a line hands `curl` an address with a
query, and the daemon serves that query later. Every line the writer makes is taken
through the query reader and the dispatch of the web server, back to the operation
that the calendar meant.
-/

namespace SprinklerD.CronRequests

open Foundation.MachineInt Foundation.Decimal Foundation.CString
open Foundation.FloatValue (atof)
open SprinklerD.Config SprinklerD.ZoneCtrl SprinklerD.SdCron SprinklerD.CronTable
open SprinklerD.NetServices SprinklerD.WebDispatch
open SprinklerD.Operations SprinklerD.Daemon SprinklerD.QueryFields SprinklerD.CronCalendar
open SprinklerD.CronRoundTrip

set_option autoImplicit false

def quote : Char := Char.ofNat 39

/-- The query of the address in a line, from the question mark to the closing quote. -/
def askedQuery (line : Text) : Text :=
  ((line.dropWhile (· ≠ '?')).drop 1).takeWhile (· ≠ quote)

inductive CrontabEntry where
  | zone (line : CronLine)
  | runBefore (day : Int) (before : RunB4CalStart)
  | chanceOfRain
  | rainTotal

variable (cfg : SprinklerdCfg)

def entryText (table : Int → CalendarDay) : CrontabEntry → Text
  | .zone line => zoneLineText cfg line
  | .runBefore day before => runBeforeText (table day) day before
  | .chanceOfRain => nightlyText cfg "chanceofrain".toList
  | .rainTotal => nightlyText cfg "raintotal".toList

def dayEntries (table : Int → CalendarDay) (day : Int) : List CrontabEntry :=
  (cronLines cfg table day).map .zone ++ cfg.runBeforeCmd.map (.runBefore day)

def entries (table : Int → CalendarDay) : List CrontabEntry :=
  weekDays.flatMap (dayEntries cfg table) ++ [.chanceOfRain, .rainTotal]

/-- What an entry is there for. A command before a run asks nothing of the daemon. -/
def entryOperation : CrontabEntry → Option Operation
  | .zone line => some (.zone .zcCron line.zone .zcOn line.runtime)
  | .runBefore _ _ => none
  | .chanceOfRain => some (.setTodayChanceOfRain 0)
  | .rainTotal => some (.setTodayRainTotal (atof "0".toList))

variable {cfg}

/-- The file is its entries between two banners. -/
theorem cron_text_entries (table : Int → CalendarDay) :
    cronText cfg table =
      bannerText ++ (entries cfg table).flatMap (entryText cfg table) ++ bannerText := by
  have day (day : Int) :
      dayText cfg table day = (dayEntries cfg table day).flatMap (entryText cfg table) := by
    rw [dayText, dayEntries, List.flatMap_append, List.flatMap_map, List.flatMap_map]
    rfl
  have days (days : List Int) : days.flatMap (dayText cfg table) =
      (days.flatMap (dayEntries cfg table)).flatMap (entryText cfg table) := by
    rw [List.flatMap_assoc]
    exact congrArg days.flatMap (funext day)
  rw [cronText, entries, List.flatMap_append, days]
  simp only [List.flatMap_cons, List.flatMap_nil, entryText, List.append_assoc, List.append_nil]

section Queries

def Unescaped (value : Text) : Prop := ∀ char ∈ value, unreserved char = true

instance (value : Text) : Decidable (Unescaped value) :=
  decidable_of_iff (value.all unreserved = true) List.all_eq_true

theorem encode_unescaped {value : Text} (plain : Unescaped value) : encodeValue value = value := by
  have each : ∀ char ∈ value, encodeChar char = [char] := by
    intro char member
    have kept := plain char member
    have noBlank : char ≠ ' ' := by
      rintro rfl
      exact absurd kept (by decide)
    rw [encodeChar, if_neg noBlank, if_pos kept]
  rw [encodeValue, List.flatMap_congr each, List.flatMap_singleton']

theorem digit_unreserved {char : Char} (digit : char.isDigit = true) :
    unreserved char = true := by
  simp [unreserved, Char.isAlphanum, digit]

theorem print_int_unescaped (value : Int) : Unescaped (printInt value) := by
  intro char member
  rcases of_mem_print_int member with rfl | digit
  · decide
  · exact digit_unreserved digit

theorem unreserved_byte {char : Char} (plain : unreserved char = true) :
    char.toNat < 256 ∧ char ≠ nul := by
  constructor
  · simp only [unreserved, Bool.decide_or, Bool.or_eq_true, decide_eq_true_eq, List.mem_cons,
      List.not_mem_nil, or_false] at plain
    change ((decide (65 ≤ char.val ∧ char.val ≤ 90) ||
      (decide (97 ≤ char.val) && decide (char.val ≤ 122))) ||
      (decide (48 ≤ char.val) && decide (char.val ≤ 57))) = true ∨ _ at plain
    simp only [Bool.or_eq_true, Bool.and_eq_true, decide_eq_true_eq] at plain
    have code : char.toNat = char.val.toNat := rfl
    rcases plain with ((upper | lower) | digit) | rfl | rfl | rfl
    · have bound : char.val.toNat ≤ 90 := upper.2
      omega
    · have bound : char.val.toNat ≤ 122 := lower.2
      omega
    · have bound : char.val.toNat ≤ 57 := digit.2
      omega
    · decide
    · decide
    · decide
  · rintro rfl
    exact absurd plain (by decide)

def plainField (name value : Text) (closed : name.all fun char => char ≠ '&' ∧ char ≠ '=')
    (plain : Unescaped value) : Field where
  name := name
  value := value
  closed := List.all_iff_forall_prop.mp closed
  bytes char member := unreserved_byte (plain char member)

theorem plain_field_text {name value : Text}
    (closed : name.all fun char => char ≠ '&' ∧ char ≠ '=') (plain : Unescaped value) :
    fieldText (plainField name value closed plain) = name ++ '=' :: value := by
  rw [fieldText, plainField, encode_unescaped plain]

def lineFields (line : CronLine) : List Field :=
  [plainField "type".toList "cron".toList (by decide) (by decide),
    plainField "zone".toList (printInt line.zone) (by decide) (print_int_unescaped _),
    plainField "runtime".toList (printInt line.runtime) (by decide) (print_int_unescaped _),
    plainField "state".toList "on".toList (by decide) (by decide)]

def nightlyFields (sensor : Text) (plain : Unescaped sensor) : List Field :=
  [plainField "type".toList "sensor".toList (by decide) (by decide),
    plainField "sensor".toList sensor (by decide) plain,
    plainField "value".toList "0".toList (by decide) (by decide)]

theorem asked_query_of {front query : Text} (back : Text) (before : '?' ∉ front)
    (inside : quote ∉ query) : askedQuery (front ++ '?' :: (query ++ quote :: back)) = query := by
  have passed {stop : Char} {text : Text} (free : stop ∉ text) :
      ∀ char ∈ text, decide (char ≠ stop) = true := by
    intro char member
    apply decide_eq_true
    rintro rfl
    exact free member
  rw [askedQuery, List.dropWhile_append_of_pos (passed before),
    List.dropWhile_cons_of_neg (by simp), List.drop_succ_cons, List.drop_zero,
    List.takeWhile_append_of_pos (passed inside), List.takeWhile_cons_of_neg (by simp),
    List.append_nil]

theorem zone_line_query (port : '?' ∉ cfg.socketPort) (line : CronLine) :
    askedQuery (zoneLineText cfg line) = queryText (lineFields line) := by
  have front : '?' ∉ printInt line.minute ++ (" ".toList ++ (printInt line.hour ++
      (" * * ".toList ++ (printInt line.day ++
        (" root /usr/bin/curl -s -o /dev/null 'localhost:".toList ++ cfg.socketPort))))) := by
    have free (value : Int) : '?' ∉ printInt value :=
      not_in_number value (by decide) (by decide)
    simp only [List.mem_append, free, port, or_false]
    decide
  have query : quote ∉ "type=cron&zone=".toList ++ (printInt line.zone ++
      ("&runtime=".toList ++ (printInt line.runtime ++ "&state=on".toList))) := by
    have free (value : Int) : quote ∉ printInt value :=
      not_in_number value (by decide) (by decide)
    simp only [List.mem_append, free]
    decide
  have text : zoneLineText cfg line = (printInt line.minute ++ (" ".toList ++
      (printInt line.hour ++ (" * * ".toList ++ (printInt line.day ++
        (" root /usr/bin/curl -s -o /dev/null 'localhost:".toList ++ cfg.socketPort)))))) ++
      '?' :: (("type=cron&zone=".toList ++ (printInt line.zone ++ ("&runtime=".toList ++
        (printInt line.runtime ++ "&state=on".toList)))) ++ quote :: "\n".toList) := by
    have begins : "?type=cron&zone=".toList = '?' :: "type=cron&zone=".toList := rfl
    have ends : "&state=on'\n".toList = "&state=on".toList ++ quote :: "\n".toList := rfl
    unfold zoneLineText
    simp only [begins, ends, List.append_assoc, List.cons_append]
  rw [text, asked_query_of _ front query]
  simp only [lineFields, queryText, plain_field_text, List.append_assoc, List.cons_append]
  rfl

theorem nightly_query (port : '?' ∉ cfg.socketPort) {sensor : Text} (plain : Unescaped sensor) :
    askedQuery (nightlyText cfg sensor) = queryText (nightlyFields sensor plain) := by
  have front : '?' ∉ "0 0 * * * root /usr/bin/curl -s -o /dev/null 'localhost:".toList ++
      cfg.socketPort := by
    simp only [List.mem_append, port, or_false]
    decide
  have query : quote ∉ "type=sensor&sensor=".toList ++ (sensor ++ "&value=0".toList) := by
    have free : quote ∉ sensor := fun member => absurd (plain quote member) (by decide)
    simp only [List.mem_append, free, false_or]
    decide
  have text : nightlyText cfg sensor =
      ("0 0 * * * root /usr/bin/curl -s -o /dev/null 'localhost:".toList ++ cfg.socketPort) ++
      '?' :: (("type=sensor&sensor=".toList ++ (sensor ++ "&value=0".toList)) ++
        quote :: "\n".toList) := by
    have begins : "?type=sensor&sensor=".toList = '?' :: "type=sensor&sensor=".toList := rfl
    have ends : "&value=0'\n".toList = "&value=0".toList ++ quote :: "\n".toList := rfl
    unfold nightlyText
    simp only [begins, ends, List.append_assoc, List.cons_append]
  rw [text, asked_query_of _ front query]
  simp only [nightlyFields, queryText, plain_field_text, List.append_assoc, List.cons_append]
  rfl

end Queries

section Reading

variable {fields : List Field} {name : Text} (closed : '=' ∉ name) (buf : Text)
include closed

theorem read_word {word : Text} (value : valueOf name fields = word)
    (short : word.length ≤ buflen - 1) :
    cString (mgGetHttpVar (queryText fields) name buf) = word := by
  have visible := value_visible name fields
  obtain ⟨rest, read⟩ := read_field closed fields buf
  rw [value, List.take_of_length_le short] at visible read
  rw [read]
  exact c_string_terminated visible rest

theorem read_number {number : Int} (value : valueOf name fields = printInt number)
    (fits : -2 ^ 31 ≤ number ∧ number < 2 ^ 31) :
    atoi (mgGetHttpVar (queryText fields) name buf) = number := by
  have short : (printInt number).length ≤ buflen - 1 :=
    (length_print_int_le fits.1 fits.2).trans (by decide)
  obtain ⟨rest, read⟩ := read_field closed fields buf
  rw [value, List.take_of_length_le short] at read
  rw [read, atoi_print_int number rest (by decide), (atoi_value_iff number).mpr fits]

end Reading

section Serving

theorem string_equal {buf word : Text} (string : cString buf = word) (visible : nul ∉ word) :
    strcmpEqual buf word = true := by
  have own : cString word = word := by
    have shown : ∀ char ∈ word, decide (char ≠ nul) = true := by
      intro char member
      apply decide_eq_true
      rintro rfl
      exact visible member
    exact List.takeWhile_eq_self_iff.mpr shown
  exact decide_eq_true (string.trans own.symm)

theorem query_text_ne_nil {fields : List Field} (some : fields ≠ []) :
    queryText fields ≠ [] := by
  obtain ⟨field, rest, rfl⟩ := List.exists_cons_of_ne_nil some
  cases rest <;> simp [queryText, fieldText]

theorem zone_line_served (now : Int) (stack : Text) (st : SprinklerdState) {line : CronLine}
    (listed : line.zone ∈ zoneList cfg) (lasting : 0 < line.runtime ∧ line.runtime < 2 ^ 31) :
    actionWebRequest cfg now (queryText (lineFields line)) stack st =
      ((zcZone cfg now .zcCron line.zone .zcOn line.runtime st).1,
        some (.document .sprinkler)) := by
  have bounds := mem_zone_list.mp listed
  have few := cfg.zonesBounded
  have cron (buf : Text) := @read_word (lineFields line) "type".toList (by decide) buf
    "cron".toList rfl (by decide)
  have asked := string_equal (cron stack) (by decide)
  have zone (buf : Text) := @read_number (lineFields line) "zone".toList (by decide) buf
    line.zone rfl ⟨by omega, by omega⟩
  have runtime (buf : Text) := @read_number (lineFields line) "runtime".toList (by decide) buf
    line.runtime rfl ⟨by omega, lasting.2⟩
  have state (buf : Text) : isValueON
      (mgGetHttpVar (queryText (lineFields line)) "state".toList buf) = 1 := by
    have word := @read_word (lineFields line) "state".toList (by decide) buf "on".toList rfl
      (by decide)
    rw [isValueON, if_pos]
    left
    unfold strncasecmpEqual compared
    rw [word]
    decide
  have some : queryText (lineFields line) ≠ [] := query_text_ne_nil (List.cons_ne_nil _ _)
  rw [actionWebRequest, if_neg some, serve_web_request_zone now st (Or.inr asked)]
  simp only [serveZone, asked, if_true, zone, runtime, state, bounds.2, and_self]
  rfl

theorem nightly_served (now : Int) (stack : Text) (st : SprinklerdState) {sensor : Text}
    (plain : Unescaped sensor) (short : sensor.length ≤ buflen - 1)
    (known : strncasecmpEqual sensor "chanceofrain".toList 13 = true ∨
      strncasecmpEqual sensor "raintotal".toList 9 = true) :
    actionWebRequest cfg now (queryText (nightlyFields sensor plain)) stack st =
      (if strncasecmpEqual sensor "chanceofrain".toList 13 then
        (setTodayChanceOfRain cfg now 0 st).1
      else (setTodayRainTotal cfg now (atof "0".toList) st).1,
        some (.document .sprinkler)) := by
  have asked := string_equal (@read_word (nightlyFields sensor plain) "type".toList (by decide)
    stack "sensor".toList rfl (by decide)) (by decide)
  have visible : nul ∉ sensor := fun member => absurd (plain nul member) (by decide)
  have named (buf : Text) := string_equal (@read_word (nightlyFields sensor plain)
    "sensor".toList (by decide) buf sensor rfl short) visible
  have value (buf : Text) := @read_word (nightlyFields sensor plain) "value".toList (by decide)
    buf "0".toList rfl (by decide)
  have number (buf : Text) := @read_number (nightlyFields sensor plain) "value".toList (by decide)
    buf 0 rfl (by decide)
  have some : queryText (nightlyFields sensor plain) ≠ [] :=
    query_text_ne_nil (List.cons_ne_nil _ _)
  rw [actionWebRequest, if_neg some, serve_web_request_word now st asked,
    if_neg (by decide), if_neg (by decide), if_neg (by decide), if_neg (by decide),
    if_neg (by decide), if_neg (by decide), if_pos (by decide)]
  simp only [serveSensor, strncasecmp_of_same (named _), value, number]
  by_cases chance : strncasecmpEqual sensor "chanceofrain".toList 13 = true
  · rw [if_pos chance, if_pos chance, if_neg (by decide)]
  · rw [if_neg chance, if_neg chance, if_pos (known.resolve_left chance), if_neg (by decide)]

theorem mem_zone_lines {day : Int} {zruntimes : Int → Int} {zones : List Int} {min hour : Int}
    {line : CronLine} (member : line ∈ zoneLines day zruntimes zones min hour) :
    line.zone - 1 ∈ zones ∧ 0 < line.runtime ∧ line.runtime = zruntimes (line.zone - 1) := by
  induction zones generalizing min hour with
  | nil => exact absurd member List.not_mem_nil
  | cons zone rest ih =>
      rw [zoneLines] at member
      by_cases runs : 0 < zruntimes zone
      · rw [if_pos runs] at member
        rcases List.mem_cons.mp member with rfl | later
        · exact ⟨by simp, runs, by simp⟩
        · exact (ih (List.mem_ite_nil_left.mp later).2).imp_left (List.mem_cons_of_mem zone)
      · rw [if_neg runs] at member
        exact (ih member).imp_left (List.mem_cons_of_mem zone)

theorem mem_cron_lines {table : Int → CalendarDay} {day : Int} {line : CronLine}
    (member : line ∈ cronLines cfg table day) :
    line.zone ∈ zoneList cfg ∧ 0 < line.runtime ∧
      line.runtime = (table day).zruntimes (line.zone - 1) := by
  unfold cronLines at member
  split_ifs at member
  · obtain ⟨inside, lasting, runtime⟩ := mem_zone_lines member
    have index := mem_zones_from.mp inside
    exact ⟨mem_zone_list.mpr (by omega), lasting, runtime⟩
  · exact absurd member List.not_mem_nil

/-- Every line that the crontab is given asks, when `curl` sends its query at any time
and whatever the buffer holds, for the operation it is there for, and is answered with
the state of the daemon. -/
theorem crontab_asks_for_its_operations (port : '?' ∉ cfg.socketPort)
    {table : Int → CalendarDay}
    (ints : ∀ day ∈ weekDays, ∀ zone ∈ zoneIndexes cfg, (table day).zruntimes zone < 2 ^ 31)
    (now : Int) (stack : Text) (st : SprinklerdState) :
    ∀ entry ∈ entries cfg table, ∀ operation ∈ entryOperation entry,
      actionWebRequest cfg now (askedQuery (entryText cfg table entry)) stack st =
        (applyOperation cfg now st operation, some (.document .sprinkler)) := by
  intro entry member operation asks
  cases entry with
  | zone line =>
      obtain rfl := Option.mem_some.mp asks
      have listed : ∃ day ∈ weekDays, line ∈ cronLines cfg table day := by
        simpa [entries, dayEntries] using member
      obtain ⟨day, weekDay, inside⟩ := listed
      obtain ⟨zone, lasting, runtime⟩ := mem_cron_lines inside
      have bounds := mem_zone_list.mp zone
      have index : line.zone - 1 ∈ zoneIndexes cfg := mem_zones_from.mpr (by omega)
      have fits := ints day weekDay _ index
      rw [entryText, zone_line_query port,
        zone_line_served now stack st zone ⟨lasting, runtime ▸ fits⟩]
      rfl
  | runBefore => cases asks
  | chanceOfRain =>
      obtain rfl := Option.mem_some.mp asks
      rw [entryText, nightly_query port (by decide : Unescaped "chanceofrain".toList),
        nightly_served now stack st _ (by decide) (by decide), if_pos (by decide)]
      rfl
  | rainTotal =>
      obtain rfl := Option.mem_some.mp asks
      rw [entryText, nightly_query port (by decide : Unescaped "raintotal".toList),
        nightly_served now stack st _ (by decide) (by decide), if_neg (by decide)]
      rfl

theorem crontab_asks_for_its_operations_monday :
    actionWebRequest (benchCfg benchWiring) 1000 (askedQuery (entryText (benchCfg benchWiring)
        (mondayTable fun _ => 40) (.zone ⟨10, 7, 1, 2, 40⟩))) [] benchState =
      (applyOperation (benchCfg benchWiring) 1000 benchState (.zone .zcCron 2 .zcOn 40),
        some (.document .sprinkler)) := by
  refine @crontab_asks_for_its_operations (benchCfg benchWiring) (by decide)
    (mondayTable fun _ => 40) ?_ 1000 [] benchState (.zone ⟨10, 7, 1, 2, 40⟩) ?_ _ rfl
  · decide
  · have listed : (⟨10, 7, 1, 2, 40⟩ : CronLine) ∈
        cronLines (benchCfg benchWiring) (mondayTable fun _ => 40) 1 := by decide
    simp only [entries, List.mem_append, List.mem_flatMap]
    exact Or.inl ⟨1, by decide, List.mem_append_left _ (List.mem_map_of_mem listed)⟩

end Serving

end SprinklerD.CronRequests
