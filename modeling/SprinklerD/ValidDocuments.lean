import SprinklerD.StatusLine
import SprinklerD.Operations
import SprinklerD.Foundation.Json

/-!
# The status documents are JSON

Piece by piece the documents are scanned into tokens. Whatever is printed is valid, but for the
advanced document: a scheduled day without a runtime from the second zone on ends with a comma,
because the step back takes the blank behind it. And the two documents with a status line are
printed only where the line fits its array.
-/

namespace SprinklerD.ValidDocuments

open Foundation.MachineInt Foundation.Decimal Foundation.Json
open SprinklerD.Config SprinklerD.ZoneCtrl SprinklerD.CronTable SprinklerD.Broadcast
open SprinklerD.JsonMessages SprinklerD.StatusLine SprinklerD.Operations

set_option autoImplicit false

/-- No quote, backslash or control character in any name. -/
structure PlainLabels (labels : Labels) : Prop where
  title : ∀ char ∈ labels.title, Plain char
  names : ∀ zone, ∀ char ∈ labels.names zone, Plain char

def nextString : List Token := [.comma, .string, .colon, .string]

section Scalars

theorem scan_int (value : Int) : scan .string (printInt value) = some (.string, []) :=
  scan_plain (plain_print_int value)

theorem scan_on_off (on : Bool) : scan .string (onOff on) = some (.string, []) := by
  cases on <;> decide +kernel

theorem scan_two (value : Int) : scan .string (printTwo value) = some (.string, []) := by
  unfold printTwo
  split_ifs
  · exact scan_plain (List.forall_mem_cons.mpr ⟨by decide, plain_print_int value⟩)
  · exact scan_int value

theorem scan_clock (first second : Int) :
    scan .string (clock first second) = some (.string, []) :=
  scan_then (scan_then (scan_two first)
    (show scan .string ":".toList = some (.string, []) by decide +kernel)) (scan_two second)

theorem scan_minus_sign (negative : Bool) :
    scan .string (minusSign negative) = some (.string, []) := by
  cases negative <;> decide

theorem scan_fixed_digits (places : Nat) (magnitude : ℚ) :
    scan .string (fixedDigits places magnitude) = some (.string, []) := by
  have digits (number : Nat) : ∀ char ∈ printNat number, Plain char :=
    fun char member => plain_digit (is_digit_of_mem_print_nat member)
  apply scan_plain
  simp only [fixedDigits, List.forall_mem_append, List.forall_mem_cons]
  refine ⟨digits _, by decide, fun char member => ?_, digits _⟩
  rw [(List.mem_replicate.mp member).2]
  decide

theorem scan_fixed (places : Nat) (value : CFloat) :
    scan .string (printFixed places value) = some (.string, []) := by
  cases value with
  | nan negative =>
      exact scan_then (scan_minus_sign negative)
        (show scan .string "nan".toList = some (.string, []) by decide +kernel)
  | negInf => exact show scan .string "-inf".toList = some (.string, []) by decide +kernel
  | negZero => exact scan_then (scan_minus_sign true) (scan_fixed_digits places 0)
  | finite value => exact scan_then (scan_minus_sign _) (scan_fixed_digits places |value|)
  | posInf => exact show scan .string "inf".toList = some (.string, []) by decide +kernel

theorem scan_status (st : SprinklerdState) :
    scan .string (statusText st) = some (.string, []) := by
  unfold statusText
  split_ifs
  · exact scan_then (scan_then (scan_then
      (show scan .string "Active: Zone ".toList = some (.string, []) by decide +kernel)
      (scan_int _))
      (show scan .string " : time left ".toList = some (.string, []) by decide +kernel))
      (scan_clock _ _)
  · exact scan_then (scan_then (scan_then (scan_then
      (show scan .string "Today:- Chance of rain: ".toList = some (.string, []) by decide +kernel)
      (scan_int _))
      (show scan .string "%,  Rain total: ".toList = some (.string, []) by decide +kernel))
      (scan_fixed _ _))
      (show scan .string "\\\"".toList = some (.string, []) by decide +kernel)
  · rfl

end Scalars

variable (cfg : SprinklerdCfg) {labels : Labels} (plain : PlainLabels labels)
  (st : SprinklerdState)

section Fields

def switchesTokens : List Token :=
  [.openBrace, .string, .colon, .string] ++ nextString ++ nextString ++ nextString ++ nextString ++
    [.comma, .string, .colon, .number]

include plain in
theorem switches_scanned : Ends .between (switchesText cfg labels st) switchesTokens := by
  have title := scan_then (show scan .between "\x7b \"title\" : \"".toList =
    some (.string, [.openBrace, .string, .colon, .string]) by decide +kernel) (scan_plain plain.title)
  have calendar := scan_then (scan_then title (show scan .string "\",\"calendar\" : \"".toList =
    some (.string, nextString) by decide +kernel)) (scan_on_off st.calendar)
  have delay := scan_then (scan_then calendar (show scan .string "\", \"24hdelay\" : \"".toList =
    some (.string, nextString) by decide +kernel)) (scan_on_off st.delay24h)
  have allz := scan_then (scan_then delay (show scan .string "\", \"allz\" : \"".toList =
    some (.string, nextString) by decide +kernel)) (scan_on_off (st.currentZone.type = .zcAll))
  have zones := scan_then (scan_then allz (show scan .string "\", \"zones\" : \"".toList =
    some (.string, nextString) by decide +kernel)) (scan_int cfg.zones)
  have key := scan_then zones (show scan .string "\", \"24hdelay-offtime\" : ".toList =
    some (.between, [.comma, .string, .colon]) by decide +kernel)
  have whole := ends_then_number key st.delay24hTime
  exact whole

def rainTokens : List Token := nextString ++ nextString ++ nextString ++ nextString ++ nextString

theorem rain_scanned : scan .between (rainText st) = some (.between, rainTokens) := by
  have chance := scan_then (show scan .between ", \"raindelaychance\" : \"".toList =
    some (.string, nextString) by decide +kernel) (scan_int st.precipChanceDelay)
  have oneDay := scan_then (scan_then chance (show scan .string
    "\", \"raindelaytotal1\" : \"".toList = some (.string, nextString) by decide +kernel))
    (scan_fixed 1 st.precipInchDelay1day)
  have twoDays := scan_then (scan_then oneDay (show scan .string
    "\", \"raindelaytotal2\" : \"".toList = some (.string, nextString) by decide +kernel))
    (scan_fixed 1 st.precipInchDelay2day)
  have today := scan_then (scan_then twoDays (show scan .string
    "\", \"todaychanceofrain\" : \"".toList = some (.string, nextString) by decide +kernel))
    (scan_int st.todayRainChance)
  have total := scan_then (scan_then today (show scan .string
    "\", \"todayraintotal\" : \"".toList = some (.string, nextString) by decide +kernel))
    (scan_fixed 2 st.todayRainTotal)
  have whole := scan_then total (show scan .string "\"".toList = some (.between, []) by decide +kernel)
  exact whole

end Fields

section WebPage

theorem more_string {piece : Text} (delimited : Delimited piece)
    (scanned : scan .between piece = some (.between, nextString)) : MoreMembers piece :=
  ⟨delimited, [.string, .colon, .string], ends_of_scan scanned, .lastMember .string⟩

theorem zone_state_more (zone : Int) : MoreMembers (zoneStateText cfg st zone) := by
  apply more_string (delimited_append (delimited_append (delimited_append (delimited_append
    (by decide +kernel)))))
  have name := scan_then (show scan .between ", \"z".toList = some (.string, [.comma, .string])
    by decide +kernel) (scan_int zone)
  have state := scan_then (scan_then name (show scan .string "\" : \"".toList =
    some (.string, [.colon, .string]) by decide +kernel))
    (scan_on_off (zoneReadsOn cfg st.gpio zone))
  exact scan_then state (show scan .string "\" ".toList = some (.between, []) by decide +kernel)

/-- The document without the closing brace, which a longer one overwrites. -/
theorem sprinkler_open (plain : PlainLabels labels) :
    ∃ text, sprinklerText cfg labels st (statusText st) = text ++ ['\x7d'] ∧
      OpenObject text := by
  refine ⟨_, rfl, ?_⟩
  apply open_object_each _ fun zone _ => zone_state_more cfg st zone
  have key := ends_then_scan (switches_scanned cfg plain st) (by decide +kernel)
    (show scan .between ", \"status\" : \"".toList = some (.string, nextString) by decide +kernel)
  have status := scan_then (scan_then key (scan_status st))
    (show scan .string "\"".toList = some (.between, []) by decide +kernel)
  have whole := scan_then status (rain_scanned st)
  refine ⟨scalars (List.replicate 5 .string ++ .number :: List.replicate 6 .string), ?_,
    members_scalars (by decide) (by decide)⟩
  exact ends_of_scan whole

theorem sprinkler_valid (plain : PlainLabels labels) :
    Valid (sprinklerText cfg labels st (statusText st)) := by
  obtain ⟨text, printed, opened⟩ := sprinkler_open cfg st plain
  rw [printed]
  exact valid_of_open_object opened

theorem zone_default_more (plain : PlainLabels labels) (zone : Int) :
    MoreMembers (zoneDefaultText labels st zone) := by
  refine ⟨?_, scalars [.number, .string], ?_, members_scalars (by decide) (by decide)⟩
  · unfold zoneDefaultText
    repeat apply delimited_append
    decide +kernel
  · have name := scan_then (show scan .between ", \"z".toList = some (.string, [.comma, .string])
      by decide +kernel) (scan_int zone)
    have key := scan_then name (show scan .string "-runtime\" : ".toList =
      some (.between, [.colon]) by decide +kernel)
    have number := ends_then_number key (st.defaultRuntime zone)
    have runtime := ends_then_scan number (by decide +kernel)
      (show scan .between ", \"z".toList = some (.string, [.comma, .string]) by decide +kernel)
    have label := scan_then (scan_then runtime (scan_int zone)) (show scan .string
      "-name\" : \"".toList = some (.string, [.colon, .string]) by decide +kernel)
    have whole := scan_then (scan_then label (scan_plain (plain.names zone)))
      (show scan .string "\" ".toList = some (.between, []) by decide +kernel)
    exact ends_of_scan whole

theorem cal_entry_more (entry : CalendarEntry) : MoreMembers (calEntryText entry) := by
  cases entry with
  | startTime day hour minute =>
      apply more_string
      · unfold calEntryText
        repeat apply delimited_append
        decide +kernel
      · have name := scan_then (show scan .between ", \"d".toList =
          some (.string, [.comma, .string]) by decide +kernel) (scan_int day)
        have time := scan_then (scan_then name (show scan .string "-starttime\" : \"".toList =
          some (.string, [.colon, .string]) by decide +kernel)) (scan_clock hour minute)
        exact scan_then time (show scan .string "\" ".toList = some (.between, [])
          by decide +kernel)
  | runtime day zone minutes =>
      refine ⟨?_, scalars [.number], ?_, members_scalars (by decide) (by decide)⟩
      · unfold calEntryText
        repeat apply delimited_append
        decide +kernel
      · have name := scan_then (show scan .between ", \"d".toList =
          some (.string, [.comma, .string]) by decide +kernel) (scan_int day)
        have both := scan_then (scan_then name (show scan .string "z".toList =
          some (.string, []) by decide +kernel)) (scan_int zone)
        have key := scan_then both (show scan .string "-runtime\" : ".toList =
          some (.between, [.colon]) by decide +kernel)
        exact ends_then_number key minutes

theorem sprinkler_cal_valid (plain : PlainLabels labels) :
    Valid (sprinklerCalText cfg labels st (sprinklerText cfg labels st (statusText st))) := by
  obtain ⟨text, printed, opened⟩ := sprinkler_open cfg st plain
  rw [sprinklerCalText, printed, List.dropLast_concat]
  apply valid_of_open_object
  exact open_object_each (open_object_each opened fun zone _ => zone_default_more st plain zone)
    fun entry _ => cal_entry_more entry

end WebPage

section Homebridge

def deviceTokens : List Token :=
  .openBrace :: (scalars [.string, .number, .string, .string, .number, .string] ++ [.closeBrace])

theorem device_derived : Derives .value deviceTokens :=
  .object (members_scalars (by decide) (by decide))

theorem device_scanned (plain : PlainLabels labels) (zone : Int) :
    scan .between (homebridgeZone cfg labels st zone) =
      some (.between, deviceTokens ++ [.comma]) := by
  have type := show scan .between "\x7b\"type\" : \"zone\", \"zone\": ".toList =
    some (.between, [.openBrace, .string, .colon, .string, .comma, .string, .colon])
    by decide +kernel
  have number := ends_then_number type zone
  have name := ends_then_scan number (by decide +kernel)
    (show scan .between ", \"name\": \"".toList = some (.string, nextString) by decide +kernel)
  have state := scan_then (scan_then name (scan_plain (plain.names zone)))
    (show scan .string "\", \"state\": \"".toList = some (.string, nextString) by decide +kernel)
  have key := scan_then (scan_then state (scan_on_off (zoneReadsOn cfg st.gpio zone)))
    (show scan .string "\", \"duration\": ".toList = some (.between, [.comma, .string, .colon])
      by decide +kernel)
  have seconds := ends_then_number key (wrap32 (st.defaultRuntime zone * 60))
  have id := ends_then_scan seconds (by decide +kernel)
    (show scan .between ", \"id\" : \"zone".toList = some (.string, nextString) by decide +kernel)
  have whole := scan_then (scan_then id (scan_int zone))
    (show scan .string "\" \x7d,".toList = some (.between, [.closeBrace, .comma])
      by decide +kernel)
  exact whole

theorem devices_scanned (plain : PlainLabels labels) (zones : List Int) {text : Text}
    {tokens : List Token} (before : scan .between text = some (.between, tokens)) :
    scan .between (text ++ zones.flatMap (homebridgeZone cfg labels st)) =
      some (.between, tokens ++ zones.flatMap fun _ => deviceTokens ++ [.comma]) := by
  induction zones generalizing text tokens with
  | nil => simpa using before
  | cons zone rest ih =>
      have further := ih (scan_then before (device_scanned cfg st plain zone))
      simpa using further

theorem homebridge_valid (plain : PlainLabels labels) :
    Valid (buildHomebridgeSprinklerJSON cfg labels st) := by
  have title := scan_then (show scan .between "\x7b \"title\" : \"".toList =
    some (.string, [.openBrace, .string, .colon, .string]) by decide +kernel) (scan_plain plain.title)
  have opens := scan_then (scan_then title (show scan .string "\", ".toList =
    some (.between, [.comma]) by decide +kernel)) (show scan .between " \"devices\": [".toList =
      some (.between, [.string, .colon, .openBracket]) by decide +kernel)
  have devices := devices_scanned cfg st plain (tableZones cfg) opens
  have first := scan_then devices (show scan .between
    "\x7b\"type\" : \"zone\", \"zone\": ".toList =
      some (.between, [.openBrace, .string, .colon, .string, .comma, .string, .colon])
      by decide +kernel)
  have number := ends_then_number first (cfg.zones + 1)
  have cycle := ends_then_scan number (by decide +kernel)
    (show scan .between ", \"name\": \"Cycle all zones\", \"state\": \"".toList =
      some (.string, nextString ++ nextString) by decide +kernel)
  have cycleState := scan_then (scan_then cycle (scan_on_off (st.currentZone.type = .zcAll)))
    (show scan .string "\", \"duration\": 0, \"id\" : \"cycleallzones\" \x7d,".toList =
      some (.between, [.comma, .string, .colon, .number] ++ nextString ++ [.closeBrace, .comma])
      by decide +kernel)
  have delay := scan_then cycleState (show scan .between
    "\x7b\"type\" : \"switch\", \"zone\": -1, \"name\": \"24h Rain Delay\", \"state\": \"".toList =
      some (.string, [.openBrace, .string, .colon, .string, .comma, .string, .colon, .number] ++
        nextString ++ nextString) by decide +kernel)
  have delayState := scan_then (scan_then delay (scan_on_off st.delay24h))
    (show scan .string "\", \"duration\": 0, \"id\" : \"24hdelay\" \x7d,".toList =
      some (.between, [.comma, .string, .colon, .number] ++ nextString ++ [.closeBrace, .comma])
      by decide +kernel)
  have calendar := scan_then (scan_then delayState (show scan .between
    "\x7b\"type\" : \"switch\", \"zone\": -1, \"name\": \"Run on calendar schedule\", ".toList =
      some (.between, [.openBrace, .string, .colon, .string, .comma, .string, .colon, .number] ++
        nextString ++ [.comma]) by decide +kernel))
    (show scan .between "\"state\": \"".toList = some (.string, [.string, .colon, .string])
      by decide +kernel)
  have calendarState := scan_then (scan_then calendar (scan_on_off st.calendar))
    (show scan .string "\", \"duration\": 0, \"id\" : \"calendar\" \x7d".toList =
      some (.between, [.comma, .string, .colon, .number] ++ nextString ++ [.closeBrace])
      by decide +kernel)
  have whole := scan_then calendarState (show scan .between "]\x7d".toList =
    some (.between, [.closeBracket, .closeBrace]) by decide +kernel)
  refine ⟨.between, _, whole, by decide, ?_⟩
  have devices := elements_flat_map (fun zone (_ : zone ∈ tableZones cfg) => device_derived)
    (.element device_derived (.element device_derived (.lastElement device_derived)))
  have derived := Derives.object (.member .string (.lastMember (.array devices)))
  simpa [deviceTokens, scalars, separated, nextString] using derived

end Homebridge

section Advanced

def memberObject (kinds : List Token) : List Token :=
  .string :: .colon :: .openBrace :: (scalars kinds ++ [.closeBrace])

theorem member_object_derived {kinds : List Token} (listed : kinds ≠ [])
    (simple : ∀ kind ∈ kinds, kind = .string ∨ kind = .number) :
    Derives .members (memberObject kinds) :=
  .lastMember (.object (members_scalars listed simple))

theorem advanced_zone_ends (plain : PlainLabels labels) (zone : Int) :
    Ends .between (advancedZone cfg labels st zone)
      (memberObject [.number, .string, .string, .number]) := by
  have name := scan_then (show scan .between "\"zone ".toList = some (.string, [.string])
    by decide +kernel) (scan_int zone)
  have opens := scan_then name (show scan .string "\": \x7b\"number\": ".toList =
    some (.between, [.colon, .openBrace, .string, .colon]) by decide +kernel)
  have number := ends_then_number opens zone
  have label := ends_then_scan number (by decide +kernel)
    (show scan .between ", \"name\": \"".toList = some (.string, nextString) by decide +kernel)
  have state := scan_then (scan_then label (scan_plain (plain.names zone)))
    (show scan .string "\", \"state\": \"".toList = some (.string, nextString) by decide +kernel)
  have key := scan_then (scan_then state (scan_on_off (zoneReadsOn cfg st.gpio zone)))
    (show scan .string "\", \"runtime\": ".toList = some (.between, [.comma, .string, .colon])
      by decide +kernel)
  have minutes := ends_then_number key (st.defaultRuntime zone)
  have whole := ends_then_scan minutes (by decide +kernel)
    (show scan .between " \x7d".toList = some (.between, [.closeBrace]) by decide +kernel)
  exact ends_of_scan whole

theorem active_zone_ends (plain : PlainLabels labels) :
    Ends .between (activeZone labels st) (memberObject [.number, .string]) := by
  have opens := show scan .between "\"active\": \x7b\"zone\": ".toList =
    some (.between, [.string, .colon, .openBrace, .string, .colon]) by decide +kernel
  have number := ends_then_number opens st.currentZone.zone
  have label := ends_then_scan number (by decide +kernel)
    (show scan .between ", \"name\": \"".toList = some (.string, nextString) by decide +kernel)
  have whole := scan_then (scan_then label (scan_plain (plain.names st.currentZone.zone)))
    (show scan .string "\"\x7d".toList = some (.between, [.closeBrace]) by decide +kernel)
  exact ends_of_scan whole

/-- The members of `zones`, the running zone among them. -/
theorem advanced_zones_ends (plain : PlainLabels labels) :
    ∃ tokens, Ends .between (advancedZones cfg labels st) tokens ∧ Derives .members tokens := by
  let zones := (zoneList cfg).map fun zone =>
    (advancedZone cfg labels st zone, memberObject [.number, .string, .string, .number])
  let active := if st.currentZone.type ≠ .zcNone then
    [(activeZone labels st, memberObject [.number, .string])] else []
  have each : ∀ item ∈ zones ++ active, Ends .between item.1 item.2 ∧ Derives .members item.2 := by
    intro item member
    rcases List.mem_append.mp member with listed | running
    · obtain ⟨zone, -, rfl⟩ := List.mem_map.mp listed
      exact ⟨advanced_zone_ends cfg st plain zone,
        member_object_derived (by decide) (by decide)⟩
    · simp only [active, List.mem_ite_nil_right, List.mem_singleton] at running
      obtain ⟨-, rfl⟩ := running
      exact ⟨active_zone_ends st plain, member_object_derived (by decide) (by decide)⟩
  have listed : zones ++ active ≠ [] := by
    simp [zones, zone_list_ne_nil]
  have printed : advancedZones cfg labels st =
      ((zones ++ active).flatMap fun item => item.1 ++ [',']).dropLast := by
    rw [advancedZones, List.flatMap_append]
    congr 2
    · simp only [zones, List.flatMap_map]
    · simp only [active]
      split_ifs <;> simp
  refine ⟨separated ((zones ++ active).map Prod.snd), ?_, ?_⟩
  · rw [printed]
    exact ends_separated listed fun item member => (each item member).1
  · apply members_separated (by simpa using listed)
    intro piece member
    obtain ⟨item, inside, rfl⟩ := List.mem_map.mp member
    exact (each item inside).2

def advancedIndexes (table : Int → CalendarDay) (day : Int) : List Int :=
  (zonesFrom (cfg.zones - 1) 1).filter fun zone => 0 ≤ (table day).zruntimes zone

/-- The tokens of a scheduled day. Without zones its last comma stands before the brace. -/
def dayTokens (indexes : List Int) : List Token :=
  [.string, .colon, .openBrace, .string, .colon, .string, .comma] ++
    separated (indexes.map fun _ => [.string, .colon, .number]) ++ [.closeBrace]

theorem start_time_scanned (day hour minute : Int) {close : Text}
    (closes : scan .string close = some (.between, [.comma])) :
    scan .between ("\"day ".toList ++ printInt day ++ "\" : \x7b \"start time\" : \"".toList ++
        clock hour minute ++ close) =
      some (.between, [.string, .colon, .openBrace, .string, .colon, .string, .comma]) := by
  have name := scan_then (show scan .between "\"day ".toList = some (.string, [.string])
    by decide +kernel) (scan_int day)
  have time := scan_then (scan_then name (show scan .string
    "\" : \x7b \"start time\" : \"".toList =
      some (.string, [.colon, .openBrace, .string, .colon, .string]) by decide +kernel))
    (scan_clock hour minute)
  exact scan_then time closes

theorem runtime_ends (zone minutes : Int) :
    Ends .between ("\"Zone ".toList ++ printInt zone ++ "\" : ".toList ++ printInt minutes)
      [.string, .colon, .number] := by
  have name := scan_then (show scan .between "\"Zone ".toList = some (.string, [.string])
    by decide +kernel) (scan_int zone)
  have key := scan_then name (show scan .string "\" : ".toList = some (.between, [.colon])
    by decide +kernel)
  exact ends_then_number key minutes

theorem day_body_ends {table : Int → CalendarDay} {day : Int}
    (enabled : scheduled (table day) = true) :
    Ends .between ((advancedDayEntries cfg table day).flatMap advancedEntryText).dropLast
      ([.string, .colon, .openBrace, .string, .colon, .string, .comma] ++
        separated ((advancedIndexes cfg table day).map fun _ => [.string, .colon, .number])) := by
  rw [advancedDayEntries, dayEntries, if_pos enabled, List.flatMap_cons, List.flatMap_map]
  change Ends _ (_ ++ (advancedIndexes cfg table day).flatMap _).dropLast _
  by_cases nothing : advancedIndexes cfg table day = []
  · have start := start_time_scanned day (table day).hour (table day).minute
      (show scan .string "\", ".toList.dropLast = some (.between, [.comma]) by decide +kernel)
    rw [nothing, List.flatMap_nil, List.append_nil]
    unfold advancedEntryText
    rw [List.dropLast_append_of_ne_nil (by decide +kernel)]
    exact ends_of_scan start
  · have start := start_time_scanned day (table day).hour (table day).minute
      (show scan .string "\", ".toList = some (.between, [.comma]) by decide +kernel)
    obtain ⟨last, ended, scanned⟩ := ends_separated nothing fun zone _ =>
      runtime_ends (zone + 1) ((table day).zruntimes zone)
    have printed : ((advancedIndexes cfg table day).flatMap fun zone =>
        advancedEntryText (.runtime day (zone + 1) ((table day).zruntimes zone))) ≠ [] := by
      obtain ⟨zone, member⟩ := List.exists_mem_of_ne_nil _ nothing
      intro none
      have empty := List.flatMap_eq_nil_iff.mp none zone member
      exact absurd empty (List.append_ne_nil_of_right_ne_nil _ (List.cons_ne_nil _ _))
    rw [List.dropLast_append_of_ne_nil printed]
    exact ⟨last, ended, scan_then start scanned⟩

theorem advanced_day_ends {table : Int → CalendarDay} {day : Int}
    (enabled : scheduled (table day) = true) :
    Ends .between (advancedDay cfg table day) (dayTokens (advancedIndexes cfg table day)) := by
  have brace : scan .between ['\x7d'] = some (.between, [.closeBrace]) := by decide
  exact ends_append (day_body_ends cfg enabled) (by decide) (ends_of_scan brace)

theorem day_derived {indexes : List Int} (listed : indexes ≠ []) :
    Derives .members (dayTokens indexes) := by
  have members : Derives .members (separated (indexes.map fun _ => [.string, .colon, .number])) := by
    apply members_separated (by simpa using listed)
    intro piece member
    obtain ⟨entry, -, rfl⟩ := List.mem_map.mp member
    exact .lastMember .number
  exact .lastMember (.object (.member .string members))

def DaysPrinted (table : Int → CalendarDay) : Prop :=
  ∀ day ∈ weekDays, scheduled (table day) = true →
    ∃ zone ∈ zonesFrom (cfg.zones - 1) 1, 0 ≤ (table day).zruntimes zone

instance (table : Int → CalendarDay) : Decidable (DaysPrinted cfg table) :=
  inferInstanceAs (Decidable (∀ day ∈ weekDays, _ → _))

theorem indexes_ne_nil {table : Int → CalendarDay} {day : Int} :
    advancedIndexes cfg table day ≠ [] ↔
      ∃ zone ∈ zonesFrom (cfg.zones - 1) 1, 0 ≤ (table day).zruntimes zone := by
  simp [advancedIndexes, List.filter_eq_nil_iff]

def calendarTokens (table : Int → CalendarDay) : List Token :=
  separated ((scheduledDays table).map fun day => dayTokens (advancedIndexes cfg table day))

theorem mem_scheduled_days {table : Int → CalendarDay} {day : Int} :
    day ∈ scheduledDays table ↔ day ∈ weekDays ∧ scheduled (table day) = true :=
  List.mem_filter

theorem calendar_ends (table : Int → CalendarDay) :
    Ends .between (advancedCalendar cfg table) (calendarTokens cfg table) := by
  by_cases nothing : scheduledDays table = []
  · rw [advancedCalendar, calendarTokens, nothing]
    exact ends_of_scan rfl
  · exact ends_separated nothing fun day member =>
      advanced_day_ends cfg (mem_scheduled_days.mp member).2

theorem calendar_derived {table : Int → CalendarDay} (printed : DaysPrinted cfg table) :
    Derives .value (.openBrace :: (calendarTokens cfg table ++ [.closeBrace])) := by
  unfold calendarTokens
  by_cases nothing : scheduledDays table = []
  · rw [nothing]
    exact .emptyObject
  · apply Derives.object
    apply members_separated (by simpa using nothing)
    intro piece member
    obtain ⟨day, inside, rfl⟩ := List.mem_map.mp member
    obtain ⟨listed, enabled⟩ := mem_scheduled_days.mp inside
    exact day_derived ((indexes_ne_nil cfg).mpr (printed day listed enabled))

theorem advanced_scanned (plain : PlainLabels labels) :
    ∃ zones, Derives .members zones ∧
      scan .between (buildAdvancedSprinklerJSON cfg labels st) =
        some (.between, .openBrace :: (scalars (List.replicate 5 .string ++ .number ::
          List.replicate 5 .string) ++ .comma :: .string :: .colon :: .openBrace ::
            (zones ++ .closeBrace :: .comma :: .string :: .colon :: .openBrace ::
              (calendarTokens cfg st.cron ++ [.closeBrace, .closeBrace])))) := by
  obtain ⟨zones, ends, derived⟩ := advanced_zones_ends cfg st plain
  have rainDelimited : Delimited (rainText st) := by
    unfold rainText
    repeat apply delimited_append
    decide +kernel
  have rain := ends_then_scan (switches_scanned cfg plain st) rainDelimited (rain_scanned st)
  have opens := scan_then rain (show scan .between ", \"zones\": \x7b".toList =
    some (.between, [.comma, .string, .colon, .openBrace]) by decide +kernel)
  obtain ⟨last, ended, inside⟩ := ends
  have calendar := ends_then_scan ⟨last, ended, scan_then opens inside⟩ (by decide +kernel)
    (show scan .between "\x7d, \"calendar\": \x7b".toList =
      some (.between, [.closeBrace, .comma, .string, .colon, .openBrace]) by decide +kernel)
  obtain ⟨other, complete, days⟩ := calendar_ends cfg st.cron
  have whole := ends_then_scan ⟨other, complete, scan_then calendar days⟩ (by decide +kernel)
    (show scan .between "\x7d\x7d".toList = some (.between, [.closeBrace, .closeBrace])
      by decide +kernel)
  refine ⟨zones, derived, whole.trans ?_⟩
  simp [switchesTokens, rainTokens, nextString, scalars, separated]

theorem advanced_valid (plain : PlainLabels labels) (printed : DaysPrinted cfg st.cron) :
    Valid (buildAdvancedSprinklerJSON cfg labels st) := by
  obtain ⟨zones, derived, scanned⟩ := advanced_scanned cfg st plain
  refine ⟨.between, _, scanned, by decide, ?_⟩
  have switches := @members_scalars (List.replicate 5 .string ++ .number ::
    List.replicate 5 .string) (by decide) (by decide)
  have nested := Derives.member (.object derived) (.lastMember (calendar_derived cfg printed))
  have whole := Derives.object (members_append switches nested)
  simpa using whole

/-- The comma behind a start time is followed by the brace. -/
theorem advanced_not_valid (plain : PlainLabels labels) {day : Int} (listed : day ∈ weekDays)
    (enabled : scheduled (st.cron day) = true)
    (nothing : advancedIndexes cfg st.cron day = []) :
    ¬ Valid (buildAdvancedSprinklerJSON cfg labels st) := by
  obtain ⟨zones, derived, scanned⟩ := advanced_scanned cfg st plain
  apply not_valid_of_trailing_comma scanned
  have trailing : [Token.comma, .closeBrace] <:+: dayTokens (advancedIndexes cfg st.cron day) := by
    rw [nothing]
    exact ⟨[.string, .colon, .openBrace, .string, .colon, .string], [], rfl⟩
  have inside : dayTokens (advancedIndexes cfg st.cron day) <:+: calendarTokens cfg st.cron :=
    infix_separated (List.mem_map_of_mem (mem_scheduled_days.mpr ⟨listed, enabled⟩))
  refine (trailing.trans inside).trans ⟨.openBrace :: (scalars (List.replicate 5 .string ++
    .number :: List.replicate 5 .string) ++ .comma :: .string :: .colon :: .openBrace ::
      (zones ++ [.closeBrace, .comma, .string, .colon, .openBrace])),
    [.closeBrace, .closeBrace], ?_⟩
  simp

end Advanced

structure DocumentsValid (labels : Labels) (st : SprinklerdState) : Prop where
  sprinkler : ∃ text, buildSprinklerJSON cfg labels st = some text ∧ Valid text
  sprinklerCal : ∃ text, buildSprinklerCalJSON cfg labels st = some text ∧ Valid text
  advanced : Valid (buildAdvancedSprinklerJSON cfg labels st)
  homebridge : Valid (buildHomebridgeSprinklerJSON cfg labels st)

/-- All documents are JSON, if and only if the status line fits its array and every scheduled
day has a runtime that is not negative for a zone from the second on. -/
theorem documents_valid_iff (plain : PlainLabels labels) (st : SprinklerdState) :
    DocumentsValid cfg labels st ↔ StatusFits st ∧ DaysPrinted cfg st.cron := by
  constructor
  · intro valid
    obtain ⟨text, printed, -⟩ := valid.sprinkler
    rw [build_sprinkler_eq] at printed
    split_ifs at printed with line
    refine ⟨line, fun day listed enabled => ?_⟩
    rw [← indexes_ne_nil]
    exact fun nothing => advanced_not_valid cfg st plain listed enabled nothing valid.advanced
  · rintro ⟨line, printed⟩
    exact {
      sprinkler := ⟨_, by rw [build_sprinkler_eq, if_pos line], sprinkler_valid cfg st plain⟩
      sprinklerCal :=
        ⟨_, by rw [build_sprinkler_cal_eq, if_pos line], sprinkler_cal_valid cfg st plain⟩
      advanced := advanced_valid cfg st plain printed
      homebridge := homebridge_valid cfg st plain }

section Bench

def benchLabels : Labels where
  title := "Garden".toList
  names _ := "Lawn".toList

theorem bench_plain : PlainLabels benchLabels where
  title := plain_of_all (by decide +kernel)
  names _ := plain_of_all (show ("Lawn".toList.all fun char => Plain char) = true
    by decide +kernel)

/-- A day with a runtime for the second zone. -/
theorem documents_valid_watering :
    DocumentsValid (benchCfg benchWiring) benchLabels { benchState with cron := fun _ =>
      { hour := 6, minute := 30, zruntimes := fun _ => 10 } } :=
  (documents_valid_iff (benchCfg benchWiring) bench_plain _).mpr (by decide)

/-- A scheduled day on which the second zone has no runtime. -/
theorem document_not_valid : ¬ ∀ cfg labels st, PlainLabels labels →
    DocumentsValid cfg labels st := by
  intro valid
  have document := (valid (benchCfg benchWiring) benchLabels { benchState with cron := fun _ =>
    { hour := 6, minute := 30, zruntimes := fun _ => -1 } } bench_plain).advanced
  exact advanced_not_valid (benchCfg benchWiring) _ bench_plain (show 0 ∈ weekDays by decide)
    (by decide) (by decide) document

end Bench

end SprinklerD.ValidDocuments
