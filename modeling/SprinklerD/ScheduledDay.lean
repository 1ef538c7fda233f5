import SprinklerD.CronRequests
import SprinklerD.RunLength
import SprinklerD.Foundation.Timeline

/-!
# A scheduled day

What the whole installation does with the calendar: `cron` sends the queries of the
lines, each at its time, the main loop ticks, and anything else may happen that leaves
the run alone. The valves then follow the calendar. The crontab only ever starts zones;
that each of them ends, and ends in time, is the work of the ticks.
-/

namespace SprinklerD.ScheduledDay

open Foundation.MachineInt Foundation.Transitions Foundation.Timeline
open SprinklerD.Config SprinklerD.GpioPi SprinklerD.ZoneCtrl SprinklerD.CronTable
open SprinklerD.NetServices SprinklerD.ZoneValves SprinklerD.Operations SprinklerD.Daemon
open SprinklerD.ValveAgreement SprinklerD.RefusedRequest SprinklerD.PinLevels
open SprinklerD.CycleAll SprinklerD.RunLength SprinklerD.CronCalendar SprinklerD.CronRequests

set_option autoImplicit false

/-- An event that leaves the run and the switches alone while no rain delay is set. -/
def Undisturbing (cfg : SprinklerdCfg) (event : Event) : Prop :=
  ∀ now st, st.delay24h = false →
    control (daemonStep cfg st (now, event)) = control st ∧
      (daemonStep cfg st (now, event)).calendar = st.calendar ∧
      (daemonStep cfg st (now, event)).delay24h = false

inductive DayEvent (cfg : SprinklerdCfg) where
  | tick
  | line (line : CronLine) (stack : Text)
  | other (event : Event) (undisturbing : Undisturbing cfg event)

variable {cfg : SprinklerdCfg}

def eventOf : DayEvent cfg → Event
  | .tick => .call .check
  | .line line stack => .webRequest (askedQuery (zoneLineText cfg line)) stack
  | .other event _ => event

def dayStep (st : SprinklerdState) (event : Int × DayEvent cfg) : SprinklerdState :=
  daemonStep cfg st (event.1, eventOf event.2)

def startOf (event : Int × DayEvent cfg) : Option (Int × CronLine) :=
  match event.2 with
  | .line line _ => some (event.1, line)
  | _ => none

def starts (events : List (Int × DayEvent cfg)) : List (Int × CronLine) :=
  events.filterMap startOf

def seconds (start : Int × CronLine) : Int := 60 * start.2.runtime

/-- A line about a zone of the table whose seconds fit an int. -/
structure Waterable (cfg : SprinklerdCfg) (line : CronLine) : Prop where
  listed : line.zone ∈ zoneList cfg
  lasting : 0 < line.runtime
  fits : 60 * line.runtime < 2 ^ 31

/-- The state once some lines have been served: the last of them runs, or has ended
no later than `bound`. -/
structure Follows (cfg : SprinklerdCfg) (begun : List (Int × CronLine)) (bound : Int)
    (st : SprinklerdState) : Prop where
  agrees : Agrees cfg st.gpio st.currentZone
  calendar : st.calendar = true
  undelayed : st.delay24h = false
  idle : st.currentZone.type = .zcNone →
    ∀ start ∈ begun.getLast?, start.1 + seconds start ≤ bound
  running : st.currentZone.type ≠ .zcNone →
    ∃ start ∈ begun.getLast?, Waterable cfg start.2 ∧
      RunsAlone start.1 start.2.zone start.2.runtime st.currentZone

def Ticked (bound : Int) (st : SprinklerdState) : Prop :=
  st.currentZone.type ≠ .zcNone →
    bound < st.currentZone.startedTime + 60 * st.currentZone.duration

section Steps

variable {begun : List (Int × CronLine)} {bound now : Int} {st : SprinklerdState}

theorem runs_of_alone {start zone length : Int} {record : SzRunning}
    (alone : RunsAlone start zone length record) : record.type ≠ .zcNone := by
  rcases alone.one with one | one <;> rw [one] <;> decide

theorem tick_cases (follows : Follows cfg begun bound st) :
    ((zcCheck cfg now st).1 = st ∧ st.currentZone.type = .zcNone) ∨
    (∃ start ∈ begun.getLast?, now < start.1 + seconds start ∧
      (zcCheck cfg now st).1 = calcTimeleft now st) ∨
    (∃ start ∈ begun.getLast?, start.1 + seconds start ≤ now ∧
      (zcCheck cfg now st).1.currentZone.type = .zcNone) := by
  by_cases none : st.currentZone.type = .zcNone
  · exact Or.inl ⟨by rw [zcCheck, if_pos none], none⟩
  obtain ⟨start, last, waterable, alone⟩ := follows.running none
  have bounds := mem_zone_list.mp waterable.listed
  have named : start.2.zone ≠ -1 := by omega
  have length : wrap32 (start.2.runtime * 60) = seconds start := by
    have lasting := waterable.lasting
    have fits := waterable.fits
    rw [wrap32_of_fits (by omega) (by omega), seconds, mul_comm]
  have left := runs_alone_timeleft alone named now
  rw [length] at left
  by_cases early : now < start.1 + seconds start
  · refine Or.inr (Or.inl ⟨start, last, early, ?_⟩)
    rw [zc_check_waits cfg none (not_le.mp fun elapsed => absurd (left.mp elapsed) (by omega))]
  · refine Or.inr (Or.inr ⟨start, last, not_lt.mp early, ?_⟩)
    have notAll : st.currentZone.type ≠ .zcAll := by
      rcases alone.one with one | one <;> rw [one] <;> decide
    have outcome := zc_check_outcome cfg now st
    generalize zcCheck cfg now st = result at outcome ⊢
    cases outcome with
    | idle idle => exact absurd idle none
    | waiting _ lasting => exact absurd (left.mpr (by omega)) (not_le.mpr lasting)
    | advanced all => exact absurd all notAll
    | finished => rfl

theorem follows_tick (sound : SoundWiring cfg) (follows : Follows cfg begun bound st)
    (early : now ≤ bound) : Follows cfg begun bound (zcCheck cfg now st).1 where
  agrees := zc_check_agrees sound now st follows.agrees
  calendar := (calendar_of_outside (zc_check_outside now st)).trans follows.calendar
  undelayed :=
    (congrArg Prod.fst (delay_of_outside (zc_check_outside now st))).trans follows.undelayed
  idle none := by
    rcases @tick_cases cfg begun bound now st follows with
      ⟨-, idle⟩ | ⟨-, -, -, waits⟩ | ⟨start, last, elapsed, -⟩
    · exact follows.idle idle
    · rw [waits] at none
      exact follows.idle none
    · intro other same
      rw [Option.mem_unique same last]
      exact elapsed.trans early
  running some := by
    rcases @tick_cases cfg begun bound now st follows with
      ⟨same, idle⟩ | ⟨-, -, -, waits⟩ | ⟨-, -, -, ended⟩
    · rw [same] at some
      exact absurd idle some
    · rw [waits] at some ⊢
      obtain ⟨start, last, waterable, alone⟩ := follows.running some
      exact ⟨start, last, waterable, runs_alone_tick alone now⟩
    · exact absurd ended some

theorem line_starts (sound : SoundWiring cfg) (port : '?' ∉ cfg.socketPort)
    (follows : Follows cfg begun bound st) {line : CronLine} (waterable : Waterable cfg line)
    (differs : ∀ last ∈ begun.getLast?, last.2.zone ≠ line.zone) (stack : Text) :
    daemonStep cfg st (now, .webRequest (askedQuery (zoneLineText cfg line)) stack) =
        (zcZone cfg now .zcCron line.zone .zcOn line.runtime st).1 ∧
      (zcZone cfg now .zcCron line.zone .zcOn line.runtime st).1.currentZone.startedTime = now ∧
      RunsAlone now line.zone line.runtime
        (zcZone cfg now .zcCron line.zone .zcOn line.runtime st).1.currentZone := by
  have listed := waterable.listed
  have lasting := waterable.lasting
  have fits := waterable.fits
  have off : zoneReadsOn cfg st.gpio line.zone = false := by
    by_cases none : st.currentZone.type = .zcNone
    · exact follows.agrees.idle none _ (in_table_of_zone listed)
    · obtain ⟨start, last, -, alone⟩ := follows.running none
      rw [follows.agrees.valve none _ listed, alone.current]
      exact decide_eq_false (differs start last).symm
  have length : requestLength line.zone line.runtime st = line.runtime := if_neg lasting.ne'
  have starting : StartsZone cfg .zcCron line.zone .zcOn line.runtime st :=
    ⟨by decide, rfl, off, fun _ => ⟨follows.calendar, follows.undelayed⟩,
      by rw [length]; exact lasting⟩
  have started := zc_zone_starts now starting listed
  rw [turn_zone_on_distinct sound.distinct now .zcCron _ listed off,
    if_pos (sound.valid _ (in_table_of_zone listed)), length] at started
  refine ⟨?_, ?_, ?_⟩
  · rw [daemonStep, zone_line_query port, zone_line_served now stack st listed ⟨lasting, by omega⟩]
  · rw [started]
    rfl
  · rw [started]
    exact ⟨Or.inr rfl, rfl, rfl, rfl⟩

theorem follows_step (sound : SoundWiring cfg) (port : '?' ∉ cfg.socketPort)
    (follows : Follows cfg begun bound st) {event : Int × DayEvent cfg} (early : event.1 ≤ bound)
    (lines : ∀ start ∈ startOf event, Waterable cfg start.2 ∧
      ∀ last ∈ begun.getLast?, last.2.zone ≠ start.2.zone) :
    Follows cfg (begun ++ (startOf event).toList) bound (dayStep st event) := by
  obtain ⟨now, kind⟩ := event
  cases kind with
  | tick =>
      rw [startOf, Option.toList_none, List.append_nil]
      exact follows_tick sound follows early
  | other event undisturbing =>
      obtain ⟨same, calendar, undelayed⟩ := undisturbing now st follows.undelayed
      have pins : (daemonStep cfg st (now, event)).gpio = st.gpio := congrArg Prod.fst same
      have record : (daemonStep cfg st (now, event)).currentZone = st.currentZone :=
        congrArg Prod.snd same
      rw [startOf, Option.toList_none, List.append_nil]
      unfold dayStep eventOf
      constructor
      · rw [pins, record]
        exact follows.agrees
      · exact calendar.trans follows.calendar
      · exact undelayed
      · rw [record]
        exact follows.idle
      · rw [record]
        exact follows.running
  | line line stack =>
      obtain ⟨waterable, differs⟩ := lines (now, line) rfl
      obtain ⟨served, -, alone⟩ := @line_starts cfg begun bound now st sound port follows line
        waterable differs stack
      have outside := @zc_zone_outside cfg now .zcCron line.zone .zcOn line.runtime st
      unfold dayStep eventOf
      rw [served]
      constructor
      · exact zc_zone_agrees sound now _ _ _ _ st follows.agrees
          (Or.inl ⟨Or.inr rfl, waterable.listed⟩)
      · exact (calendar_of_outside outside).trans follows.calendar
      · exact (congrArg Prod.fst (delay_of_outside outside)).trans follows.undelayed
      · exact fun none => absurd none (runs_of_alone alone)
      · exact fun _ => ⟨(now, line), List.getLast?_concat, waterable, alone⟩

theorem ticked_tick (follows : Follows cfg begun bound st) :
    Ticked bound (zcCheck cfg bound st).1 := by
  intro some
  rcases @tick_cases cfg begun bound bound st follows with
    ⟨same, idle⟩ | ⟨start, last, early, waits⟩ | ⟨-, -, -, ended⟩
  · rw [same] at some
    exact absurd idle some
  · rw [waits] at some ⊢
    obtain ⟨other, same, -, alone⟩ := follows.running some
    rw [Option.mem_unique same last] at alone
    simp only [calcTimeleft, alone.started, alone.lasting]
    exact early
  · exact absurd ended some

theorem ticked_step (sound : SoundWiring cfg) (port : '?' ∉ cfg.socketPort)
    (follows : Follows cfg begun bound st) (ticked : Ticked bound st)
    {event : Int × DayEvent cfg} (atBound : event.1 = bound)
    (lines : ∀ start ∈ startOf event, Waterable cfg start.2 ∧
      ∀ last ∈ begun.getLast?, last.2.zone ≠ start.2.zone) :
    Ticked bound (dayStep st event) := by
  obtain ⟨now, kind⟩ := event
  obtain rfl : now = bound := atBound
  cases kind with
  | tick => exact ticked_tick follows
  | other event undisturbing =>
      have record : (daemonStep cfg st (now, event)).currentZone = st.currentZone :=
        congrArg Prod.snd (undisturbing now st follows.undelayed).1
      unfold dayStep eventOf Ticked
      rw [record]
      exact ticked
  | line line stack =>
      obtain ⟨waterable, differs⟩ := lines (now, line) rfl
      obtain ⟨served, started, alone⟩ := @line_starts cfg begun now now st sound port follows line
        waterable differs stack
      intro _
      have lasting : 0 < line.runtime := waterable.lasting
      unfold dayStep eventOf
      rw [served, started, alone.lasting]
      change now < now + 60 * line.runtime
      omega

end Steps

section Runs

variable {bound : Int}

/-- Every line can water, and no two are about one zone. -/
structure Lines (cfg : SprinklerdCfg) (begun : List (Int × CronLine)) : Prop where
  waterable : ∀ start ∈ begun, Waterable cfg start.2
  differ : begun.Pairwise fun start later => start.2.zone ≠ later.2.zone

theorem starts_cons (event : Int × DayEvent cfg) (events : List (Int × DayEvent cfg)) :
    starts (event :: events) = (startOf event).toList ++ starts events := by
  rw [starts, List.filterMap_cons]
  cases startOf event <;> rfl

theorem lines_next {begun : List (Int × CronLine)} {event : Int × DayEvent cfg}
    {events : List (Int × DayEvent cfg)} (lines : Lines cfg (begun ++ starts (event :: events))) :
    ∀ start ∈ startOf event, Waterable cfg start.2 ∧
      ∀ last ∈ begun.getLast?, last.2.zone ≠ start.2.zone := by
  intro start member
  have inside : start ∈ starts (event :: events) := by
    rw [starts_cons, Option.mem_def.mp member]
    exact List.mem_cons_self
  refine ⟨lines.waterable start (List.mem_append_right _ inside), fun last ended => ?_⟩
  exact (List.pairwise_append.mp lines.differ).2.2 last (List.mem_of_getLast? ended) start inside

theorem follows_run (sound : SoundWiring cfg) (port : '?' ∉ cfg.socketPort)
    {events : List (Int × DayEvent cfg)} {begun : List (Int × CronLine)} {st : SprinklerdState}
    (follows : Follows cfg begun bound st) (early : ∀ event ∈ events, event.1 ≤ bound)
    (lines : Lines cfg (begun ++ starts events)) :
    Follows cfg (begun ++ starts events) bound (run dayStep st events) := by
  induction events generalizing begun st with
  | nil => simpa [starts] using follows
  | cons event rest ih =>
      have next := follows_step sound port follows (early event List.mem_cons_self)
        (lines_next lines)
      rw [starts_cons, ← List.append_assoc] at lines ⊢
      exact ih next (fun later member => early later (List.mem_cons_of_mem _ member)) lines

theorem ticked_run (sound : SoundWiring cfg) (port : '?' ∉ cfg.socketPort)
    {events : List (Int × DayEvent cfg)} {begun : List (Int × CronLine)} {st : SprinklerdState}
    (follows : Follows cfg begun bound st) (ticked : Ticked bound st)
    (atBound : ∀ event ∈ events, event.1 = bound) (lines : Lines cfg (begun ++ starts events)) :
    Ticked bound (run dayStep st events) := by
  induction events generalizing begun st with
  | nil => exact ticked
  | cons event rest ih =>
      have here := atBound event List.mem_cons_self
      have next := follows_step sound port follows here.le (lines_next lines)
      have after := ticked_step sound port follows ticked here (lines_next lines)
      rw [starts_cons, ← List.append_assoc] at lines
      exact ih next after (fun later member => atBound later (List.mem_cons_of_mem _ member)) lines

theorem starts_filter (events : List (Int × DayEvent cfg)) (bound : Int) :
    starts (events.filter fun event => event.1 ≤ bound) =
      (starts events).filter fun start => start.1 ≤ bound := by
  induction events with
  | nil => rfl
  | cons event rest ih =>
      have time : ∀ start ∈ startOf event, start.1 = event.1 := by
        intro start member
        unfold startOf at member
        split at member
        · rw [← Option.mem_some.mp member]
        · cases member
      rw [starts_cons, List.filter_append, ← ih, List.filter_cons]
      cases begins : startOf event with
      | none => split_ifs <;> simp [starts_cons, begins]
      | some start =>
          have same := time start begins
          split_ifs with early <;> simp [starts_cons, begins, same, early]

/-- At a tick the zone that is on is the one of the last line, unless it is over. All
events of the second of the tick have happened, in whatever order. -/
theorem valves_at_tick (sound : SoundWiring cfg) (port : '?' ∉ cfg.socketPort)
    {st : SprinklerdState} (follows : Follows cfg [] bound st)
    {events : List (Int × DayEvent cfg)}
    (sorted : events.Pairwise fun event later => event.1 ≤ later.1)
    (ticks : (bound, DayEvent.tick) ∈ events) (lines : Lines cfg (starts events)) {zone : Int}
    (listed : zone ∈ zoneList cfg) :
    zoneReadsOn cfg (run dayStep st (events.filter fun event => event.1 ≤ bound)).gpio zone =
      true ↔ ∃ start ∈ current Prod.fst seconds bound (starts events), start.2.zone = zone := by
  obtain ⟨before, after, rfl⟩ := List.append_of_mem ticks
  obtain ⟨-, later, earlier⟩ := List.pairwise_append.mp sorted
  have early : ∀ event ∈ before, event.1 ≤ bound := fun event member =>
    earlier event member _ List.mem_cons_self
  have kept : before.filter (fun event => decide (event.1 ≤ bound)) = before :=
    List.filter_eq_self.mpr fun event member => decide_eq_true (early event member)
  have within := starts_filter (before ++ (bound, DayEvent.tick) :: after) bound
  rw [List.filter_append, kept, List.filter_cons, if_pos (decide_eq_true le_rfl)] at within ⊢
  generalize done : after.filter (fun event => decide (event.1 ≤ bound)) = rest at within ⊢
  have atBound : ∀ event ∈ rest, event.1 = bound := by
    intro event member
    obtain ⟨inside, notLate⟩ := List.mem_filter.mp (done ▸ member)
    exact le_antisymm (of_decide_eq_true notLate) ((List.pairwise_cons.mp later).1 event inside)
  -- the lines served so far are lines of the day
  have served : Lines cfg (starts (before ++ (bound, DayEvent.tick) :: rest)) := by
    rw [within]
    exact ⟨fun start member => lines.waterable start (List.mem_filter.mp member).1,
      lines.differ.sublist List.filter_sublist⟩
  have split : starts (before ++ (bound, DayEvent.tick) :: rest) = starts before ++ starts rest := by
    rw [starts, List.filterMap_append]
    rfl
  have servedSplit := split ▸ served
  have first : Lines cfg ([] ++ starts before) :=
    ⟨fun start member => servedSplit.waterable start (List.mem_append_left _ member),
      (List.pairwise_append.mp servedSplit.differ).1⟩
  have atTick := follows_run sound port follows early first
  have following := follows_run sound port (follows_tick sound atTick le_rfl)
    (fun event member => (atBound event member).le) servedSplit
  have ticked := ticked_run sound port (follows_tick sound atTick le_rfl) (ticked_tick atTick)
    atBound servedSplit
  rw [List.nil_append, ← split, within] at following
  rw [current, run_append, run_cons]
  change zoneReadsOn cfg (run dayStep (zcCheck cfg bound (run dayStep st before)).1 rest).gpio zone =
    true ↔ _
  generalize run dayStep (zcCheck cfg bound (run dayStep st before)).1 rest = final at following ticked ⊢
  by_cases none : final.currentZone.type = .zcNone
  · rw [following.agrees.idle none _ (in_table_of_zone listed)]
    refine iff_of_false Bool.false_ne_true ?_
    rintro ⟨start, member, -⟩
    obtain ⟨last, early⟩ := Option.mem_filter_iff.mp member
    have elapsed := following.idle none start last
    have notOver := of_decide_eq_true early
    omega
  · obtain ⟨start, last, -, alone⟩ := following.running none
    have early := ticked none
    rw [alone.started, alone.lasting] at early
    rw [following.agrees.valve none _ listed, alone.current, decide_eq_true_eq]
    constructor
    · rintro rfl
      exact ⟨start, Option.mem_filter_iff.mpr ⟨last, decide_eq_true early⟩, rfl⟩
    · rintro ⟨other, member, rfl⟩
      rw [Option.mem_unique (Option.mem_filter_iff.mp member).1 last]

theorem master_with_zones {gpio : Gpio} {record : SzRunning} (agrees : Agrees cfg gpio record)
    (master : cfg.masterValve = true) :
    zoneReadsOn cfg gpio 0 = true ↔ ∃ zone ∈ zoneList cfg, zoneReadsOn cfg gpio zone = true := by
  by_cases none : record.type = .zcNone
  · rw [agrees.idle none 0 (in_table_zero.mpr master)]
    refine iff_of_false Bool.false_ne_true ?_
    rintro ⟨zone, listed, on⟩
    rw [agrees.idle none zone (in_table_of_zone listed)] at on
    cases on
  · have listed := agrees.listed none
    apply iff_of_true (agrees.master none master)
    exact ⟨record.zone, listed, by rw [agrees.valve none _ listed, decide_eq_true rfl]⟩

theorem agrees_at_tick (sound : SoundWiring cfg) (port : '?' ∉ cfg.socketPort)
    {st : SprinklerdState} (follows : Follows cfg [] bound st)
    {events : List (Int × DayEvent cfg)} (lines : Lines cfg (starts events)) :
    let after := run dayStep st (events.filter fun event => event.1 ≤ bound)
    Agrees cfg after.gpio after.currentZone := by
  have served : Lines cfg ([] ++ starts (events.filter fun event => event.1 ≤ bound)) := by
    rw [List.nil_append, starts_filter]
    exact ⟨fun start member => lines.waterable start (List.mem_filter.mp member).1,
      lines.differ.sublist List.filter_sublist⟩
  exact (follows_run sound port follows
    (fun event member => of_decide_eq_true (List.mem_filter.mp member).2) served).agrees

end Runs

section Calendar

variable {table : Int → CalendarDay} {day midnight : Int}

/-- Every line of the day is served in the second in which its minute begins. -/
def ServedOnTime (cfg : SprinklerdCfg) (table : Int → CalendarDay) (day midnight : Int)
    (events : List (Int × DayEvent cfg)) : Prop :=
  starts events = (cronLines cfg table day).map fun line => (midnight + 60 * instant line, line)

theorem instant_line_of (entry : CalendarDay) (day zone : Int) :
    instant (lineOf entry day zone) = startInstant entry zone := by
  simp only [instant, lineOf]
  omega

theorem expected_pairwise (entry : CalendarDay) :
    ((zoneIndexes cfg).filter (startsToday entry)).Pairwise fun zone later =>
      zone < later ∧ startInstant entry zone + entry.zruntimes zone ≤ startInstant entry later := by
  have increasing := (zones_from_increasing cfg.zones 0).sublist
    (List.filter_sublist (p := startsToday entry))
  apply increasing.imp_of_mem
  intro zone later member _ before
  have index := (mem_zones_from.mp (List.mem_filter.mp member).1).1
  have next := start_instant_next entry index
  have mono := start_instant_mono entry (show 0 ≤ zone + 1 by omega)
    (show zone + 1 ≤ later by omega)
  exact ⟨before, by omega⟩

theorem served_lines (encodes : Encodes cfg table day)
    (fits : ∀ zone ∈ zoneIndexes cfg, 60 * (table day).zruntimes zone < 2 ^ 31)
    {events : List (Int × DayEvent cfg)} (served : ServedOnTime cfg table day midnight events) :
    Lines cfg (starts events) ∧ Successive Prod.fst seconds (starts events) := by
  have pairwise := @expected_pairwise cfg (table day)
  refine ⟨⟨fun start member => ?_, ?_⟩, ?_⟩
  · rw [served] at member
    obtain ⟨line, inside, rfl⟩ := List.mem_map.mp member
    obtain ⟨listed, lasting, runtime⟩ := mem_cron_lines inside
    have bounds := mem_zone_list.mp listed
    refine ⟨listed, lasting, ?_⟩
    rw [runtime]
    exact fits _ (mem_zones_from.mpr (by omega))
  · rw [served, encodes.lines, expectedLines, List.pairwise_map, List.pairwise_map]
    refine pairwise.imp fun ordered same => ?_
    simp only [lineOf] at same
    omega
  · rw [Successive, served, encodes.lines, expectedLines, List.pairwise_map, List.pairwise_map]
    refine pairwise.imp fun ordered => ?_
    simp only [seconds, instant_line_of]
    simp only [lineOf]
    omega

def Watered (entry : CalendarDay) (midnight now zone : Int) : Prop :=
  startsToday entry (zone - 1) = true ∧ midnight + 60 * startInstant entry (zone - 1) ≤ now ∧
    now < midnight + 60 * startInstant entry (zone - 1) + 60 * entry.zruntimes (zone - 1)

theorem current_watered {events : List (Int × DayEvent cfg)}
    (served : ServedOnTime cfg table day midnight events) (encodes : Encodes cfg table day)
    (successive : Successive Prod.fst seconds (starts events)) {now zone : Int}
    (listed : zone ∈ zoneList cfg) :
    (∃ start ∈ current Prod.fst seconds now (starts events), start.2.zone = zone) ↔
      Watered (table day) midnight now zone := by
  have bounds := mem_zone_list.mp listed
  have index : zone - 1 ∈ zoneIndexes cfg := mem_zones_from.mpr (by omega)
  simp only [Option.mem_def, current_eq_some successive]
  rw [served, encodes.lines, expectedLines]
  constructor
  · rintro ⟨start, ⟨member, begun, early⟩, rfl⟩
    obtain ⟨line, inside, rfl⟩ := List.mem_map.mp member
    obtain ⟨first, runs, rfl⟩ := List.mem_map.mp inside
    have zone : (lineOf (table day) day first).zone - 1 = first := by
      simp only [lineOf]
      omega
    simp only [instant_line_of, seconds] at begun early
    simp only [lineOf] at early
    simp only [Watered, zone]
    exact ⟨(List.mem_filter.mp runs).2, begun, early⟩
  · rintro ⟨today, begun, early⟩
    refine ⟨(midnight + 60 * instant (lineOf (table day) day (zone - 1)),
      lineOf (table day) day (zone - 1)), ⟨?_, ?_, ?_⟩, ?_⟩
    · exact List.mem_map_of_mem (List.mem_map_of_mem (List.mem_filter.mpr ⟨index, today⟩))
    · simp only [instant_line_of]
      exact begun
    · simp only [instant_line_of, seconds]
      exact early
    · simp only [lineOf]
      omega

/-- The valves follow the calendar. Through any run of a day whose lines are served on
time, with ticks and harmless events in between, at every tick a zone is on exactly
from its start in the calendar until its runtime is over, and the master valve with any zone. -/
theorem calendar_is_watered (sound : SoundWiring cfg) (port : '?' ∉ cfg.socketPort)
    (on : scheduled (table day) = true) (valid : ValidDay cfg (table day))
    (carries : CarriesOnce (zoneIndexes cfg) (table day))
    (fits : ∀ zone ∈ zoneIndexes cfg, 60 * (table day).zruntimes zone < 2 ^ 31)
    {st : SprinklerdState} (agrees : Agrees cfg st.gpio st.currentZone)
    (idle : st.currentZone.type = .zcNone) (calendar : st.calendar = true)
    (undelayed : st.delay24h = false) {events : List (Int × DayEvent cfg)}
    (sorted : events.Pairwise fun event later => event.1 ≤ later.1)
    (served : ServedOnTime cfg table day midnight events) {now : Int}
    (ticks : (now, DayEvent.tick) ∈ events) :
    let after := run dayStep st (events.filter fun event => event.1 ≤ now)
    (∀ zone ∈ zoneList cfg,
      zoneReadsOn cfg after.gpio zone = true ↔ Watered (table day) midnight now zone) ∧
    (cfg.masterValve = true →
      (zoneReadsOn cfg after.gpio 0 = true ↔
        ∃ zone ∈ zoneList cfg, Watered (table day) midnight now zone)) := by
  have hours := valid.hour
  have minutes := valid.minute
  have encodes : Encodes cfg table day := by
    rw [encodes_iff_lines valid, cronLines, if_pos on]
    exact (zone_lines_iff (le_refl 0) valid.runtimes ⟨⟨minutes.1, by omega⟩, hours.1, by omega⟩
      start_instant_zero).mpr carries
  obtain ⟨lines, successive⟩ := served_lines encodes fits served
  have begins : Follows cfg [] now st :=
    ⟨agrees, calendar, undelayed, fun _ _ none => absurd none (Option.not_mem_none _),
      fun some => absurd idle some⟩
  have zones : ∀ zone ∈ zoneList cfg,
      zoneReadsOn cfg (run dayStep st (events.filter fun event => event.1 ≤ now)).gpio zone =
        true ↔ Watered (table day) midnight now zone := by
    intro zone listed
    rw [valves_at_tick sound port begins sorted ticks lines listed]
    exact current_watered served encodes successive listed
  refine ⟨zones, fun master => ?_⟩
  rw [master_with_zones (agrees_at_tick sound port begins lines) master]
  exact exists_congr fun zone => and_congr_right (zones zone)

/-- The other calls of the main loop, and what the environment does to the files. -/
theorem main_loop_undisturbing (cfg : SprinklerdCfg) :
    Undisturbing cfg .checkCron ∧ Undisturbing cfg (.call .checkDelay24h) ∧
      (∀ dzCache mask, Undisturbing cfg (.broadcast dzCache mask)) ∧
      ∀ cacheOpens cronOpens, Undisturbing cfg (.filesOpen cacheOpens cronOpens) := by
  refine ⟨fun now st undelayed => ?_, fun now st undelayed => ?_,
    fun _ _ _ _ undelayed => ⟨rfl, rfl, undelayed⟩,
    fun _ _ _ _ undelayed => ⟨rfl, rfl, undelayed⟩⟩
  · obtain ⟨disk, update, checked⟩ := check_cron_frame cfg now st
    rw [daemonStep, checked]
    exact ⟨rfl, rfl, undelayed⟩
  · have same : daemonStep cfg st (now, .call .checkDelay24h) = st := by
      simp only [daemonStep, applyOperation, SdCron.checkDelay24h, SdCron.enableDelay24h,
        undelayed, ne_eq, not_true_eq_false, if_false]
      split_ifs <;> rfl
    rw [same]
    exact ⟨rfl, rfl, undelayed⟩

/-- The Monday of the bench with its two lines, a tick in the first run and one in the
second in which it is over. -/
def benchDay : List (Int × DayEvent (benchCfg benchWiring)) :=
  [(23400, .line ⟨30, 6, 1, 1, 40⟩ []), (25000, .tick), (25800, .tick),
    (25800, .line ⟨10, 7, 1, 2, 40⟩ [])]

theorem calendar_is_watered_monday :
    let after := run dayStep benchState (benchDay.filter fun event => event.1 ≤ 25800)
    zoneReadsOn (benchCfg benchWiring) after.gpio 2 = true ∧
      zoneReadsOn (benchCfg benchWiring) after.gpio 0 = true := by
  have carries : CarriesOnce (zoneIndexes (benchCfg benchWiring)) (mondayTable (fun _ => 40) 1) := by
    intro zone member _ _
    have bounds := mem_zones_from.mp member
    apply Or.inl
    simp only [mondayTable, if_true]
    omega
  have watered := @calendar_is_watered (benchCfg benchWiring) (mondayTable fun _ => 40) 1 0
    bench_sound (by decide) (by decide) (monday_valid (by decide) 1 (by decide) (by decide)) carries
    (by decide) benchState (agrees_all_off rfl bench_startup.pinsOff) rfl rfl rfl benchDay
    (by decide) rfl 25800 (by simp [benchDay])
  have second : Watered (mondayTable (fun _ => 40) 1) 0 25800 2 := by
    unfold Watered
    decide
  exact ⟨(watered.1 2 (by decide)).mpr second, (watered.2 rfl).mpr ⟨2, by decide, second⟩⟩

end Calendar

end SprinklerD.ScheduledDay
